/-
This file decodes the text of a document. JSON is tried first, since it is stricter and complains
better; text that is not JSON is read as YAML. A hint can rule out either. The outcome has to be a
map.
-/

import ClientModel.Failure
import ClientModel.Yaml.Meaning

namespace ClientModel

/-- What is known about the format of a text. -/
inductive FormatHint where
  | unknown
  | json
  | yaml
  deriving DecidableEq, Repr

namespace Decoding

/-- A decoded value, if it is a map. -/
def requireMap (value : Value) : Except Failure Value :=
  if value.entries?.isSome then .ok value else .error (.document (.notMap value))

/-- Reads YAML text; `complaints` are those of the formats tried before. -/
def decodeYaml (complaints : List String) (content : String) : Except Failure Value :=
  match Yaml.read content with
  | .ok value => requireMap value
  | .error (.malformed complaint) =>
    .error (.document (.undecodable (complaints ++ ["YAML error: " ++ complaint.message])))
  | .error (.unfit fault) => .error (.ofScalar fault)
  | .error .endless => .error (.defect .endless)

/-- Reads JSON text; `otherwise` says what becomes of text that is not JSON. -/
def decodeJson (content : String) (otherwise : String → Except Failure Value) :
    Except Failure Value :=
  match Json.read content with
  | .ok value => requireMap value
  | .error (.longInteger digits) => .error (.defect (.longInteger digits))
  | .error .tooDeep => .error (.defect .endless)
  | .error error => otherwise (error.message content.toList)

/-- The map that a text writes. -/
def decode (hint : FormatHint) (content : String) : Except Failure Value :=
  match hint with
  | .json => decodeJson content fun detail => .error (.document (.invalidJson detail))
  | .yaml => decodeYaml [] content
  | .unknown => decodeJson content fun detail => decodeYaml ["JSON error: " ++ detail] content

end Decoding

end ClientModel
