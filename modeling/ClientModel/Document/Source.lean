/-
This file says where a document can come from, and what is made of the file or the input that
holds it.
-/

import ClientModel.Document.Decoding
import ClientModel.Files.Tree
import ClientModel.Text.Blank
import ClientModel.Text.Lines

namespace ClientModel

/-- Where a document comes from. -/
inductive Source where
  | input
  | url (url : String)
  | file (name : String)
  deriving DecidableEq, Repr

namespace Source

/-- The source that a text names: a dash is the input, and a URL starts with its scheme. -/
def ofText (text : String) : Source :=
  if text == "-" then .input
  else if "http://".toList.isPrefixOf text.toList || "https://".toList.isPrefixOf text.toList then
    .url text
  else .file text

/-- The document in a text from the input. -/
def documentOfInput (text : String) : Except Failure Value :=
  if Text.isBlankText text then .error (.document .noInput) else Decoding.decode .unknown text

/-- What the name of a file says about the format. -/
def hint (path : Path) : FormatHint :=
  match path.suffix with
  | ".json" => .json
  | ".yaml" | ".yml" => .yaml
  | _ => .unknown

/-- The document in a file. -/
def documentOfFile (name : String) : FileContent → Except Failure Value
  | .absent | .directory => .error (.document (.notFound name))
  | .overlong => .error (.defect (.overlongName name))
  | .refused reason => .error (.document (.unreadable name reason))
  | .bytes content =>
    match Text.readUtf8 content with
    | .error fault => .error (.document (.unreadable name fault.message))
    | .ok text =>
      let text := Text.withUnifiedLineEnds text
      if Text.isBlankText text then .error (.document (.emptyFile name))
      else Decoding.decode (hint (Path.ofText name)) text

end Source

end ClientModel
