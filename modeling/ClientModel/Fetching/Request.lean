/-
This file defines how a document is fetched: what is sent, what may come back, and what is made of
it.
-/

import ClientModel.Configuration.Headers
import ClientModel.Document.Decoding
import ClientModel.Fetching.ContentCoding
import ClientModel.Fetching.ContentType

namespace ClientModel

/-! ### Requests -/

/-- The version of this program. -/
def programVersion : String := "0.3.0"

/-- What is sent to fetch a document. -/
structure Request where
  url : String
  headers : Headers
  /-- How many seconds to wait. -/
  timeout : Binary64
  deriving DecidableEq, Repr

namespace Request

/-- A name of a header in lower case. -/
def lowerName (name : String) : List Char := name.toList.map Char.toLower

/-- The formats that are asked for. -/
def acceptHeader : String × String := ("Accept", "application/json, application/yaml, */*")

/-- What the program calls itself. -/
def agentHeader : String × String := ("User-Agent", s!"clientsynth/{programVersion}")

/-- Whether headers say what the sender calls itself. -/
def namesAgent (headers : Headers) : Bool :=
  headers.any fun header => lowerName header.1 == "user-agent".toList

/-- The headers that are sent whatever the caller wants; the program names itself only where the
caller does not. -/
def defaultHeaders (headers : Headers) : Headers :=
  if namesAgent headers then [acceptHeader] else [acceptHeader, agentHeader]

/-- The headers of a request: those that are always sent, then those of the caller. -/
def allHeaders (headers : Headers) : Headers :=
  headers.foldl (fun sent header => Ordered.put header.1 header.2 sent) (defaultHeaders headers)

/-- The request for a document. -/
def forDocument (url : String) (headers : Headers) (timeout : Binary64) : Request :=
  ⟨url, allHeaders headers, timeout⟩

end Request

/-! ### Replies -/

/-- What comes back. -/
inductive Reply where
  | response (status : Int) (headers : Headers) (body : ByteArray)
  /-- Nothing in time. -/
  | timedOut
  /-- Nothing that could be understood. -/
  | failed (reason : String)

/-- Whether a text occurs in another. -/
def occursIn (part : List Char) : List Char → Bool
  | [] => part.isEmpty
  | character :: rest => part.isPrefixOf (character :: rest) || occursIn part rest

namespace Reply

/-- The values of the headers of a name. -/
def values (name : String) (headers : Headers) : List String :=
  (headers.filter fun header => Request.lowerName header.1 == name.toList).map Prod.snd

/-- The content type that headers give; empty where they give none. -/
def contentType (headers : Headers) : String := ", ".intercalate (values "content-type" headers)

/-- The body that was packed as headers say. -/
def unpackedBody (headers : Headers) (body : ByteArray) :
    Except Compression.PackingFault ByteArray :=
  match ContentCoding.ofValues (values "content-encoding" headers) with
  | [] => .ok body
  | codings => (ContentCoding.unpackAll codings body.toList).map fun bytes => ⟨bytes.toArray⟩

/-- What a content type says about the format. -/
def hint (contentType : String) : FormatHint :=
  let characters := contentType.toList
  if occursIn "json".toList characters then .json
  else if occursIn "yaml".toList characters || occursIn "yml".toList characters then .yaml
  else .unknown

/-- The text of a body: in the character set that the content type names, else in UTF-8. An empty
body is the empty text in every set. -/
def bodyText (contentType : String) (body : ByteArray) : Except Text.CharsetFault String := do
  if body.isEmpty then return ""
  let charset ← ContentType.charset? contentType
  (charset.getD .utf8).read body

/-- The document in the reply to a request. -/
def document (request : Request) : Reply → Except Failure Value
  | .response status headers packed =>
    match unpackedBody headers packed with
    | .error fault => .error (.fetch (.failed request.url fault.message))
    | .ok body =>
      if 200 ≤ status && status ≤ 299 then
        let type := contentType headers
        match bodyText type body with
        | .ok text => Decoding.decode (hint type) text
        | .error cause => .error (.defect (.charset cause))
      else .error (.fetch (.status status request.url))
  | .timedOut => .error (.fetch (.timedOut request.timeout request.url))
  | .failed reason => .error (.fetch (.failed request.url reason))

end Reply

end ClientModel
