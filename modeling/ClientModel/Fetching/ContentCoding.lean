/-
This file unpacks bodies that were packed on the way. The header tells the codings in the order in
which they were applied, so that the last one is undone first; codings that are not known are
passed over.
-/

import ClientModel.Compression.Container
import ClientModel.Text.Blank
import ClientModel.Text.Split

namespace ClientModel

/-- How a body was packed. -/
inductive ContentCoding where
  /-- In the container with names and times. -/
  | gzip
  /-- In the container for streams, or in none. -/
  | deflate
  deriving DecidableEq, Repr

namespace ContentCoding

/-- The coding of a name, if it is known. -/
def ofName? (name : List Char) : Option ContentCoding :=
  let plain := String.ofList ((Text.trim name).map Char.toLower)
  if plain == "gzip" then some .gzip
  else if plain == "deflate" then some .deflate
  else none

/-- The codings that the values of a header tell, in their order. -/
def ofValues (values : List String) : List ContentCoding :=
  values.flatMap fun value => (Text.splitOn ',' value.toList).filterMap ofName?

/-- Undoes a coding. -/
def unpack (coding : ContentCoding) (body : List UInt8) :
    Except Compression.PackingFault (List UInt8) :=
  match coding with
  | .gzip => (Compression.unpackFile body).map Array.toList
  | .deflate =>
    match Compression.unpackStream body with
    | .ok written => .ok written.toList
    | .error _ => (Compression.unpackBare body).map Array.toList

/-- Undoes all codings, the last one first. -/
def unpackAll (codings : List ContentCoding) (body : List UInt8) :
    Except Compression.PackingFault (List UInt8) :=
  codings.reverse.foldlM (fun packed coding => coding.unpack packed) body

end ContentCoding

end ClientModel
