/-
This file defines the names of files. A name is a list of segments, from the root or from the
working directory; empty segments and those that stand for "here" are left out, those that stand
for "one up" are kept. A name is followed segment by segment: every place that is passed on the
way has to be a directory, whatever the last one is. Neither a segment nor a whole name can be of
any length.
-/

import ClientModel.Text.Split

namespace ClientModel

/-- The name of a file. -/
structure Path where
  /-- What an absolute name starts with: one slash, or exactly two. -/
  root : String
  segments : List String
  deriving DecidableEq, Repr

/-- The place of a file: the segments that lead to it from the root. -/
abbrev Location := List String

namespace Path

/-! ### Reading and writing -/

/-- What an absolute name starts with; nothing for any other. -/
def rootOf : List Char → String
  | '/' :: '/' :: '/' :: _ => "/"
  | '/' :: '/' :: _ => "//"
  | '/' :: _ => "/"
  | _ => ""

/-- Whether a segment leads anywhere. -/
def isStep (segment : List Char) : Bool := !segment.isEmpty && segment != ['.']

/-- The name that a text writes. -/
def ofText (text : String) : Path where
  root := rootOf text.toList
  segments := ((Text.splitOn '/' text.toList).filter isStep).map String.ofList

/-- A name as text. -/
def text (path : Path) : String :=
  if path.root.isEmpty && path.segments.isEmpty then "."
  else path.root ++ "/".intercalate path.segments

/-! ### Parts -/

/-- The name of something inside a directory. -/
def inside (directory : Path) (segments : List String) : Path :=
  { directory with segments := directory.segments ++ segments }

/-- The last segment. -/
def lastSegment (path : Path) : String := path.segments.getLast?.getD ""

/-- The last dot of a segment and what follows, if something stands on either side of it. -/
def suffixOf (segment : List Char) : List Char :=
  let extension := (segment.reverse.takeWhile (· != '.')).reverse
  let stem := segment.take (segment.length - extension.length - 1)
  if segment.contains '.' && !stem.isEmpty && !extension.isEmpty then '.' :: extension else []

/-- The suffix of a file in lower case. -/
def suffix (path : Path) : String :=
  String.ofList ((suffixOf path.lastSegment.toList).map Char.toLower)

/-! ### Limits -/

/-- The longest segment that can be followed, in bytes. -/
def longestSegment : Nat := 255

/-- The longest name that can be followed, in bytes. -/
def longestText : Nat := 4095

/-- Whether a segment can be followed. -/
def isShort (segment : String) : Bool := segment.utf8ByteSize ≤ longestSegment

/-- Whether a name as a whole can be followed, with so many bytes more. -/
def hasRoom (path : Path) (more : Nat) : Bool := path.text.utf8ByteSize + more ≤ longestText

/-- Whether something can be at a location. -/
def isNameable (location : Location) : Bool := location.getLast?.all isShort

/-! ### Following a name -/

/-- One segment on from a location. -/
def advance (location : Location) (segment : String) : Location :=
  if segment == ".." then location.dropLast else location ++ [segment]

/-- The locations that are passed on the way, and the one at the end. -/
def follow : Location → List String → List Location × Location
  | location, [] => ([], location)
  | location, segment :: rest =>
    let (passed, final) := follow (advance location segment) rest
    (location :: passed, final)

/-- Where a name starts, given the working directory. -/
def start (working : Location) (path : Path) : Location :=
  if path.root.isEmpty then working else []

/-- The way of a name: the locations it passes, and the one it leads to. -/
def way (working : Location) (path : Path) : List Location × Location :=
  follow (path.start working) path.segments

/-- The absolute name of a location. -/
def ofLocation (location : Location) : Path := ⟨"/", location⟩

end Path

end ClientModel
