/-
This file reads JSON text. The tokens are consumed one after another by a machine whose state is
the stack of the lists and maps that are open and what may come next; an error is reported at the
token that cannot come, or at the end of the text. A key that comes again in a map replaces the
item where the key first stood.
-/

import ClientModel.Json.Token

namespace ClientModel.Json

/-! ### States -/

/-- A list or map that is open: what it holds so far and, in a map, the key whose item is being
read. The items of a list are kept last first. -/
inductive Frame where
  | list (done : List Value)
  | map (done : Entries) (key : String)

/-- What may come next. -/
inductive Expected where
  /-- A value. -/
  | value
  /-- A value or the end of the list that was just opened. -/
  | itemOrEnd
  /-- A key of a map. -/
  | key (done : Entries)
  /-- A key or the end of the map that was just opened. -/
  | keyOrEnd
  /-- The colon after a key. -/
  | colon (done : Entries) (key : String)
  /-- Whatever may follow a complete value. -/
  | following (complete : Value)

/-- The state of reading: what may come next, inside which open lists and maps. -/
structure Reading where
  expected : Expected
  stack : List Frame

/-- The state at the start of a text. -/
def Reading.start : Reading := ⟨.value, []⟩

/-! ### Steps -/

/-- How deep lists and maps may be nested. -/
def deepest : Nat := 985

/-- Opens a list or a map inside those that are open. -/
def opening (expected : Expected) (stack : List Frame) : Except Error Reading :=
  if deepest ≤ stack.length then .error .tooDeep else .ok ⟨expected, stack⟩

/-- The complaint about whatever is not what may come next. -/
def Reading.complaint (reading : Reading) : Complaint :=
  match reading.expected with
  | .value | .itemOrEnd => .expectingValue
  | .key _ | .keyOrEnd => .expectingKey
  | .colon _ _ => .expectingColon
  | .following _ => if reading.stack.isEmpty then .extraData else .expectingComma

/-- A token where a value may come. -/
def stepValue (stack : List Frame) (position : Nat) : Token → Except Error Reading
  | .openList => opening .itemOrEnd stack
  | .openMap => opening .keyOrEnd stack
  | .text content => .ok ⟨.following (.string content), stack⟩
  | .scalar content => .ok ⟨.following (.scalar content), stack⟩
  | .longInteger digits => .error (.longInteger digits)
  | .unreadable complaint place => .error (.malformed complaint place)
  | _ => .error (.malformed .expectingValue position)

/-- A token where a key may come. -/
def stepKey (done : Entries) (stack : List Frame) (position : Nat) : Token → Except Error Reading
  | .text content => .ok ⟨.colon done content, stack⟩
  | .unreadable complaint place => .error (.malformed complaint place)
  | _ => .error (.malformed .expectingKey position)

/-- A token after a complete value. -/
def stepFollowing (complete : Value) (position : Nat) :
    List Frame → Token → Except Error Reading
  | .list done :: stack, .comma => .ok ⟨.value, .list (complete :: done) :: stack⟩
  | .list done :: stack, .closeList =>
    .ok ⟨.following (.list (complete :: done).reverse), stack⟩
  | .map done key :: stack, .comma =>
    .ok ⟨.key (Entries.write (.string key) complete done), stack⟩
  | .map done key :: stack, .closeMap =>
    .ok ⟨.following (.map (Entries.write (.string key) complete done)), stack⟩
  | [], _ => .error (.malformed .extraData position)
  | _ :: _, _ => .error (.malformed .expectingComma position)

/-- One token. -/
def step (reading : Reading) (token : Token × Nat) : Except Error Reading :=
  match reading.expected, token.1 with
  | .value, found => stepValue reading.stack token.2 found
  | .itemOrEnd, .closeList => .ok ⟨.following (.list []), reading.stack⟩
  | .itemOrEnd, found => stepValue (.list [] :: reading.stack) token.2 found
  | .key done, found => stepKey done reading.stack token.2 found
  | .keyOrEnd, .closeMap => .ok ⟨.following (.map []), reading.stack⟩
  | .keyOrEnd, found => stepKey [] reading.stack token.2 found
  | .colon done key, .colon => .ok ⟨.value, .map done key :: reading.stack⟩
  | .colon _ _, _ => .error (.malformed .expectingColon token.2)
  | .following complete, found => stepFollowing complete token.2 reading.stack found

/-- The value of a text that ends in a state. -/
def Reading.finish (reading : Reading) (length : Nat) : Except Error Value :=
  match reading.expected, reading.stack with
  | .following complete, [] => .ok complete
  | _, _ => .error (.malformed reading.complaint length)

/-- The value that a list of tokens writes, for a text of a length. -/
def readTokens (length : Nat) (found : List (Token × Nat)) : Except Error Value := do
  (← found.foldlM step Reading.start).finish length

/-- The value of a text. A byte-order mark at the start is refused. -/
def readCharacters (characters : List Char) : Except Error Value :=
  match characters with
  | '\uFEFF' :: _ => .error (.malformed .byteOrderMark 0)
  | _ => readTokens characters.length (tokens characters)

/-- The value of a text. -/
def read (text : String) : Except Error Value :=
  readCharacters text.toList

/-! ### Messages -/

/-- The line of a position, counted from one, and its column in that line. -/
def lineAndColumn (characters : List Char) (position : Nat) : Nat × Nat :=
  let before := characters.take position
  let lastLine := before.reverse.takeWhile (· != '\n')
  (before.count '\n' + 1, lastLine.length + 1)

/-- The text of an error in a text. -/
def Error.message (characters : List Char) : Error → String
  | .malformed complaint position =>
    let (line, column) := lineAndColumn characters position
    s!"{complaint.message}: line {line} column {column} (char {position})"
  | .longInteger digits => Text.longIntegerMessage digits
  | .tooDeep => "lists and maps are nested too deep"

end ClientModel.Json
