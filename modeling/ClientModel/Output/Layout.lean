/-
This file lays out texts in lines of a limited width. Tabs become blanks, a word that does not fit
into the rest of a line goes to the next one, and a word that fits into no line is cut. The main
statement is that cutting a line loses nothing of it.
-/

import ClientModel.Text.Blank
import ClientModel.Text.Cluster
import ClientModel.Text.Split

namespace ClientModel.Layout

/-! ### Characters -/

/-- Whether a character is shown: a few control characters are not. -/
def isShown (character : Char) : Bool :=
  !(['\x07', '\x08', '\x0B', '\x0C', '\x0D'].contains character)

/-- The parts of a line between its tabs as one line. A tab becomes a blank, and blanks follow it up
to the next multiple of eight. `column` is where the first part starts. -/
def joinAtTabs : (column : Nat) → List (List Char) → List Char
  | _, [] => []
  | _, [part] => part
  | column, part :: rest =>
    let filled := part ++ [' ']
    let reached := column + Text.width filled
    let stop := (reached + 7) / 8 * 8
    filled ++ List.replicate (stop - reached) ' ' ++ joinAtTabs stop rest

/-- A line with blanks in place of its tabs. -/
def expandTabs (line : List Char) : List Char := joinAtTabs 0 (Text.splitOn '\t' line)

/-! ### Words -/

/-- How many characters the first word of a text takes, with the blanks before and behind it;
nothing if there is no word. -/
def wordLength? (text : List Char) : Option Nat :=
  let before := text.takeWhile Text.isBlank
  let word := (text.drop before.length).takeWhile fun character => !Text.isBlank character
  let behind := (text.drop (before.length + word.length)).takeWhile Text.isBlank
  if word.isEmpty then none else some (before.length + word.length + behind.length)

/-- The words of a text, each with the blanks around it. `fuel` bounds their number. -/
def wordsFrom : (fuel : Nat) → List Char → List (List Char)
  | 0, _ => []
  | fuel + 1, text =>
    match wordLength? text with
    | some length => text.take length :: wordsFrom fuel (text.drop length)
    | none => []

/-- The words of a text, each with the blanks around it. -/
def words (text : List Char) : List (List Char) := wordsFrom text.length text

/-- A word, by its clusters, in pieces that fit into lines. `column` is where the piece begun so far
ends. -/
def pieces (width : Nat) : (column : Nat) → List Text.Cluster → List (List Char)
  | _, [] => [[]]
  | column, cluster :: rest =>
    if width < column + cluster.width then
      match pieces width cluster.width rest with
      | first :: others => [] :: (cluster.characters ++ first) :: others
      | [] => [[], cluster.characters]
    else
      match pieces width (column + cluster.width) rest with
      | first :: others => (cluster.characters ++ first) :: others
      | [] => [cluster.characters]

/-! ### Breaks -/

/-- The places where the pieces of a word start, but for the start of the text. -/
def pieceStarts : (start : Nat) → List (List Char) → List Nat
  | _, [] => []
  | start, piece :: rest =>
    (if start == 0 then [] else [start]) ++ pieceStarts (start + piece.length) rest

/-- The places where a line of words is cut. `start` is the place of the first word, `column` where
the line begun so far ends. -/
def breaks (width : Nat) : (start column : Nat) → List (List Char) → List Nat
  | _, _, [] => []
  | start, column, word :: rest =>
    let own := Text.width (Text.trimEnd word)
    let next := start + word.length
    if column + own ≤ width then breaks width next (column + Text.width word) rest
    else if width < own then
      let cut := pieces width 0 (Text.clusters word)
      pieceStarts start cut ++ breaks width next (Text.width (cut.getLast?.getD [])) rest
    else if column != 0 && start != 0 then start :: breaks width next (Text.width word) rest
    else breaks width next column rest

/-- The parts of a text between places in rising order. `start` is the place where the text
starts. -/
def cutAt : (start : Nat) → (places : List Nat) → List Char → List (List Char)
  | _, [], text => [text]
  | start, place :: rest, text =>
    text.take (place - start) :: cutAt place rest (text.drop (place - start))

/-! ### Lines -/

/-- A line without the blanks at its end that are beyond so many characters. -/
def withoutExcess (width : Nat) (line : List Char) : List Char :=
  let blanks := (line.reverse.takeWhile Text.isBlank).length
  line.take (line.length - min blanks (line.length - width))

/-- The first clusters that fill so many columns. Of a cluster that goes beyond them with its second
half, a blank is left. -/
def filling : (width : Nat) → List Text.Cluster → List Char
  | 0, _ | _, [] => []
  | width, cluster :: rest =>
    if width < cluster.width then [' ']
    else cluster.characters ++ filling (width - cluster.width) rest

/-- The first characters of a line, as many as fit into so many columns. -/
def cropped (width : Nat) (line : List Char) : List Char :=
  if Text.width line ≤ width then line else filling width (Text.clusters line)

/-- A line in lines of a limited width. -/
def wrapLine (width : Nat) (line : List Char) : List (List Char) :=
  let expanded := expandTabs line
  (cutAt 0 (breaks width 0 0 (words expanded)) expanded).map fun part =>
    cropped width (withoutExcess width part)

/-- A text in lines of a limited width. -/
def wrap (width : Nat) (text : List Char) : List (List Char) :=
  (Text.splitOn '\n' (text.filter isShown)).flatMap (wrapLine width)

/-- How many columns the shown characters of a text need in a row. -/
def needed (text : List Char) : Nat := Text.width (text.filter isShown)

/-- Cutting a text loses nothing of it. -/
theorem flatten_cutAt (start : Nat) (places : List Nat) (text : List Char) :
    (cutAt start places text).flatten = text := by
  induction places generalizing start text with
  | nil => simp [cutAt]
  | cons place rest whole => simp [cutAt, whole]

end ClientModel.Layout
