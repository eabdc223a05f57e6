/-
This file puts emoji for their names. A name stands between colons and has no blank in it; in
capitals it is as good, and it may go on with the form that is wanted, a picture or a letter. What
is no name of an emoji stays as it is, colons and all.
-/

import ClientModel.Output.EmojiTable
import ClientModel.Text.Blank
import ClientModel.Text.LowerCase
import ClientModel.Text.Split

namespace ClientModel.Emoji

/-! ### Names -/

/-- The tones of skin, and the character that gives an emoji the tone. -/
def tones : List (String × Char) := [
  ("_medium-light_skin_tone", '🏼'), ("_medium-dark_skin_tone", '🏾'),
  ("_medium_skin_tone", '🏽'), ("_light_skin_tone", '🏻'), ("_dark_skin_tone", '🏿')]

/-- An emoji in a tone of skin: the tone follows the first character and takes the place of the
mark for a picture. -/
def toned (tone : Char) : List Char → List Char
  | [] => []
  | first :: '\uFE0F' :: rest => first :: tone :: rest
  | first :: rest => first :: tone :: rest

/-- The emoji of a line whose names hold one of those given. -/
def inLine? (isName : List Char → Bool) (line : String) : Option (List Char) :=
  (Text.splitOn ' ' line.toList).findSome? fun entry =>
    let names := entry.takeWhile (· != '=')
    if (Text.splitOn ':' names).any isName then some (entry.drop (names.length + 1)) else none

/-- The emoji whose names hold one of those given. -/
def find? (isName : List Char → Bool) : Option (List Char) := lines.findSome? (inLine? isName)

/-- The name without a tone, and the character of the tone. -/
def splitTone? (name : List Char) : Option (List Char × Char) :=
  tones.findSome? fun (ending, tone) =>
    let length := name.length - ending.length
    if 0 < length && name.drop length == ending.toList then some (name.take length, tone) else none

/-- The emoji of a name. -/
def ofName? (name : List Char) : Option (List Char) :=
  match find? fun own => own == name || own == name ++ ['~'] with
  | some emoji => if name.getLast? == some '~' then none else some emoji
  | none =>
    (splitTone? name).bind fun (base, tone) =>
      (find? fun own => own == base ++ ['~']).map (toned tone)

/-! ### Texts -/

/-- The forms in which an emoji can be wanted, and the marks for them. -/
def forms : List (String × Char) := [("-text", '\uFE0E'), ("-emoji", '\uFE0F')]

/-- A name without the form that is wanted, and the mark for that form. -/
def splitForm (name : List Char) : List Char × List Char :=
  let wanted := forms.findSome? fun (ending, mark) =>
    let length := name.length - ending.length
    if ending.length ≤ name.length && name.drop length == ending.toList then
      some (name.take length, [mark])
    else none
  wanted.getD (name, [])

/-- The emoji between colons: a name in capitals or not, perhaps with the form that is wanted. -/
def ofCode? (code : List Char) : Option (List Char) :=
  let (name, mark) := splitForm code
  (ofName? (Text.lowerCase name)).map (· ++ mark)

/-- What stands between a colon and the next one, if there is no blank in it. -/
def codeAt? (rest : List Char) : Option (List Char) :=
  let code := rest.takeWhile fun character => character != ':' && !Text.isBlank character
  if (rest.drop code.length).head? == some ':' then some code else none

/-- A text with emoji for their names. `skip` is the number of characters that still belong to the
name before. -/
def replacedFrom : (skip : Nat) → List Char → List Char
  | _, [] => []
  | skip + 1, _ :: rest => replacedFrom skip rest
  | 0, character :: rest =>
    match if character == ':' then codeAt? rest else none with
    | some code =>
      (ofCode? code).getD (':' :: code ++ [':']) ++ replacedFrom (code.length + 1) rest
    | none => character :: replacedFrom 0 rest

/-- A text with emoji for their names. -/
def replaced (text : List Char) : List Char := replacedFrom 0 text

/-- A text without a colon stays as it is. -/
theorem replaced_of_no_colon {text : List Char} (none_is : ∀ character ∈ text, character ≠ ':') :
    replaced text = text := by
  unfold replaced
  induction text with
  | nil => rfl
  | cons character rest kept =>
    have other : character ≠ ':' := none_is character (List.mem_cons_self ..)
    simp [replacedFrom, other, kept fun next member => none_is next (List.mem_cons_of_mem _ member)]

end ClientModel.Emoji
