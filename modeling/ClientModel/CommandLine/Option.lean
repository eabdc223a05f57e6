/-
This file reads options from arguments. An option has a long name after two dashes and perhaps a
letter after one. A value follows in the next argument, after an equality sign, or right after the
letter; letters of options without a value can stand together. Two dashes alone end the options.
-/

namespace ClientModel.CommandLine

/-! ### Options -/

/-- An option that a command knows. -/
structure OptionForm (Key : Type) where
  key : Key
  /-- The long name with its dashes. -/
  long : String
  letter : Option Char
  takesValue : Bool

/-- What arguments give: the options in their order, each with its value, and the arguments that
are no options. -/
structure ReadArguments (Key : Type) where
  options : List (Key × String)
  others : List String

/-- What a single argument gives: options, and perhaps one more whose value is the next
argument. -/
structure ReadArgument (Key : Type) where
  options : List (Key × String)
  awaiting : Option Key

variable {Key : Type}

/-- The option of a letter. -/
def formOfLetter? (forms : List (OptionForm Key)) (letter : Char) : Option (OptionForm Key) :=
  forms.find? (·.letter == some letter)

/-- The option of a long name. -/
def formOfName? (forms : List (OptionForm Key)) (name : List Char) : Option (OptionForm Key) :=
  forms.find? (·.long.toList == name)

/-- Reads the letters after one dash. -/
def readLetters (forms : List (OptionForm Key)) : List Char → Option (ReadArgument Key)
  | [] => some ⟨[], none⟩
  | letter :: rest => do
    let form ← formOfLetter? forms letter
    if form.takesValue then
      if rest.isEmpty then pure ⟨[], some form.key⟩
      else pure ⟨[(form.key, String.ofList rest)], none⟩
    else
      let others ← readLetters forms rest
      pure { others with options := (form.key, "") :: others.options }

/-- Reads a long option, with the value after the equality sign if there is one. -/
def readLong (form : OptionForm Key) (value : Option String) : Option (ReadArgument Key) :=
  match form.takesValue, value with
  | true, some value => some ⟨[(form.key, value)], none⟩
  | true, none => some ⟨[], some form.key⟩
  | false, some _ => none
  | false, none => some ⟨[(form.key, "")], none⟩

/-- The value after the equality sign of an argument. -/
def valueAfterSign (argument : List Char) : Option String :=
  match argument.dropWhile (· != '=') with
  | [] => none
  | _ :: value => some (String.ofList value)

/-- Reads one argument that starts with a dash; nothing if it is no known option. -/
def readArgument (forms : List (OptionForm Key)) (argument : List Char) :
    Option (ReadArgument Key) :=
  match formOfName? forms (argument.takeWhile (· != '=')) with
  | some form => readLong form (valueAfterSign argument)
  | none =>
    match argument with
    | '-' :: '-' :: _ => none
    | _ :: letters => readLetters forms letters
    | [] => none

/-- Whether an argument is an option: a dash alone is not. -/
def isOption (argument : String) : Bool :=
  match argument.toList with
  | '-' :: _ :: _ => true
  | _ => false

/-- Adds options in front. -/
def ReadArguments.withOptions (options : List (Key × String)) (read : ReadArguments Key) :
    ReadArguments Key :=
  { read with options := options ++ read.options }

/-- Adds an argument in front that is no option. -/
def ReadArguments.withOther (argument : String) (read : ReadArguments Key) : ReadArguments Key :=
  { read with others := argument :: read.others }

/-- Reads arguments; nothing where one is wrong. `mixed` tells whether options may follow an
argument that is none. -/
def readArguments (forms : List (OptionForm Key)) (mixed : Bool) :
    List String → Option (ReadArguments Key)
  | [] => some ⟨[], []⟩
  | argument :: rest =>
    if argument == "--" then some ⟨[], rest⟩
    else if isOption argument then
      match readArgument forms argument.toList with
      | none => none
      | some ⟨options, none⟩ => (readArguments forms mixed rest).map (·.withOptions options)
      | some ⟨options, some key⟩ =>
        match rest with
        | [] => none
        | value :: following =>
          (readArguments forms mixed following).map (·.withOptions (options ++ [(key, value)]))
    else if mixed then (readArguments forms mixed rest).map (·.withOther argument)
    else some ⟨[], argument :: rest⟩

namespace ReadArguments

variable [BEq Key]

/-- Whether an option is given. -/
def has (key : Key) (read : ReadArguments Key) : Bool :=
  read.options.any (·.1 == key)

/-- The values of an option in their order. -/
def values (key : Key) (read : ReadArguments Key) : List String :=
  (read.options.filter (·.1 == key)).map Prod.snd

/-- The last value of an option. -/
def value? (key : Key) (read : ReadArguments Key) : Option String :=
  (read.values key).getLast?

end ReadArguments

end ClientModel.CommandLine
