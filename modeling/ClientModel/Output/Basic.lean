/-
This file defines how a run writes. Data goes to the output, as JSON or as plain lines; messages
and notes go beside it. Quiet runs leave out the messages that only inform, verbose ones show
every note.
-/

import ClientModel.Configuration.Placeholder
import ClientModel.Failure
import ClientModel.Notice
import ClientModel.Output.Layout
import ClientModel.Output.Markup

namespace ClientModel

/-! ### Formats -/

/-- How data is written. -/
inductive OutputFormat where
  /-- As fits the output. -/
  | auto
  | json
  | plain
  /-- For reading on a terminal. -/
  | rich
  deriving DecidableEq, Repr

namespace OutputFormat

/-- A format as it is named. -/
def name : OutputFormat → String
  | .auto => "auto"
  | .json => "json"
  | .plain => "plain"
  | .rich => "rich"

/-- All formats. -/
def all : List OutputFormat := [.auto, .json, .plain, .rich]

/-- The format of a name. -/
def ofName (name : String) : Except Failure OutputFormat :=
  match all.find? (·.name == name) with
  | some format => .ok format
  | none => .error (.defect (.outputFormat name))

end OutputFormat

/-! ### Settings -/

/-- What is asked of the output. -/
structure OutputOptions where
  format : OutputFormat := .auto
  noColor : Bool := false
  quiet : Bool := false
  verbose : Bool := false
  deriving DecidableEq, Repr

/-- How a run writes. -/
structure OutputSettings where
  format : OutputFormat
  /-- Whether messages are written as they are, without markup. -/
  plainMessages : Bool
  quiet : Bool
  verbose : Bool
  /-- How many columns a line may take. -/
  width : Nat
  deriving DecidableEq, Repr

/-- Whether the environment wants no colors. -/
def Environment.wantsNoColor (environment : Environment) : Bool :=
  (environment.get? "NO_COLOR").isSome || environment.get? "TERM" == some "dumb"

/-- How many columns a line may take where the environment does not tell. -/
def usualWidth : Nat := 80

/-- How many columns a line may take. -/
def Environment.width (environment : Environment) : Nat :=
  let digits := ((environment.get? "COLUMNS").getD "").toList
  if digits.isEmpty then usualWidth
  else (digits.foldlM (fun sum digit => (Text.decimalValue? digit).map (sum * 10 + ·)) 0).getD
    usualWidth

/-- The settings that follow from what is asked and from what is there. -/
def OutputOptions.settings (options : OutputOptions) (environment : Environment)
    (terminal : Bool) : OutputSettings :=
  let plainMessages := options.noColor || environment.wantsNoColor
  let format := match options.format with
    | .auto => if terminal && !plainMessages then .rich else .plain
    | format => format
  ⟨format, plainMessages, options.quiet, options.verbose, environment.width⟩

/-! ### Messages -/

/-- What a run tells beside its data. -/
inductive Message where
  | info (text : String)
  | success (text : String)
  | warning (text : String)
  | error (text : String)
  /-- What could be done next. -/
  | suggestion (text : String)
  deriving DecidableEq, Repr

namespace Message

/-- Whether a quiet run leaves a message out. -/
def isQuietable : Message → Bool
  | .info _ | .success _ | .suggestion _ => true
  | .warning _ | .error _ => false

/-- A message as it is. -/
def plain : Message → String
  | .info text | .success text => text
  | .warning text => s!"Warning: {text}"
  | .error text => s!"Error: {text}"
  | .suggestion text => s!"→ {text}"

/-- A message with its markup. -/
def markup : Message → String
  | .info text => text
  | .success text => s!"[green]{text}[/green]"
  | .warning text => s!"[yellow]Warning:[/yellow] {text}"
  | .error text => s!"[bold red]Error:[/bold red] {text}"
  | .suggestion text => s!"[dim]→ {text}[/dim]"

end Message

/-! ### Lines -/

/-- Lines as text. -/
def textOfLines (lines : List (List Char)) : String :=
  String.ofList (lines.flatMap fun line => line ++ ['\n'])

/-- A word in a column: blanks fill it, and an ellipsis stands for what has no room. -/
def inColumn (width : Nat) (word : List Char) : List Char :=
  if word.length ≤ width then word ++ List.replicate (width - word.length) ' '
  else if width == 0 then []
  else word.take (width - 1) ++ ['…']

namespace OutputSettings

/-- What is written for a message; nothing where it is left out. -/
def messageText (settings : OutputSettings) (message : Message) : Except Failure String :=
  if settings.quiet && message.isQuietable then .ok ""
  else if settings.plainMessages then .ok (message.plain ++ "\n")
  else
    match Markup.read message.markup with
    | .ok text =>
      .ok (if settings.width == 0 then "" else textOfLines (Layout.wrap settings.width text))
    | .error fault => .error (.defect (.markup fault))

/-- The least severity that is noted. -/
def threshold (settings : OutputSettings) : Severity :=
  if settings.verbose then .debug else .warning

/-- How many columns the name of a severity takes where there is room for it. -/
def usualSeverityWidth : Nat := 8

/-- How many columns there are for a severity. In narrow lines one is kept for the text. -/
def severityWidth (settings : OutputSettings) : Nat :=
  min usualSeverityWidth (settings.width - 2)

/-- How many columns there are for the text of a note. In verbose runs a margin is kept free. Where
the severity lacks room, a text gets columns only if it needs one. -/
def noteWidth (settings : OutputSettings) (margin : Nat) (text : List Char) : Nat :=
  if settings.severityWidth < usualSeverityWidth && Layout.needed text == 0 then 0
  else settings.width - settings.severityWidth - 1 - (if settings.verbose then margin else 0)

/-- A note of any text: the severity in front of the first line, blanks in front of others. -/
def noteText (settings : OutputSettings) (margin : Nat) (severity : Severity) (text : String) :
    String :=
  let column := settings.severityWidth
  let lines := match settings.noteWidth margin text.toList with
    | 0 => [[]]
    | width => Layout.wrap width text.toList
  match lines with
  | [] => ""
  | first :: rest =>
    textOfLines ((inColumn column severity.name.toList ++ ' ' :: first) ::
      rest.map (List.replicate (column + 1) ' ' ++ ·))

/-- What is written for a note of any text. -/
def recordText (settings : OutputSettings) (margin : Nat) (severity : Severity) (text : String) :
    String :=
  if settings.threshold.rank ≤ severity.rank && settings.width != 0 then
    settings.noteText margin severity text
  else ""

/-- What is written for a note. -/
def noticeText (settings : OutputSettings) (notice : Notice) : String :=
  settings.recordText notice.margin notice.severity notice.message

end OutputSettings

end ClientModel
