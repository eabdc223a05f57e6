/-
This file defines the pieces that a YAML text is made of, and what can be wrong with such a text.
The start and the end of a block do not stand in the text; they follow from its columns and are
pieces like any other.
-/

import ClientModel.Calendar
import ClientModel.Text.Numeral
import ClientModel.Text.Quoted

namespace ClientModel.Yaml

/-! ### Errors -/

/-- What can be wrong with the form of a YAML text. -/
inductive Complaint where
  | forbiddenCharacter (character : Char)
  | unexpectedCharacter (character : Char)
  | keyWithoutColon
  | misplacedEntry
  | misplacedKey
  | misplacedValue
  | unopenedBracket
  | malformedDirective
  | emptyName
  | malformedTag
  | blockHeader
  | unterminatedText
  | separatorInText
  | escape
  | repeatedDirective
  | unsupportedVersion
  | missingDocumentStart
  | severalDocuments
  | undefinedHandle (handle : String)
  | missingContent
  | unclosedBlock
  | unclosedFlow
  | undefinedAlias (name : String)
  | repeatedAnchor (name : String)
  | unknownTag
  | unfitTag
  | compoundKey
  | binary
  deriving DecidableEq, Repr

/-- The text of a complaint. -/
def Complaint.message : Complaint → String
  | .forbiddenCharacter character =>
    s!"special characters are not allowed: {Text.quoted character.toString}"
  | .unexpectedCharacter character =>
    s!"found character {Text.quoted character.toString} that cannot start any token"
  | .keyWithoutColon => "could not find expected ':'"
  | .misplacedEntry => "sequence entries are not allowed here"
  | .misplacedKey => "mapping keys are not allowed here"
  | .misplacedValue => "mapping values are not allowed here"
  | .unopenedBracket => "found a closing bracket that no bracket opens"
  | .malformedDirective => "found a malformed directive"
  | .emptyName => "expected a name of letters and digits"
  | .malformedTag => "found a malformed tag"
  | .blockHeader => "found a malformed header of a block scalar"
  | .unterminatedText => "found unexpected end of stream in a quoted scalar"
  | .separatorInText => "found unexpected document separator in a quoted scalar"
  | .escape => "found an unknown escape in a quoted scalar"
  | .repeatedDirective => "found a directive twice"
  | .unsupportedVersion => "found incompatible document (version 1.* is required)"
  | .missingDocumentStart => "expected the start of a document"
  | .severalDocuments => "expected a single document in the stream"
  | .undefinedHandle handle => s!"found undefined tag handle {Text.quoted handle}"
  | .missingContent => "expected the content of a node"
  | .unclosedBlock => "expected the end of a block"
  | .unclosedFlow => "expected a comma or a closing bracket"
  | .undefinedAlias name => s!"found undefined alias {Text.quoted name}"
  | .repeatedAnchor name => s!"found duplicate anchor {Text.quoted name}"
  | .unknownTag => "could not determine a constructor for a tag"
  | .unfitTag => "found a node of the wrong kind for its tag"
  | .compoundKey => "found a key that is neither text nor number"
  | .binary => "failed to decode base64 data"

/-- What can be wrong with the content of a scalar whose tag says what it has to be. -/
inductive ScalarFault where
  /-- A number without a first digit. -/
  | emptyNumeral
  /-- A text that is no integer in a base. -/
  | integer (text : String) (base : Nat)
  /-- An integer of too many digits. -/
  | longInteger (digits : Nat)
  /-- A text that is no number. -/
  | number (text : String)
  /-- A text that is no truth value. -/
  | truth (text : String)
  /-- A text that has not the form of a time. -/
  | time
  /-- A map where the text of a time is expected. -/
  | timeOfMap
  /-- A time that is not in the calendar. -/
  | calendar (error : CalendarError)
  /-- An escape of a code that is no character. -/
  | code
  /-- An escape of a code that is far too large. -/
  | largeCode
  deriving DecidableEq, Repr

/-- A text between quotes, cut after two hundred characters. -/
def shortQuoted (text : String) : String := (Text.quoted text).take 200 |>.toString

/-- The text of a fault. -/
def ScalarFault.message : ScalarFault → String
  | .emptyNumeral => "string index out of range"
  | .integer text base => s!"invalid literal for int() with base {base}: {shortQuoted text}"
  | .longInteger digits => Text.longIntegerMessage digits
  | .number text => s!"could not convert string to float: {Text.quoted text}"
  | .truth text => Text.quoted text
  | .time => "'NoneType' object has no attribute 'groupdict'"
  | .timeOfMap => "expected string or bytes-like object, got 'list'"
  | .calendar error => error.message
  | .code => "chr() arg not in range(0x110000)"
  | .largeCode => "code point out of range"

/-- Why a YAML text has no value. -/
inductive Error where
  /-- The form of the text is wrong. -/
  | malformed (complaint : Complaint)
  /-- A scalar is not what its tag says. -/
  | unfit (fault : ScalarFault)
  /-- A computation would go on without end, or nodes are nested too deep. -/
  | endless
  deriving DecidableEq, Repr

/-! ### Pieces -/

/-- A directive in front of a document. -/
inductive Directive where
  | version (major : Nat)
  | tagHandle (handle leading : String)
  | other
  deriving DecidableEq, Repr

/-- A piece of a YAML text. A text that cannot be read on ends in a piece that says why. -/
inductive Token where
  | directive (content : Directive)
  | documentStart
  | documentEnd
  | openBlockList
  | openBlockMap
  | closeBlock
  | openFlowList
  | closeFlowList
  | openFlowMap
  | closeFlowMap
  | entry
  | comma
  | key
  | value
  | alias (name : String)
  | anchor (name : String)
  | tag (handle : Option String) (suffix : String)
  | scalar (content : String) (plain : Bool)
  | unreadable (error : Error)
  deriving DecidableEq, Repr

end ClientModel.Yaml
