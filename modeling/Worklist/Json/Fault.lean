import Worklist.Number.Literal
import Worklist.Text.Escaped

/-!
# Faults in JSON text

What can be wrong with a JSON text: its form, or a value that is not what a reader expects. Each
cause is a constructor, and `Fault.message` words it.
-/

set_option autoImplicit false

namespace Worklist.Json

/-- What a reader found where it expected something else. -/
inductive Found where
  | null
  | boolean (b : Bool)
  | integer (n : Int)
  | float (x : Number.Binary64)
  | text (s : String)
  | sequence
  | map
  deriving DecidableEq

/-- A fault in a JSON text. -/
inductive Fault where
  | endInValue
  | endInList
  | endInObject
  | endInText
  | expectedValue
  | expectedWord
  | expectedColon
  | expectedCommaOrBracket
  | expectedCommaOrBrace
  | trailingComma
  | trailingCharacters
  | keyMustBeText
  | invalidNumber
  | numberOutOfRange
  | invalidEscape
  | loneSurrogate
  | endOfHexEscape
  | controlCharacter
  | nestingLimit
  | missingField (name : String)
  | duplicateField (name : String)
  | unknownVariant (found : String) (known : List String)
  | invalidType (found : Found) (expected : String)
  | invalidValue (found : Int) (expected : String)
  | invalidLength (length : Nat) (expected : String)
  | noVariant (type : String)
  deriving DecidableEq

/-- Numbers in messages are positional from 0.00001 up to below 10^16, and `1e-6` or `1e+29`
beyond. -/
def messageStyle : Number.NumberStyle := ⟨-5, 15, false, true, 1, false⟩

/-- The wording of what was found. -/
def Found.message : Found → String
  | .null => "null"
  | .boolean b => "boolean `" ++ toString b ++ "`"
  | .integer n => "integer `" ++ Number.decimal n ++ "`"
  | .float x => "floating point `" ++ String.ofList (x.shortestText messageStyle) ++ "`"
  | .text s => "string " ++ Text.quoted s
  | .sequence => "sequence"
  | .map => "map"

/-- A name between grave accents. -/
def marked (name : String) : String :=
  "`" ++ name ++ "`"

/-- The wording of a choice of names. -/
def choice : List String → String
  | [a] => marked a
  | [a, b] => marked a ++ " or " ++ marked b
  | names => "one of " ++ String.intercalate ", " (names.map marked)

/-- The wording of a fault. -/
def Fault.message : Fault → String
  | .endInValue => "EOF while parsing a value"
  | .endInList => "EOF while parsing a list"
  | .endInObject => "EOF while parsing an object"
  | .endInText => "EOF while parsing a string"
  | .expectedValue => "expected value"
  | .expectedWord => "expected ident"
  | .expectedColon => "expected " ++ marked ":"
  | .expectedCommaOrBracket => "expected " ++ marked "," ++ " or " ++ marked "]"
  | .expectedCommaOrBrace => "expected " ++ marked "," ++ " or " ++ marked "\x7d"
  | .trailingComma => "trailing comma"
  | .trailingCharacters => "trailing characters"
  | .keyMustBeText => "key must be a string"
  | .invalidNumber => "invalid number"
  | .numberOutOfRange => "number out of range"
  | .invalidEscape => "invalid escape"
  | .loneSurrogate => "lone leading surrogate in hex escape"
  | .endOfHexEscape => "unexpected end of hex escape"
  | .controlCharacter => "control character (\\u0000-\\u001F) found while parsing a string"
  | .nestingLimit => "recursion limit exceeded"
  | .missingField name => "missing field " ++ marked name
  | .duplicateField name => "duplicate field " ++ marked name
  | .unknownVariant found known =>
    "unknown variant " ++ marked found ++ ", expected " ++ choice known
  | .invalidType found expected => "invalid type: " ++ found.message ++ ", expected " ++ expected
  | .invalidValue found expected =>
    "invalid value: integer " ++ marked (Number.decimal found) ++ ", expected " ++ expected
  | .invalidLength length expected =>
    "invalid length " ++ toString length ++ ", expected " ++ expected
  | .noVariant type => "data did not match any variant of untagged enum " ++ type

end Worklist.Json
