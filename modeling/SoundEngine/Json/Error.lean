import SoundEngine.Binary.Rounding
import SoundEngine.Decimal.Layout
import SoundEngine.Text.Quoted

/-!
# Why a document is refused

A document is refused for the first thing that is wrong with it.  The causes fall into three
classes: the text is no document (`syntax`), the text ends too early (`eof`), or the text is a
document but not of the kind asked for (`data`).
-/

namespace SoundEngine.Json

/-! ## 1. What a value begins with -/

/-- A number as it is written: without point and exponent it is an integer. -/
inductive Number where
  | integer (value : Int)
  | real (value : Double)
deriving DecidableEq

/-- What is known of a value once its beginning is read: a scalar completely, of a list or an
object only that it is one. -/
inductive Head where
  | null
  | flag (value : Bool)
  | number (value : Number)
  | text (value : String)
  | list
  | object
deriving DecidableEq

/-- How a 64-bit number is written in a document and in messages about it. -/
def doubleLayout : Layout := ⟨-5, 15, true, .even⟩

/-- How a 32-bit number is written in a document. -/
def singleLayout : Layout := ⟨-6, 12, true, .even⟩

/-- A head in words, for messages. -/
def Head.describe : Head → String
  | .null => "null"
  | .flag b => "boolean `" ++ (if b then "true" else "false") ++ "`"
  | .number (.integer i) => "integer `" ++ toString i ++ "`"
  | .number (.real x) => "floating point `" ++ String.ofList (doubleLayout.number x) ++ "`"
  | .text s => "string " ++ quoted s
  | .list => "sequence"
  | .object => "map"

/-! ## 2. Causes -/

/-- The class of a cause. -/
inductive Category where
  | malformed
  | data
  | eof
deriving DecidableEq

/-- Why a document is refused. -/
inductive Error where
  | expectedValue
  | expectedIdentifier
  | keyNotText
  | expectedColon
  | expectedMemberEnd
  | expectedItemEnd
  | trailingComma
  | trailingCharacters
  | invalidNumber
  | numberOutOfRange
  | invalidEscape
  | loneSurrogate
  | missingSurrogate
  | controlCharacter
  | tooDeep
  | endInValue
  | endInObject
  | endInList
  | endInText
  | wrongType (found : Head) (expected : String)
  | wrongValue (found : Head) (expected : String)
  | wrongLength (found expected : Nat)
  | unknownVariant (found : String) (expected : List String)
  | missingField (name : String)
  | duplicateField (name : String)
deriving DecidableEq

namespace Error

/-- The kind of an error, by what is wrong with the document. -/
def category : Error → Category
  | .endInValue | .endInObject | .endInList | .endInText => .eof
  | .wrongType _ _ | .wrongValue _ _ | .wrongLength _ _ | .unknownVariant _ _
  | .missingField _ | .duplicateField _ => .data
  | _ => .malformed

/-- The names one may choose from: two are joined by "or", more are listed. -/
def choice (names : List String) : String :=
  let marked := names.map fun n => "`" ++ n ++ "`"
  match marked with
  | [] => "there are no variants"
  | [a] => "expected " ++ a
  | [a, b] => "expected " ++ a ++ " or " ++ b
  | _ => "expected one of " ++ ", ".intercalate marked

/-- A number of elements in words. -/
def elements (n : Nat) : String :=
  if n = 1 then "1 element in sequence" else toString n ++ " elements in sequence"

/-- What an error says. -/
def message : Error → String
  | .expectedValue => "expected value"
  | .expectedIdentifier => "expected ident"
  | .keyNotText => "key must be a string"
  | .expectedColon => "expected `:`"
  | .expectedMemberEnd => "expected `,` or `\x7d`"
  | .expectedItemEnd => "expected `,` or `]`"
  | .trailingComma => "trailing comma"
  | .trailingCharacters => "trailing characters"
  | .invalidNumber => "invalid number"
  | .numberOutOfRange => "number out of range"
  | .invalidEscape => "invalid escape"
  | .loneSurrogate => "lone leading surrogate in hex escape"
  | .missingSurrogate => "unexpected end of hex escape"
  | .controlCharacter => "control character (\\u0000-\\u001F) found while parsing a string"
  | .tooDeep => "recursion limit exceeded"
  | .endInValue => "EOF while parsing a value"
  | .endInObject => "EOF while parsing an object"
  | .endInList => "EOF while parsing a list"
  | .endInText => "EOF while parsing a string"
  | .wrongType found expected =>
    "invalid type: " ++ found.describe ++ ", expected " ++ expected
  | .wrongValue found expected =>
    "invalid value: " ++ found.describe ++ ", expected " ++ expected
  | .wrongLength found expected =>
    "invalid length " ++ toString found ++ ", expected " ++ elements expected
  | .unknownVariant found expected =>
    "unknown variant `" ++ found ++ "`, " ++ choice expected
  | .missingField name => "missing field `" ++ name ++ "`"
  | .duplicateField name => "duplicate field `" ++ name ++ "`"

end Error

end SoundEngine.Json
