import StackSampler.Decimal.Shortest
import StackSampler.Text.Printable
import StackSampler.Time.Rfc3339

/-!
# Faults of JSON documents

A document is read from the left and the first fault ends the reading. A `TextFault` is one that no
JSON document may have; a `ValueFault` is a value that the reader has no use for.
-/

namespace StackSampler.Json

/-- Why a text is no JSON. -/
inductive TextFault where
  | endInList
  | endInObject
  | endInString
  | endInValue
  | expectedColon
  | expectedListSeparator
  | expectedObjectSeparator
  | expectedLiteral
  | expectedValue
  | invalidEscape
  | invalidNumber
  | numberOutOfRange
  | invalidCodePoint
  | controlCharacter
  | keyNotString
  | loneSurrogate
  | endOfHexEscape
  | trailingComma
  | trailingCharacters
  deriving DecidableEq, Repr

def TextFault.message : TextFault → String
  | .endInList => "EOF while parsing a list"
  | .endInObject => "EOF while parsing an object"
  | .endInString => "EOF while parsing a string"
  | .endInValue => "EOF while parsing a value"
  | .expectedColon => "expected `:`"
  | .expectedListSeparator => "expected `,` or `]`"
  | .expectedObjectSeparator => "expected `,` or `\x7d`"
  | .expectedLiteral => "expected ident"
  | .expectedValue => "expected value"
  | .invalidEscape => "invalid escape"
  | .invalidNumber => "invalid number"
  | .numberOutOfRange => "number out of range"
  | .invalidCodePoint => "invalid unicode code point"
  | .controlCharacter => "control character (\\u0000-\\u001F) found while parsing a string"
  | .keyNotString => "key must be a string"
  | .loneSurrogate => "lone leading surrogate in hex escape"
  | .endOfHexEscape => "unexpected end of hex escape"
  | .trailingComma => "trailing comma"
  | .trailingCharacters => "trailing characters"

/-- Floats in messages: by position from `1e-5` to `1e15`. -/
def floatStyle : Decimal.FloatStyle := ⟨-5, 15⟩

/-- What was found where something else was expected. -/
inductive Found where
  | null
  | bool (b : Bool)
  | integer (n : Int)
  | float (x : Float)
  | string (s : String)
  | list
  | object
  /-- A bare name where a name with a value was expected. -/
  | bareName
  deriving Repr

def Found.text : Found → String
  | .null => "null"
  | .bool b => "boolean `" ++ (if b then "true" else "false") ++ "`"
  | .integer n => "integer `" ++ String.ofList (if n < 0 then '-' :: Decimal.digits n.natAbs
      else Decimal.digits n.natAbs) ++ "`"
  | .float x => "floating point `" ++ floatStyle.text x ++ "`"
  | .string s => "string " ++ Text.quotedVisibly s
  | .list => "sequence"
  | .object => "map"
  | .bareName => "unit variant"

/-- Why a value is of no use. -/
inductive ValueFault where
  | wrongType (found : Found) (expected : String)
  | wrongInteger (n : Int) (expected : String)
  | wrongLength (length : Nat) (expected : String)
  | unknownName (name : String) (known : List String)
  | unknownField (name : String) (known : List String)
  | missingField (name : String)
  | duplicateField (name : String)
  | spanOverflow
  | time (cause : TimeError)
  deriving Repr

/-- Two names, quoted, as alternatives. -/
def alternatives (names : List String) : String :=
  " or ".intercalate (names.map fun n => "`" ++ n ++ "`")

def ValueFault.message : ValueFault → String
  | .wrongType found expected => "invalid type: " ++ found.text ++ ", expected " ++ expected
  | .wrongInteger n expected =>
    "invalid value: " ++ (Found.integer n).text ++ ", expected " ++ expected
  | .wrongLength length expected =>
    "invalid length " ++ Nat.repr length ++ ", expected " ++ expected
  | .unknownName name known => "unknown variant `" ++ name ++ "`, expected " ++ alternatives known
  | .unknownField name known => "unknown field `" ++ name ++ "`, expected " ++ alternatives known
  | .missingField name => "missing field `" ++ name ++ "`"
  | .duplicateField name => "duplicate field `" ++ name ++ "`"
  | .spanOverflow => "overflow deserializing Duration"
  | .time cause => cause.message

/-- The first fault of a document. -/
inductive Fault where
  | text (fault : TextFault)
  | value (fault : ValueFault)
  deriving Repr

def Fault.message : Fault → String
  | .text fault => fault.message
  | .value fault => fault.message

end StackSampler.Json
