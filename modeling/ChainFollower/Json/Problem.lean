import ChainFollower.Json.Number
import ChainFollower.Text.Quoted

/-!
What can be wrong with a JSON text, or with a value in the place where it stands.
-/

namespace ChainFollower.Json

inductive Found where
  | null
  | boolean (b : Bool)
  | integer (n : Int)
  | float (x : Float)
  | string (s : String)
  | sequence
  | map

namespace Found

def describe : Found → String
  | null => "null"
  | boolean b => if b then "boolean `true`" else "boolean `false`"
  | integer n => s!"integer `{n}`"
  | float x => "floating point `" ++ Number.floatText x ++ "`"
  | string s => "string " ++ Text.quote s
  | sequence => "sequence"
  | map => "map"

end Found

def Number.found : Number → Found
  | .natural n => .integer n
  | .negative n => .integer n
  | .float x => .float x

inductive Problem where
  | endInValue
  | endInString
  | endInObject
  | endInList
  | expectedValue
  | expectedWord
  | expectedColon
  | expectedCommaOrBrace
  | expectedCommaOrBracket
  | keyNotString
  | trailingComma
  | trailingCharacters
  | invalidNumber
  | numberOutOfRange
  | invalidEscape
  | endOfEscape
  | loneSurrogate
  | controlCharacter
  | invalidType (found : Found) (expected : String)
  | invalidInteger (n : Int) (expected : String)
  | invalidLength (length : Nat) (expected : String)
  | missingField (name : String)
  | duplicateField (name : String)
  /-- A complaint of another reader, in its own words. -/
  | custom (text : String)

namespace Problem

def message : Problem → String
  | endInValue => "EOF while parsing a value"
  | endInString => "EOF while parsing a string"
  | endInObject => "EOF while parsing an object"
  | endInList => "EOF while parsing a list"
  | expectedValue => "expected value"
  | expectedWord => "expected ident"
  | expectedColon => "expected `:`"
  | expectedCommaOrBrace => "expected `,` or `\x7d`"
  | expectedCommaOrBracket => "expected `,` or `]`"
  | keyNotString => "key must be a string"
  | trailingComma => "trailing comma"
  | trailingCharacters => "trailing characters"
  | invalidNumber => "invalid number"
  | numberOutOfRange => "number out of range"
  | invalidEscape => "invalid escape"
  | endOfEscape => "unexpected end of hex escape"
  | loneSurrogate => "lone leading surrogate in hex escape"
  | controlCharacter => "control character (\\u0000-\\u001F) found while parsing a string"
  | invalidType found expected => "invalid type: " ++ found.describe ++ ", expected " ++ expected
  | invalidInteger n expected => s!"invalid value: integer `{n}`, expected " ++ expected
  | invalidLength length expected => s!"invalid length {length}, expected " ++ expected
  | missingField name => "missing field `" ++ name ++ "`"
  | duplicateField name => "duplicate field `" ++ name ++ "`"
  | custom text => text

end Problem

end ChainFollower.Json
