import GraphViewer.Json.Value
import GraphViewer.Text.Quoted
/-
What can be wrong with a JSON text: a flaw of its writing, or a value of the wrong kind for its place.
The wording of both is here and nowhere else.
-/

namespace GraphViewer.Json

/-- A flaw of the writing. -/
inductive Flaw where
  | cutValue
  | cutLiteral
  | cutNumber
  | cutArray
  | cutObject
  | cutString
  | noValue
  | misspelt
  | noColon
  | noArraySeparator
  | noObjectSeparator
  | danglingComma
  | noKey
  | badNumber
  | outOfRange
  | badEscape
  | brokenPair
  | lonePart
  | controlCharacter
  | tooDeep
  | trailing
  deriving DecidableEq, Repr

def Flaw.message : Flaw → String
  | .cutValue | .cutLiteral | .cutNumber => "EOF while parsing a value"
  | .cutArray => "EOF while parsing a list"
  | .cutObject => "EOF while parsing an object"
  | .cutString => "EOF while parsing a string"
  | .noValue => "expected value"
  | .misspelt => "expected ident"
  | .noColon => "expected `:`"
  | .noArraySeparator => "expected `,` or `]`"
  | .noObjectSeparator => "expected `,` or `\x7d`"
  | .danglingComma => "trailing comma"
  | .noKey => "key must be a string"
  | .badNumber => "invalid number"
  | .outOfRange => "number out of range"
  | .badEscape => "invalid escape"
  | .brokenPair => "unexpected end of hex escape"
  | .lonePart => "lone leading surrogate in hex escape"
  | .controlCharacter => "control character (\\u0000-\\u001F) found while parsing a string"
  | .tooDeep => "recursion limit exceeded"
  | .trailing => "trailing characters"

/-- What stands where something else was expected. -/
inductive Found where
  | null
  | bool (value : Bool)
  | number (value : Number)
  | string (value : String)
  | array
  | object
  deriving DecidableEq, Repr

def Found.text : Found → String
  | .null => "null"
  | .bool b => "boolean `" ++ toString b ++ "`"
  | .number (.integer i) => "integer `" ++ toString i ++ "`"
  | .number (.double x) => "floating point `" ++ (Number.double x).text ++ "`"
  | .string s => "string " ++ Text.quoted s
  | .array => "sequence"
  | .object => "map"

/-- What a place in a document holds. -/
inductive Expected where
  | string
  | bool
  | word
  | double
  | array
  | object
  | nothing
  | record (name : String)
  deriving DecidableEq, Repr

def Expected.text : Expected → String
  | .string => "a string"
  | .bool => "a boolean"
  | .word => "u32"
  | .double => "f64"
  | .array => "a sequence"
  | .object => "a map"
  | .nothing => "unit"
  | .record name => "struct " ++ name

/-- Why a document is not read. -/
inductive Fault where
  | flaw (cause : Flaw)
  | wrongKind (found : Found) (expected : Expected)
  | wrongRange (found : Int) (expected : Expected)
  | duplicate (field : String)
  | missing (field : String)
  | short (passed : Nat) (record : String) (size : Nat)
  | unknownChoice (found : String) (choices : List String)
  | notAnId (found : Value)
  deriving Repr

def Fault.message : Fault → String
  | .flaw f => f.message
  | .wrongKind found expected => "invalid type: " ++ found.text ++ ", expected " ++ expected.text
  | .wrongRange found expected =>
    "invalid value: integer `" ++ toString found ++ "`, expected " ++ expected.text
  | .duplicate field => "duplicate field `" ++ field ++ "`"
  | .missing field => "missing field `" ++ field ++ "`"
  | .short passed record size =>
    "invalid length " ++ toString passed ++ ", expected struct " ++ record ++ " with " ++ toString size ++
      (if size = 1 then " element" else " elements")
  | .unknownChoice found choices =>
    "unknown variant `" ++ found ++ "`, expected " ++
      " or ".intercalate (choices.map fun c => "`" ++ c ++ "`")
  | .notAnId found => "expected string or number id, got " ++ found.text

end GraphViewer.Json
