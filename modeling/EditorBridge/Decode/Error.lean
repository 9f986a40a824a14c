import EditorBridge.Json.Printer
import EditorBridge.Text.Quoted
import EditorBridge.Uri

/-!
# Why a JSON value does not decode

`DecodeError` names the causes and `DecodeError.message` gives the words for them.  A message says
what was found (`Found`) and what was expected (`Expectation`), never where.
-/

namespace EditorBridge

/-- What a message says of the value that was found. -/
inductive Found where
  | null
  | boolean (b : Bool)
  | integer (i : Int)
  | double (x : Double)
  | text (s : String)
  | sequence
  | map
deriving DecidableEq, Repr

/-- What a message says of a value. -/
def Found.of : Json → Found
  | .null => .null
  | .bool b => .boolean b
  | .int i => .integer i
  | .float x => .double x
  | .str s => .text s
  | .arr _ => .sequence
  | .obj _ => .map

/-- The words for what was found. -/
def Found.describe : Found → String
  | .null => "null"
  | .boolean b => "boolean `" ++ (if b then "true" else "false") ++ "`"
  | .integer i => "integer `" ++ String.ofList (Json.intChars i) ++ "`"
  | .double x => "floating point `" ++ String.ofList x.text ++ "`"
  | .text s => "string " ++ Text.quoted s
  | .sequence => "sequence"
  | .map => "map"

/-- What was expected. -/
inductive Expectation where
  | string
  | boolean
  | sequence
  | map
  | u32
  | i32
  | unit
  | stringOrMap
  | mapWithOneKey
  | record (name : String)
  | recordOf (name : String) (size : Nat)
  | itemsInSequence (size : Nat)
  | fewerItems
deriving DecidableEq, Repr

/-- A number of things. -/
def countOf (n : Nat) (thing : String) : String :=
  toString n ++ " " ++ thing ++ (if n = 1 then "" else "s")

/-- The words for what was expected. -/
def Expectation.describe : Expectation → String
  | .string => "a string"
  | .boolean => "a boolean"
  | .sequence => "a sequence"
  | .map => "a map"
  | .u32 => "u32"
  | .i32 => "i32"
  | .unit => "unit"
  | .stringOrMap => "string or map"
  | .mapWithOneKey => "map with a single key"
  | .record name => "struct " ++ name
  | .recordOf name size => "struct " ++ name ++ " with " ++ countOf size "element"
  | .itemsInSequence size => countOf size "element" ++ " in sequence"
  | .fewerItems => "fewer elements in array"

/-- Why a value does not decode. -/
inductive DecodeError where
  | wrongType (found : Found) (expected : Expectation)
  | wrongValue (found : Found) (expected : Expectation)
  | wrongLength (length : Nat) (expected : Expectation)
  | missingField (name : String)
  | unknownVariant (name : String) (expected : List String)
  | noVariant (union : String)
  | notAUri (fault : UriFault)
deriving DecidableEq, Repr

/-- Names in backticks with a comma between them. -/
def backquotedList : List String → String
  | [] => ""
  | [name] => "`" ++ name ++ "`"
  | name :: names => "`" ++ name ++ "`, " ++ backquotedList names

/-- The words for the variants that would have done. -/
def expectedVariants : List String → String
  | [a, b] => "expected `" ++ a ++ "` or `" ++ b ++ "`"
  | [a] => "expected `" ++ a ++ "`"
  | names => "expected one of " ++ backquotedList names

/-- The words for a decoding error. -/
def DecodeError.message : DecodeError → String
  | .wrongType found expected =>
    "invalid type: " ++ found.describe ++ ", expected " ++ expected.describe
  | .wrongValue found expected =>
    "invalid value: " ++ found.describe ++ ", expected " ++ expected.describe
  | .wrongLength length expected =>
    "invalid length " ++ toString length ++ ", expected " ++ expected.describe
  | .missingField name => "missing field `" ++ name ++ "`"
  | .unknownVariant name expected =>
    "unknown variant `" ++ name ++ "`, " ++ expectedVariants expected
  | .noVariant union => "data did not match any variant of untagged enum " ++ union
  | .notAUri fault => fault.message

end EditorBridge
