import EditorBridge.Json.Printer
import EditorBridge.Text.Quoted

/-!
# JSON values as log records show them

A record names the kind of each value beside it: `String("A:0")`, `Number(3)`,
`Object {"a": Null}`, `Array [Bool(true)]`.
-/

namespace EditorBridge.Json

/-- Items with a comma and a blank between them. -/
def commaSeparated : List String → String
  | [] => ""
  | [x] => x
  | x :: y :: rest => x ++ ", " ++ commaSeparated (y :: rest)

mutual

/-- The value with the kind of each part. -/
def inspect : Json → String
  | .null => "Null"
  | .bool true => "Bool(true)"
  | .bool false => "Bool(false)"
  | .int i => "Number(" ++ String.ofList (intChars i) ++ ")"
  | .float x => "Number(" ++ String.ofList x.text ++ ")"
  | .str s => "String(" ++ Text.quoted s ++ ")"
  | .arr items => "Array [" ++ commaSeparated (inspectItems items) ++ "]"
  | .obj members => "Object " ++ "\x7b" ++ commaSeparated (inspectMembers members) ++ "\x7d"

/-- Each item as `inspect` shows it. -/
def inspectItems : List Json → List String
  | [] => []
  | x :: xs => inspect x :: inspectItems xs

/-- Each member as its quoted key and its value. -/
def inspectMembers : List (String × Json) → List String
  | [] => []
  | (k, v) :: ms => (Text.quoted k ++ ": " ++ inspect v) :: inspectMembers ms

end

/-- The members of an object, in braces. -/
def inspectMap (members : List (String × Json)) : String :=
  "\x7b" ++ commaSeparated (inspectMembers members) ++ "\x7d"

/-- A value that may be absent, absence being `null`. -/
def inspectOptional : Json → String
  | .null => "None"
  | value => "Some(" ++ inspect value ++ ")"

end EditorBridge.Json
