/-!
# Faults in JSON text

A fault is a cause and a place in the text.  While a text is read, the place is held as the
unread rest of it and a number of bytes into that rest (`Fault`); `locate` turns it into a line,
counted from 1, and the bytes of that line up to the place.
-/

namespace EditorBridge.Json

/-- What is wrong with a JSON text. -/
inductive SyntaxCause where
  | eofInList
  | eofInObject
  | eofInString
  | eofInValue
  | expectedColon
  | expectedListCommaOrEnd
  | expectedObjectCommaOrEnd
  | expectedIdent
  | expectedValue
  | invalidEscape
  | invalidNumber
  | numberOutOfRange
  | controlCharacter
  | keyMustBeString
  | loneSurrogate
  | unexpectedEndOfHex
  | trailingComma
  | trailingCharacters
  | recursionLimit
deriving DecidableEq, Repr

/-- The words for a cause. -/
def SyntaxCause.message : SyntaxCause → String
  | .eofInList => "EOF while parsing a list"
  | .eofInObject => "EOF while parsing an object"
  | .eofInString => "EOF while parsing a string"
  | .eofInValue => "EOF while parsing a value"
  | .expectedColon => "expected `:`"
  | .expectedListCommaOrEnd => "expected `,` or `]`"
  | .expectedObjectCommaOrEnd => "expected `,` or `\x7d`"
  | .expectedIdent => "expected ident"
  | .expectedValue => "expected value"
  | .invalidEscape => "invalid escape"
  | .invalidNumber => "invalid number"
  | .numberOutOfRange => "number out of range"
  | .controlCharacter =>
    "control character (\\u0000-\\u001F) found while parsing a string"
  | .keyMustBeString => "key must be a string"
  | .loneSurrogate => "lone leading surrogate in hex escape"
  | .unexpectedEndOfHex => "unexpected end of hex escape"
  | .trailingComma => "trailing comma"
  | .trailingCharacters => "trailing characters"
  | .recursionLimit => "recursion limit exceeded"

/-- A fault met while reading: the place is `extra` bytes into the unread text `rest`, or its end
if the text ends before that. -/
structure Fault where
  cause : SyntaxCause
  rest : List Char
  extra : Nat
deriving DecidableEq, Repr

/-- A fault at the start of the unread text. -/
def Fault.here (cause : SyntaxCause) (rest : List Char) : Fault :=
  ⟨cause, rest, 0⟩

/-- A fault that counts the next byte of the unread text. -/
def Fault.atNext (cause : SyntaxCause) (rest : List Char) : Fault :=
  ⟨cause, rest, 1⟩

/-- The number of bytes of a text in UTF-8. -/
def byteCount (s : List Char) : Nat :=
  s.foldr (fun c n => c.utf8Size + n) 0

/-- The line and the byte of the line that lie `offset` bytes into a text, from the given line and
byte on. -/
def locate (line column : Nat) : Nat → List Char → Nat × Nat
  | _, [] => (line, column)
  | offset, c :: rest =>
    if offset < c.utf8Size then (line, column + offset)
    else if c = '\n' then locate (line + 1) 0 (offset - 1) rest
    else locate line (column + c.utf8Size) (offset - c.utf8Size) rest

/-- A fault of a whole text. -/
structure SyntaxError where
  cause : SyntaxCause
  line : Nat
  column : Nat
deriving DecidableEq, Repr

/-- The fault with its place in the text it was met in. -/
def Fault.inText (fault : Fault) (text : List Char) : SyntaxError :=
  let (line, column) := locate 1 0 (byteCount text - byteCount fault.rest + fault.extra) text
  ⟨fault.cause, line, column⟩

/-- The words for a fault and its place. -/
def SyntaxError.message (e : SyntaxError) : String :=
  e.cause.message ++ " at line " ++ toString e.line ++ " column " ++ toString e.column

end EditorBridge.Json
