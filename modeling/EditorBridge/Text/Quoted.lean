import EditorBridge.Text.Concealed

/-!
# Quoted text

A text is quoted for a log record or an error message: it stands between double quotes, the
quote and the backslash are escaped, NUL, tab, line feed and carriage return have escapes of two
characters, and every other character that does not show on its own is written as its code
point in hexadecimal, `\u{7f}`.
-/

namespace EditorBridge.Text

/-- The digits of a number in hexadecimal, lower case, without leading zeros. -/
def hexDigits (n : Nat) : List Char :=
  Nat.toDigits 16 n

/-- A code point in braces, as an escape of quoted text. -/
def codePointEscape (c : Char) : List Char :=
  ['\\', 'u', '\x7b'] ++ hexDigits c.toNat ++ ['\x7d']

/-- How one character is written inside quotes. -/
def quotedChar (c : Char) : List Char :=
  if c = '\x00' then ['\\', '0']
  else if c = '\t' then ['\\', 't']
  else if c = '\n' then ['\\', 'n']
  else if c = '\r' then ['\\', 'r']
  else if c = '\"' then ['\\', '\"']
  else if c = '\\' then ['\\', '\\']
  else if isConcealed c then codePointEscape c
  else [c]

/-- The text in double quotes, with its escapes. -/
def quoted (s : String) : String :=
  String.ofList (['\"'] ++ s.toList.flatMap quotedChar ++ ['\"'])

end EditorBridge.Text
