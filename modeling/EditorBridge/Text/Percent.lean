/-!
# Percent encoding

A text is encoded for a URI: ASCII letters and digits and a few marks stand for themselves, and
every other character is written byte by byte in UTF-8, each as a percent sign and two
hexadecimal digits in upper case.
-/

namespace EditorBridge.Text

/-- The characters that stand for themselves in the argument of a command link. -/
def isPlainInArgument (c : Char) : Bool :=
  c.isAlphanum || ['-', '_', '.', '!', '~', '*'].contains c

/-- A hexadecimal digit in upper case. -/
def upperHexDigit (n : Nat) : Char :=
  (Nat.digitChar n).toUpper

/-- One byte as a percent sign and two hexadecimal digits. -/
def percentByte (b : UInt8) : List Char :=
  ['%', upperHexDigit (b.toNat / 16), upperHexDigit (b.toNat % 16)]

/-- The text with every character percent-encoded that does not stand for itself. -/
def percentEncode (plain : Char → Bool) (s : List Char) : List Char :=
  s.flatMap fun c => if plain c then [c] else (String.utf8EncodeChar c).flatMap percentByte

end EditorBridge.Text
