import EditorBridge.Text.CodePointTable

/-!
# White space

The characters with Unicode property `White_Space`, and trimming by them.
-/

namespace EditorBridge.Text

/-- The code points of white space. -/
def blankTable : CodePointTable := [
    (0x9, 0xd), (0x20, 0x20), (0x85, 0x85), (0xa0, 0xa0), (0x1680, 0x1680), (0x2000, 0x200a),
    (0x2028, 0x2029), (0x202f, 0x202f), (0x205f, 0x205f), (0x3000, 0x3000)
]

/-- Whether a character is white space. -/
def isBlank (c : Char) : Bool :=
  blankTable.contains c

/-- The text without the white space at both its ends. -/
def trimBlank (s : List Char) : List Char :=
  ((s.dropWhile isBlank).reverse.dropWhile isBlank).reverse

end EditorBridge.Text
