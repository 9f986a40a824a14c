/-!
# Tables of code points

A Unicode property is given by the closed ranges of its code points, in increasing order.
`CodePointTable.contains` looks a character up: it is there if some range covers its code point.
-/

namespace EditorBridge

/-- The code points of a property, as closed ranges. -/
abbrev CodePointTable := List (Nat × Nat)

namespace CodePointTable

/-- Whether one of the ranges covers the character. -/
def contains (table : CodePointTable) (c : Char) : Bool :=
  table.any fun range => range.1 ≤ c.toNat && c.toNat ≤ range.2

end CodePointTable

end EditorBridge
