/-!
# Occurrences of one text in another

`occursIn_iff`: the test finds exactly the texts that are a contiguous part of the other.
-/

namespace EditorBridge.Text

/-- Whether a text is a contiguous part of another. -/
def occursIn (part : List Char) : List Char → Bool
  | [] => part.isEmpty
  | c :: rest => part.isPrefixOf (c :: rest) || occursIn part rest

/-- The test finds exactly the contiguous parts. -/
theorem occursIn_iff (part s : List Char) : occursIn part s = true ↔ part <:+: s := by
  induction s with
  | nil => simp [occursIn]
  | cons c rest ih => simp [occursIn, ih, List.infix_cons_iff]

end EditorBridge.Text
