import EditorBridge.Hover.Link

/-!
# Escaped text

A reader of markdown takes a backslash as the mark that the next character stands for itself
(`escapesNext`).  It reads a text up to the first end mark that is not escaped (`cutAt?`,
`firstUnescaped_of_cutAt?`) and drops the backslashes (`unescape`).

Text in which the end mark and the backslash are escaped is passed as a whole
(`cutAt?_escapeMarkdown`), and without its backslashes it is the text that was escaped
(`unescape_escapeMarkdown`).  From its end it is read by the other rule, that each special character
in it stands behind a backslash (`getLast?_of_escapeMarkdown_eq`).

Main statement: what a reader meets in escaped text and behind it
(`escapeMarkdown_reversible_and_delimited`).
-/

namespace EditorBridge

/-- The text up to the first `stop` that no backslash escapes, and the text behind it; none if there
is no such character. -/
def cutAt? (stop : Char) : List Char → Option (List Char × List Char)
  | [] => none
  | '\\' :: c :: rest => (cutAt? stop rest).map fun p => ('\\' :: c :: p.1, p.2)
  | c :: rest =>
    if c = stop then some ([], rest) else (cutAt? stop rest).map fun p => (c :: p.1, p.2)

/-- The text that escaped text stands for. -/
def unescape : List Char → List Char
  | [] => []
  | '\\' :: c :: rest => c :: unescape rest
  | c :: rest => c :: unescape rest

theorem cutAt?_cons {c : Char} (h : c ≠ '\\') (stop : Char) (rest : List Char) :
    cutAt? stop (c :: rest) =
      if c = stop then some ([], rest)
      else (cutAt? stop rest).map fun p => (c :: p.1, p.2) := by
  rw [cutAt?]
  exact fun _ _ hc => absurd hc h

/-- The text was cut at the mark. -/
theorem eq_of_cutAt? {stop : Char} {s cut rest : List Char} (h : cutAt? stop s = some (cut, rest)) :
    s = cut ++ stop :: rest := by
  fun_induction cutAt? stop s generalizing cut with
  | case1 => exact absurd h (by simp)
  | case2 c s ih =>
    obtain ⟨⟨cut', rest'⟩, hcut, heq⟩ := Option.map_eq_some_iff.mp h
    obtain ⟨rfl, rfl⟩ := Prod.mk.inj heq
    exact congrArg (fun tail => '\\' :: c :: tail) (ih hcut)
  | case3 s hescape =>
    obtain ⟨rfl, rfl⟩ := Prod.mk.inj (Option.some.inj h)
    rfl
  | case4 c s hescape hne ih =>
    obtain ⟨⟨cut', rest'⟩, hcut, heq⟩ := Option.map_eq_some_iff.mp h
    obtain ⟨rfl, rfl⟩ := Prod.mk.inj heq
    exact congrArg (c :: ·) (ih hcut)

theorem unescape_cons {c : Char} (h : c ≠ '\\') (rest : List Char) :
    unescape (c :: rest) = c :: unescape rest := by
  rw [unescape]
  exact fun _ _ hc => absurd hc h

/-! ### Unescaped characters -/

/-- Whether the character behind a text is escaped: a backslash escapes the character behind it,
unless it is escaped itself. -/
def escapesNext (s : List Char) : Bool :=
  s.foldl (fun escaped c => !escaped && c == '\\') false

/-- The first unescaped `c` of a text stands at the index `i`. -/
structure FirstUnescaped (c : Char) (s : List Char) (i : Nat) : Prop where
  getElem?_eq : s[i]? = some c
  unescaped : escapesNext (s.take i) = false
  escaped_before : ∀ j < i, s[j]? = some c → escapesNext (s.take j) = true

/-- An escape is over with the character that it escapes. -/
theorem escapesNext_escape (c : Char) (s : List Char) :
    escapesNext ('\\' :: c :: s) = escapesNext s :=
  rfl

theorem escapesNext_cons {c : Char} (h : c ≠ '\\') (s : List Char) :
    escapesNext (c :: s) = escapesNext s := by
  have hc : (c == '\\') = false := beq_false_of_ne h
  rw [escapesNext, List.foldl_cons, hc]
  rfl

/-- What escapes the next character is a backslash. -/
theorem getLast?_of_escapesNext {s : List Char} (h : escapesNext s = true) :
    s.getLast? = some '\\' := by
  rcases List.eq_nil_or_concat s with rfl | ⟨s, c, rfl⟩
  · cases h
  · rw [List.concat_eq_append, escapesNext, List.foldl_append, List.foldl_cons, List.foldl_nil,
      Bool.and_eq_true] at h
    rw [List.concat_eq_append, List.getLast?_concat, eq_of_beq h.2]

namespace FirstUnescaped

variable {stop : Char} {s : List Char} {i : Nat}

theorem escape (h : FirstUnescaped stop s i) (hne : stop ≠ '\\') (c : Char) :
    FirstUnescaped stop ('\\' :: c :: s) (i + 2) where
  getElem?_eq := h.getElem?_eq
  unescaped := h.unescaped
  escaped_before
    | 0, _, hget => absurd (Option.some.inj hget).symm hne
    | 1, _, _ => rfl
    | j + 2, hj, hget => h.escaped_before j (Nat.lt_of_add_lt_add_right hj) hget

theorem cons (h : FirstUnescaped stop s i) {c : Char} (hslash : c ≠ '\\') (hstop : c ≠ stop) :
    FirstUnescaped stop (c :: s) (i + 1) where
  getElem?_eq := h.getElem?_eq
  unescaped := by
    rw [List.take_succ_cons, escapesNext_cons hslash, h.unescaped]
  escaped_before
    | 0, _, hget => absurd (Option.some.inj hget) hstop
    | j + 1, hj, hget => by
      rw [List.take_succ_cons, escapesNext_cons hslash]
      exact h.escaped_before j (Nat.lt_of_add_lt_add_right hj) hget

end FirstUnescaped

/-- A text is cut at the first mark that is not escaped. -/
theorem firstUnescaped_of_cutAt? {stop : Char} (hne : stop ≠ '\\') {s cut rest : List Char}
    (h : cutAt? stop s = some (cut, rest)) : FirstUnescaped stop s cut.length := by
  fun_induction cutAt? stop s generalizing cut with
  | case1 => exact absurd h (by simp)
  | case2 c s ih =>
    obtain ⟨⟨cut', rest'⟩, hcut, heq⟩ := Option.map_eq_some_iff.mp h
    obtain ⟨rfl, rfl⟩ := Prod.mk.inj heq
    exact (ih hcut).escape hne c
  | case3 s hescape =>
    obtain ⟨rfl, rfl⟩ := Prod.mk.inj (Option.some.inj h)
    exact ⟨rfl, rfl, fun j hj => absurd hj (Nat.not_lt_zero j)⟩
  | case4 c s hescape hstop ih =>
    obtain ⟨⟨cut', rest'⟩, hcut, heq⟩ := Option.map_eq_some_iff.mp h
    obtain ⟨rfl, rfl⟩ := Prod.mk.inj heq
    -- A backslash at the very end escapes nothing, but there no mark follows it either.
    have hslash : c ≠ '\\' := by
      rintro rfl
      cases s with
      | nil => cases hcut
      | cons d s => exact hescape d s rfl rfl
    exact (ih hcut).cons hslash hstop

/-! ### Escaped text -/

section

variable {special : List Char}

/-- A special character is escaped, -/
theorem escapeMarkdown_cons_of_mem {c : Char} (h : c ∈ special) (s : List Char) :
    escapeMarkdown special (c :: s) = '\\' :: c :: escapeMarkdown special s := by
  rw [escapeMarkdown, List.flatMap_cons, if_pos (List.contains_iff_mem.mpr h)]
  rfl

/-- and every other character stands for itself. -/
theorem escapeMarkdown_cons_of_notMem {c : Char} (h : c ∉ special) (s : List Char) :
    escapeMarkdown special (c :: s) = c :: escapeMarkdown special s := by
  rw [escapeMarkdown, List.flatMap_cons, if_neg (fun hc => h (List.contains_iff_mem.mp hc))]
  rfl

/-- **Escaped text is read back.** -/
theorem unescape_escapeMarkdown (hslash : '\\' ∈ special) (s : List Char) :
    unescape (escapeMarkdown special s) = s := by
  induction s with
  | nil => rfl
  | cons c s ih =>
    by_cases hc : c ∈ special
    · rw [escapeMarkdown_cons_of_mem hc, unescape, ih]
    · have hne : c ≠ '\\' := (ne_of_mem_of_not_mem hslash hc).symm
      rw [escapeMarkdown_cons_of_notMem hc, unescape_cons hne, ih]

theorem escapeMarkdown_inj (hslash : '\\' ∈ special) {s t : List Char}
    (h : escapeMarkdown special s = escapeMarkdown special t) : s = t := by
  have hunescape := congrArg unescape h
  rwa [unescape_escapeMarkdown hslash, unescape_escapeMarkdown hslash] at hunescape

/-- No special character ends the reading within escaped text, and the escaped text does not end in
the middle of an escape. -/
theorem cutAt?_escapeMarkdown_append (hslash : '\\' ∈ special) {stop : Char}
    (hstop : stop ∈ special) (s rest : List Char) :
    cutAt? stop (escapeMarkdown special s ++ rest) =
      (cutAt? stop rest).map fun p => (escapeMarkdown special s ++ p.1, p.2) := by
  induction s with
  | nil => exact Option.map_id'.symm
  | cons c s ih =>
    by_cases hc : c ∈ special
    · rw [escapeMarkdown_cons_of_mem hc, List.cons_append, List.cons_append, cutAt?, ih,
        Option.map_map]
      rfl
    · have hne : c ≠ '\\' := (ne_of_mem_of_not_mem hslash hc).symm
      have hgoes : c ≠ stop := (ne_of_mem_of_not_mem hstop hc).symm
      rw [escapeMarkdown_cons_of_notMem hc, List.cons_append, cutAt?_cons hne, if_neg hgoes, ih,
        Option.map_map]
      rfl

/-- **Escaped text ends where its end mark stands.** -/
theorem cutAt?_escapeMarkdown (hslash : '\\' ∈ special) {stop : Char} (hstop : stop ∈ special)
    (hne : stop ≠ '\\') (s rest : List Char) :
    cutAt? stop (escapeMarkdown special s ++ stop :: rest) =
      some (escapeMarkdown special s, rest) := by
  rw [cutAt?_escapeMarkdown_append hslash hstop, cutAt?_cons hne, if_pos rfl, Option.map_some,
    List.append_nil]

/-- Escaped text does not end in the middle of an escape. -/
theorem escapesNext_escapeMarkdown (hslash : '\\' ∈ special) (s : List Char) :
    escapesNext (escapeMarkdown special s) = false := by
  induction s with
  | nil => rfl
  | cons c s ih =>
    by_cases hc : c ∈ special
    · rw [escapeMarkdown_cons_of_mem hc, escapesNext_escape, ih]
    · have hne : c ≠ '\\' := (ne_of_mem_of_not_mem hslash hc).symm
      rw [escapeMarkdown_cons_of_notMem hc, escapesNext_cons hne, ih]

/-- A special character in escaped text is escaped, or it is the backslash that escapes one. -/
theorem escaped_or_escapes_of_mem (hslash : '\\' ∈ special) {c : Char} (hc : c ∈ special)
    {s before after : List Char} (h : escapeMarkdown special s = before ++ c :: after) :
    escapesNext before = true ∨ c = '\\' ∧ ∃ d rest, after = d :: rest ∧ d ∈ special := by
  induction s generalizing before with
  | nil => simp [escapeMarkdown] at h
  | cons d s ih =>
    by_cases hd : d ∈ special
    · rw [escapeMarkdown_cons_of_mem hd] at h
      match before with
      | [] =>
        obtain ⟨rfl, rfl⟩ := List.cons.inj h
        exact .inr ⟨rfl, d, _, rfl, hd⟩
      | [b] =>
        obtain ⟨rfl, -⟩ := List.cons.inj h
        exact .inl rfl
      | b :: b' :: before =>
        obtain ⟨rfl, htail⟩ := List.cons.inj h
        obtain ⟨rfl, hrest⟩ := List.cons.inj htail
        rw [escapesNext_escape]
        exact ih hrest
    · have hne : d ≠ '\\' := (ne_of_mem_of_not_mem hslash hd).symm
      rw [escapeMarkdown_cons_of_notMem hd] at h
      match before with
      | [] =>
        obtain ⟨rfl, -⟩ := List.cons.inj h
        exact absurd hc hd
      | b :: before =>
        obtain ⟨rfl, hrest⟩ := List.cons.inj h
        rw [escapesNext_cons hne]
        exact ih hrest

/-- In escaped text each special character stands behind a backslash. -/
theorem getLast?_of_escapeMarkdown_eq (hslash : '\\' ∈ special) {c : Char} (hc : c ∈ special)
    (hne : c ≠ '\\') {s before after : List Char}
    (h : escapeMarkdown special s = before ++ c :: after) : before.getLast? = some '\\' := by
  rcases escaped_or_escapes_of_mem hslash hc h with hescaped | ⟨hbackslash, -⟩
  · exact getLast?_of_escapesNext hescaped
  · exact absurd hbackslash hne

/-- **Escaping is reversible, and escaped text ends where its end mark stands.**  Without the
backslashes of the escapes it is the text that was escaped.  A reader meets no special character in
it but the backslashes that escape one, and is in no escape at its end.  So in front of a special
character that is no backslash, whatever follows, that character is the first of its kind that is
not escaped. -/
theorem escapeMarkdown_reversible_and_delimited (hslash : '\\' ∈ special) (s : List Char) :
    unescape (escapeMarkdown special s) = s ∧
    (∀ before c after, escapeMarkdown special s = before ++ c :: after → c ∈ special →
      escapesNext before = false → c = '\\' ∧ ∃ d rest, after = d :: rest ∧ d ∈ special) ∧
    escapesNext (escapeMarkdown special s) = false ∧
    ∀ stop ∈ special, stop ≠ '\\' → ∀ rest,
      FirstUnescaped stop (escapeMarkdown special s ++ stop :: rest)
        (escapeMarkdown special s).length := by
  refine ⟨unescape_escapeMarkdown hslash s, ?_, escapesNext_escapeMarkdown hslash s, ?_⟩
  · intro before c after h hc hfree
    rcases escaped_or_escapes_of_mem hslash hc h with hescaped | hescapes
    · rw [hfree] at hescaped
      cases hescaped
    · exact hescapes
  · intro stop hstop hne rest
    exact firstUnescaped_of_cutAt? hne (cutAt?_escapeMarkdown hslash hstop hne s rest)

theorem escapeMarkdown_reversible_and_delimited_sample :
    '\\' ∈ CommandLink.tooltipSpecials ∧
      unescape (escapeMarkdown CommandLink.tooltipSpecials "it's \\\\".toList) =
        "it's \\\\".toList ∧
      FirstUnescaped '\'' ("it\\'s \\\\\\\\".toList ++ '\'' :: ")'".toList) 10 := by
  have hslash : '\\' ∈ CommandLink.tooltipSpecials := by decide
  obtain ⟨hback, -, -, hends⟩ :=
    escapeMarkdown_reversible_and_delimited hslash "it's \\\\".toList
  exact ⟨hslash, hback, hends '\'' (by decide) (by decide) ")'".toList⟩

end

end EditorBridge
