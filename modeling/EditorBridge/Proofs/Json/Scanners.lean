import Mathlib.Tactic.SplitIfs
import EditorBridge.Json.Printer
import EditorBridge.Json.Reader.StringBody

/-!
# Strings and numerals in front of a rest

The reader takes a string or a numeral off the front of a text and leaves the rest.  For a
printed string this gives the string back, whatever its characters are and whatever follows
(`readStringBody_escaped`).  A numeral has no end mark of its own, so what follows it must not go
on with it (`NumeralEnds`); then the rest changes nothing in what is read (`LeavesTail`, and
`readUnsigned_append` for whole numerals).

An integer that fits 64 bits is read back from its digits (`readUnsigned_toDigits`).
-/

namespace EditorBridge.Json

/-! ### Strings -/

theorem hexValue?_hexDigit : ∀ n < 16, hexValue? (hexDigit n) = some n := by
  decide

/-- The four digits of a control character's escape give the character. -/
theorem readUnicodeEscape_control {c : Char} (hc : c.toNat < 0x20) (s : List Char) :
    readUnicodeEscape
      ('0' :: '0' :: hexDigit (c.toNat / 16) :: hexDigit (c.toNat % 16) :: s) = .ok (c, s) := by
  have hhigh : hexValue? (hexDigit (c.toNat / 16)) = some (c.toNat / 16) :=
    hexValue?_hexDigit _ (by omega)
  have hlow : hexValue? (hexDigit (c.toNat % 16)) = some (c.toNat % 16) :=
    hexValue?_hexDigit _ (by omega)
  have hzero : hexValue? '0' = some 0 := by decide
  have hvalue : hexNumber? '0' '0' (hexDigit (c.toNat / 16)) (hexDigit (c.toNat % 16))
      = some c.toNat := by
    simp only [hexNumber?, hzero, hhigh, hlow, bind, Option.bind, pure]
    congr 1
    omega
  have htrailing : isTrailingSurrogate c.toNat = false := by
    simp only [isTrailingSurrogate, Bool.and_eq_false_iff, decide_eq_false_iff_not]
    omega
  have hleading : isLeadingSurrogate c.toNat = false := by
    simp only [isLeadingSurrogate, Bool.and_eq_false_iff, decide_eq_false_iff_not]
    omega
  simp only [readUnicodeEscape, readHex, hvalue, htrailing, hleading, Bool.false_eq_true,
    ite_false, Char.ofNat_toNat]

theorem readStringBody_escape {c : Char} {s rest : List Char} (done : List Char)
    (h : readEscape s = .ok (c, rest)) :
    readStringBody done ('\\' :: s) = readStringBody (c :: done) rest := by
  rw [readStringBody, if_neg (by decide), if_pos rfl]
  split
  · next escaped rest' hescape =>
    cases h.symm.trans hescape
    rfl
  · next fault hescape => cases h.symm.trans hescape

/-- A character of a printed string is read as itself. -/
theorem readStringBody_escapedChar (c : Char) (done s : List Char) :
    readStringBody done (escapedChar c ++ s) = readStringBody (c :: done) s := by
  unfold escapedChar
  split_ifs with hquote hslash hb hf hn hr ht hcontrol
  -- The escapes with a letter of their own.
  iterate 7 exact readStringBody_escape done (by subst c; rfl)
  · refine readStringBody_escape done ?_
    simp [readEscape, readUnicodeEscape_control hcontrol]
  · rw [List.singleton_append, readStringBody, if_neg hquote, if_neg hslash,
      if_neg hcontrol]

/-- **A printed string is read back**, whatever follows its closing quote. -/
theorem readStringBody_escaped (cs done rest : List Char) :
    readStringBody done (cs.flatMap escapedChar ++ '\"' :: rest)
      = .ok (String.ofList (done.reverse ++ cs), rest) := by
  induction cs generalizing done with
  | nil => simp [readStringBody]
  | cons c cs ih =>
    rw [List.flatMap_cons, List.append_assoc, readStringBody_escapedChar, ih]
    simp

/-! ### Numerals -/

/-- What follows does not go on with a numeral. -/
def NumeralEnds (tail : List Char) : Prop :=
  ∀ c ∈ tail.head?, c.isDigit = false ∧ c ≠ '.' ∧ c ≠ 'e' ∧ c ≠ 'E'

/-- What is read is the same with `tail` behind it, and `tail` is left. -/
def LeavesTail (scan : List Char → Reading Json) (tail : List Char) : Prop :=
  ∀ ⦃s j rest⦄, scan s = .ok (j, rest) → scan (s ++ tail) = .ok (j, rest ++ tail)

section Tail

variable {tail : List Char}

theorem NumeralEnds.of_cons {c : Char} (h : NumeralEnds (c :: tail)) : c.isDigit = false :=
  (h c rfl).1

theorem gatherDigits_append (h : NumeralEnds tail) (limit : Nat) :
    ∀ (m count : Nat) (s : List Char),
      gatherDigits limit m count (s ++ tail)
        = ((gatherDigits limit m count s).1, (gatherDigits limit m count s).2.1,
            (gatherDigits limit m count s).2.2 ++ tail)
  | m, count, [] => by
    cases tail with
    | nil => simp [gatherDigits]
    | cons c tail => simp [gatherDigits, h.of_cons]
  | m, count, c :: s => by
    rw [List.cons_append, gatherDigits, gatherDigits]
    split
    · exact gatherDigits_append h limit _ _ s
    · rfl

theorem dropWhile_isDigit_append (h : NumeralEnds tail) :
    ∀ s : List Char, (s ++ tail).dropWhile Char.isDigit = s.dropWhile Char.isDigit ++ tail
  | [] => by
    cases tail with
    | nil => rfl
    | cons c tail => simp [h.of_cons]
  | c :: s => by
    rw [List.cons_append, List.dropWhile_cons, List.dropWhile_cons]
    split
    · exact dropWhile_isDigit_append h s
    · rfl

theorem takeWhile_isDigit_append (h : NumeralEnds tail) :
    ∀ s : List Char, (s ++ tail).takeWhile Char.isDigit = s.takeWhile Char.isDigit
  | [] => by
    cases tail with
    | nil => rfl
    | cons c tail => simp [h.of_cons]
  | c :: s => by
    rw [List.cons_append, List.takeWhile_cons, List.takeWhile_cons, takeWhile_isDigit_append h s]

theorem doubleOf_append (tail : List Char) (negative : Bool) (m : Nat) (e : Int) :
    LeavesTail (doubleOf negative m e) tail := by
  intro s j rest h
  unfold doubleOf at h ⊢
  split at h <;> simp_all

theorem integerOf_append (tail : List Char) (negative : Bool) (m : Nat) :
    LeavesTail (integerOf negative m) tail := by
  intro s j rest h
  unfold integerOf at h ⊢
  split_ifs at h ⊢ with hsign hrange
  · simp_all
  · simp_all
  · exact doubleOf_append _ _ _ _ h

theorem readExponentSign_append {c : Char} (s : List Char) :
    readExponentSign (c :: s ++ tail)
      = ((readExponentSign (c :: s)).1, (readExponentSign (c :: s)).2 ++ tail) := by
  by_cases hplus : c = '+'
  · subst hplus
    rfl
  · by_cases hminus : c = '-'
    · subst hminus
      rfl
    · simp [readExponentSign, hplus, hminus]

theorem readExponent_append (h : NumeralEnds tail) (negative : Bool) (m : Nat) (e : Int) :
    LeavesTail (readExponent negative m e) tail := by
  intro s j rest hs
  cases s with
  | nil => simp [readExponent, readExponentSign] at hs
  | cons c s =>
    unfold readExponent at hs ⊢
    rw [readExponentSign_append]
    simp only at hs ⊢
    cases hsign : (readExponentSign (c :: s)).2 with
    | nil => simp [hsign] at hs
    | cons d t =>
      by_cases hdigit : d.isDigit = true
      · simp only [hsign, List.cons_append, gatherDigits_append h, hdigit, ite_true] at hs ⊢
        cases hgathered : (gatherDigits exponentLimit (digitValue d) 1 t).2.2 with
        | nil =>
          -- The digits of the exponent end the text, and `tail` does not go on with them.
          simp only [hgathered, List.nil_append] at hs ⊢
          have hleft := doubleOf_append tail _ _ _ hs
          cases tail with
          | nil => exact hleft
          | cons c' tail => simpa [h.of_cons] using hleft
        | cons d' more =>
          simp only [hgathered, List.cons_append] at hs ⊢
          by_cases hmore : d'.isDigit = true
          · rw [if_pos hmore] at hs ⊢
            split_ifs at hs ⊢
            simp only [Except.ok.injEq, Prod.mk.injEq] at hs
            obtain ⟨rfl, rfl⟩ := hs
            rw [dropWhile_isDigit_append h]
          · rw [if_neg hmore] at hs ⊢
            exact doubleOf_append _ _ _ _ hs
      · simp [hsign, hdigit] at hs

theorem readAfterDigits_of_ne {c : Char} (hlower : c ≠ 'e') (hupper : c ≠ 'E') (negative : Bool)
    (m : Nat) (e : Int) (s : List Char) :
    readAfterDigits negative m e (c :: s) = doubleOf negative m e (c :: s) := by
  unfold readAfterDigits
  split <;> simp_all

theorem readAfterDigits_append (h : NumeralEnds tail) (negative : Bool) (m : Nat) (e : Int) :
    LeavesTail (readAfterDigits negative m e) tail := by
  intro s j rest hs
  cases s with
  | nil =>
    have hleft := doubleOf_append tail negative m e hs
    cases tail with
    | nil => exact hleft
    | cons c tail =>
      obtain ⟨-, -, hlower, hupper⟩ := h c rfl
      exact (readAfterDigits_of_ne hlower hupper _ _ _ _).trans hleft
  | cons c s =>
    by_cases hlower : c = 'e'
    · subst hlower
      exact readExponent_append h _ _ _ hs
    by_cases hupper : c = 'E'
    · subst hupper
      exact readExponent_append h _ _ _ hs
    · rw [readAfterDigits_of_ne hlower hupper] at hs
      exact (readAfterDigits_of_ne hlower hupper _ _ _ _).trans (doubleOf_append _ _ _ _ hs)

theorem readFraction_append (h : NumeralEnds tail) (negative : Bool) (m : Nat) (e : Int) :
    LeavesTail (readFraction negative m e) tail := by
  intro s j rest hs
  unfold readFraction at hs ⊢
  simp only [gatherDigits_append h] at hs ⊢
  cases hgathered : (gatherDigits significandLimit m 0 s).2.2 with
  | nil =>
    simp only [hgathered] at hs
    by_cases hcount : (gatherDigits significandLimit m 0 s).2.1 = 0
    · simp [hcount] at hs
    · rw [if_neg hcount] at hs
      have hleft := doubleOf_append tail _ _ _ hs
      cases tail with
      | nil => simpa [hcount] using hleft
      | cons c tail =>
        simp only [List.nil_append, h.of_cons, Bool.false_eq_true, if_false, if_neg hcount]
        obtain ⟨-, -, hlower, hupper⟩ := h c rfl
        exact (readAfterDigits_of_ne hlower hupper _ _ _ _).trans hleft
  | cons c t =>
    simp only [hgathered, List.cons_append] at hs ⊢
    split_ifs at hs ⊢ with hdigit hcount
    · rw [← List.cons_append, dropWhile_isDigit_append h]
      exact readAfterDigits_append h _ _ _ hs
    · exact readAfterDigits_append h _ _ _ hs

theorem readAfterWhole_of_ne {c : Char} (hpoint : c ≠ '.') (hlower : c ≠ 'e') (hupper : c ≠ 'E')
    (negative : Bool) (m : Nat) (s : List Char) :
    readAfterWhole negative m (c :: s) = integerOf negative m (c :: s) := by
  unfold readAfterWhole
  split <;> simp_all

theorem readAfterWhole_of_ends (h : NumeralEnds tail) (negative : Bool) (m : Nat) :
    readAfterWhole negative m tail = integerOf negative m tail := by
  cases tail with
  | nil => rfl
  | cons c tail =>
    obtain ⟨-, hpoint, hlower, hupper⟩ := h c rfl
    exact readAfterWhole_of_ne hpoint hlower hupper _ _ _

theorem readAfterWhole_append (h : NumeralEnds tail) (negative : Bool) (m : Nat) :
    LeavesTail (readAfterWhole negative m) tail := by
  intro s j rest hs
  cases s with
  | nil => exact (readAfterWhole_of_ends h _ _).trans (integerOf_append tail _ _ hs)
  | cons c s =>
    by_cases hpoint : c = '.'
    · subst hpoint
      exact readFraction_append h _ _ _ hs
    by_cases hlower : c = 'e'
    · subst hlower
      exact readExponent_append h _ _ _ hs
    by_cases hupper : c = 'E'
    · subst hupper
      exact readExponent_append h _ _ _ hs
    · rw [readAfterWhole_of_ne hpoint hlower hupper] at hs
      exact (readAfterWhole_of_ne hpoint hlower hupper _ _ _).trans (integerOf_append _ _ _ hs)

theorem readLong_append (h : NumeralEnds tail) (negative : Bool) (m : Nat) :
    LeavesTail (readLong negative m) tail := by
  intro s j rest hs
  unfold readLong at hs ⊢
  simp only [dropWhile_isDigit_append h, takeWhile_isDigit_append h] at hs ⊢
  cases hrest : s.dropWhile Char.isDigit with
  | nil =>
    simp only [hrest] at hs
    have hleft := readAfterDigits_append h _ _ _ hs
    split
    · next t heq => exact absurd rfl (h '.' (by simp_all)).2.1
    · exact hleft
  | cons c t =>
    simp only [hrest, List.cons_append] at hs ⊢
    by_cases hpoint : c = '.'
    · subst hpoint
      exact readFraction_append h _ _ _ hs
    · split at hs
      · next t' heq => exact absurd (List.cons.inj heq).1 hpoint
      · split
        · next t' heq => exact absurd (List.cons.inj heq).1 hpoint
        · exact readAfterDigits_append h _ _ _ hs

/-- **A numeral is read the same with anything behind it** that does not go on with it. -/
theorem readUnsigned_append (h : NumeralEnds tail) (negative : Bool) :
    LeavesTail (readUnsigned negative) tail := by
  intro s j rest hs
  cases s with
  | nil => simp [readUnsigned] at hs
  | cons c s =>
    unfold readUnsigned at hs ⊢
    simp only [List.cons_append, gatherDigits_append h] at hs ⊢
    split_ifs at hs ⊢ with hzero hdigit
    · cases s with
      | nil =>
        have hleft := readAfterWhole_append h _ _ hs
        cases tail with
        | nil => exact hleft
        | cons c' tail => simpa [h.of_cons] using hleft
      | cons d s =>
        simp only [List.cons_append] at hs ⊢
        split_ifs at hs ⊢
        exact readAfterWhole_append h _ _ hs
    · cases hgathered : (gatherDigits significandLimit (digitValue c) 1 s).2.2 with
      | nil =>
        simp only [hgathered] at hs
        have hleft := readAfterWhole_append h _ _ hs
        cases tail with
        | nil => exact hleft
        | cons c' tail => simpa [h.of_cons] using hleft
      | cons d t =>
        simp only [hgathered, List.cons_append] at hs ⊢
        split_ifs at hs ⊢
        · exact readLong_append h _ _ hs
        · exact readAfterWhole_append h _ _ hs

end Tail

/-! ### Integers -/

theorem le_ofDigitChars (digits : List Char) (m : Nat) : m ≤ Nat.ofDigitChars 10 digits m := by
  rw [Nat.ofDigitChars_eq_ofDigitChars_zero]
  exact Nat.le_add_right_of_le (Nat.le_mul_of_pos_left m (Nat.pow_pos (by decide)))

/-- Digits are gathered as far as the number they write stays below the limit. -/
theorem gatherDigits_digits (limit : Nat) :
    ∀ {digits : List Char} (m count : Nat), (∀ c ∈ digits, c.isDigit = true) →
      Nat.ofDigitChars 10 digits m < limit →
      gatherDigits limit m count digits
        = (Nat.ofDigitChars 10 digits m, count + digits.length, [])
  | [], m, count, _, _ => by simp [gatherDigits]
  | c :: digits, m, count, hdigits, hlimit => by
    obtain ⟨hc, hrest⟩ := List.forall_mem_cons.mp hdigits
    have hcomm : 10 * m + (c.toNat - '0'.toNat) = m * 10 + digitValue c := by
      rw [Nat.mul_comm, digitValue]
    rw [Nat.ofDigitChars_cons, hcomm] at hlimit ⊢
    have hbelow : m * 10 + digitValue c < limit :=
      Nat.lt_of_le_of_lt (le_ofDigitChars digits _) hlimit
    rw [gatherDigits, if_pos ⟨hc, hbelow⟩, gatherDigits_digits limit _ _ hrest hlimit, List.length_cons]
    congr 2
    omega

/-- The digits of a number other than zero do not start with a zero. -/
theorem head?_toDigits_ne_zero {n : Nat} (hn : 0 < n) :
    (Nat.toDigits 10 n).head? ≠ some '0' := by
  induction n using Nat.strongRecOn with
  | ind n ih =>
    rw [Nat.toDigits_eq_if (by decide)]
    split
    · simpa [Nat.digitChar_eq_zero] using Nat.pos_iff_ne_zero.mp hn
    · have hfirst := ih (n / 10) (by omega) (by omega)
      cases hd : Nat.toDigits 10 (n / 10) with
      | nil => exact absurd hd Nat.toDigits_ne_nil
      | cons c t => rwa [hd] at hfirst

/-- **An integer is read from its digits** if they fit the significand. -/
theorem readUnsigned_toDigits (negative : Bool) {n : Nat} (hn : n < significandLimit) :
    readUnsigned negative (Nat.toDigits 10 n) = integerOf negative n [] := by
  rcases Nat.eq_zero_or_pos n with rfl | hpos
  · rfl
  have hdigits : ∀ c ∈ Nat.toDigits 10 n, c.isDigit = true := fun c hc =>
    Nat.isDigit_of_mem_toDigits (by decide) (by decide) hc
  have hvalue : Nat.ofDigitChars 10 (Nat.toDigits 10 n) 0 = n := Nat.ofDigitChars_ten_toDigits
  have hhead := head?_toDigits_ne_zero hpos
  cases hd : Nat.toDigits 10 n with
  | nil => exact absurd hd Nat.toDigits_ne_nil
  | cons c t =>
    rw [hd] at hdigits hvalue hhead
    obtain ⟨hc, ht⟩ := List.forall_mem_cons.mp hdigits
    have hzero : c ≠ '0' := fun h => hhead (by rw [h]; rfl)
    have hrest : Nat.ofDigitChars 10 t (digitValue c) = n := by
      simpa [Nat.ofDigitChars_cons, digitValue] using hvalue
    have hgathered := gatherDigits_digits significandLimit (digitValue c) 1 ht
      (hrest ▸ hn)
    simp [readUnsigned, hzero, hc, hgathered, hrest, readAfterWhole]

end EditorBridge.Json
