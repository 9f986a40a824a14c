import EditorBridge.Proofs.Json.RoundTrip
import Mathlib.Data.Set.Function

/-!
# The text of a value tells the value

Values with one text are one value, whatever they hold and in whatever order their members stand
(`eq_of_chars_eq`).  Of doubles this is assumed, for the set of those within the values: two of them
with one text are the same.  Of integers it is proved, and an integer is never written like a double
(`mark_mem_text`).

The texts may stand in front of other text (`eq_of_chars_append_eq`), so that the induction reaches
the items of arrays and the members of objects.  A numeral has no end mark, so there what follows
must not go on with it (`Stops`).
-/

namespace EditorBridge.Json

/-- A double is one of a set. -/
def DoubleIn (S : Set Double) : Json → Prop
  | .float x => x ∈ S
  | _ => True

/-! ### Numerals -/

/-- Whether a character can stand in a numeral that is printed. -/
def isNumeralChar (c : Char) : Bool :=
  c.isDigit || ['-', '+', '.', 'e'].contains c

/-- What follows does not go on with a numeral that is printed. -/
def Stops (tail : List Char) : Prop :=
  ∀ c ∈ tail.head?, isNumeralChar c = false

theorem takeWhile_isNumeralChar {n tail : List Char} (hn : ∀ c ∈ n, isNumeralChar c = true)
    (htail : Stops tail) : (n ++ tail).takeWhile isNumeralChar = n := by
  have hnone : tail.takeWhile isNumeralChar = [] := by
    cases tail with
    | nil => rfl
    | cons c tail =>
      have hc : isNumeralChar c = false := htail c rfl
      rw [List.takeWhile_cons, hc]
      rfl
  rw [List.takeWhile_append_of_pos hn, hnone, List.append_nil]

/-- A numeral ends where its characters end. -/
theorem eq_of_numeral_append_eq {m n s t : List Char} (hm : ∀ c ∈ m, isNumeralChar c = true)
    (hn : ∀ c ∈ n, isNumeralChar c = true) (hs : Stops s) (ht : Stops t)
    (h : m ++ s = n ++ t) : m = n ∧ s = t := by
  have heq : m = n := by
    have htake := congrArg (List.takeWhile isNumeralChar) h
    rwa [takeWhile_isNumeralChar hm hs, takeWhile_isNumeralChar hn ht] at htake
  subst heq
  exact ⟨rfl, List.append_cancel_left h⟩

theorem isDigit_of_mem_toDigits {n : Nat} {c : Char} (h : c ∈ Nat.toDigits 10 n) :
    c.isDigit = true :=
  Nat.isDigit_of_mem_toDigits (by decide) (by decide) h

theorem mem_intChars {i : Int} {c : Char} (h : c ∈ intChars i) : c = '-' ∨ c.isDigit = true := by
  unfold intChars at h
  split at h
  · rcases List.mem_cons.mp h with hsign | hdigit
    · exact .inl hsign
    · exact .inr (isDigit_of_mem_toDigits hdigit)
  · exact .inr (isDigit_of_mem_toDigits h)

theorem isNumeralChar_of_mem_intChars {i : Int} {c : Char} (h : c ∈ intChars i) :
    isNumeralChar c = true := by
  rcases mem_intChars h with rfl | hdigit
  · rfl
  · rw [isNumeralChar, hdigit]
    rfl

theorem toDigits_inj {m n : Nat} (h : Nat.toDigits 10 m = Nat.toDigits 10 n) : m = n := by
  have hvalue := congrArg (Nat.ofDigitChars 10 · 0) h
  simpa only [Nat.ofDigitChars_ten_toDigits] using hvalue

/-- No number's digits start with a sign. -/
theorem toDigits_ne_cons_minus (n : Nat) (s : List Char) : Nat.toDigits 10 n ≠ '-' :: s := by
  intro h
  have hminus : '-' ∈ Nat.toDigits 10 n := by simp [h]
  exact absurd (isDigit_of_mem_toDigits hminus) (by decide)

/-- Integers with one text are the same. -/
theorem intChars_inj {i k : Int} (h : intChars i = intChars k) : i = k := by
  unfold intChars at h
  split_ifs at h with hi hk hk
  · have habs := toDigits_inj (List.cons.inj h).2
    omega
  · exact absurd h.symm (toDigits_ne_cons_minus _ _)
  · exact absurd h (toDigits_ne_cons_minus _ _)
  · have habs := toDigits_inj h
    omega

section

variable {digits : List Char} {c : Char}

theorem mem_positional {point : Int} (h : c ∈ Double.positional digits point) :
    c ∈ digits ∨ c = '0' ∨ c = '.' := by
  unfold Double.positional at h
  split at h
  · simp only [List.mem_append, List.mem_cons, List.mem_replicate, List.not_mem_nil] at h
    tauto
  · have hfraction : c ∈ (if (digits.drop point.toNat).isEmpty then ['0']
        else digits.drop point.toNat) → c = '0' ∨ c ∈ digits := by
      intro hc
      split at hc
      · exact .inl (List.mem_singleton.mp hc)
      · exact .inr (List.mem_of_mem_drop hc)
    simp only [List.mem_append, List.mem_cons, List.mem_replicate, List.not_mem_nil] at h
    rcases h with ((hwhole | hzeros) | hpoint) | hrest
    · exact .inl (List.mem_of_mem_take hwhole)
    · exact .inr (.inl hzeros.2)
    · tauto
    · rcases hfraction hrest with hzero | hdigit
      · exact .inr (.inl hzero)
      · exact .inl hdigit

theorem mem_scientific {point : Int} (h : c ∈ Double.scientific digits point) :
    c ∈ digits ∨ c ∈ ['-', '+', '.', 'e'] ∨ c.isDigit = true := by
  have hfraction : c ∈ (if digits.length ≤ 1 then [] else '.' :: digits.drop 1) →
      c = '.' ∨ c ∈ digits := by
    intro hc
    split at hc
    · cases hc
    · rcases List.mem_cons.mp hc with hpoint | hdigit
      · exact .inl hpoint
      · exact .inr (List.mem_of_mem_drop hdigit)
  simp only [Double.scientific, List.mem_append] at h
  rcases h with ((hfirst | hrest) | hexponent) | hdigit
  · exact .inl (List.mem_of_mem_take hfirst)
  · rcases hfraction hrest with rfl | hdigit
    · exact .inr (.inl (by decide))
    · exact .inl hdigit
  · refine .inr (.inl ?_)
    split at hexponent <;> (simp only [List.mem_cons, List.not_mem_nil] at hexponent ⊢; tauto)
  · exact .inr (.inr (isDigit_of_mem_toDigits hdigit))

end

/-- The ways to write a double: zero, with a point, and with an exponent; each behind a sign. -/
theorem exists_text_eq (x : Double) :
    ∃ sign body, x.text = sign ++ body ∧ (∀ c ∈ sign, c = '-') ∧
      (body = ['0', '.', '0'] ∨
        (∃ n point, body = Double.positional (Nat.toDigits 10 n) point) ∨
        ∃ n point, body = Double.scientific (Nat.toDigits 10 n) point) := by
  have hsign : ∀ c ∈ (if x.negative then ['-'] else []), c = '-' := by
    intro c hc
    split at hc
    · exact List.mem_singleton.mp hc
    · cases hc
  unfold Double.text
  dsimp only
  generalize (if x.negative then ['-'] else []) = sign at hsign
  split
  · exact ⟨sign, _, rfl, hsign, .inl rfl⟩
  · split
    · exact ⟨sign, _, rfl, hsign, .inr (.inl ⟨_, _, rfl⟩)⟩
    · exact ⟨sign, _, rfl, hsign, .inr (.inr ⟨_, _, rfl⟩)⟩

theorem isNumeralChar_of_mem_text {x : Double} {c : Char} (h : c ∈ x.text) :
    isNumeralChar c = true := by
  have hdigit {d : Char} (hd : d.isDigit = true) : isNumeralChar d = true := by
    rw [isNumeralChar, hd]
    rfl
  obtain ⟨sign, body, htext, hsign, hbody⟩ := exists_text_eq x
  rw [htext] at h
  rcases List.mem_append.mp h with hc | hc
  · rw [hsign c hc]
    rfl
  rcases hbody with rfl | ⟨n, point, rfl⟩ | ⟨n, point, rfl⟩
  · simp only [List.mem_cons, List.not_mem_nil, or_false] at hc
    rcases hc with rfl | rfl | rfl <;> rfl
  · rcases mem_positional hc with hd | rfl | rfl
    · exact hdigit (isDigit_of_mem_toDigits hd)
    · rfl
    · rfl
  · rcases mem_scientific hc with hd | hmark | hd
    · exact hdigit (isDigit_of_mem_toDigits hd)
    · rw [isNumeralChar, List.contains_iff_mem.mpr hmark, Bool.or_true]
    · exact hdigit hd

/-- The text of a double has a point or an exponent. -/
theorem mark_mem_text (x : Double) : '.' ∈ x.text ∨ 'e' ∈ x.text := by
  obtain ⟨sign, body, htext, -, hbody⟩ := exists_text_eq x
  rw [htext]
  rcases hbody with rfl | ⟨n, point, rfl⟩ | ⟨n, point, rfl⟩
  · exact .inl (List.mem_append_right _ (by decide))
  · refine .inl (List.mem_append_right _ ?_)
    unfold Double.positional
    split <;> simp
  · exact .inr (List.mem_append_right _ (by simp [Double.scientific]))

/-- No integer is written like a double. -/
theorem intChars_ne_text (i : Int) (x : Double) : intChars i ≠ x.text := by
  intro h
  rcases mark_mem_text x with hmark | hmark
  · rw [← h] at hmark
    rcases mem_intChars hmark with hc | hc <;> exact absurd hc (by decide)
  · rw [← h] at hmark
    rcases mem_intChars hmark with hc | hc <;> exact absurd hc (by decide)

/-! ### Strings -/

/-- A string ends at its closing quote. -/
theorem eq_of_stringChars_append_eq {k l : String} {s t : List Char}
    (h : stringChars k ++ s = stringChars l ++ t) : k = l ∧ s = t := by
  simp only [stringChars, List.cons_append, List.append_assoc, List.cons.injEq, true_and] at h
  have hread := congrArg (readStringBody []) h
  rw [readStringBody_escaped, readStringBody_escaped] at hread
  simpa using hread

/-! ### First characters -/

/-- The first character of a text, with one for all numerals. -/
def opening? : List Char → Option Char
  | [] => none
  | c :: _ => if c = '-' ∨ c.isDigit = true then some '0' else some c

/-- What the text of a value of this kind starts with. -/
def opening : Json → Char
  | .null => 'n'
  | .bool b => if b then 't' else 'f'
  | .int _ | .float _ => '0'
  | .str _ => '\"'
  | .arr _ => '['
  | .obj _ => '\x7b'

theorem opening?_chars (j : Json) (s : List Char) : opening? (j.chars ++ s) = some j.opening := by
  have numeral {n : List Char} (h : ∃ c t, n = c :: t ∧ StartsNumeral c) :
      opening? (n ++ s) = some '0' := by
    obtain ⟨c, t, rfl, hc⟩ := h
    exact if_pos hc
  match j with
  | .null | .bool true | .bool false | .str _ | .arr [] | .arr (_ :: _) | .obj [] | .obj (_ :: _) =>
    rfl
  | .int i => exact numeral (exists_intChars i)
  | .float x => exact numeral (exists_text x)

/-- Texts that are the same start the same. -/
theorem opening_eq {j k : Json} {s t : List Char} (h : j.chars ++ s = k.chars ++ t) :
    j.opening = k.opening := by
  have hopening := congrArg opening? h
  rw [opening?_chars, opening?_chars] at hopening
  exact Option.some.inj hopening

/-! ### Values -/

theorem stops_moreItems (items : List Json) (tail : List Char) :
    Stops (moreItems items ++ tail) := by
  cases items <;> simp [moreItems, Stops, isNumeralChar]

theorem stops_moreMembers (members : List (String × Json)) (tail : List Char) :
    Stops (moreMembers members ++ tail) := by
  match members with
  | [] | (_, _) :: _ => simp [moreMembers, Stops, isNumeralChar]

/-- An array without items is not written like one with items. -/
theorem chars_append_ne_bracket (j : Json) (s t : List Char) : j.chars ++ s ≠ ']' :: t := by
  obtain ⟨c, u, hu, -, hbracket⟩ := exists_chars j
  rw [hu]
  intro h
  exact hbracket (List.cons.inj h).1

mutual

/-- **Texts of values that are the same, in front of any text, are texts of one value.** -/
theorem eq_of_chars_append_eq {S : Set Double} (hS : S.InjOn Double.text) :
    ∀ {j k : Json}, j.Everywhere (DoubleIn S) → k.Everywhere (DoubleIn S) →
      ∀ {s t : List Char}, Stops s → Stops t → j.chars ++ s = k.chars ++ t → j = k ∧ s = t
  | .null, k, _, _, s, t, _, _, h => by
    have hopening := opening_eq h
    cases k with
    | null => exact ⟨rfl, List.append_cancel_left h⟩
    | bool b => cases b <;> simp [opening] at hopening
    | _ => simp [opening] at hopening
  | .bool b, k, _, _, s, t, _, _, h => by
    have hopening := opening_eq h
    cases k with
    | bool b' =>
      have hb : b = b' := by
        cases b <;> cases b' <;> simp [opening] at hopening <;> rfl
      subst hb
      exact ⟨rfl, List.append_cancel_left h⟩
    | _ => cases b <;> simp [opening] at hopening
  | .int i, k, _, _, s, t, hs, ht, h => by
    have hopening := opening_eq h
    cases k with
    | int i' =>
      obtain ⟨htext, hrest⟩ := eq_of_numeral_append_eq (fun _ => isNumeralChar_of_mem_intChars)
        (fun _ => isNumeralChar_of_mem_intChars) hs ht h
      exact ⟨congrArg Json.int (intChars_inj htext), hrest⟩
    | float x =>
      obtain ⟨htext, -⟩ := eq_of_numeral_append_eq (fun _ => isNumeralChar_of_mem_intChars)
        (fun _ => isNumeralChar_of_mem_text) hs ht h
      exact absurd htext (intChars_ne_text i x)
    | bool b => cases b <;> simp [opening] at hopening
    | _ => simp [opening] at hopening
  | .float x, k, hx, hk, s, t, hs, ht, h => by
    have hopening := opening_eq h
    cases k with
    | int i =>
      obtain ⟨htext, -⟩ := eq_of_numeral_append_eq (fun _ => isNumeralChar_of_mem_text)
        (fun _ => isNumeralChar_of_mem_intChars) hs ht h
      exact absurd htext.symm (intChars_ne_text i x)
    | float x' =>
      obtain ⟨htext, hrest⟩ := eq_of_numeral_append_eq (fun _ => isNumeralChar_of_mem_text)
        (fun _ => isNumeralChar_of_mem_text) hs ht h
      exact ⟨congrArg Json.float (hS hx hk htext), hrest⟩
    | bool b => cases b <;> simp [opening] at hopening
    | _ => simp [opening] at hopening
  | .str v, k, _, _, s, t, _, _, h => by
    have hopening := opening_eq h
    cases k with
    | str v' =>
      obtain ⟨htext, hrest⟩ := eq_of_stringChars_append_eq h
      exact ⟨congrArg Json.str htext, hrest⟩
    | bool b => cases b <;> simp [opening] at hopening
    | _ => simp [opening] at hopening
  | .arr items, k, hj, hk, s, t, _, _, h => by
    have hopening := opening_eq h
    cases k with
    | arr items' =>
      obtain ⟨hitems, hrest⟩ := eq_of_items_append_eq hS hj.2 hk.2 h
      exact ⟨congrArg Json.arr hitems, hrest⟩
    | bool b => cases b <;> simp [opening] at hopening
    | _ => simp [opening] at hopening
  | .obj members, k, hj, hk, s, t, _, _, h => by
    have hopening := opening_eq h
    cases k with
    | obj members' =>
      obtain ⟨hmembers, hrest⟩ := eq_of_members_append_eq hS hj.2 hk.2 h
      exact ⟨congrArg Json.obj hmembers, hrest⟩
    | bool b => cases b <;> simp [opening] at hopening
    | _ => simp [opening] at hopening

/-- The items of an array are told by its text. -/
theorem eq_of_items_append_eq {S : Set Double} (hS : S.InjOn Double.text) :
    ∀ {items items' : List Json}, EverywhereItems (DoubleIn S) items →
      EverywhereItems (DoubleIn S) items' → ∀ {s t : List Char},
      (Json.arr items).chars ++ s = (Json.arr items').chars ++ t → items = items' ∧ s = t
  | [], [], _, _, _, _, h => ⟨rfl, List.append_cancel_left h⟩
  | [], j :: items, _, _, _, _, h => by
    simp only [chars, List.cons_append, List.append_assoc, List.cons.injEq, true_and] at h
    exact absurd h.symm (chars_append_ne_bracket j _ _)
  | j :: items, [], _, _, _, _, h => by
    simp only [chars, List.cons_append, List.append_assoc, List.cons.injEq, true_and] at h
    exact absurd h (chars_append_ne_bracket j _ _)
  | j :: items, j' :: items', ⟨hj, hitems⟩, ⟨hj', hitems'⟩, _, _, h => by
    simp only [chars, List.cons_append, List.append_assoc, List.cons.injEq, true_and] at h
    obtain ⟨rfl, hrest⟩ :=
      eq_of_chars_append_eq hS hj hj' (stops_moreItems items _) (stops_moreItems items' _) h
    obtain ⟨rfl, hend⟩ := eq_of_moreItems_append_eq hS hitems hitems' hrest
    exact ⟨rfl, hend⟩

/-- The items after the first are told by their text. -/
theorem eq_of_moreItems_append_eq {S : Set Double} (hS : S.InjOn Double.text) :
    ∀ {items items' : List Json}, EverywhereItems (DoubleIn S) items →
      EverywhereItems (DoubleIn S) items' → ∀ {s t : List Char},
      moreItems items ++ s = moreItems items' ++ t → items = items' ∧ s = t
  | [], [], _, _, _, _, h => ⟨rfl, List.append_cancel_left h⟩
  | [], _ :: _, _, _, _, _, h => by simp [moreItems] at h
  | _ :: _, [], _, _, _, _, h => by simp [moreItems] at h
  | j :: items, j' :: items', ⟨hj, hitems⟩, ⟨hj', hitems'⟩, _, _, h => by
    simp only [moreItems, List.cons_append, List.append_assoc, List.cons.injEq, true_and] at h
    obtain ⟨rfl, hrest⟩ :=
      eq_of_chars_append_eq hS hj hj' (stops_moreItems items _) (stops_moreItems items' _) h
    obtain ⟨rfl, hend⟩ := eq_of_moreItems_append_eq hS hitems hitems' hrest
    exact ⟨rfl, hend⟩

/-- The members of an object are told by its text. -/
theorem eq_of_members_append_eq {S : Set Double} (hS : S.InjOn Double.text) :
    ∀ {members members' : List (String × Json)}, EverywhereMembers (DoubleIn S) members →
      EverywhereMembers (DoubleIn S) members' → ∀ {s t : List Char},
      (Json.obj members).chars ++ s = (Json.obj members').chars ++ t → members = members' ∧ s = t
  | [], [], _, _, _, _, h => ⟨rfl, List.append_cancel_left h⟩
  | [], (_, _) :: _, _, _, _, _, h => by simp [chars, stringChars] at h
  | (_, _) :: _, [], _, _, _, _, h => by simp [chars, stringChars] at h
  | (key, j) :: members, (key', j') :: members', ⟨hj, hmembers⟩, ⟨hj', hmembers'⟩, _, _, h => by
    simp only [chars, List.cons_append, List.append_assoc, List.cons.injEq, true_and] at h
    obtain ⟨rfl, hvalue⟩ := eq_of_stringChars_append_eq h
    obtain ⟨rfl, hrest⟩ := eq_of_chars_append_eq hS hj hj' (stops_moreMembers members _)
      (stops_moreMembers members' _) (List.cons.inj hvalue).2
    obtain ⟨rfl, hend⟩ := eq_of_moreMembers_append_eq hS hmembers hmembers' hrest
    exact ⟨rfl, hend⟩

/-- The members after the first are told by their text. -/
theorem eq_of_moreMembers_append_eq {S : Set Double} (hS : S.InjOn Double.text) :
    ∀ {members members' : List (String × Json)}, EverywhereMembers (DoubleIn S) members →
      EverywhereMembers (DoubleIn S) members' → ∀ {s t : List Char},
      moreMembers members ++ s = moreMembers members' ++ t → members = members' ∧ s = t
  | [], [], _, _, _, _, h => ⟨rfl, List.append_cancel_left h⟩
  | [], (_, _) :: _, _, _, _, _, h => by simp [moreMembers] at h
  | (_, _) :: _, [], _, _, _, _, h => by simp [moreMembers] at h
  | (key, j) :: members, (key', j') :: members', ⟨hj, hmembers⟩, ⟨hj', hmembers'⟩, _, _, h => by
    simp only [moreMembers, List.cons_append, List.append_assoc, List.cons.injEq, true_and] at h
    obtain ⟨rfl, hvalue⟩ := eq_of_stringChars_append_eq h
    obtain ⟨rfl, hrest⟩ := eq_of_chars_append_eq hS hj hj' (stops_moreMembers members _)
      (stops_moreMembers members' _) (List.cons.inj hvalue).2
    obtain ⟨rfl, hend⟩ := eq_of_moreMembers_append_eq hS hmembers hmembers' hrest
    exact ⟨rfl, hend⟩

end

/-- **A value is told by its text**, if the doubles within it are. -/
theorem eq_of_chars_eq {S : Set Double} (hS : S.InjOn Double.text) {j k : Json}
    (hj : j.Everywhere (DoubleIn S)) (hk : k.Everywhere (DoubleIn S)) (h : j.chars = k.chars) :
    j = k := by
  have hend : Stops [] := by simp [Stops]
  have happend : j.chars ++ [] = k.chars ++ [] := by rw [h]
  exact (eq_of_chars_append_eq hS hj hk hend hend happend).1

end EditorBridge.Json
