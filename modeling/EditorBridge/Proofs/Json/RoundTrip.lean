import EditorBridge.Proofs.Json.KeyOrder
import EditorBridge.Proofs.Json.Scanners

/-!
# Reading a printed value

The reader gives back the value whose text it is given (`readWithin_print`), for every value with
the keys of each object in increasing order, which is how objects are kept, and within the limit
on open arrays and objects, if there is one.  That the text of a number reads back as that number
is assumed of each number in the value; of the integers that fit 64 bits it is proved
(`rereads_int`).

The reader works on a stack, so the main lemma (`readValue_chars`) is about a value anywhere in a
text: reading it from its text amounts to resuming with it after its text.
-/

namespace EditorBridge.Json

/-! ### What is assumed of a value -/

/-- The text of a number reads back as that number. -/
def NumeralRereads : Json → Prop
  | .int i => read (Json.int i).print = .ok (.int i)
  | .float x => read (Json.float x).print = .ok (.float x)
  | _ => True

mutual

/-- How many arrays and objects are open where the value is deepest. -/
def depth : Json → Nat
  | .arr items => depthItems items + 1
  | .obj members => depthMembers members + 1
  | _ => 0

/-- The greatest depth in a list of values. -/
def depthItems : List Json → Nat
  | [] => 0
  | j :: items => max j.depth (depthItems items)

/-- The greatest depth in a list of members. -/
def depthMembers : List (String × Json) → Nat
  | [] => 0
  | (_, j) :: members => max j.depth (depthMembers members)

end

theorem depthMembers_le_iff {n : Nat} :
    ∀ {members : List (String × Json)}, depthMembers members ≤ n ↔ ∀ m ∈ members, m.2.depth ≤ n
  | [] => by simp [depthMembers]
  | (_, j) :: members => by
    rw [depthMembers, Nat.max_le, depthMembers_le_iff, List.forall_mem_cons]

/-- So many arrays and objects may be open under the limit, if there is one. -/
def Allows (limit : Option Nat) (n : Nat) : Prop :=
  ∀ m ∈ limit, n < m

theorem Allows.mono {limit : Option Nat} {n n' : Nat} (h : Allows limit n) (hle : n' ≤ n) :
    Allows limit n' :=
  fun m hm => Nat.lt_of_le_of_lt hle (h m hm)

/-! ### Scalars -/

section

variable {limit : Option Nat} {stack : List Frame} {tail : List Char}

theorem skipSpace_of_not_isSpace {c : Char} (h : isSpace c = false) (s : List Char) :
    skipSpace (c :: s) = c :: s := by
  simp [skipSpace, h]

/-- A text that starts like a scalar is read as one. -/
theorem readValue_scalar {c : Char} (hspace : isSpace c = false) (hbracket : c ≠ '[')
    (hbrace : c ≠ '\x7b') (s : List Char) :
    readValue limit stack (c :: s) =
      match readScalar (c :: s) with
      | .error fault => .error fault
      | .ok (j, rest) => resume limit stack j rest := by
  rw [readValue]
  split
  · next inner hs =>
    rw [skipSpace_of_not_isSpace hspace] at hs
    exact absurd (List.cons.inj hs).1 hbracket
  · next inner hs =>
    rw [skipSpace_of_not_isSpace hspace] at hs
    exact absurd (List.cons.inj hs).1 hbrace
  · rw [skipSpace_of_not_isSpace hspace]
    split <;> simp_all

/-- Blanks before the rest of a text change nothing. -/
theorem resume_congr {s t : List Char} (h : skipSpace s = skipSpace t) (j : Json) :
    resume limit stack j s = resume limit stack j t := by
  cases stack with
  | nil => rw [resume, resume, h]
  | cons frame outer =>
    cases frame with
    | items done => rw [resume, resume, h]
    | members done key => rw [resume, resume, h]

/-! ### Numbers -/

/-- A numeral starts with its sign or with a digit. -/
def StartsNumeral (c : Char) : Prop :=
  c = '-' ∨ c.isDigit = true

theorem StartsNumeral.not_isSpace {c : Char} (h : StartsNumeral c) : isSpace c = false := by
  rcases h with rfl | h
  · decide
  · simp only [isSpace, Bool.or_eq_false_iff, decide_eq_false_iff_not]
    refine ⟨⟨⟨?_, ?_⟩, ?_⟩, ?_⟩ <;> (rintro rfl; exact absurd h (by decide))

theorem StartsNumeral.ne {c d : Char} (h : StartsNumeral c) (hd : ¬ StartsNumeral d) : c ≠ d :=
  fun hcd => hd (hcd ▸ h)

instance (c : Char) : Decidable (StartsNumeral c) :=
  inferInstanceAs (Decidable (_ ∨ _))

theorem exists_toDigits (n : Nat) :
    ∃ c s, Nat.toDigits 10 n = c :: s ∧ c.isDigit = true := by
  cases h : Nat.toDigits 10 n with
  | nil => exact absurd h Nat.toDigits_ne_nil
  | cons c s =>
    exact ⟨c, s, rfl, Nat.isDigit_of_mem_toDigits (b := 10) (n := n) (by decide) (by decide)
      (by simp [h])⟩

theorem exists_intChars (i : Int) : ∃ c s, intChars i = c :: s ∧ StartsNumeral c := by
  obtain ⟨c, s, hs, hc⟩ := exists_toDigits i.natAbs
  unfold intChars
  split
  · exact ⟨_, _, rfl, .inl rfl⟩
  · exact ⟨c, s, hs, .inr hc⟩

theorem exists_text (x : Double) : ∃ c s, x.text = c :: s ∧ StartsNumeral c := by
  obtain ⟨c, s, hs, hc⟩ := exists_toDigits x.shortestDigits.digits
  -- Without its sign the text starts with a zero or with the first digit.
  have hpositional (point : Int) :
      ∃ d t, Double.positional (c :: s) point = d :: t ∧ StartsNumeral d := by
    unfold Double.positional
    split
    · exact ⟨_, _, rfl, .inr (by decide)⟩
    · next hpoint =>
      obtain ⟨n, hn⟩ : ∃ n, point.toNat = n + 1 := ⟨point.toNat - 1, by omega⟩
      simp only [hn, List.take_succ_cons, List.cons_append]
      exact ⟨_, _, rfl, .inr hc⟩
  have hscientific (point : Int) :
      ∃ d t, Double.scientific (c :: s) point = d :: t ∧ StartsNumeral d :=
    ⟨_, _, rfl, .inr hc⟩
  simp only [Double.text, hs]
  cases x.negative with
  | true =>
    simp only [if_true, List.singleton_append]
    split <;> exact ⟨_, _, rfl, .inl rfl⟩
  | false =>
    simp only [Bool.false_eq_true, if_false, List.nil_append]
    split
    · exact ⟨_, _, rfl, .inr (by decide)⟩
    · split
      · exact hpositional _
      · exact hscientific _

theorem readScalar_digit {c : Char} (h : c.isDigit = true) (s : List Char) :
    readScalar (c :: s) = readUnsigned false (c :: s) := by
  unfold readScalar
  split
  all_goals first
    | exact if_pos (by simp_all)
    | simp_all

/-- A numeral is read the same with anything behind it that does not go on with it. -/
theorem readScalar_append (hends : NumeralEnds tail) {c : Char} (hc : StartsNumeral c)
    {s rest : List Char} {j : Json} (h : readScalar (c :: s) = .ok (j, rest)) :
    readScalar (c :: s ++ tail) = .ok (j, rest ++ tail) := by
  rcases hc with rfl | hc
  · exact readUnsigned_append hends true h
  · rw [readScalar_digit hc] at h
    exact (readScalar_digit hc _).trans (readUnsigned_append hends false h)

/-- A numeral that reads back as a whole text is read in any place of a text. -/
theorem readValue_numeral (hends : NumeralEnds tail) {j : Json} {c : Char} {s : List Char}
    (hj : j.chars = c :: s) (hc : StartsNumeral c) (h : read j.print = .ok j) :
    readValue limit stack (j.chars ++ tail) = resume limit stack j tail := by
  have hbracket : c ≠ '[' := hc.ne (by decide)
  have hbrace : c ≠ '\x7b' := hc.ne (by decide)
  rw [hj, List.cons_append, readValue_scalar hc.not_isSpace hbracket hbrace]
  have hwhole : readValue (some depthLimit) [] (c :: s) = .ok j := by
    have hread := readWithin_eq_ok.mp h
    rwa [print, String.toList_ofList, hj] at hread
  rw [readValue_scalar hc.not_isSpace hbracket hbrace] at hwhole
  cases hr : readScalar (c :: s) with
  | error fault => simp [hr] at hwhole
  | ok p =>
    obtain ⟨value, rest⟩ := p
    simp only [hr, resume] at hwhole
    split at hwhole
    · next hblank =>
      cases hwhole
      have happend := readScalar_append hends hc hr
      rw [List.cons_append] at happend
      rw [happend]
      refine resume_congr ?_ _
      have hspaces : rest.dropWhile isSpace = [] := hblank
      rw [skipSpace, List.dropWhile_append, hspaces]
      rfl
    · simp at hwhole

/-- A number whose text is read up to its end reads back from it. -/
theorem read_print_of_readScalar {j : Json} {c : Char} {s : List Char} (hj : j.chars = c :: s)
    (hc : StartsNumeral c) (h : readScalar j.chars = .ok (j, [])) : read j.print = .ok j := by
  rw [hj] at h
  rw [read, readWithin_eq_ok, print, String.toList_ofList, hj,
    readValue_scalar hc.not_isSpace (hc.ne (by decide)) (hc.ne (by decide)), h]
  simp [resume, skipSpace]

/-- **An integer that fits 64 bits**, with or without a sign, **reads back from its text.** -/
theorem rereads_int {i : Int} (hlow : -0x8000000000000000 ≤ i) (hhigh : i < 0x10000000000000000) :
    NumeralRereads (.int i) := by
  obtain ⟨c, s, hs, hc⟩ := exists_intChars i
  have hfits : i.natAbs < significandLimit := by
    have hsize : significandLimit = 2 ^ 64 := rfl
    omega
  refine read_print_of_readScalar hs hc ?_
  by_cases hneg : i < 0
  · have hleast : i.natAbs ≤ 1 <<< 63 := by
      simp only [Nat.one_shiftLeft]
      omega
    rw [chars, intChars, if_pos hneg, readScalar, readUnsigned_toDigits true hfits, integerOf,
      if_neg (by simp), if_pos ⟨by omega, hleast⟩]
    congr
    omega
  · obtain ⟨d, t, hd, hdigit⟩ := exists_toDigits i.natAbs
    rw [chars, intChars, if_neg hneg, hd, readScalar_digit hdigit, ← hd,
      readUnsigned_toDigits false hfits, integerOf, if_pos rfl]
    congr
    omega

/-! ### Arrays and objects -/

/-- A value starts with no blank, and like no closing bracket. -/
theorem exists_chars (j : Json) :
    ∃ c s, j.chars = c :: s ∧ isSpace c = false ∧ c ≠ ']' := by
  have number {t : List Char} (h : ∃ c s, t = c :: s ∧ StartsNumeral c) :
      ∃ c s, t = c :: s ∧ isSpace c = false ∧ c ≠ ']' := by
    obtain ⟨c, s, hs, hc⟩ := h
    exact ⟨c, s, hs, hc.not_isSpace, hc.ne (by decide)⟩
  match j with
  | .null | .bool true | .bool false | .str _ | .arr [] | .arr (_ :: _) | .obj [] | .obj (_ :: _) =>
    exact ⟨_, _, rfl, by decide, by decide⟩
  | .int i => exact number (exists_intChars i)
  | .float x => exact number (exists_text x)

theorem isTooDeep_eq_false (h : Allows limit (stack.length + 1)) :
    isTooDeep limit stack = false := by
  cases limit with
  | none => rfl
  | some m => simpa [isTooDeep] using h m rfl

/-- The text after a value inside an array does not go on with it. -/
theorem numeralEnds_moreItems (items : List Json) (tail : List Char) :
    NumeralEnds (moreItems items ++ tail) := by
  cases items <;> simp [moreItems, NumeralEnds]

/-- The text after a value inside an object does not go on with it. -/
theorem numeralEnds_moreMembers (members : List (String × Json)) (tail : List Char) :
    NumeralEnds (moreMembers members ++ tail) := by
  match members with
  | [] | (_, _) :: _ => simp [moreMembers, NumeralEnds]

theorem readKey_print (key : String) (s : List Char) :
    readKey (key.toList.flatMap escapedChar ++ '\"' :: ':' :: s) = .ok (key, s) := by
  rw [readKey, readStringBody_escaped]
  simp [skipSpace, isSpace]

/-- The first item of an array is read within it. -/
theorem readValue_first_item (h : Allows limit (stack.length + 1)) (item : Json) :
    readValue limit stack ('[' :: (item.chars ++ tail))
      = readValue limit (.items [] :: stack) (item.chars ++ tail) := by
  obtain ⟨c, s, hs, hspace, hend⟩ := exists_chars item
  rw [hs, List.cons_append, readValue, skipSpace_of_not_isSpace (by decide)]
  simp only [isTooDeep_eq_false h, Bool.false_eq_true, if_false]
  rw [skipSpace_of_not_isSpace hspace]
  split <;> simp_all

/-- The next item of an array is read within it. -/
theorem resume_next_item (done : List Json) (j item : Json) :
    resume limit (.items done :: stack) j (',' :: (item.chars ++ tail))
      = readValue limit (.items (j :: done) :: stack) (item.chars ++ tail) := by
  obtain ⟨c, s, hs, hspace, hend⟩ := exists_chars item
  rw [hs, List.cons_append, resume, skipSpace_of_not_isSpace (by decide)]
  simp only
  rw [skipSpace_of_not_isSpace hspace]
  split <;> simp_all

/-- The value of an object's first member is read within it. -/
theorem readValue_first_member (h : Allows limit (stack.length + 1)) (key : String)
    (s : List Char) :
    readValue limit stack ('\x7b' :: (stringChars key ++ ':' :: s))
      = readValue limit (.members [] key :: stack) s := by
  rw [stringChars, List.cons_append, List.append_assoc, List.singleton_append, readValue,
    skipSpace_of_not_isSpace (by decide)]
  simp only [isTooDeep_eq_false h, Bool.false_eq_true, if_false]
  rw [skipSpace_of_not_isSpace (by decide)]
  simp only
  rw [readKey_print]

/-- The value of an object's next member is read within it. -/
theorem resume_next_member (done : List (String × Json)) (key next : String) (j : Json)
    (s : List Char) :
    resume limit (.members done key :: stack) j (',' :: (stringChars next ++ ':' :: s))
      = readValue limit (.members (insertMember key j done) next :: stack) s := by
  rw [stringChars, List.cons_append, List.append_assoc, List.singleton_append, resume,
    skipSpace_of_not_isSpace (by decide)]
  simp only
  rw [skipSpace_of_not_isSpace (by decide)]
  simp only
  rw [readKey_print]

theorem readValue_empty_array (h : Allows limit (stack.length + 1)) :
    readValue limit stack ('[' :: ']' :: tail) = resume limit stack (.arr []) tail := by
  rw [readValue, skipSpace_of_not_isSpace (by decide)]
  simp only [isTooDeep_eq_false h, Bool.false_eq_true, if_false]
  rw [skipSpace_of_not_isSpace (by decide)]
  rfl

theorem readValue_empty_object (h : Allows limit (stack.length + 1)) :
    readValue limit stack ('\x7b' :: '\x7d' :: tail) = resume limit stack (.obj []) tail := by
  rw [readValue, skipSpace_of_not_isSpace (by decide)]
  simp only [isTooDeep_eq_false h, Bool.false_eq_true, if_false]
  rw [skipSpace_of_not_isSpace (by decide)]
  rfl

theorem resume_end_of_array (done : List Json) (j : Json) (s : List Char) :
    resume limit (.items done :: stack) j (']' :: s)
      = resume limit stack (.arr (done.reverse ++ [j])) s := by
  rw [resume, skipSpace_of_not_isSpace (by decide)]
  rfl

theorem resume_end_of_object (done : List (String × Json)) (key : String) (j : Json)
    (s : List Char) :
    resume limit (.members done key :: stack) j ('\x7d' :: s)
      = resume limit stack (.obj (insertMember key j done)) s := by
  rw [resume, skipSpace_of_not_isSpace (by decide)]
  rfl

end

/-! ### Values -/

mutual

/-- Reading a value from its text, in any place of a text, amounts to resuming with it. -/
theorem readValue_chars {limit : Option Nat} :
    ∀ {j : Json}, j.Everywhere KeysIncrease → j.Everywhere NumeralRereads →
      ∀ {stack : List Frame} {tail : List Char}, NumeralEnds tail →
        Allows limit (stack.length + j.depth) →
        readValue limit stack (j.chars ++ tail) = resume limit stack j tail
  | .null, _, _, _, _, _, _ | .bool true, _, _, _, _, _, _ | .bool false, _, _, _, _, _, _ => by
    simp [chars, readValue_scalar, isSpace, readScalar, readWord, Except.map]
  | .int i, _, hn, _, _, hends, _ => by
    obtain ⟨c, s, hs, hc⟩ := exists_intChars i
    exact readValue_numeral hends hs hc hn
  | .float x, _, hn, _, _, hends, _ => by
    obtain ⟨c, s, hs, hc⟩ := exists_text x
    exact readValue_numeral hends hs hc hn
  | .str s, _, _, _, _, _, _ => by
    simp [chars, stringChars, readValue_scalar, isSpace, readScalar, readStringBody_escaped,
      Except.map]
  | .arr [], _, _, _, _, _, hdepth => readValue_empty_array hdepth
  | .arr (item :: items), ⟨_, hk, hks⟩, ⟨_, hn, hns⟩, stack, tail, _, hdepth => by
    simp only [depth, depthItems] at hdepth
    have hopen : Allows limit (stack.length + 1) := hdepth.mono (by omega)
    have hitem : Allows limit ((Frame.items [] :: stack).length + item.depth) :=
      hdepth.mono (by rw [List.length_cons]; omega)
    have hitems : Allows limit (stack.length + 1 + depthItems items) := hdepth.mono (by omega)
    calc readValue limit stack ((Json.arr (item :: items)).chars ++ tail)
        = readValue limit stack ('[' :: (item.chars ++ (moreItems items ++ tail))) := by
          simp [chars]
      _ = readValue limit (.items [] :: stack) (item.chars ++ (moreItems items ++ tail)) :=
          readValue_first_item hopen item
      _ = resume limit (.items [] :: stack) item (moreItems items ++ tail) :=
          readValue_chars hk hn (numeralEnds_moreItems items tail) hitem
      _ = resume limit stack (.arr (item :: items)) tail :=
          resume_moreItems hks hns [] item tail hitems
  | .obj [], _, _, _, _, _, hdepth => readValue_empty_object hdepth
  | .obj ((key, j) :: members), ⟨hkeys, hk, hks⟩, ⟨_, hn, hns⟩, stack, tail, _, hdepth => by
    simp only [depth, depthMembers] at hdepth
    have hopen : Allows limit (stack.length + 1) := hdepth.mono (by omega)
    have hj : Allows limit ((Frame.members [] key :: stack).length + j.depth) :=
      hdepth.mono (by rw [List.length_cons]; omega)
    have hmembers : Allows limit (stack.length + 1 + depthMembers members) :=
      hdepth.mono (by omega)
    calc readValue limit stack ((Json.obj ((key, j) :: members)).chars ++ tail)
        = readValue limit stack
            ('\x7b' :: (stringChars key ++ ':' :: (j.chars ++ (moreMembers members ++ tail)))) := by
          simp [chars]
      _ = readValue limit (.members [] key :: stack)
            (j.chars ++ (moreMembers members ++ tail)) := readValue_first_member hopen key _
      _ = resume limit (.members [] key :: stack) j (moreMembers members ++ tail) :=
          readValue_chars hk hn (numeralEnds_moreMembers members tail) hj
      _ = resume limit stack (.obj ((key, j) :: members)) tail :=
          resume_moreMembers hks hns [] key j tail hkeys hmembers

/-- The items after the first are read, and the array that holds them all is done. -/
theorem resume_moreItems {limit : Option Nat} :
    ∀ {items : List Json}, EverywhereItems KeysIncrease items →
      EverywhereItems NumeralRereads items →
      ∀ {stack : List Frame} (done : List Json) (j : Json) (tail : List Char),
        Allows limit (stack.length + 1 + depthItems items) →
        resume limit (.items done :: stack) j (moreItems items ++ tail)
          = resume limit stack (.arr (done.reverse ++ j :: items)) tail
  | [], _, _, stack, done, j, tail, _ => resume_end_of_array done j tail
  | item :: items, ⟨hk, hks⟩, ⟨hn, hns⟩, stack, done, j, tail, hdepth => by
    simp only [depthItems] at hdepth
    have hitem : Allows limit ((Frame.items (j :: done) :: stack).length + item.depth) :=
      hdepth.mono (by rw [List.length_cons]; omega)
    have hitems : Allows limit (stack.length + 1 + depthItems items) := hdepth.mono (by omega)
    calc resume limit (.items done :: stack) j (moreItems (item :: items) ++ tail)
        = resume limit (.items done :: stack) j
            (',' :: (item.chars ++ (moreItems items ++ tail))) := by simp [moreItems]
      _ = readValue limit (.items (j :: done) :: stack)
            (item.chars ++ (moreItems items ++ tail)) := resume_next_item done j item
      _ = resume limit (.items (j :: done) :: stack) item (moreItems items ++ tail) :=
          readValue_chars hk hn (numeralEnds_moreItems items tail) hitem
      _ = resume limit stack (.arr ((j :: done).reverse ++ item :: items)) tail :=
          resume_moreItems hks hns (j :: done) item tail hitems
      _ = resume limit stack (.arr (done.reverse ++ j :: item :: items)) tail := by simp

/-- The members after the first are read, and the object that holds them all is done.  Each of
them goes to the end of the object, because the keys increase. -/
theorem resume_moreMembers {limit : Option Nat} :
    ∀ {members : List (String × Json)}, EverywhereMembers KeysIncrease members →
      EverywhereMembers NumeralRereads members →
      ∀ {stack : List Frame} (done : List (String × Json)) (key : String) (j : Json)
        (tail : List Char),
        KeysIncrease (.obj (done ++ (key, j) :: members)) →
        Allows limit (stack.length + 1 + depthMembers members) →
        resume limit (.members done key :: stack) j (moreMembers members ++ tail)
          = resume limit stack (.obj (done ++ (key, j) :: members)) tail
  | [], _, _, stack, done, key, j, tail, hkeys, _ => by
    rw [← insertMember_of_keysIncrease hkeys]
    exact resume_end_of_object done key j tail
  | (next, v) :: members, ⟨hk, hks⟩, ⟨hn, hns⟩, stack, done, key, j, tail, hkeys, hdepth => by
    simp only [depthMembers] at hdepth
    have hv : Allows limit
        ((Frame.members (done ++ [(key, j)]) next :: stack).length + v.depth) :=
      hdepth.mono (by rw [List.length_cons]; omega)
    have hmembers : Allows limit (stack.length + 1 + depthMembers members) :=
      hdepth.mono (by omega)
    have hkeys' : KeysIncrease (.obj ((done ++ [(key, j)]) ++ (next, v) :: members)) := by
      simpa using hkeys
    calc resume limit (.members done key :: stack) j (moreMembers ((next, v) :: members) ++ tail)
        = resume limit (.members done key :: stack) j
            (',' :: (stringChars next ++ ':' :: (v.chars ++ (moreMembers members ++ tail)))) := by
          simp [moreMembers]
      _ = readValue limit (.members (done ++ [(key, j)]) next :: stack)
            (v.chars ++ (moreMembers members ++ tail)) := by
          rw [resume_next_member, insertMember_of_keysIncrease hkeys]
      _ = resume limit (.members (done ++ [(key, j)]) next :: stack) v
            (moreMembers members ++ tail) :=
          readValue_chars hk hn (numeralEnds_moreMembers members tail) hv
      _ = resume limit stack (.obj ((done ++ [(key, j)]) ++ (next, v) :: members)) tail :=
          resume_moreMembers hks hns _ next v tail hkeys' hmembers
      _ = resume limit stack (.obj (done ++ (key, j) :: (next, v) :: members)) tail := by simp

end

/-- **A printed value is read back**, within the limit if there is one. -/
theorem readWithin_print {limit : Option Nat} {j : Json} (hkeys : j.Everywhere KeysIncrease)
    (hnumbers : j.Everywhere NumeralRereads) (hdepth : Allows limit j.depth) :
    readWithin limit j.print = .ok j := by
  have hend : NumeralEnds [] := by simp [NumeralEnds]
  have hroom : Allows limit (([] : List Frame).length + j.depth) := by simpa using hdepth
  have hread := readValue_chars hkeys hnumbers hend hroom
  rw [List.append_nil] at hread
  rw [readWithin_eq_ok, print, String.toList_ofList, hread, resume]
  rfl

end EditorBridge.Json
