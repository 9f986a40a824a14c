import Mathlib.Tactic.SplitIfs
import EditorBridge.Json.Reader

/-!
# The order of keys

An object keeps its members by increasing key.  The type of values does not say so; this module
says it of a value and of all that is within it (`Everywhere`, `KeysIncrease`).  Adding a member
keeps the order (`everywhere_insertMember`), so what is built of members has it, and so has every
value that the reader gives (`keysIncrease_of_readWithin`).
-/

namespace EditorBridge.Json

/-! ### Properties of every part of a value -/

mutual

/-- Whether a property holds of a value and of every value within it. -/
def Everywhere (P : Json → Prop) : Json → Prop
  | .arr items => P (.arr items) ∧ EverywhereItems P items
  | .obj members => P (.obj members) ∧ EverywhereMembers P members
  | j => P j

/-- Whether a property holds of every value within a list of them. -/
def EverywhereItems (P : Json → Prop) : List Json → Prop
  | [] => True
  | j :: items => Everywhere P j ∧ EverywhereItems P items

/-- Whether a property holds of every value within a list of members. -/
def EverywhereMembers (P : Json → Prop) : List (String × Json) → Prop
  | [] => True
  | (_, j) :: members => Everywhere P j ∧ EverywhereMembers P members

end

theorem everywhereItems_iff {P : Json → Prop} :
    ∀ {items : List Json}, EverywhereItems P items ↔ ∀ j ∈ items, j.Everywhere P
  | [] => by simp [EverywhereItems]
  | j :: items => by simp [EverywhereItems, everywhereItems_iff]

theorem everywhereMembers_iff {P : Json → Prop} :
    ∀ {members : List (String × Json)},
      EverywhereMembers P members ↔ ∀ m ∈ members, m.2.Everywhere P
  | [] => by simp [EverywhereMembers]
  | (_, j) :: members => by simp [EverywhereMembers, everywhereMembers_iff]

/-- The keys of an object are in increasing order. -/
def KeysIncrease : Json → Prop
  | .obj members => (members.map Prod.fst).Pairwise (· < ·)
  | _ => True

/-! ### Adding a member -/

theorem mem_insertMember {m : String × Json} {key : String} {j : Json} :
    ∀ {members : List (String × Json)}, m ∈ insertMember key j members → m = (key, j) ∨ m ∈ members
  | [], h => by simpa [insertMember] using h
  | (k, v) :: members, h => by
    rw [insertMember] at h
    split_ifs at h
    · simpa using h
    · exact (List.mem_cons.mp h).imp_right (List.mem_cons_of_mem _)
    · rcases List.mem_cons.mp h with rfl | hm
      · exact .inr List.mem_cons_self
      · exact (mem_insertMember hm).imp_right (List.mem_cons_of_mem _)

theorem mem_keys_insertMember {k key : String} {j : Json} {members : List (String × Json)}
    (h : k ∈ (insertMember key j members).map Prod.fst) : k = key ∨ k ∈ members.map Prod.fst := by
  obtain ⟨m, hm, rfl⟩ := List.mem_map.mp h
  rcases mem_insertMember hm with rfl | hm
  · exact .inl rfl
  · exact .inr (List.mem_map_of_mem hm)

theorem keysIncrease_insertMember (key : String) (j : Json) :
    ∀ {members : List (String × Json)}, KeysIncrease (.obj members) →
      KeysIncrease (.obj (insertMember key j members))
  | [], _ => List.pairwise_singleton _ _
  | (k, v) :: members, h => by
    obtain ⟨hk, hrest⟩ := List.pairwise_cons.mp h
    rw [insertMember]
    split_ifs with hbefore hsame
    · refine List.pairwise_cons.mpr ⟨fun k' hk' => ?_, h⟩
      rcases List.mem_cons.mp hk' with rfl | hk'
      · exact hbefore
      · exact String.lt_trans hbefore (hk k' hk')
    · subst hsame
      exact List.pairwise_cons.mpr ⟨hk, hrest⟩
    · refine List.pairwise_cons.mpr ⟨fun k' hk' => ?_, keysIncrease_insertMember key j hrest⟩
      -- A key that is neither before `k` nor `k` itself comes after it.
      rcases mem_keys_insertMember hk' with rfl | hk'
      · exact Std.lt_of_le_of_ne (String.not_lt.mp hbefore) (Ne.symm hsame)
      · exact hk k' hk'

theorem everywhereMembers_insertMember {P : Json → Prop} (key : String) {j : Json}
    (hj : j.Everywhere P) {members : List (String × Json)} (h : EverywhereMembers P members) :
    EverywhereMembers P (insertMember key j members) := by
  rw [everywhereMembers_iff] at h ⊢
  intro m hm
  rcases mem_insertMember hm with rfl | hm
  · exact hj
  · exact h m hm

/-- Adding a member keeps the order of the keys. -/
theorem everywhere_insertMember {members : List (String × Json)} {j : Json} (key : String)
    (hmembers : (Json.obj members).Everywhere KeysIncrease) (hj : j.Everywhere KeysIncrease) :
    (Json.obj (insertMember key j members)).Everywhere KeysIncrease :=
  ⟨keysIncrease_insertMember key j hmembers.1, everywhereMembers_insertMember key hj hmembers.2⟩

/-- A member with a key beyond all others goes to the end. -/
theorem insertMember_of_forall_lt {key : String} (j : Json) :
    ∀ {members : List (String × Json)}, (∀ k ∈ members.map Prod.fst, k < key) →
      insertMember key j members = members ++ [(key, j)]
  | [], _ => rfl
  | (k, v) :: members, h => by
    obtain ⟨hk, hrest⟩ := List.forall_mem_cons.mp h
    have hne : key ≠ k := fun heq => String.lt_irrefl k (heq ▸ hk)
    rw [insertMember, if_neg (String.lt_asymm hk), if_neg hne, insertMember_of_forall_lt j hrest,
      List.cons_append]

theorem insertMember_of_keysIncrease {key : String} {j : Json}
    {done members : List (String × Json)}
    (h : KeysIncrease (.obj (done ++ (key, j) :: members))) :
    insertMember key j done = done ++ [(key, j)] := by
  refine insertMember_of_forall_lt j fun k hk => ?_
  rw [KeysIncrease, List.map_append, List.pairwise_append] at h
  exact h.2.2 k hk key (by simp)

/-- Members that are in order stay as they are when they are added to those before them. -/
theorem foldl_insertMember_of_keysIncrease :
    ∀ {done added : List (String × Json)}, KeysIncrease (.obj (done ++ added)) →
      added.foldl (fun ms m => insertMember m.1 m.2 ms) done = done ++ added
  | done, [], _ => (List.append_nil done).symm
  | done, (key, j) :: added, h => by
    have hnext : KeysIncrease (.obj ((done ++ [(key, j)]) ++ added)) := by simpa using h
    rw [List.foldl_cons, insertMember_of_keysIncrease h, foldl_insertMember_of_keysIncrease hnext]
    simp

/-! ### What the reader gives -/

/-- Whether a value is a number. -/
def IsNumber : Json → Prop
  | .int _ | .float _ => True
  | _ => False

section Numerals

variable {negative : Bool} {m : Nat} {e : Int} {s rest : List Char} {j : Json}

theorem isNumber_of_doubleOf (h : doubleOf negative m e s = .ok (j, rest)) : j.IsNumber := by
  unfold doubleOf at h
  split at h
  · cases h
    trivial
  · cases h

theorem isNumber_of_readExponent (h : readExponent negative m e s = .ok (j, rest)) :
    j.IsNumber := by
  unfold readExponent at h
  simp only at h
  split at h
  · cases h
  · split at h
    · split at h
      · split at h
        · split at h
          · cases h
          · cases h
            trivial
        · exact isNumber_of_doubleOf h
      · exact isNumber_of_doubleOf h
    · cases h

theorem isNumber_of_readAfterDigits (h : readAfterDigits negative m e s = .ok (j, rest)) :
    j.IsNumber := by
  unfold readAfterDigits at h
  split at h
  · exact isNumber_of_readExponent h
  · exact isNumber_of_readExponent h
  · exact isNumber_of_doubleOf h

theorem isNumber_of_readFraction (h : readFraction negative m e s = .ok (j, rest)) :
    j.IsNumber := by
  unfold readFraction at h
  simp only at h
  split at h
  · split at h
    · cases h
    · exact isNumber_of_doubleOf h
  · split_ifs at h
    · exact isNumber_of_readAfterDigits h
    · exact isNumber_of_readAfterDigits h

theorem isNumber_of_readAfterWhole (h : readAfterWhole negative m s = .ok (j, rest)) :
    j.IsNumber := by
  unfold readAfterWhole at h
  split at h
  · exact isNumber_of_readFraction h
  · exact isNumber_of_readExponent h
  · exact isNumber_of_readExponent h
  · unfold integerOf at h
    split_ifs at h
    · cases h
      trivial
    · cases h
      trivial
    · exact isNumber_of_doubleOf h

theorem isNumber_of_readLong (h : readLong negative m s = .ok (j, rest)) : j.IsNumber := by
  unfold readLong at h
  simp only at h
  split at h
  · exact isNumber_of_readFraction h
  · exact isNumber_of_readAfterDigits h

theorem isNumber_of_readUnsigned (h : readUnsigned negative s = .ok (j, rest)) :
    j.IsNumber := by
  unfold readUnsigned at h
  split at h
  · cases h
  · split at h
    · split at h
      · split_ifs at h
        exact isNumber_of_readAfterWhole h
      · exact isNumber_of_readAfterWhole h
    · split at h
      · simp only at h
        split at h
        · split_ifs at h
          · exact isNumber_of_readLong h
          · exact isNumber_of_readAfterWhole h
        · exact isNumber_of_readAfterWhole h
      · cases h

end Numerals

theorem everywhere_of_isNumber {j : Json} (h : j.IsNumber) : j.Everywhere KeysIncrease := by
  cases j with
  | int _ | float _ => trivial
  | _ => exact h.elim

theorem eq_of_map {α : Type} {x : Except Fault α} {f : α → Json × List Char} {rest : List Char}
    {j : Json} (h : x.map f = .ok (j, rest)) : ∃ a, j = (f a).1 := by
  cases x with
  | error fault => cases h
  | ok a => exact ⟨a, (congrArg Prod.fst (Except.ok.inj h)).symm⟩

/-- A value that is neither an array nor an object has no keys. -/
theorem everywhere_of_readScalar {s rest : List Char} {j : Json}
    (h : readScalar s = .ok (j, rest)) : j.Everywhere KeysIncrease := by
  unfold readScalar at h
  split at h
  · cases h
  iterate 4
    obtain ⟨a, rfl⟩ := eq_of_map h
    trivial
  · exact everywhere_of_isNumber (isNumber_of_readUnsigned h)
  · split at h
    · exact everywhere_of_isNumber (isNumber_of_readUnsigned h)
    · cases h

/-- The order of keys in what an open array or object holds so far. -/
def Frame.KeysIncrease : Frame → Prop
  | .items done => ∀ j ∈ done, j.Everywhere Json.KeysIncrease
  | .members done _ => (Json.obj done).Everywhere Json.KeysIncrease

mutual

/-- Reading on keeps the order of keys in all that is open, so what is read in the end has it. -/
theorem keysIncrease_of_readValue {limit : Option Nat} {stack : List Frame} {s : List Char}
    {j : Json} (hstack : ∀ frame ∈ stack, frame.KeysIncrease)
    (h : readValue limit stack s = .ok j) : j.Everywhere KeysIncrease := by
  rw [readValue] at h
  split at h
  · next inner hs =>
    have hinner := skipSpace_cons_length hs
    split at h
    · cases h
    · split at h
      · cases h
      · next rest ht =>
        have hrest := skipSpace_cons_length ht
        have hempty : (Json.arr []).Everywhere KeysIncrease := ⟨trivial, trivial⟩
        exact keysIncrease_of_resume hstack hempty h
      · have hitem := skipSpace_length inner
        refine keysIncrease_of_readValue ?_ h
        exact List.forall_mem_cons.mpr ⟨by simp [Frame.KeysIncrease], hstack⟩
  · next inner hs =>
    have hinner := skipSpace_cons_length hs
    split at h
    · cases h
    · split at h
      · cases h
      · next rest ht =>
        have hrest := skipSpace_cons_length ht
        have hempty : (Json.obj []).Everywhere KeysIncrease := ⟨List.Pairwise.nil, trivial⟩
        exact keysIncrease_of_resume hstack hempty h
      · next quoted ht =>
        have hquoted := skipSpace_cons_length ht
        split at h
        · cases h
        · next key rest hk =>
          have hrest := readKey_length hk
          refine keysIncrease_of_readValue ?_ h
          exact List.forall_mem_cons.mpr ⟨⟨List.Pairwise.nil, trivial⟩, hstack⟩
      · cases h
  · split at h
    · cases h
    · next value rest hr =>
      have hscalar := skipSpace_length s
      have hrest := readScalar_length hr
      exact keysIncrease_of_resume hstack (everywhere_of_readScalar hr) h
termination_by s.length
decreasing_by all_goals omega

/-- A finished value goes into what is open, whose keys stay in order. -/
theorem keysIncrease_of_resume {limit : Option Nat} {stack : List Frame} {value : Json}
    {s : List Char} {j : Json} (hstack : ∀ frame ∈ stack, frame.KeysIncrease)
    (hvalue : value.Everywhere KeysIncrease) (h : resume limit stack value s = .ok j) :
    j.Everywhere KeysIncrease := by
  match stack, hstack with
  | [], _ =>
    rw [resume] at h
    split at h
    · cases h
      exact hvalue
    · cases h
  | .items done :: outer, hstack =>
    obtain ⟨hdone, houter⟩ := List.forall_mem_cons.mp hstack
    rw [resume] at h
    split at h
    · cases h
    · next rest hs =>
      have hrest := skipSpace_cons_length hs
      have hitems : (Json.arr (done.reverse ++ [value])).Everywhere KeysIncrease := by
        refine ⟨trivial, everywhereItems_iff.mpr fun item hitem => ?_⟩
        rcases List.mem_append.mp hitem with hitem | hitem
        · exact hdone item (List.mem_reverse.mp hitem)
        · rw [List.mem_singleton.mp hitem]
          exact hvalue
      exact keysIncrease_of_resume houter hitems h
    · next rest hs =>
      have hrest := skipSpace_cons_length hs
      split at h
      · cases h
      · cases h
      · have hitem := skipSpace_length rest
        refine keysIncrease_of_readValue ?_ h
        exact List.forall_mem_cons.mpr ⟨List.forall_mem_cons.mpr ⟨hvalue, hdone⟩, houter⟩
    · cases h
  | .members done key :: outer, hstack =>
    obtain ⟨hdone, houter⟩ := List.forall_mem_cons.mp hstack
    have hmembers := everywhere_insertMember key hdone hvalue
    rw [resume] at h
    split at h
    · cases h
    · next rest hs =>
      have hrest := skipSpace_cons_length hs
      exact keysIncrease_of_resume houter hmembers h
    · next rest hs =>
      have hrest := skipSpace_cons_length hs
      split at h
      · cases h
      · cases h
      · next quoted ht =>
        have hquoted := skipSpace_cons_length ht
        split at h
        · cases h
        · next next after hk =>
          have hafter := readKey_length hk
          refine keysIncrease_of_readValue ?_ h
          exact List.forall_mem_cons.mpr ⟨hmembers, houter⟩
      · cases h
    · cases h
termination_by s.length
decreasing_by all_goals omega

end

/-- **What is read has its keys in order**, in every object within it. -/
theorem keysIncrease_of_readWithin {limit : Option Nat} {text : String} {j : Json}
    (h : readWithin limit text = .ok j) : j.Everywhere KeysIncrease :=
  keysIncrease_of_readValue (by simp) (readWithin_eq_ok.mp h)

end EditorBridge.Json
