import EditorBridge.Proofs.Json.KeyOrder
import EditorBridge.Proofs.Protocol.Records

/-!
# Places within a value

A place is reached by steps, each to a member of an object or to an item of an array (`Json.at?`).
`Json.setAt` sets the value at a place that is given by keys alone; it changes nothing at any place
that lies apart from it (`at?_setAt_of_apart`).

Main statement: a record that is written with another value for one of its fields is the record with
that value set (`record_set`).  It rests on two laws of adding members: of two members with one key
the later counts (`insertMember_insertMember_self`), and two with different keys can be added in
either order (`insertMember_comm`).
-/

namespace EditorBridge.Json

/-! ### Adding members -/

section Adding

variable {key name : String} {v w x : Json} {ms : List (String × Json)}

theorem insertMember_cons_of_lt (h : key < name) :
    insertMember key v ((name, x) :: ms) = (key, v) :: (name, x) :: ms := by
  rw [insertMember, if_pos h]

theorem insertMember_cons_self : insertMember key v ((key, x) :: ms) = (key, v) :: ms := by
  rw [insertMember, if_neg (String.lt_irrefl key), if_pos rfl]

theorem insertMember_cons_of_gt (h : name < key) :
    insertMember key v ((name, x) :: ms) = (name, x) :: insertMember key v ms := by
  have hne : key ≠ name := by
    rintro rfl
    exact String.lt_irrefl key h
  rw [insertMember, if_neg (String.lt_asymm h), if_neg hne]

theorem lt_or_eq_or_gt (key name : String) : key < name ∨ key = name ∨ name < key := by
  by_cases hlt : key < name
  · exact .inl hlt
  by_cases heq : key = name
  · exact .inr (.inl heq)
  · exact .inr (.inr (Std.lt_of_le_of_ne (String.not_lt.mp hlt) (Ne.symm heq)))

/-- Of two members with one key the later counts. -/
theorem insertMember_insertMember_self (key : String) (v w : Json) (ms : List (String × Json)) :
    insertMember key v (insertMember key w ms) = insertMember key v ms := by
  induction ms with
  | nil => exact insertMember_cons_self
  | cons m ms ih =>
    obtain ⟨name, x⟩ := m
    rcases lt_or_eq_or_gt key name with hlt | rfl | hgt
    · rw [insertMember_cons_of_lt hlt, insertMember_cons_self, insertMember_cons_of_lt hlt]
    · rw [insertMember_cons_self, insertMember_cons_self, insertMember_cons_self]
    · rw [insertMember_cons_of_gt hgt, insertMember_cons_of_gt hgt, insertMember_cons_of_gt hgt, ih]

theorem insertMember_comm_of_lt (h : key < name) (v w : Json) (ms : List (String × Json)) :
    insertMember key v (insertMember name w ms) = insertMember name w (insertMember key v ms) := by
  induction ms with
  | nil =>
    rw [insertMember, insertMember_cons_of_lt h, insertMember, insertMember_cons_of_gt h]
    rfl
  | cons m ms ih =>
    obtain ⟨k, x⟩ := m
    rcases lt_or_eq_or_gt key k with hlt | rfl | hgt
    · -- The first member comes after `key`, with or without `name` in front of it.
      rw [insertMember_cons_of_lt hlt, insertMember_cons_of_gt h]
      rcases lt_or_eq_or_gt name k with hname | rfl | hname
      · rw [insertMember_cons_of_lt hname, insertMember_cons_of_lt h]
      · rw [insertMember_cons_self, insertMember_cons_of_lt h]
      · rw [insertMember_cons_of_gt hname, insertMember_cons_of_lt hlt]
    · rw [insertMember_cons_self, insertMember_cons_of_gt h, insertMember_cons_of_gt h,
        insertMember_cons_self]
    · have hname : k < name := String.lt_trans hgt h
      rw [insertMember_cons_of_gt hname, insertMember_cons_of_gt hgt, insertMember_cons_of_gt hgt,
        insertMember_cons_of_gt hname, ih]

/-- Two members with different keys can be added in either order. -/
theorem insertMember_comm (h : key ≠ name) (v w : Json) (ms : List (String × Json)) :
    insertMember key v (insertMember name w ms) = insertMember name w (insertMember key v ms) := by
  rcases lt_or_eq_or_gt key name with hlt | heq | hgt
  · exact insertMember_comm_of_lt hlt v w ms
  · exact absurd heq h
  · exact (insertMember_comm_of_lt hgt w v ms).symm

/-- A member does not count if one with its key is added after it. -/
theorem foldl_insertMember_insertMember {added : List (String × Json)}
    (h : key ∈ added.map Prod.fst) (v : Json) (ms : List (String × Json)) :
    added.foldl (fun ms m => insertMember m.1 m.2 ms) (insertMember key v ms) =
      added.foldl (fun ms m => insertMember m.1 m.2 ms) ms := by
  induction added generalizing ms with
  | nil => cases h
  | cons m added ih =>
    obtain ⟨k, x⟩ := m
    rw [List.foldl_cons, List.foldl_cons]
    by_cases hk : k = key
    · subst hk
      rw [insertMember_insertMember_self]
    · have hlater : key ∈ added.map Prod.fst := by
        rcases List.mem_cons.mp h with rfl | hlater
        · exact absurd rfl hk
        · exact hlater
      rw [insertMember_comm hk, ih hlater]

/-- Members do not count if others with their keys are added after them. -/
theorem foldl_insertMember_foldl {first second : List (String × Json)}
    (h : ∀ m ∈ first, m.1 ∈ second.map Prod.fst) (ms : List (String × Json)) :
    second.foldl (fun ms m => insertMember m.1 m.2 ms)
        (first.foldl (fun ms m => insertMember m.1 m.2 ms) ms) =
      second.foldl (fun ms m => insertMember m.1 m.2 ms) ms := by
  induction first generalizing ms with
  | nil => rfl
  | cons m first ih =>
    obtain ⟨hm, hfirst⟩ := List.forall_mem_cons.mp h
    rw [List.foldl_cons, ih hfirst, foldl_insertMember_insertMember hm]

end Adding

/-- Members that are added one by one keep the order of the keys. -/
theorem keysIncrease_foldl_insertMember (added : List (String × Json))
    {members : List (String × Json)} (h : KeysIncrease (.obj members)) :
    KeysIncrease (.obj (added.foldl (fun ms m => insertMember m.1 m.2 ms) members)) := by
  induction added generalizing members with
  | nil => exact h
  | cons m added ih => exact ih (keysIncrease_insertMember m.1 m.2 h)

theorem keysIncrease_sortMembers (members : List (String × Json)) :
    KeysIncrease (.obj (sortMembers members)) :=
  keysIncrease_foldl_insertMember members List.Pairwise.nil

/-- No two members of a sorted object have the same key. -/
theorem nodup_sortMembers (members : List (String × Json)) :
    ((sortMembers members).map Prod.fst).Nodup := by
  have hkeys : ((sortMembers members).map Prod.fst).Pairwise (· < ·) :=
    keysIncrease_sortMembers members
  refine hkeys.imp ?_
  rintro k _ hlt rfl
  exact String.lt_irrefl k hlt

/-- What is added to an object counts, and the rest stays as it was. -/
theorem lookup_foldl_insertMember {added : List (String × Json)}
    (hnames : (added.map Prod.fst).Nodup) (members : List (String × Json)) (name : String) :
    (added.foldl (fun ms m => insertMember m.1 m.2 ms) members).lookup name =
      (added.lookup name).or (members.lookup name) := by
  induction added generalizing members with
  | nil => rfl
  | cons m added ih =>
    obtain ⟨key, value⟩ := m
    obtain ⟨hfresh, hrest⟩ := List.nodup_cons.mp hnames
    rw [List.foldl_cons, ih hrest]
    by_cases hname : name = key
    · subst hname
      -- No later member has the name, so the one that is added here stays.
      have hnone : added.lookup name = none := by
        rw [List.lookup_eq_none_iff]
        intro p hp
        have hmem : p.1 ∈ added.map Prod.fst := List.mem_map_of_mem hp
        exact bne_iff_ne.mpr fun heq => hfresh (heq ▸ hmem)
      rw [hnone, lookup_insertMember_self, List.lookup_cons_self]
      rfl
    · rw [lookup_insertMember_of_ne hname, lookup_cons_ne hname]

/-! ### Places -/

/-- A step into a value. -/
inductive Step where
  | member (key : String)
  | item (index : Nat)

/-- What a step leads to, if it leads anywhere. -/
def child? : Step → Json → Option Json
  | .member key, j => j.get? key
  | .item index, .arr items => items[index]?
  | .item _, _ => none

/-- The value at a place. -/
def at? : List Step → Json → Option Json
  | [], j => some j
  | step :: place, j => (j.child? step).bind (at? place)

/-- The place that keys lead to. -/
def placeOf (keys : List String) : List Step :=
  keys.map .member

/-- Two places, neither of which lies within the other. -/
def Apart (p q : List Step) : Prop :=
  ¬ p <+: q ∧ ¬ q <+: p

/-- The value with another value set at the place that keys lead to.  Only objects can be set
within. -/
def setAt : Json → List String → Json → Json
  | _, [], value => value
  | .obj members, key :: keys, value =>
    .obj (insertMember key (setAt ((members.lookup key).getD .null) keys value) members)
  | j, _ :: _, _ => j

/-- There is nothing within `null`. -/
theorem at?_null_cons (step : Step) (place : List Step) : Json.null.at? (step :: place) = none := by
  cases step <;> rfl

/-- Setting a value changes nothing at a place apart from it. -/
theorem at?_setAt_of_apart {keys : List String} {place : List Step}
    (h : Apart (placeOf keys) place) (j value : Json) :
    (j.setAt keys value).at? place = j.at? place := by
  induction keys generalizing place j with
  | nil => exact absurd List.nil_prefix h.1
  | cons key keys ih =>
    cases j with
    | obj members =>
      cases place with
      | nil => exact absurd List.nil_prefix h.2
      | cons step place =>
        cases step with
        | item index => rfl
        | member name =>
          rw [setAt, at?, at?]
          by_cases hname : name = key
          · subst hname
            have hinner : Apart (placeOf keys) place := by
              simpa [Apart, placeOf, List.cons_prefix_cons] using h
            rw [child?, child?, get?, get?, lookup_insertMember_self, Option.bind_some, ih hinner]
            cases hold : members.lookup name with
            | some old => rfl
            | none =>
              -- What is set in the place of nothing has nothing of the old value within.
              cases place with
              | nil => exact absurd List.nil_prefix hinner.2
              | cons step place => exact at?_null_cons step place
          · rw [child?, child?, get?, get?, lookup_insertMember_of_ne hname]
    | _ => rfl

/-! ### Records -/

/-- Every member of a record is written for one of its fields. -/
theorem mem_of_mem_members {fields : List (String × Option Json)} {name : String} {j : Json}
    (h : (name, j) ∈ members fields) : (name, some j) ∈ fields := by
  induction fields using List.reverseRecOn with
  | nil => cases h
  | append_singleton fields field ih =>
    obtain ⟨key, value⟩ := field
    rw [members_append_singleton] at h
    cases value with
    | none => exact List.mem_append_left _ (ih h)
    | some v =>
      rcases mem_insertMember h with heq | hbefore
      · cases heq
        exact List.mem_append_right _ List.mem_cons_self
      · exact List.mem_append_left _ (ih hbefore)

/-- A place within a record is a place within the value that is written for a field. -/
theorem at?_record {fields : List (String × Option Json)} (hnames : (fields.map Prod.fst).Nodup)
    {name : String} {value : Option Json} (hmem : (name, value) ∈ fields) (place : List Step) :
    (record fields).at? (.member name :: place) = value.bind (at? place) := by
  rw [at?, child?, get?_record hnames hmem]

/-- A record that is written with another value for one of its fields is the record with that member
added. -/
theorem members_set (before after : List (String × Option Json)) {name : String}
    (hname : name ∉ after.map Prod.fst) (old : Option Json) (value : Json) :
    members (before ++ (name, some value) :: after) =
      insertMember name value (members (before ++ (name, old) :: after)) := by
  induction after using List.reverseRecOn with
  | nil =>
    rw [members_append_singleton, members_append_singleton]
    cases old with
    | none => rfl
    | some j => exact (insertMember_insertMember_self name value j _).symm
  | append_singleton after field ih =>
    obtain ⟨key, x⟩ := field
    simp only [List.map_append, List.mem_append, not_or, List.map_cons, List.map_nil,
      List.mem_singleton] at hname
    -- The last field is added after the one that is set, under another name.
    rw [← List.cons_append, ← List.append_assoc, members_append_singleton, ← List.cons_append,
      ← List.append_assoc, members_append_singleton, ih hname.1]
    cases x with
    | none => rfl
    | some j => exact insertMember_comm (Ne.symm hname.2) j value _

/-- A record that is written with another value for one of its fields is the record with that value
set. -/
theorem record_set (before after : List (String × Option Json)) {name : String}
    (hname : name ∉ after.map Prod.fst) (old : Option Json) (value : Json) :
    record (before ++ (name, some value) :: after) =
      (record (before ++ (name, old) :: after)).setAt [name] value :=
  congrArg obj (members_set before after hname old value)

/-- What is set within the value of a field is set within the record. -/
theorem record_setAt (before after : List (String × Option Json)) {name : String} {inner : Json}
    (hnames : ((before ++ (name, some inner) :: after).map Prod.fst).Nodup) (keys : List String)
    (value : Json) :
    record (before ++ (name, some (inner.setAt keys value)) :: after) =
      (record (before ++ (name, some inner) :: after)).setAt (name :: keys) value := by
  have hinner : (members (before ++ (name, some inner) :: after)).lookup name = some inner :=
    lookup_members hnames (by simp)
  have hname : name ∉ after.map Prod.fst := by
    rw [List.map_append, List.nodup_append] at hnames
    exact (List.nodup_cons.mp hnames.2.1).1
  have hset : (record (before ++ (name, some inner) :: after)).setAt (name :: keys) value =
      .obj (insertMember name (inner.setAt keys value)
        (members (before ++ (name, some inner) :: after))) := by
    change obj (insertMember name (setAt ((List.lookup name (members _)).getD .null) _ _) _) = _
    rw [hinner]
    rfl
  rw [hset]
  exact congrArg obj (members_set before after hname (some inner) _)

end EditorBridge.Json
