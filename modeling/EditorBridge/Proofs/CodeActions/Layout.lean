import EditorBridge.CodeActions.Grouping
import Mathlib.Data.List.Dedup
import Mathlib.Data.List.Induction
import Mathlib.Data.List.Nodup

/-!
# The layout of a grouped list

`layout params offers` is the list of the places that a server's list is given, in their order:
one for an action that is shown as it is, and one that is reserved for each tag, where the tag
occurs first.  It is said position by position, from what stands before.

Main statements: the slots that are built in one walk are those of the layout, with the members of
each tag collected beside them (`add_layoutSlots` for one offer, `ofOffers_eq` for a list); and what
is shown in the end is the layout with each reserved place filled by the collapsed members of its
tag (`groupOffers_eq_layout`).
-/

namespace EditorBridge

/-! ### Tags -/

/-- The tag of an offer. -/
def Offer.tag? : Offer → Option String
  | .deferred a => a.group
  | _ => none

/-- The deferred action of an offer, if it has the tag. -/
def Offer.withTag? (tag : String) : Offer → Option DeferredAction
  | .deferred a => if a.group = some tag then some a else none
  | _ => none

/-- The deferred actions with a tag, in the order of the list. -/
def tagged (tag : String) (offers : List Offer) : List DeferredAction :=
  offers.filterMap (Offer.withTag? tag)

/-- Whether a tag occurs among the offers. -/
def Occurs (tag : String) (offers : List Offer) : Prop :=
  some tag ∈ offers.map Offer.tag?

instance (tag : String) (offers : List Offer) : Decidable (Occurs tag offers) :=
  inferInstanceAs (Decidable (_ ∈ _))

variable {tag : String} {offers : List Offer}

@[simp] theorem tagged_append (tag : String) (xs ys : List Offer) :
    tagged tag (xs ++ ys) = tagged tag xs ++ tagged tag ys :=
  List.filterMap_append

@[simp] theorem occurs_append {xs ys : List Offer} :
    Occurs tag (xs ++ ys) ↔ Occurs tag xs ∨ Occurs tag ys := by
  rw [Occurs, List.map_append, List.mem_append]
  rfl

@[simp] theorem occurs_singleton {x : Offer} : Occurs tag [x] ↔ x.tag? = some tag := by
  rw [Occurs, List.map_singleton, List.mem_singleton, eq_comm]

/-- Only deferred actions have tags. -/
theorem eq_deferred_of_tag? {x : Offer} (h : x.tag? = some tag) :
    ∃ a, x = .deferred a ∧ a.group = some tag := by
  cases x with
  | deferred a => exact ⟨a, rfl, h⟩
  | action => cases h
  | command => cases h

theorem tagged_singleton_of_tag?_ne {x : Offer} (h : x.tag? ≠ some tag) : tagged tag [x] = [] := by
  cases x with
  | deferred a =>
    have hnone : Offer.withTag? tag (.deferred a) = none := if_neg h
    rw [tagged, List.filterMap_cons, hnone]
    rfl
  | action => rfl
  | command => rfl

@[simp] theorem tagged_singleton_deferred {a : DeferredAction} (h : a.group = some tag) :
    tagged tag [.deferred a] = [a] := by
  rw [tagged, List.filterMap_cons, Offer.withTag?, if_pos h]
  rfl

theorem tagged_eq_nil (h : ¬ Occurs tag offers) : tagged tag offers = [] := by
  induction offers using List.reverseRecOn with
  | nil => rfl
  | append_singleton xs x ih =>
    rw [occurs_append, occurs_singleton, not_or] at h
    rw [tagged_append, ih h.1, tagged_singleton_of_tag?_ne h.2, List.nil_append]

/-! ### Places -/

variable (params : CodeActionParams)

/-- An offer as it is shown on its own. -/
def Offer.alone : Offer → DisplayAction
  | .action a => .ofAction a
  | .command c => .ofCommand c
  | .deferred a => a.display params

/-- A place in the list that is shown: an action, or the place of a group. -/
inductive Place where
  | shown (action : DisplayAction)
  | reserved (tag : String)
deriving DecidableEq

/-- The action that has the place from the start. -/
def Place.action? : Place → Option DisplayAction
  | .shown action => some action
  | .reserved _ => none

/-- The tag that the place is reserved for. -/
def Place.tag? : Place → Option String
  | .shown _ => none
  | .reserved tag => some tag

/-- The place that an offer is given after the offers `before`. -/
def Offer.place? (before : List Offer) (x : Offer) : Option Place :=
  match x.tag? with
  | none => some (.shown (x.alone params))
  | some tag => if Occurs tag before then none else some (.reserved tag)

/-- The places of a list. -/
def layout (offers : List Offer) : List Place :=
  (List.range offers.length).filterMap fun i =>
    offers[i]?.bind (Offer.place? params (offers.take i))

/-- The reserved places with their indices, the first place having the index `start`. -/
def reservations (start : Nat) : List Place → List (String × Nat)
  | [] => []
  | .shown _ :: rest => reservations (start + 1) rest
  | .reserved tag :: rest => (tag, start) :: reservations (start + 1) rest

theorem reservations_append (start : Nat) (ps qs : List Place) :
    reservations start (ps ++ qs) =
      reservations start ps ++ reservations (start + ps.length) qs := by
  induction ps generalizing start with
  | nil => rfl
  | cons p ps ih =>
    have hstart : start + 1 + ps.length = start + (p :: ps).length := by
      rw [List.length_cons]; omega
    cases p with
    | shown a => rw [List.cons_append, reservations, ih, hstart]; rfl
    | reserved tag => rw [List.cons_append, reservations, ih, hstart]; rfl

theorem reservations_map_fst (start : Nat) (ps : List Place) :
    (reservations start ps).map Prod.fst = ps.filterMap Place.tag? := by
  induction ps generalizing start with
  | nil => rfl
  | cons p ps ih =>
    cases p with
    | shown a => exact ih (start + 1)
    | reserved tag => exact congrArg (tag :: ·) (ih (start + 1))

variable {params} {x : Offer} {xs : List Offer}

theorem place?_of_untagged (h : x.tag? = none) :
    x.place? params xs = some (.shown (x.alone params)) := by
  rw [Offer.place?, h]

theorem place?_of_occurs (h : x.tag? = some tag) (hseen : Occurs tag xs) :
    x.place? params xs = none := by
  rw [Offer.place?, h]
  exact if_pos hseen

theorem place?_of_not_occurs (h : x.tag? = some tag) (hnew : ¬ Occurs tag xs) :
    x.place? params xs = some (.reserved tag) := by
  rw [Offer.place?, h]
  exact if_neg hnew

variable (params)

/-- One more offer adds its place, if it is given one, at the end. -/
theorem layout_append_singleton (xs : List Offer) (x : Offer) :
    layout params (xs ++ [x]) = layout params xs ++ (x.place? params xs).toList := by
  rw [layout, List.length_append, List.length_singleton, List.range_succ, List.filterMap_append]
  congr 1
  · refine List.filterMap_congr fun i hi => ?_
    have hi' : i < xs.length := List.mem_range.mp hi
    rw [List.getElem?_append_left hi', List.take_append_of_le_length (Nat.le_of_lt hi')]
  · simp only [List.filterMap_cons, List.filterMap_nil, List.getElem?_concat_length,
      List.take_left', Option.bind_some]
    cases x.place? params xs <;> rfl

/-! ### Reserved tags -/

/-- A place is reserved for exactly the tags that occur. -/
theorem mem_tags_layout : tag ∈ (layout params xs).filterMap Place.tag? ↔ Occurs tag xs := by
  induction xs using List.reverseRecOn with
  | nil => simp [layout, Occurs]
  | append_singleton xs x ih =>
    rw [layout_append_singleton, List.filterMap_append, List.mem_append, ih, occurs_append,
      occurs_singleton]
    cases htag : x.tag? with
    | none => simp [place?_of_untagged htag, Place.tag?]
    | some t =>
      by_cases hseen : Occurs t xs
      · -- The offer is given no place, and its tag has one.
        have hold : some t = some tag → Occurs tag xs := by
          rintro ⟨⟩
          exact hseen
        simpa [place?_of_occurs htag hseen] using hold
      · simp [place?_of_not_occurs htag hseen, Place.tag?, eq_comm]

/-- No tag has two places. -/
theorem nodup_tags_layout (xs : List Offer) :
    ((layout params xs).filterMap Place.tag?).Nodup := by
  induction xs using List.reverseRecOn with
  | nil => exact List.nodup_nil
  | append_singleton xs x ih =>
    rw [layout_append_singleton, List.filterMap_append]
    cases htag : x.tag? with
    | none =>
      rw [place?_of_untagged htag]
      exact (List.append_nil _).symm ▸ ih
    | some t =>
      by_cases hseen : Occurs t xs
      · rw [place?_of_occurs htag hseen]
        simpa using ih
      · rw [place?_of_not_occurs htag hseen]
        have hfresh : t ∉ (layout params xs).filterMap Place.tag? := by
          rwa [mem_tags_layout]
        have hsnoc := ih.concat hfresh
        rwa [List.concat_eq_append] at hsnoc

/-! ### The slots of a list -/

/-- The group that is collected for a reserved place. -/
def reservedGroup (xs : List Offer) (r : String × Nat) : TagGroup :=
  ⟨r.1, r.2, (tagged r.1 xs).map (DeferredAction.display params)⟩

@[simp] theorem reservedGroup_tag (r : String × Nat) : (reservedGroup params xs r).tag = r.1 :=
  rfl

/-- An offer leaves the group of another tag as it was. -/
theorem reservedGroup_append {r : String × Nat} (h : x.tag? ≠ some r.1) :
    reservedGroup params (xs ++ [x]) r = reservedGroup params xs r := by
  rw [reservedGroup, tagged_append, tagged_singleton_of_tag?_ne h, List.append_nil]
  rfl

theorem map_reservedGroup_append {rs : List (String × Nat)}
    (h : ∀ r ∈ rs, x.tag? ≠ some r.1) :
    rs.map (reservedGroup params (xs ++ [x])) = rs.map (reservedGroup params xs) :=
  List.map_congr_left fun r hr => reservedGroup_append params (h r hr)

/-- A new member goes to the group of its tag alone. -/
theorem addMember_eq_map {a : DeferredAction} (hgroup : a.group = some tag)
    {rs : List (String × Nat)} (hnodup : (rs.map Prod.fst).Nodup) :
    Slots.addMember tag (a.display params) (rs.map (reservedGroup params xs)) =
      rs.map (reservedGroup params (xs ++ [.deferred a])) := by
  induction rs with
  | nil => rfl
  | cons r rs ih =>
    obtain ⟨hr, hrs⟩ := List.nodup_cons.mp hnodup
    rw [List.map_cons, List.map_cons, Slots.addMember, reservedGroup_tag]
    by_cases htag : r.1 = tag
    · -- The tags of the groups after it are others.
      have hrest : ∀ r' ∈ rs, Offer.tag? (.deferred a) ≠ some r'.1 := by
        intro r' hr' hother
        have hsame : r.1 = r'.1 := by
          rw [htag]
          exact Option.some.inj (hgroup.symm.trans hother)
        exact hr (hsame ▸ List.mem_map_of_mem hr')
      rw [if_pos htag, map_reservedGroup_append params hrest, reservedGroup, reservedGroup, htag,
        tagged_append, tagged_singleton_deferred hgroup, List.map_append]
      rfl
    · have hother : Offer.tag? (.deferred a) ≠ some r.1 := by
        intro h
        exact htag (Option.some.inj (h.symm.trans hgroup))
      rw [if_neg htag, ih hrs, reservedGroup_append params hother]

/-- The slots that a list has by its layout. -/
def layoutSlots (xs : List Offer) : Slots :=
  ⟨(layout params xs).map Place.action?,
    (reservations 0 (layout params xs)).map (reservedGroup params xs)⟩

theorem mem_reservations_iff :
    tag ∈ (reservations 0 (layout params xs)).map Prod.fst ↔ Occurs tag xs := by
  rw [reservations_map_fst, mem_tags_layout]

theorem hasTag_layoutSlots_iff : (layoutSlots params xs).hasTag tag = true ↔ Occurs tag xs := by
  rw [← mem_reservations_iff params, Slots.hasTag, List.any_eq_true]
  constructor
  · rintro ⟨g, hg, htag⟩
    obtain ⟨r, hr, rfl⟩ := List.mem_map.mp hg
    exact List.mem_map.mpr ⟨r, hr, of_decide_eq_true htag⟩
  · intro h
    obtain ⟨r, hr, rfl⟩ := List.mem_map.mp h
    exact ⟨_, List.mem_map_of_mem hr, decide_eq_true rfl⟩

theorem add_of_untagged (h : x.tag? = none) (s : Slots) :
    s.add params x = s.push (x.alone params) := by
  cases x with
  | action a => rfl
  | command c => rfl
  | deferred a =>
    have hgroup : a.group = none := h
    rw [Slots.add, hgroup]
    rfl

theorem add_of_tagged {a : DeferredAction} (h : a.group = some tag) (s : Slots) :
    s.add params (.deferred a) = s.pushTagged tag (a.display params) := by
  rw [Slots.add, h]

/-- Adding an offer to the slots of a list gives those of the longer list. -/
theorem add_layoutSlots (x : Offer) :
    (layoutSlots params xs).add params x = layoutSlots params (xs ++ [x]) := by
  rw [layoutSlots.eq_def params (xs ++ [x]), layout_append_singleton, List.map_append,
    reservations_append, List.map_append]
  cases htag : x.tag? with
  | none =>
    have hother : ∀ r ∈ reservations 0 (layout params xs), x.tag? ≠ some r.1 := by
      simp [htag]
    rw [add_of_untagged params htag, place?_of_untagged htag,
      map_reservedGroup_append params hother]
    simp [Slots.push, layoutSlots, reservations, Place.action?]
  | some t =>
    obtain ⟨a, rfl, hgroup⟩ := eq_deferred_of_tag? htag
    rw [add_of_tagged params hgroup, Slots.pushTagged]
    by_cases hseen : Occurs t xs
    · rw [if_pos ((hasTag_layoutSlots_iff params).mpr hseen), place?_of_occurs htag hseen]
      have hnodup : ((reservations 0 (layout params xs)).map Prod.fst).Nodup := by
        rw [reservations_map_fst]
        exact nodup_tags_layout params xs
      simp [layoutSlots, addMember_eq_map params hgroup hnodup, reservations]
    · -- The tag is new, so no group that is there has it.
      have hother : ∀ r ∈ reservations 0 (layout params xs),
          Offer.tag? (.deferred a) ≠ some r.1 := by
        intro r hr heq
        have hname : t = r.1 := Option.some.inj (htag.symm.trans heq)
        rw [hname, ← mem_reservations_iff params] at hseen
        exact hseen (List.mem_map_of_mem hr)
      rw [if_neg fun h => hseen <| (hasTag_layoutSlots_iff params).mp h,
        place?_of_not_occurs htag hseen, map_reservedGroup_append params hother]
      simp [layoutSlots, reservations, Place.action?, reservedGroup, tagged_eq_nil hseen,
        tagged_singleton_deferred hgroup]

/-- The slots of a list are those of its layout, with the members of each reserved tag. -/
theorem ofOffers_eq (xs : List Offer) : Slots.ofOffers params xs = layoutSlots params xs := by
  induction xs using List.reverseRecOn with
  | nil => rfl
  | append_singleton xs x ih =>
    calc Slots.ofOffers params (xs ++ [x])
        = (Slots.ofOffers params xs).add params x := List.foldl_append
      _ = layoutSlots params (xs ++ [x]) := by rw [ih, add_layoutSlots]

/-- There is one group for each tag that occurs, also for a tag that occurs only once. -/
theorem groupCount_eq (xs : List Offer) :
    groupCount params xs = (xs.filterMap Offer.tag?).dedup.length := by
  have hmem (tag : String) : tag ∈ (layout params xs).filterMap Place.tag? ↔
      tag ∈ (xs.filterMap Offer.tag?).dedup := by
    rw [mem_tags_layout, Occurs, List.mem_dedup, List.mem_map, List.mem_filterMap]
  have hperm := (List.perm_ext_iff_of_nodup (nodup_tags_layout params xs)
    (List.nodup_dedup _)).mpr hmem
  rw [groupCount, ofOffers_eq, layoutSlots, List.length_map, ← hperm.length_eq,
    ← reservations_map_fst 0, List.length_map]

/-! ### Filling the slots -/

/-- What a place holds in the end, when `collapsed` gives the action of each tag. -/
def Place.filled? (collapsed : String → Option DisplayAction) : Place → Option DisplayAction
  | .shown action => some action
  | .reserved tag => collapsed tag

/-- Each reserved place is filled with what its tag collapses to. -/
theorem foldl_set_reservations (collapsed : String → Option DisplayAction)
    (before : List (Option DisplayAction)) (ps : List Place) :
    (reservations before.length ps).foldl (fun shown r => shown.set r.2 (collapsed r.1))
        (before ++ ps.map Place.action?) =
      before ++ ps.map (Place.filled? collapsed) := by
  -- By induction on the places, with what stands before the first of them already filled.
  induction ps generalizing before with
  | nil => rfl
  | cons p ps ih =>
    have hnext (a : Option DisplayAction) := ih (before ++ [a])
    simp only [List.length_append, List.length_singleton, List.append_assoc,
      List.singleton_append] at hnext
    cases p with
    | shown a => exact hnext (some a)
    | reserved tag =>
      have hset : (before ++ none :: ps.map Place.action?).set before.length (collapsed tag) =
          before ++ collapsed tag :: ps.map Place.action? := by
        rw [List.set_append_right _ _ (Nat.le_refl _), Nat.sub_self, List.set_cons_zero]
      rw [reservations, List.foldl_cons, List.map_cons, Place.action?, hset]
      exact hnext (collapsed tag)

/-- What is shown is the layout, with what each reserved tag collapses to in its place. -/
theorem groupOffers_eq_layout (xs : List Offer) :
    groupOffers params xs =
      (layout params xs).filterMap (Place.filled? fun tag =>
        DisplayAction.collapse? tag ((tagged tag xs).map (DeferredAction.display params))) := by
  rw [groupOffers, ofOffers_eq, Slots.actions, Slots.fill, layoutSlots, List.foldl_map]
  have hfill := foldl_set_reservations (fun tag =>
    DisplayAction.collapse? tag ((tagged tag xs).map (DeferredAction.display params))) []
    (layout params xs)
  rw [List.nil_append, List.nil_append] at hfill
  rw [← Function.id_comp (Place.filled? _), ← List.filterMap_map]
  exact congrArg _ hfill

end EditorBridge
