import EditorBridge.Proofs.CodeActions.Layout

/-!
# Accounts of the slots

The groups that are collected beside the slots of a list own its empty slots, each group one of
them, in the order of the groups (`Slots.Accounted`).  Every offer that is added keeps these accounts
(`Slots.Accounted.add`), and so does every group that is collapsed into its slot
(`Slots.Accounted.collapseFirst`).  So each group finds its slot empty, and in the end no slot is
(`Slots.Accounted.filledOnce`).

Main statement: the accounts are in order after each offer of a list, each group is then collapsed
once, and as many actions are shown as there are offers without a tag and different tags
(`groupOffers_accounted`).
-/

namespace EditorBridge

namespace Slots

/-- The groups own the empty slots, and each of them has something to show. -/
structure Accounted (s : Slots) : Prop where
  /-- The slots of the groups increase in the order of the groups, so no two have the same slot. -/
  increasing : (s.groups.map TagGroup.slot).Pairwise (· < ·)
  /-- They are the slots that are there and empty. -/
  mem_iff_empty : ∀ i, i ∈ s.groups.map TagGroup.slot ↔ s.shown[i]? = some none
  /-- Each group has a member. -/
  members_ne_nil : ∀ g ∈ s.groups, g.members ≠ []
  /-- Each member runs a command with one argument. -/
  one_argument : ∀ g ∈ s.groups, ∀ a ∈ g.members, ∃ command argument,
    a.command = some command ∧ command.arguments = some [argument]

/-- The slots when the first `k` groups have been collapsed into theirs, and the groups that are
left. -/
def afterCollapsing (s : Slots) (k : Nat) : Slots :=
  ⟨fill ⟨s.shown, s.groups.take k⟩, s.groups.drop k⟩

/-- The groups are collapsed one by one, each into a slot of its own. -/
structure FilledOnce (s : Slots) : Prop where
  /-- Each group finds its slot there and empty, and leaves an action in it; so no slot is filled
  that is not there, and none is filled twice. -/
  collapse : ∀ k g, s.groups[k]? = some g →
    (s.afterCollapsing k).shown[g.slot]? = some none ∧
      ∃ a, (s.afterCollapsing (k + 1)).shown = (s.afterCollapsing k).shown.set g.slot (some a)
  /-- When all are collapsed, no slot is empty. -/
  none_notMem_fill : none ∉ s.fill
  /-- What a member is listed with in its group is the argument of its own command. -/
  listed : ∀ g ∈ s.groups, ∀ a ∈ g.members, a.firstArgument? = some a.groupEntry.arguments

variable {s : Slots}

/-! ### Adding offers -/

/-- A slot at the end is empty or it is not; the others stay as they are. -/
theorem getElem?_concat_eq_some_none_iff {shown : List (Option DisplayAction)}
    {last : Option DisplayAction} {i : Nat} :
    (shown ++ [last])[i]? = some none ↔
      shown[i]? = some none ∨ i = shown.length ∧ last = none := by
  rcases Nat.lt_trichotomy i shown.length with hlt | rfl | hgt
  · rw [List.getElem?_append_left hlt]
    exact (or_iff_left fun h => Nat.ne_of_lt hlt h.1).symm
  · simp
  · have hbehind : (shown ++ [last])[i]? = none := by
      rw [List.getElem?_eq_none_iff, List.length_append, List.length_singleton]
      omega
    have hnot : shown[i]? = none := List.getElem?_eq_none_iff.mpr (Nat.le_of_lt hgt)
    simp [hbehind, hnot, Nat.ne_of_gt hgt]

theorem map_slot_addMember (tag : String) (a : DisplayAction) (groups : List TagGroup) :
    (addMember tag a groups).map TagGroup.slot = groups.map TagGroup.slot := by
  induction groups with
  | nil => rfl
  | cons g rest ih =>
    rw [addMember]
    split
    · rfl
    · rw [List.map_cons, List.map_cons, ih]

/-- A group is as it was, or it has one more member. -/
theorem of_mem_addMember {tag : String} {a : DisplayAction} {groups : List TagGroup}
    {g : TagGroup} (h : g ∈ addMember tag a groups) :
    g ∈ groups ∨ ∃ old ∈ groups, g = { old with members := old.members ++ [a] } := by
  induction groups with
  | nil => exact absurd h List.not_mem_nil
  | cons first rest ih =>
    rw [addMember] at h
    split at h
    · rcases List.mem_cons.mp h with rfl | hrest
      · exact .inr ⟨first, List.mem_cons_self, rfl⟩
      · exact .inl (List.mem_cons_of_mem _ hrest)
    · rcases List.mem_cons.mp h with rfl | hrest
      · exact .inl List.mem_cons_self
      · rcases ih hrest with hold | ⟨old, hold, rfl⟩
        · exact .inl (List.mem_cons_of_mem _ hold)
        · exact .inr ⟨old, List.mem_cons_of_mem _ hold, rfl⟩

namespace Accounted

theorem empty : Slots.empty.Accounted where
  increasing := .nil
  mem_iff_empty _ := by simp [Slots.empty]
  members_ne_nil _ h := absurd h List.not_mem_nil
  one_argument _ h := absurd h List.not_mem_nil

theorem slot_lt (h : s.Accounted) {g : TagGroup} (hg : g ∈ s.groups) :
    g.slot < s.shown.length := by
  have hempty := (h.mem_iff_empty g.slot).mp (List.mem_map_of_mem hg)
  exact (List.getElem?_eq_some_iff.mp hempty).1

/-- A slot with an action is nobody's. -/
theorem push (h : s.Accounted) (a : DisplayAction) : (s.push a).Accounted where
  increasing := h.increasing
  mem_iff_empty i := by
    rw [Slots.push, getElem?_concat_eq_some_none_iff, ← h.mem_iff_empty]
    simp
  members_ne_nil := h.members_ne_nil
  one_argument := h.one_argument

section

variable {a : DisplayAction} {command : Command} {argument : Json}

/-- A group with one more member has the slot that it had. -/
theorem join (h : s.Accounted) (hcommand : a.command = some command)
    (hargument : command.arguments = some [argument]) (tag : String) :
    Accounted { s with groups := addMember tag a s.groups } where
  increasing := by
    rw [map_slot_addMember]
    exact h.increasing
  mem_iff_empty i := by
    rw [map_slot_addMember]
    exact h.mem_iff_empty i
  members_ne_nil g hg := by
    rcases of_mem_addMember hg with hold | ⟨old, -, rfl⟩
    · exact h.members_ne_nil g hold
    · simp
  one_argument g hg b hb := by
    rcases of_mem_addMember hg with hold | ⟨old, hold, rfl⟩
    · exact h.one_argument g hold b hb
    · rcases List.mem_append.mp hb with hb | hb
      · exact h.one_argument old hold b hb
      · rw [List.mem_singleton.mp hb]
        exact ⟨command, argument, hcommand, hargument⟩

/-- A new group owns a new slot, behind all others. -/
theorem reserve (h : s.Accounted) (hcommand : a.command = some command)
    (hargument : command.arguments = some [argument]) (tag : String) :
    Accounted ⟨s.shown ++ [none], s.groups ++ [⟨tag, s.shown.length, [a]⟩]⟩ where
  increasing := by
    rw [List.map_append, List.pairwise_append]
    refine ⟨h.increasing, List.pairwise_singleton _ _, fun i hi j hj => ?_⟩
    obtain ⟨g, hg, rfl⟩ := List.mem_map.mp hi
    rw [List.mem_singleton.mp hj]
    exact h.slot_lt hg
  mem_iff_empty i := by
    rw [getElem?_concat_eq_some_none_iff, ← h.mem_iff_empty, List.map_append, List.mem_append]
    simp
  members_ne_nil g hg := by
    rcases List.mem_append.mp hg with hold | hnew
    · exact h.members_ne_nil g hold
    · rw [List.mem_singleton.mp hnew]
      exact List.cons_ne_nil a []
  one_argument g hg b hb := by
    rcases List.mem_append.mp hg with hold | hnew
    · exact h.one_argument g hold b hb
    · rw [List.mem_singleton.mp hnew] at hb
      rw [List.mem_singleton.mp hb]
      exact ⟨command, argument, hcommand, hargument⟩

end

variable (params : CodeActionParams)

/-- One offer more: the accounts stay in order. -/
theorem add (h : s.Accounted) (x : Offer) : (s.add params x).Accounted := by
  cases htag : x.tag? with
  | none =>
    rw [add_of_untagged params htag]
    exact h.push _
  | some tag =>
    obtain ⟨a, rfl, hgroup⟩ := eq_deferred_of_tag? htag
    rw [add_of_tagged params hgroup, pushTagged]
    split
    · exact h.join rfl rfl tag
    · exact h.reserve rfl rfl tag

/-- The accounts of a list are in order. -/
theorem ofOffers (offers : List Offer) : (Slots.ofOffers params offers).Accounted := by
  induction offers using List.reverseRecOn with
  | nil => exact empty
  | append_singleton offers x ih =>
    have hlast : Slots.ofOffers params (offers ++ [x]) =
        (Slots.ofOffers params offers).add params x := List.foldl_append
    rw [hlast]
    exact ih.add params x

end Accounted

example (params : CodeActionParams) :
    (Slots.ofOffers params [.deferred ⟨"A", none, none, some "g", .null⟩,
        .deferred ⟨"B", none, none, none, .null⟩, .deferred ⟨"C", none, none, some "h", .null⟩,
        .deferred ⟨"D", none, none, some "g", .null⟩]).groups.map
      (fun g => (g.tag, g.slot, g.members.length)) = [("g", 0, 2), ("h", 2, 1)] :=
  rfl

/-! ### Collapsing groups -/

theorem exists_collapse?_eq (tag : String) {members : List DisplayAction} (h : members ≠ []) :
    ∃ a, DisplayAction.collapse? tag members = some a := by
  match members with
  | [] => exact absurd rfl h
  | [single] => exact ⟨single, rfl⟩
  | first :: second :: rest => exact ⟨_, rfl⟩

theorem length_fill (s : Slots) : s.fill.length = s.shown.length := by
  obtain ⟨shown, groups⟩ := s
  induction groups generalizing shown with
  | nil => rfl
  | cons g rest ih => exact (ih _).trans List.length_set

theorem afterCollapsing_length (s : Slots) :
    s.afterCollapsing s.groups.length = ⟨s.fill, []⟩ := by
  rw [afterCollapsing, List.take_length, List.drop_length]

/-- The next group is the first of those that are left. -/
theorem afterCollapsing_eq_cons {k : Nat} {g : TagGroup} (h : s.groups[k]? = some g) :
    s.afterCollapsing k = ⟨(s.afterCollapsing k).shown, g :: s.groups.drop (k + 1)⟩ := by
  obtain ⟨hlt, hget⟩ := List.getElem?_eq_some_iff.mp h
  rw [afterCollapsing, List.drop_eq_getElem_cons hlt, hget]

theorem afterCollapsing_succ {k : Nat} {g : TagGroup} (h : s.groups[k]? = some g) :
    s.afterCollapsing (k + 1) =
      ⟨(s.afterCollapsing k).shown.set g.slot (DisplayAction.collapse? g.tag g.members),
        s.groups.drop (k + 1)⟩ := by
  rw [afterCollapsing, afterCollapsing, List.take_add_one, h, fill, fill, List.foldl_append]
  rfl

namespace Accounted

/-- The first group, collapsed into its slot, owns nothing any more. -/
theorem collapseFirst {shown : List (Option DisplayAction)} {g : TagGroup} {rest : List TagGroup}
    (h : Accounted ⟨shown, g :: rest⟩) :
    Accounted ⟨shown.set g.slot (DisplayAction.collapse? g.tag g.members), rest⟩ where
  increasing := (List.pairwise_cons.mp h.increasing).2
  mem_iff_empty i := by
    obtain ⟨a, ha⟩ := exists_collapse?_eq g.tag (h.members_ne_nil g List.mem_cons_self)
    have hown := h.mem_iff_empty i
    rw [List.map_cons, List.mem_cons] at hown
    by_cases hi : i = g.slot
    · -- The slots of the others are behind this one.
      have hbehind : i ∉ rest.map TagGroup.slot := by
        intro hmem
        have hlt := (List.pairwise_cons.mp h.increasing).1 i hmem
        omega
      have hlt : g.slot < shown.length := h.slot_lt List.mem_cons_self
      refine iff_of_false hbehind ?_
      rw [hi, ha, List.getElem?_set_self hlt]
      simp
    · rw [List.getElem?_set_ne (Ne.symm hi), ← hown, or_iff_right hi]
  members_ne_nil b hb := h.members_ne_nil b (List.mem_cons_of_mem _ hb)
  one_argument b hb := h.one_argument b (List.mem_cons_of_mem _ hb)

/-- The groups that are left own the slots that are still empty. -/
theorem afterCollapsing (h : s.Accounted) (k : Nat) : (s.afterCollapsing k).Accounted := by
  induction k with
  | zero => exact h
  | succ k ih =>
    cases hk : s.groups[k]? with
    | none =>
      have hlength : s.groups.length ≤ k := List.getElem?_eq_none_iff.mp hk
      have hsame : s.afterCollapsing (k + 1) = s.afterCollapsing k := by
        rw [Slots.afterCollapsing, Slots.afterCollapsing, List.take_of_length_le hlength,
          List.take_of_length_le (Nat.le_succ_of_le hlength), List.drop_of_length_le hlength,
          List.drop_of_length_le (Nat.le_succ_of_le hlength)]
      rw [hsame]
      exact ih
    | some g =>
      rw [afterCollapsing_eq_cons hk] at ih
      rw [afterCollapsing_succ hk]
      exact ih.collapseFirst

/-- Where the accounts are in order, each group is collapsed once. -/
theorem filledOnce (h : s.Accounted) : s.FilledOnce where
  collapse k g hk := by
    have hnext := h.afterCollapsing k
    rw [afterCollapsing_eq_cons hk] at hnext
    obtain ⟨a, ha⟩ := exists_collapse?_eq g.tag (h.members_ne_nil g (List.mem_of_getElem? hk))
    refine ⟨(hnext.mem_iff_empty g.slot).mp List.mem_cons_self, a, ?_⟩
    rw [afterCollapsing_succ hk, ha]
  none_notMem_fill := by
    intro hnone
    obtain ⟨i, hi⟩ := List.getElem?_of_mem hnone
    have hend := h.afterCollapsing s.groups.length
    rw [afterCollapsing_length] at hend
    exact absurd ((hend.mem_iff_empty i).mpr hi) List.not_mem_nil
  listed g hg a ha := by
    obtain ⟨command, argument, hcommand, hargument⟩ := h.one_argument g hg a ha
    have hfirst : a.firstArgument? = some argument := by
      rw [DisplayAction.firstArgument?, hcommand, Option.bind_some, Command.firstArgument?,
        hargument]
      rfl
    rw [DisplayAction.groupEntry, hfirst]
    rfl

/-- Every slot is shown in the end. -/
theorem length_actions (h : s.Accounted) : s.actions.length = s.shown.length := by
  have hall : ∀ slot ∈ s.fill, (id slot).isSome := by
    intro slot hslot
    cases slot with
    | none => exact absurd hslot h.filledOnce.none_notMem_fill
    | some a => rfl
  rw [actions, List.filterMap_length_eq_length.mpr hall, length_fill]

end Accounted

/-! ### How many actions are shown -/

/-- There is a slot for each offer without a tag and one for each group. -/
theorem length_shown (params : CodeActionParams) (offers : List Offer) :
    (ofOffers params offers).shown.length =
      offers.countP (fun x => x.tag?.isNone) + groupCount params offers := by
  rw [groupCount, ofOffers]
  induction offers using List.reverseRecOn with
  | nil => rfl
  | append_singleton offers x ih =>
    rw [List.foldl_append, List.foldl_cons, List.foldl_nil, List.countP_append]
    generalize offers.foldl (add params) Slots.empty = s at ih
    cases htag : x.tag? with
    | none =>
      rw [add_of_untagged params htag]
      simp [Slots.push, htag, ih, Nat.add_right_comm]
    | some tag =>
      obtain ⟨a, rfl, hgroup⟩ := eq_deferred_of_tag? htag
      rw [add_of_tagged params hgroup, pushTagged]
      split
      · have hgroups := congrArg List.length
          (map_slot_addMember tag (a.display params) s.groups)
        rw [List.length_map, List.length_map] at hgroups
        simp [htag, ih, hgroups]
      · simp [htag, ih, Nat.add_assoc]

end Slots

/-- **Slot accounting.**  After each offer of a list the groups own the empty slots, each one of
them, and have members with one argument.  So in the end each group is collapsed into a slot that is
there and empty, no slot stays empty, and each member is listed with its own argument.  The actions
that are shown are as many as the offers without a tag and the different tags. -/
theorem groupOffers_accounted (params : CodeActionParams) (offers : List Offer) :
    (∀ k, (Slots.ofOffers params (offers.take k)).Accounted) ∧
    (Slots.ofOffers params offers).FilledOnce ∧
    (groupOffers params offers).length =
      offers.countP (fun x => x.tag?.isNone) + (offers.filterMap Offer.tag?).dedup.length := by
  have haccounts := Slots.Accounted.ofOffers params offers
  refine ⟨fun k => Slots.Accounted.ofOffers params _, haccounts.filledOnce, ?_⟩
  rw [groupOffers, haccounts.length_actions, Slots.length_shown, groupCount_eq]

end EditorBridge
