import EditorBridge.Proofs.CodeActions.Layout

/-!
# What a grouped list shows

`contribution params offers i` says what the offer at the index `i` adds to the list that is shown,
by what stands before and after it: itself on its own, nothing, or the composite of all the deferred
actions with its tag.

Main statement: the list that is shown is that of the contributions, in the order of the offers
(`groupOffers_eq_contributions`).
-/

namespace EditorBridge

variable (params : CodeActionParams)

/-- The one action for several deferred actions with a tag: its command lets the user pick one by
its title, and comes with what is needed to resolve each of them. -/
def composite (tag : String) (kind : Option String) (members : List DeferredAction) :
    DisplayAction where
  title := tag
  kind := kind
  diagnostics := []
  edit := none
  command := some {
    title := tag
    command := applyGroupCommand
    arguments := some [.arr (members.map fun m =>
      .obj [("arguments", (m.resolveParams params).toJson), ("label", .str m.title)])] }

/-- What the offer at an index adds to the list that is shown.  A tag is taken up where it occurs
first. -/
def contribution (offers : List Offer) (i : Nat) : Option DisplayAction :=
  match offers[i]? with
  | none => none
  | some (.action a) => some (.ofAction a)
  | some (.command c) => some (.ofCommand c)
  | some (.deferred a) =>
    match a.group with
    | none => some (a.display params)
    | some tag =>
      if Occurs tag (offers.take i) then none
      else if Occurs tag (offers.drop (i + 1)) then
        some (composite params tag a.kind (tagged tag offers))
      else some (a.display params)

/-! ### Collapsing -/

theorem GroupEntry.toJson_eq (e : GroupEntry) :
    e.toJson = .obj [("arguments", e.arguments), ("label", .str e.label)] := by
  have horder : ¬ "label" < "arguments" ∧ "arguments" < "label" := by decide
  simp [GroupEntry.toJson, Json.record, Json.ofMembers, Json.sortMembers, Json.insertMember, horder]

/-- Two or more members collapse to their composite, of the kind of the first. -/
theorem collapse?_display (tag : String) (a b : DeferredAction) (rest : List DeferredAction) :
    DisplayAction.collapse? tag ((a :: b :: rest).map (DeferredAction.display params)) =
      some (composite params tag a.kind (a :: b :: rest)) := by
  have hentry (m : DeferredAction) : (m.display params).groupEntry.toJson =
      .obj [("arguments", (m.resolveParams params).toJson), ("label", .str m.title)] :=
    GroupEntry.toJson_eq _
  have hentries (ms : List DeferredAction) :
      Json.ofList GroupEntry.toJson
          ((ms.map (DeferredAction.display params)).map DisplayAction.groupEntry) =
        .arr (ms.map fun m =>
          .obj [("arguments", (m.resolveParams params).toJson), ("label", .str m.title)]) := by
    simp only [Json.ofList, List.map_map, Function.comp_def, hentry]
  rw [composite, ← hentries]
  rfl

variable {params}

/-- The members of a tag, from its first occurrence on. -/
theorem tagged_eq_cons {offers : List Offer} {i : Nat} {a : DeferredAction} {tag : String}
    (hi : offers[i]? = some (.deferred a)) (hgroup : a.group = some tag)
    (hfirst : ¬ Occurs tag (offers.take i)) :
    tagged tag offers = a :: tagged tag (offers.drop (i + 1)) := by
  obtain ⟨hlt, hget⟩ := List.getElem?_eq_some_iff.mp hi
  have hsplit : offers = offers.take i ++ (.deferred a :: offers.drop (i + 1)) := by
    rw [← hget, ← List.drop_eq_getElem_cons hlt, List.take_append_drop]
  calc tagged tag offers
      = tagged tag (offers.take i) ++ tagged tag ([.deferred a] ++ offers.drop (i + 1)) := by
        rw [← tagged_append]
        exact congrArg (tagged tag) hsplit
    _ = a :: tagged tag (offers.drop (i + 1)) := by
        rw [tagged_append, tagged_eq_nil hfirst, tagged_singleton_deferred hgroup]
        rfl

theorem tagged_ne_nil {offers : List Offer} {tag : String} (h : Occurs tag offers) :
    tagged tag offers ≠ [] := by
  obtain ⟨x, hx, htag⟩ := List.mem_map.mp h
  obtain ⟨a, rfl, hgroup⟩ := eq_deferred_of_tag? htag
  exact List.ne_nil_of_mem (List.mem_filterMap.mpr ⟨_, hx, if_pos hgroup⟩)

/-- A place, filled in the end, holds the contribution of the offer that was given it. -/
theorem place_filled_eq (offers : List Offer) (i : Nat) :
    ((offers[i]?.bind (Offer.place? params (offers.take i))).bind <| Place.filled? fun tag =>
        DisplayAction.collapse? tag ((tagged tag offers).map (DeferredAction.display params))) =
      contribution params offers i := by
  rw [contribution]
  cases hi : offers[i]? with
  | none => rfl
  | some x =>
    rw [Option.bind_some]
    cases htag : x.tag? with
    | none =>
      rw [place?_of_untagged htag]
      cases x with
      | action a => rfl
      | command c => rfl
      | deferred a =>
        have hgroup : a.group = none := htag
        simp only [hgroup]
        rfl
    | some tag =>
      obtain ⟨a, rfl, hgroup⟩ := eq_deferred_of_tag? htag
      simp only [hgroup]
      by_cases hfirst : Occurs tag (offers.take i)
      · rw [place?_of_occurs htag hfirst, if_pos hfirst]
        rfl
      · rw [place?_of_not_occurs htag hfirst, if_neg hfirst, Option.bind_some, Place.filled?,
          tagged_eq_cons hi hgroup hfirst]
        -- The first with its tag stands for itself, unless more with the tag follow.
        by_cases hlater : Occurs tag (offers.drop (i + 1))
        · obtain ⟨b, rest, hrest⟩ := List.exists_cons_of_ne_nil (tagged_ne_nil hlater)
          rw [if_pos hlater, hrest, collapse?_display]
        · rw [if_neg hlater, tagged_eq_nil hlater]
          rfl

variable (params)

/-- The layout with its places filled is the list of the contributions. -/
theorem layout_filled_eq (offers : List Offer) :
    ((layout params offers).filterMap <| Place.filled? fun tag =>
        DisplayAction.collapse? tag ((tagged tag offers).map (DeferredAction.display params))) =
      (List.range offers.length).filterMap (contribution params offers) := by
  rw [layout, List.filterMap_filterMap]
  exact List.filterMap_congr fun i _ => place_filled_eq offers i

/-- **Grouping**: what is shown is what the offers contribute, one after the other. -/
theorem groupOffers_eq_contributions (offers : List Offer) :
    groupOffers params offers =
      (List.range offers.length).filterMap (contribution params offers) := by
  rw [groupOffers_eq_layout, layout_filled_eq]

end EditorBridge
