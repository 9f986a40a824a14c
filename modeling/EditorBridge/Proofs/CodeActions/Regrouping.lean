import EditorBridge.Proofs.CodeActions.Layout

/-!
# Lists grouped one after the other

Two lists that have no tag in common are grouped independently of each other
(`groupOffers_append`): the layout of the second only moves behind that of the first.  An action
that is shown already has no tag, so it has none in common with anything.

Main statement: actions that are shown already, offered again in front of any list, stay what they
are and where they are, and change nothing for the list behind them (`groupOffers_toOffer_append`).
-/

namespace EditorBridge

/-- No tag occurs in both lists. -/
def TagsDisjoint (xs ys : List Offer) : Prop :=
  ∀ tag, Occurs tag xs → ¬ Occurs tag ys

variable {params : CodeActionParams} {xs ys : List Offer}

/-! ### Layouts one after the other -/

/-- What stands before an offer matters only as far as its tag occurs there. -/
theorem place?_append {y : Offer} (h : ∀ tag, y.tag? = some tag → ¬ Occurs tag xs) :
    y.place? params (xs ++ ys) = y.place? params ys := by
  cases htag : y.tag? with
  | none => rw [place?_of_untagged htag, place?_of_untagged htag]
  | some tag =>
    by_cases hseen : Occurs tag ys
    · rw [place?_of_occurs htag hseen, place?_of_occurs htag (occurs_append.mpr (.inr hseen))]
    · have hnew : ¬ Occurs tag (xs ++ ys) := by
        rw [occurs_append, not_or]
        exact ⟨h tag htag, hseen⟩
      rw [place?_of_not_occurs htag hseen, place?_of_not_occurs htag hnew]

/-- The layout of a list moves as a whole behind that of a list with other tags. -/
theorem layout_append (h : TagsDisjoint xs ys) :
    layout params (xs ++ ys) = layout params xs ++ layout params ys := by
  -- By induction on the second list from its end, as places look at what stands before them.
  induction ys using List.reverseRecOn with
  | nil => rw [List.append_nil]; exact (List.append_nil _).symm
  | append_singleton ys y ih =>
    have hinit : TagsDisjoint xs ys := fun tag hx hy => h tag hx (occurs_append.mpr (.inl hy))
    have hlast : ∀ tag, y.tag? = some tag → ¬ Occurs tag xs := fun tag htag hx =>
      h tag hx (occurs_append.mpr (.inr (occurs_singleton.mpr htag)))
    rw [← List.append_assoc, layout_append_singleton, layout_append_singleton, ih hinit,
      place?_append hlast, List.append_assoc]

/-- A layout without tags shows every offer on its own. -/
theorem layout_of_untagged (h : ∀ x ∈ xs, x.tag? = none) :
    layout params xs = xs.map fun x => .shown (x.alone params) := by
  induction xs using List.reverseRecOn with
  | nil => rfl
  | append_singleton xs x ih =>
    have hx : x.tag? = none := h x (by simp)
    rw [layout_append_singleton, ih fun y hy => h y (List.mem_append_left _ hy),
      place?_of_untagged hx, List.map_append]
    rfl

/-! ### Groups one after the other -/

/-- Only the tags that occur matter for how the places are filled. -/
theorem filterMap_filled_congr {f g : String → Option DisplayAction}
    (h : ∀ tag, Occurs tag xs → f tag = g tag) :
    (layout params xs).filterMap (Place.filled? f) =
      (layout params xs).filterMap (Place.filled? g) := by
  refine List.filterMap_congr fun place hplace => ?_
  cases place with
  | shown action => rfl
  | reserved tag =>
    have htag : tag ∈ (layout params xs).filterMap Place.tag? :=
      List.mem_filterMap.mpr ⟨_, hplace, rfl⟩
    exact h tag ((mem_tags_layout params).mp htag)

/-- Lists that have no tag in common are grouped one after the other. -/
theorem groupOffers_append (h : TagsDisjoint xs ys) :
    groupOffers params (xs ++ ys) = groupOffers params xs ++ groupOffers params ys := by
  rw [groupOffers_eq_layout, groupOffers_eq_layout, groupOffers_eq_layout, layout_append h,
    List.filterMap_append]
  congr 1
  · refine filterMap_filled_congr fun tag hx => ?_
    rw [tagged_append, tagged_eq_nil (h tag hx), List.append_nil]
  · refine filterMap_filled_congr fun tag hy => ?_
    have hx : ¬ Occurs tag xs := fun hx => h tag hx hy
    rw [tagged_append, tagged_eq_nil hx, List.nil_append]

/-- Offers without tags are shown one by one. -/
theorem groupOffers_of_untagged (h : ∀ x ∈ xs, x.tag? = none) :
    groupOffers params xs = xs.map (Offer.alone params) := by
  rw [groupOffers_eq_layout, layout_of_untagged h, List.filterMap_map]
  exact congrFun List.filterMap_eq_map xs

/-! ### Actions that are shown already -/

theorem not_occurs_map_toOffer (actions : List DisplayAction) (tag : String) :
    ¬ Occurs tag (actions.map DisplayAction.toOffer) := by
  simp [Occurs, DisplayAction.toOffer, Offer.tag?]

/-- An action that is offered as it was shown is shown as it was: no diagnostics and an empty list
of them are the same for it. -/
theorem alone_toOffer (a : DisplayAction) : a.toOffer.alone params = a := by
  obtain ⟨title, kind, diagnostics, edit, command⟩ := a
  cases diagnostics with
  | nil => rfl
  | cons d ds => rfl

theorem groupOffers_map_toOffer (actions : List DisplayAction) :
    groupOffers params (actions.map DisplayAction.toOffer) = actions := by
  have huntagged : ∀ x ∈ actions.map DisplayAction.toOffer, x.tag? = none := by
    intro x hx
    obtain ⟨a, -, rfl⟩ := List.mem_map.mp hx
    rfl
  rw [groupOffers_of_untagged huntagged, List.map_map]
  calc actions.map (Offer.alone params ∘ DisplayAction.toOffer)
      = actions.map id := List.map_congr_left fun a _ => alone_toOffer a
    _ = actions := List.map_id actions

/-- **Regrouping**: actions that are shown already, whatever they came from, are shown unchanged in
front of a list of offers, and the list is grouped as it would be without them.  So what a grouping
has shown is shown again unchanged, whatever the request it is grouped for. -/
theorem groupOffers_toOffer_append (params : CodeActionParams) (actions : List DisplayAction)
    (offers : List Offer) :
    groupOffers params (actions.map DisplayAction.toOffer ++ offers) =
      actions ++ groupOffers params offers ∧
    ∀ (earlier : CodeActionParams) (before : List Offer),
      groupOffers params ((groupOffers earlier before).map DisplayAction.toOffer) =
        groupOffers earlier before := by
  constructor
  · rw [groupOffers_append fun tag hshown _ => not_occurs_map_toOffer actions tag hshown,
      groupOffers_map_toOffer]
  · intro earlier before
    exact groupOffers_map_toOffer _

end EditorBridge
