import EditorBridge.Proofs.Hover.Enrichment

/-!
# Action bars put together

In the bar a separator stands between two rows and nowhere else, and so does one between two links
of a row.  So the bar of two lists of groups, one behind the other, comes from the bars of the two
(`actionBar?_append`), and the row of a group from the rows of two parts of its links
(`CommandLinkGroup.render_append`).  Groups without links, titled or not, have no row and no
separator (`actionBar?_append_of_no_links`).

Main statement: `actionBar?_composes`.
-/

namespace EditorBridge

/-- Two texts of pieces with separators between them, with one more separator between the two. -/
theorem intercalate_append_of_ne_nil {α : Type} (separator : List α) {xs ys : List (List α)}
    (hxs : xs ≠ []) (hys : ys ≠ []) :
    separator.intercalate (xs ++ ys) =
      separator.intercalate xs ++ separator ++ separator.intercalate ys := by
  induction xs with
  | nil => exact absurd rfl hxs
  | cons x xs ih =>
    cases xs with
    | nil =>
      rw [List.singleton_append, List.intercalate_cons_of_ne_nil hys, List.intercalate_singleton]
    | cons next xs =>
      calc separator.intercalate (x :: next :: xs ++ ys)
          = x ++ separator ++ separator.intercalate (next :: xs ++ ys) :=
            List.intercalate_cons_cons
        _ = x ++ separator ++
              (separator.intercalate (next :: xs) ++ separator ++ separator.intercalate ys) := by
            rw [ih (List.cons_ne_nil next xs)]
        _ = separator.intercalate (x :: next :: xs) ++ separator ++ separator.intercalate ys := by
            rw [List.intercalate_cons_cons, ← List.append_assoc, ← List.append_assoc]

/-! ### Rows -/

namespace CommandLinkGroup

/-- A title stands in front of the row without it. -/
theorem render_titled (title : String) (links : List CommandLink) :
    render ⟨some title, links⟩ = title.toList ++ ' ' :: render ⟨none, links⟩ :=
  rfl

/-- The row of a group is the row of some of its links and, behind a separator, the row without a
title of the others. -/
theorem render_append (title : Option String) {links more : List CommandLink}
    (hlinks : links ≠ []) (hmore : more ≠ []) :
    render ⟨title, links ++ more⟩ =
      render ⟨title, links⟩ ++ linkSeparator.toList ++ render ⟨none, more⟩ := by
  have huntitled : render ⟨none, links ++ more⟩ =
      render ⟨none, links⟩ ++ linkSeparator.toList ++ render ⟨none, more⟩ := by
    have hfirst : links.map CommandLink.render ≠ [] := by simpa using hlinks
    have hsecond : more.map CommandLink.render ≠ [] := by simpa using hmore
    have hrow := intercalate_append_of_ne_nil linkSeparator.toList hfirst hsecond
    rwa [← List.map_append] at hrow
  cases title with
  | none => exact huntitled
  | some title =>
    calc render ⟨some title, links ++ more⟩
        = title.toList ++ ' ' ::
            (render ⟨none, links⟩ ++ linkSeparator.toList ++ render ⟨none, more⟩) := by
          rw [render_titled, huntitled]
      _ = render ⟨some title, links⟩ ++ linkSeparator.toList ++ render ⟨none, more⟩ := by
          rw [render_titled]
          simp only [List.append_assoc, List.cons_append]

end CommandLinkGroup

/-! ### The bar -/

/-- There is no bar exactly if no group has a link. -/
theorem actionBar?_eq_none_iff {groups : List CommandLinkGroup} :
    actionBar? groups = none ↔ ∀ group ∈ groups, group.commands = [] := by
  rw [Option.eq_none_iff_forall_ne_some]
  simp only [ne_eq, actionBar?_eq_some_iff]
  constructor
  · intro h group hgroup
    by_contra hlinks
    exact h _ ⟨⟨group, hgroup, hlinks⟩, rfl⟩
  · rintro h text ⟨⟨group, hgroup, hlinks⟩, -⟩
    exact hlinks (h group hgroup)

/-- The bar of a group with links is its row. -/
theorem actionBar?_singleton {group : CommandLinkGroup} (h : group.commands ≠ []) :
    actionBar? [group] = some group.render := by
  have hshown : [group].filter (fun group => !group.commands.isEmpty) = [group] := by
    simpa using h
  rw [actionBar?, hshown]
  exact congrArg some List.intercalate_singleton

/-- The bar of two lists of groups: the bars of both with a separator between them, or the one that
there is. -/
theorem actionBar?_append (groups more : List CommandLinkGroup) :
    actionBar? (groups ++ more) =
      (actionBar? groups).merge (fun bar rest => bar ++ groupSeparator.toList ++ rest)
        (actionBar? more) := by
  rw [actionBar?, actionBar?, actionBar?, List.filter_append]
  cases groups.filter fun group => !group.commands.isEmpty with
  | nil => cases more.filter fun group => !group.commands.isEmpty <;> rfl
  | cons group shown =>
    cases more.filter fun group => !group.commands.isEmpty with
    | nil => rw [List.append_nil]; rfl
    | cons next others =>
      -- Both have rows, so one separator joins the last of the first and the first of the second.
      have hfirst : (group :: shown).map CommandLinkGroup.render ≠ [] := by simp
      have hsecond : (next :: others).map CommandLinkGroup.render ≠ [] := by simp
      have hrows := intercalate_append_of_ne_nil groupSeparator.toList hfirst hsecond
      rw [← List.map_append] at hrows
      exact congrArg some hrows

/-- Groups without links can be left out. -/
theorem actionBar?_append_of_no_links (groups more : List CommandLinkGroup)
    {idle : List CommandLinkGroup} (h : ∀ group ∈ idle, group.commands = []) :
    actionBar? (groups ++ idle ++ more) = actionBar? (groups ++ more) := by
  rw [actionBar?_append, actionBar?_append groups idle, actionBar?_eq_none_iff.mpr h,
    actionBar?_append]
  cases actionBar? groups <;> rfl

/-- **The action bar composes.**  The bar of two lists of groups is the bar of the one if the other
has none, and else the two bars with `___` between them; that of a group with links is its row.
Groups without links, wherever they stand, change nothing, and there is no bar exactly if all groups
are such.  In the same way the row of a group is that of some of its links, then ` | `, then the row
of the others without the title. -/
theorem actionBar?_composes :
    (∀ groups more, actionBar? (groups ++ more) =
      (actionBar? groups).merge (fun bar rest => bar ++ "___".toList ++ rest) (actionBar? more)) ∧
    (∀ group : CommandLinkGroup, group.commands ≠ [] → actionBar? [group] = some group.render) ∧
    (∀ groups idle more, (∀ group ∈ idle, group.commands = []) →
      actionBar? (groups ++ idle ++ more) = actionBar? (groups ++ more)) ∧
    (∀ groups, actionBar? groups = none ↔ ∀ group ∈ groups, group.commands = []) ∧
    (∀ (title : Option String) (links more : List CommandLink), links ≠ [] → more ≠ [] →
      CommandLinkGroup.render ⟨title, links ++ more⟩ =
        CommandLinkGroup.render ⟨title, links⟩ ++ " | ".toList ++
          CommandLinkGroup.render ⟨none, more⟩) :=
  ⟨actionBar?_append, fun _ => actionBar?_singleton,
    fun groups _ more h => actionBar?_append_of_no_links groups more h,
    fun _ => actionBar?_eq_none_iff,
    fun title _ _ hlinks hmore => CommandLinkGroup.render_append title hlinks hmore⟩

theorem actionBar?_composes_sample :
    actionBar? ([⟨some "Go to", [⟨"A", "x.a", none, []⟩]⟩] ++ [⟨some "Fixes", []⟩, ⟨none, []⟩] ++
        [⟨none, [⟨"B", "x.b", none, []⟩]⟩]) =
      some "Go to [A](command:x.a?%5B%5D 'A')___[B](command:x.b?%5B%5D 'B')".toList ∧
    CommandLinkGroup.render ⟨some "Go to", [⟨"A", "x.a", none, []⟩] ++ [⟨"B", "x.b", none, []⟩]⟩ =
      "Go to [A](command:x.a?%5B%5D 'A') | [B](command:x.b?%5B%5D 'B')".toList := by
  obtain ⟨happend, hsingle, hidle, -, hrow⟩ := actionBar?_composes
  constructor
  · rw [hidle _ _ _ (by simp), happend, hsingle _ (by simp), hsingle _ (by simp)]
    decide +kernel
  · rw [hrow _ _ _ (by simp) (by simp)]
    decide +kernel

end EditorBridge
