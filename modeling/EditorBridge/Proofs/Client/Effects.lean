import EditorBridge.Proofs.Client.Resolution

/-!
# What a shown action does

A shown action could have an edit and a command, or neither.  What the server's items allow, and
what is made of them, leaves one of the two: an action makes its edit if the server's item has an
edit and no command, and runs a command otherwise.

Main statement: `effects_history`, about every list of actions that is shown in a history.
-/

namespace EditorBridge

open Event

/-- Choosing the action makes an edit and runs no command, or runs a command and makes no edit. -/
def DisplayAction.ActsOnce (a : DisplayAction) : Prop :=
  (a.edit.isSome ∧ a.command = none) ∨ (a.edit = none ∧ a.command.isSome)

/-- Whether an item of the server has an edit, and no command besides. -/
def bringsEdit (item : Json) : Bool :=
  Offer.hasMember "edit" item && !Offer.hasMember "command" item

/-! ### Items -/

namespace Offer

/-- An offer that is shown on its own makes an edit if its item brings one, and otherwise runs a
command. -/
theorem IsOf.alone_isSome {item : Json} {offer : Offer} (h : IsOf item offer)
    (params : CodeActionParams) :
    (offer.alone params).edit.isSome = bringsEdit item ∧
      (offer.alone params).command.isSome = !bringsEdit item := by
  rw [bringsEdit]
  cases h with
  | command hcommand _ =>
    rw [hasMember_of_hasString hcommand, Bool.not_true, Bool.and_false]
    exact ⟨rfl, rfl⟩
  | @action members a _ hmember hdecode hnone =>
    -- It has no command, so its item is there for the edit.
    obtain ⟨hedit, hcommand⟩ := isSome_of_decode hdecode
    rw [hnone, Option.isSome_none] at hcommand
    rw [← hcommand, Bool.or_false] at hmember
    rw [hmember] at hedit
    simp [hmember, ← hcommand, alone, DisplayAction.ofAction, hedit, hnone]
  | deferred _ hmember _ =>
    obtain ⟨hedit, -⟩ := Bool.or_eq_false_iff.mp hmember
    rw [hedit, Bool.false_and]
    exact ⟨rfl, rfl⟩

end Offer

/-! ### Contributions -/

section Contributions

variable {params : CodeActionParams} {offers : List Offer} {i : Nat} {action : DisplayAction}

/-- What is shown for an offer is the offer on its own, or the composite of its tag. -/
theorem contribution_cases (h : contribution params offers i = some action) :
    (∃ offer, offers[i]? = some offer ∧ action = offer.alone params) ∨
      ∃ a tag, offers[i]? = some (.deferred a) ∧
        action = composite params tag a.kind (tagged tag offers) := by
  rw [contribution] at h
  cases hi : offers[i]? with
  | none => simp [hi] at h
  | some offer =>
    cases offer with
    | action a => simp only [hi, Option.some.injEq] at h; exact .inl ⟨_, rfl, h.symm⟩
    | command c => simp only [hi, Option.some.injEq] at h; exact .inl ⟨_, rfl, h.symm⟩
    | deferred a =>
      cases hgroup : a.group with
      | none => simp only [hi, hgroup, Option.some.injEq] at h; exact .inl ⟨_, rfl, h.symm⟩
      | some tag =>
        simp only [hi, hgroup] at h
        split_ifs at h
        · exact .inr ⟨a, tag, rfl, (Option.some.inj h).symm⟩
        · exact .inl ⟨_, rfl, (Option.some.inj h).symm⟩

/-- What is shown for a deferred action, or for several, has a command with one argument. -/
theorem contribution_argument {a : DeferredAction} (hi : offers[i]? = some (.deferred a))
    (h : contribution params offers i = some action) :
    ∃ command argument, action.command = some command ∧ command.arguments = some [argument] := by
  rcases contribution_cases h with ⟨offer, hoffer, rfl⟩ | ⟨b, tag, -, rfl⟩
  · cases hoffer.symm.trans hi
    exact ⟨_, _, rfl, rfl⟩
  · exact ⟨_, _, rfl, rfl⟩

/-- What is shown for an offer makes an edit if the offer's item brings one, and otherwise runs a
command. -/
theorem contribution_isSome {items : List Json} (hitems : items.Forall₂ Offer.IsOf offers)
    (h : contribution params offers i = some action) :
    ∃ item, items[i]? = some item ∧ action.edit.isSome = bringsEdit item ∧
      action.command.isSome = !bringsEdit item := by
  have hflip : offers.Forall₂ (flip Offer.IsOf) items := hitems.flip
  rcases contribution_cases h with ⟨offer, hoffer, rfl⟩ | ⟨a, tag, ha, rfl⟩
  · obtain ⟨item, hitem, hof⟩ := exists_related hflip hoffer
    exact ⟨item, hitem, Offer.IsOf.alone_isSome hof params⟩
  · -- A composite has a command in the place of the command of each of its members.
    obtain ⟨item, hitem, hof⟩ := exists_related hflip ha
    exact ⟨item, hitem, Offer.IsOf.alone_isSome hof params⟩

end Contributions

theorem actsOnce_of_isSome {action : DisplayAction} {edits : Bool}
    (hedit : action.edit.isSome = edits) (hcommand : action.command.isSome = !edits) :
    action.ActsOnce := by
  cases edits with
  | true => exact .inl ⟨hedit, by simpa using hcommand⟩
  | false => exact .inr ⟨by simpa using hedit, hcommand⟩

/-! ### Histories -/

namespace Client

variable {σ : Type}

/-- **Effects**: when a list of actions is shown, it is made of what the offers of the answer
contribute, and every action in it either makes an edit or runs a command.  An action makes an edit
exactly if it comes from an item with an edit and no command, and an action that comes from a
deferred one, or from a group of them, has exactly one argument for its command. -/
theorem effects_history (client : Client) (s : σ) (turns : List (Turn σ)) {asked : Report σ}
    (hmem : asked ∈ client.history s turns) {params : CodeActionParams}
    (hasked : asked.turn.task = .codeActions params) {shown : List DisplayAction}
    (hshown : asked.outcome = .ok (.actions (some shown))) :
    (∀ action ∈ shown, action.ActsOnce) ∧
    ∃ items offers,
      exchanges asked.events = [(.codeAction, params.toJson, .ok (some (.arr items)))] ∧
      Offer.decodeItems 0 items = .ok offers ∧
      shown = (List.range offers.length).filterMap (contribution params offers) ∧
      ∀ i action, contribution params offers i = some action →
        (∃ item, items[i]? = some item ∧ (action.edit.isSome = true ↔
          Offer.hasMember "edit" item = true ∧ Offer.hasMember "command" item = false)) ∧
        ((∃ a, offers[i]? = some (.deferred a)) → ∃ command argument,
          action.command = some command ∧ command.arguments = some [argument]) := by
  obtain ⟨items, offers, hexchanges, hitems, hactions⟩ :=
    history_shown client s turns asked hmem params shown hasked hshown
  have hlist : shown = (List.range offers.length).filterMap (contribution params offers) := by
    rw [hactions, groupOffers_eq_layout, layout_filled_eq]
  have hof : items.Forall₂ Offer.IsOf offers := Offer.forall₂_of_decodeItems hitems
  refine ⟨fun action haction => ?_, items, offers, hexchanges, hitems, hlist, ?_⟩
  · rw [hlist] at haction
    obtain ⟨i, -, hi⟩ := List.mem_filterMap.mp haction
    obtain ⟨item, -, hedit, hcommand⟩ := contribution_isSome hof hi
    exact actsOnce_of_isSome hedit hcommand
  · intro i action hi
    obtain ⟨item, hitem, hedit, -⟩ := contribution_isSome hof hi
    refine ⟨⟨item, hitem, by simp [hedit, bringsEdit]⟩, ?_⟩
    rintro ⟨a, ha⟩
    exact contribution_argument ha hi

/-- An item with an edit, one with a command and an edit, and two deferred ones with one tag. -/
def mixedItems : List Json :=
  [.obj [("edit", .obj [("changes", .obj [])]), ("title", .str "fix")],
    .obj [("command", .str "run"), ("edit", .obj []), ("title", .str "run")]] ++ sampleItems

/-- A server that answers with these items. -/
def mixedServer : Script :=
  Script.blank.respond "textDocument/codeAction" (.ok (some (.arr mixedItems)))

theorem effects_history_sample : ∃ asked shown,
    (ofSettings .default).history mixedServer [⟨.codeActions sampleParams, Script.environment⟩] =
      [asked] ∧ asked.outcome = .ok (.actions (some shown)) ∧ shown.length = 3 ∧
      ∀ action ∈ shown, action.ActsOnce := by
  refine ⟨_, _, rfl, rfl, rfl, ?_⟩
  obtain ⟨honce, -⟩ := effects_history (ofSettings .default) mixedServer
    [⟨.codeActions sampleParams, Script.environment⟩] List.mem_cons_self rfl rfl
  exact honce

end Client

end EditorBridge
