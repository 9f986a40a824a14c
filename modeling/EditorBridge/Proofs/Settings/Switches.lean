import EditorBridge.Client.Basic
import EditorBridge.Proofs.Settings.Announcement

/-!
# The switches of a client

A client's switches are read from its settings and may be set afterwards, any number of times.  A
switch is what the last step that names its feature sets it to; if no step does, what the settings
give for the feature, by its key or by its place; and on if they give nothing
(`Settings.switch`).

Everything that looks at a switch sees the same (`Settings.Agrees`): the switches themselves, the
flags that are announced, and the action bar of hovers.  Main statement: `Settings.switches_agree`,
about settings that were loaded and then changed step by step.
-/

namespace EditorBridge

open Fields

/-! ### What settings give -/

/-- The boolean that a JSON value is, if it is one. -/
def Json.bool? : Json → Option Bool
  | .bool b => some b
  | _ => none

theorem Decoder.bool_ok {source : Source} {j : Json} {b : Bool}
    (h : Decoder.bool source j = .ok b) : j.bool? = some b := by
  cases j with
  | bool b' =>
    cases h
    rfl
  | _ => cases h

namespace FeatureSwitches

/-- What stands for a feature where the switches are read from: the member with its key, or the item
at its place. -/
def given? (f : Feature) : Json → Option Json
  | .obj members => members.lookup f.key
  | .arr items => items[Feature.all.idxOf f]?
  | _ => none

/-- Switches that were read are read one by one from what stands for them. -/
theorem fills_of_decode {source : Source} {j : Json} {switches : FeatureSwitches}
    (h : decode source j = .ok switches) (f : Feature) :
    Fills .bool source true (given? f j) (switches.isEnabled f) := by
  cases j with
  | obj members =>
    obtain ⟨_, d, habc, hd, rfl⟩ := fromMembers_seq_ok (fromMembers_of_ofMembers h)
    obtain ⟨_, c, hab, hc, rfl⟩ := fromMembers_seq_ok habc
    obtain ⟨_, b, hmade, hb, rfl⟩ := fromMembers_seq_ok hab
    obtain ⟨a, ha, rfl⟩ := fromMembers_map_ok hmade
    cases f with
    | snippetTextEdit => exact fromMembers_withDefault_ok ha
    | codeActionGroup => exact fromMembers_withDefault_ok hb
    | resolveCodeAction => exact fromMembers_withDefault_ok hc
    | hoverActions => exact fromMembers_withDefault_ok hd
  | arr items =>
    obtain ⟨short, hitems⟩ := fromItems_of_ofItems h
    obtain ⟨_, d, _, habc, hd, rfl⟩ := fromItems_seq_ok hitems
    obtain ⟨_, c, _, hab, hc, rfl⟩ := fromItems_seq_ok habc
    obtain ⟨_, b, _, hmade, hb, rfl⟩ := fromItems_seq_ok hab
    obtain ⟨a, ha, rfl⟩ := fromItems_map_ok hmade
    obtain ⟨hfirst, rfl⟩ := fromItems_withDefault_ok ha
    obtain ⟨hsecond, rfl⟩ := fromItems_withDefault_ok hb
    obtain ⟨hthird, rfl⟩ := fromItems_withDefault_ok hc
    obtain ⟨hfourth, -⟩ := fromItems_withDefault_ok hd
    simp only [List.head?_eq_getElem?, List.getElem?_tail] at hfirst hsecond hthird hfourth
    cases f with
    | snippetTextEdit => exact hfirst
    | codeActionGroup => exact hsecond
    | resolveCodeAction => exact hthird
    | hoverActions => exact hfourth
  | _ => cases h

end FeatureSwitches

namespace Settings

/-- The boolean that settings give for a feature, if they give one. -/
def given? (f : Feature) (j : Json) : Option Bool :=
  ((j.get? "experimental").bind (FeatureSwitches.given? f)).bind Json.bool?

/-- A switch that was loaded is as the settings give it, and on if they do not. -/
theorem isEnabled_of_ofJson {j : Json} {s : Settings} (h : ofJson j = .ok s) (f : Feature) :
    s.isEnabled f = (given? f j).getD true := by
  cases j with
  | null =>
    cases h
    cases f <;> rfl
  | obj members =>
    have hdecode : decode .inPlace (.obj members) = .ok s := by
      rw [ofJson] at h
      cases hs : decode .inPlace (.obj members) with
      | error e => simp [hs, Except.mapError] at h
      | ok s' => simpa [hs, Except.mapError] using h
    obtain ⟨_, hover, hthree, -, rfl⟩ := fromMembers_seq_ok (fromMembers_of_ofMembers hdecode)
    obtain ⟨_, switches, htwo, hswitches, rfl⟩ := fromMembers_seq_ok hthree
    obtain ⟨_, logFormat, hone, -, rfl⟩ := fromMembers_seq_ok htwo
    obtain ⟨logFilter, -, rfl⟩ := fromMembers_map_ok hone
    have hfills := fromMembers_withDefault_ok hswitches
    show switches.isEnabled f =
      (((members.lookup "experimental").bind (FeatureSwitches.given? f)).bind Json.bool?).getD true
    cases hj : members.lookup "experimental" with
    | none =>
      have hon : switches = .allOn := by simpa [hj, Fills] using hfills
      rw [hon]
      cases f <;> rfl
    | some j =>
      have hdecoded : FeatureSwitches.decode .inPlace j = .ok switches := by
        simpa [hj, Fills] using hfills
      have hfill := FeatureSwitches.fills_of_decode hdecoded f
      rw [Option.bind_some]
      cases hgiven : FeatureSwitches.given? f j with
      | none => simpa [hgiven, Fills] using hfill
      | some v =>
        rw [hgiven] at hfill
        rw [Option.bind_some, Decoder.bool_ok hfill]
        rfl
  | _ => cases h

/-! ### Steps -/

/-- The settings after some steps, each of which sets the switch of a feature. -/
def withFeatures (s : Settings) (steps : List (Feature × Bool)) : Settings :=
  steps.foldl (fun s step => s.withFeature step.1 step.2) s

/-- The switch of a feature: as the last step that names it sets it, or else as the settings give
it, or else on. -/
def switch (j : Json) (steps : List (Feature × Bool)) (f : Feature) : Bool :=
  ((steps.reverse.lookup f).or (given? f j)).getD true

theorem isEnabled_withFeature (s : Settings) (f g : Feature) (enabled : Bool) :
    (s.withFeature f enabled).isEnabled g = if f = g then enabled else s.isEnabled g :=
  s.experimental.isEnabled_set f g enabled

/-- After some steps a switch is as the last of them that names it sets it, and as before if none
does. -/
theorem isEnabled_withFeatures (s : Settings) (steps : List (Feature × Bool)) (f : Feature) :
    (s.withFeatures steps).isEnabled f = (steps.reverse.lookup f).getD (s.isEnabled f) := by
  induction steps using List.reverseRecOn with
  | nil => rfl
  | append_singleton steps step ih =>
    obtain ⟨g, enabled⟩ := step
    have hlast : s.withFeatures (steps ++ [(g, enabled)]) =
        (s.withFeatures steps).withFeature g enabled := List.foldl_append
    rw [hlast, isEnabled_withFeature, ih, List.reverse_append, List.reverse_singleton,
      List.singleton_append]
    by_cases hg : g = f
    · subst hg
      rw [if_pos rfl, List.lookup_cons_self]
      rfl
    · have hne : (f == g) = false := beq_eq_false_iff_ne.mpr (Ne.symm hg)
      rw [if_neg hg, List.lookup_cons, hne]

/-- Steps change nothing but switches. -/
theorem withFeatures_eq (s : Settings) (steps : List (Feature × Bool)) :
    s.withFeatures steps = { s with experimental := (s.withFeatures steps).experimental } := by
  induction steps using List.reverseRecOn with
  | nil => rfl
  | append_singleton steps step ih =>
    have hlast : s.withFeatures (steps ++ [step]) =
        (s.withFeatures steps).withFeature step.1 step.2 := List.foldl_append
    rw [hlast, ih]
    rfl

/-! ### What looks at a switch -/

/-- All that looks at the switches of settings sees the same of each feature. -/
structure Agrees (s : Settings) (on : Feature → Bool) : Prop where
  isEnabled (f : Feature) : s.isEnabled f = on f
  experimental : s.experimental = {
    snippetTextEdit := on .snippetTextEdit
    codeActionGroup := on .codeActionGroup
    resolveCodeAction := on .resolveCodeAction
    hoverActions := on .hoverActions }
  /-- The flags of a client of these settings. -/
  flags (f : Feature) : (Client.ofSettings s).features.flags.lookup f.key = some (.bool (on f))
  /-- What the client announces, whatever the host had put there. -/
  announced (capabilities : ClientCapabilities) (f : Feature) :
    ((Client.ofSettings s).features.announce capabilities).experimental.get? f.key =
      some (.bool (on f))
  /-- The blocks of a hover with an action bar, behind those of its contents. -/
  bar (hover : HoverResult) (bar : List Char) (h : hover.actions.bind actionBar? = some bar) :
    ((HoverEnricher.ofSettings s).enrich hover).contents.drop hover.contents.blocks.length =
      if on .hoverActions then [(MarkupBlock.markdown (String.ofList bar)).trusted] else []

/-- Whatever looks at a switch looks at the same switch. -/
theorem agrees_isEnabled (s : Settings) : s.Agrees s.isEnabled where
  isEnabled _ := rfl
  experimental := rfl
  flags f := s.experimental.lookup_flags f
  announced capabilities f := by
    show (s.experimental.mergeInto capabilities.experimental).get? f.key = _
    rw [FeatureSwitches.get?_mergeInto, FeatureSwitches.lookup_flags]
    rfl
  bar hover bar h := by
    have hbar : (HoverEnricher.ofSettings s).bar? hover =
        if s.isEnabled .hoverActions then
          some (MarkupBlock.markdown (String.ofList bar)).trusted
        else none := by
      rw [HoverEnricher.bar?, h]
      rfl
    have hlength : hover.contents.blocks.length =
        (hover.contents.blocks.map (HoverEnricher.ofSettings s).mark).length := by
      rw [List.length_map]
    show (hover.contents.blocks.map _ ++ _).drop _ = _
    rw [hlength, List.drop_left, hbar]
    split <;> rfl

/-- **Switches agree everywhere.**  Settings that were loaded and then changed step by step have each
switch as the last step that names its feature sets it, or else as the settings give it, or else
on, wherever it is looked at.  Nothing else of the loaded settings changes, nor does any switch
that no step names. -/
theorem switches_agree {j : Json} {s : Settings} (h : ofJson j = .ok s)
    (steps : List (Feature × Bool)) :
    (s.withFeatures steps).Agrees (switch j steps) ∧
    (s.withFeatures steps).logFilter = s.logFilter ∧
    (s.withFeatures steps).logFormat = s.logFormat ∧
    (s.withFeatures steps).hover.trustedLanguage = s.hover.trustedLanguage ∧
    ∀ f, (∀ step ∈ steps, step.1 ≠ f) → (s.withFeatures steps).isEnabled f = s.isEnabled f := by
  have hswitch : (s.withFeatures steps).isEnabled = switch j steps := by
    funext f
    rw [isEnabled_withFeatures, isEnabled_of_ofJson h, switch]
    cases steps.reverse.lookup f <;> rfl
  have hrest := withFeatures_eq s steps
  refine ⟨?_, ?_, ?_, ?_, ?_⟩
  · rw [← hswitch]
    exact agrees_isEnabled _
  · rw [hrest]
  · rw [hrest]
  · rw [hrest]
  · intro f hf
    have hnone : steps.reverse.lookup f = none := by
      rw [List.lookup_eq_none_iff]
      intro step hstep
      exact bne_iff_ne.mpr (hf step (List.mem_reverse.mp hstep)).symm
    rw [isEnabled_withFeatures, hnone]
    rfl

/-- Settings that switch the first two features off, by their places. -/
def terseSettings : Json :=
  .obj [("experimental", .arr [.bool false, .bool false]),
    ("hover", .obj [("trustedLanguage", .str "go")])]

/-- A hover with one link. -/
def linkedHover : HoverResult :=
  ⟨.scalar (.text "fn main()"), none, some [⟨some "Go to", [⟨"A", "x.a", none, []⟩]⟩]⟩

theorem switches_agree_sample :
    ∃ s, ofJson terseSettings = .ok s ∧
      (s.withFeatures [(.hoverActions, false), (.snippetTextEdit, true), (.hoverActions, true),
        (.resolveCodeAction, false)]).Agrees
          (fun f => f = .snippetTextEdit ∨ f = .hoverActions) ∧
      ((HoverEnricher.ofSettings <|
          s.withFeatures [(.hoverActions, false), (.hoverActions, true)]).enrich
        linkedHover).contents.drop 1 = [⟨.markdown, "Go to [A](command:x.a?%5B%5D 'A')", true⟩] ∧
      ((HoverEnricher.ofSettings <| s.withFeatures [(.hoverActions, false)]).enrich
        linkedHover).contents.drop 1 = [] := by
  have hload : ofJson terseSettings = .ok ⟨"info", .json, ⟨false, false, true, true⟩, ⟨"go"⟩⟩ := by
    rfl
  have hbar : linkedHover.actions.bind actionBar? =
      some "Go to [A](command:x.a?%5B%5D 'A')".toList := by
    decide +kernel
  obtain ⟨hagrees, -⟩ := switches_agree hload [(.hoverActions, false), (.snippetTextEdit, true),
    (.hoverActions, true), (.resolveCodeAction, false)]
  obtain ⟨hshown, -⟩ := switches_agree hload [(.hoverActions, false), (.hoverActions, true)]
  obtain ⟨hhidden, -⟩ := switches_agree hload [(.hoverActions, false)]
  have hon : switch terseSettings [(.hoverActions, false), (.snippetTextEdit, true),
      (.hoverActions, true), (.resolveCodeAction, false)] =
      fun f => decide (f = .snippetTextEdit ∨ f = .hoverActions) := by
    funext f
    cases f <;> rfl
  exact ⟨_, hload, hon ▸ hagrees, hshown.bar linkedHover _ hbar, hhidden.bar linkedHover _ hbar⟩

end Settings

end EditorBridge
