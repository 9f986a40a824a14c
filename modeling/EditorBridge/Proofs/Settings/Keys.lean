import EditorBridge.Proofs.Protocol.Keys
import EditorBridge.Settings.Basic

/-!
# Settings by key

Settings are read by key, and so are the switches and the settings of hovers within them
(`Fields.ReadByKey`): every key is read on its own and has a default, and one value that does not
decode refuses them all.  Main statement: `Settings.loads_by_key`.
-/

namespace EditorBridge

open Fields

/-! ### The keys -/

namespace FeatureSwitches

/-- The key of a switch. -/
def keyOf (f : Feature) : Key FeatureSwitches :=
  ⟨f.key, Bool, .bool, true, fun switches => switches.isEnabled f⟩

/-- The keys of the switches. -/
def keys : List (Key FeatureSwitches) :=
  Feature.all.map keyOf

theorem holds_iff {ms : List (String × Json)} {switches : FeatureSwitches} :
    Holds keys ms switches ↔
      ∀ f : Feature, Fills .bool .inPlace true (ms.lookup f.key) (switches.isEnabled f) := by
  exact List.forall_mem_map.trans ⟨fun h f => h f f.mem_all, fun h f _ => h f⟩

theorem keyed : fields.Keyed keys where
  toTakesKeys :=
    ((((TakesKeys.withDefault (keyOf .snippetTextEdit)).map _).seq
      (.withDefault (keyOf .codeActionGroup)) (by decide)).seq
      (.withDefault (keyOf .resolveCodeAction)) (by decide)).seq
      (.withDefault (keyOf .hoverActions)) (by decide)
  nodup := by decide
  ok_iff {ms switches} := by
    simp only [fields, fromMembers_seq_eq_ok_iff, fromMembers_map_eq_ok_iff,
      fromMembers_withDefault_eq_ok_iff, holds_iff]
    constructor
    · rintro ⟨_, d, ⟨_, c, ⟨_, b, ⟨a, ha, rfl⟩, hb, rfl⟩, hc, rfl⟩, hd, rfl⟩ f
      cases f
      exacts [ha, hb, hc, hd]
    · intro h
      exact ⟨_, _, ⟨_, _, ⟨_, _, ⟨_, h .snippetTextEdit, rfl⟩, h .codeActionGroup, rfl⟩,
        h .resolveCodeAction, rfl⟩, h .hoverActions, rfl⟩

end FeatureSwitches

namespace HoverSettings

/-- The key of the trusted language. -/
def trustedLanguageKey : Key HoverSettings :=
  ⟨"trustedLanguage", String, .string, defaultTrustedLanguage, trustedLanguage⟩

/-- The keys of the settings of hovers. -/
def keys : List (Key HoverSettings) :=
  [trustedLanguageKey]

theorem keyed : fields.Keyed keys where
  toTakesKeys := (TakesKeys.withDefault trustedLanguageKey).map _
  nodup := by decide
  ok_iff {ms hover} := by
    simp only [fields, fromMembers_map_eq_ok_iff, fromMembers_withDefault_eq_ok_iff, Holds, keys,
      List.forall_mem_singleton]
    constructor
    · rintro ⟨trustedLanguage, h, rfl⟩
      exact h
    · intro h
      exact ⟨_, h, rfl⟩

end HoverSettings

namespace Settings

/-- The key of the log filter. -/
def logFilterKey : Key Settings :=
  ⟨"logFilter", String, .string, defaultLogFilter, logFilter⟩

/-- The key of the log format. -/
def logFormatKey : Key Settings :=
  ⟨"logFormat", LogFormat, LogFormat.decode, defaultLogFormat, logFormat⟩

/-- The key of the switches. -/
def experimentalKey : Key Settings :=
  ⟨"experimental", FeatureSwitches, FeatureSwitches.decode, .allOn, experimental⟩

/-- The key of the settings of hovers. -/
def hoverKey : Key Settings :=
  ⟨"hover", HoverSettings, HoverSettings.decode, .default, hover⟩

/-- The keys of settings. -/
def keys : List (Key Settings) :=
  [logFilterKey, logFormatKey, experimentalKey, hoverKey]

theorem holds_iff {ms : List (String × Json)} {s : Settings} :
    Holds keys ms s ↔
      Fills .string .inPlace defaultLogFilter (ms.lookup "logFilter") s.logFilter ∧
      Fills LogFormat.decode .inPlace defaultLogFormat (ms.lookup "logFormat") s.logFormat ∧
      Fills FeatureSwitches.decode .inPlace .allOn (ms.lookup "experimental") s.experimental ∧
      Fills HoverSettings.decode .inPlace .default (ms.lookup "hover") s.hover := by
  simp only [Holds, keys, List.forall_mem_cons]
  refine and_congr_right fun _ => and_congr_right fun _ => and_congr_right fun _ => ?_
  exact and_iff_left (by simp)

theorem keyed : fields.Keyed keys where
  toTakesKeys :=
    ((((TakesKeys.withDefault logFilterKey).map _).seq
      (.withDefault logFormatKey) (by decide)).seq
      (.withDefault experimentalKey) (by decide)).seq
      (.withDefault hoverKey) (by decide)
  nodup := by decide
  ok_iff {ms s} := by
    obtain ⟨logFilter, logFormat, experimental, hover⟩ := s
    simp only [fields, fromMembers_seq_eq_ok_iff, fromMembers_map_eq_ok_iff,
      fromMembers_withDefault_eq_ok_iff, holds_iff]
    constructor
    · rintro ⟨_, d, ⟨_, c, ⟨_, b, ⟨a, ha, rfl⟩, hb, rfl⟩, hc, rfl⟩, hd, ⟨⟩⟩
      exact ⟨ha, hb, hc, hd⟩
    · rintro ⟨ha, hb, hc, hd⟩
      exact ⟨_, _, ⟨_, _, ⟨_, _, ⟨_, ha, rfl⟩, hb, rfl⟩, hc, rfl⟩, hd, rfl⟩

end Settings

/-! ### Reading by key -/

theorem FeatureSwitches.readByKey :
    ReadByKey (fun ms => decode .inPlace (.obj ms)) id keys := by
  refine .of_keyed keyed (List.forall_mem_map.mpr fun f _ => ⟨_, rfl⟩) fun ms => ?_
  exact mapError_id.symm

theorem HoverSettings.readByKey : ReadByKey (fun ms => decode .inPlace (.obj ms)) id keys := by
  refine .of_keyed keyed (List.forall_mem_singleton.mpr ⟨_, rfl⟩) fun ms => ?_
  exact mapError_id.symm

theorem Settings.readByKey : ReadByKey (fun ms => ofJson (.obj ms)) .malformed keys := by
  refine .of_keyed keyed ?_ fun ms => rfl
  simp only [keys, List.forall_mem_cons]
  exact ⟨⟨_, rfl⟩, ⟨_, rfl⟩, ⟨_, rfl⟩, ⟨_, rfl⟩, by simp⟩

/-! ### What the format names -/

/-- A value with those of its members only that have one of these names. -/
def Json.restrict (names : List String) : Json → Json
  | .obj ms => .obj (ms.filter fun m => m.1 ∈ names)
  | j => j

theorem FeatureSwitches.decode_restrict (j : Json) :
    decode .inPlace (j.restrict (names keys)) = decode .inPlace j := by
  cases j with
  | obj ms => exact keyed.ofMembers_filter
  | _ => rfl

theorem HoverSettings.decode_restrict (j : Json) :
    decode .inPlace (j.restrict (names keys)) = decode .inPlace j := by
  cases j with
  | obj ms => exact keyed.ofMembers_filter
  | _ => rfl

namespace Settings

/-- What the format names of the value under a key of settings. -/
def namedWithin (name : String) : Json → Json :=
  if name = "experimental" then Json.restrict (names FeatureSwitches.keys)
  else if name = "hover" then Json.restrict (names HoverSettings.keys)
  else id

/-- What the format names of settings: the members with the names of its keys, and of those that are
objects the members with the names of theirs. -/
def named : Json → Json
  | .obj ms =>
    .obj ((ms.filter fun m => m.1 ∈ names keys).map fun m => (m.1, namedWithin m.1 m.2))
  | j => j

theorem ofJson_named (j : Json) : ofJson (named j) = ofJson j := by
  cases j with
  | obj ms =>
    have hwithin : ∀ k ∈ keys, ∀ j,
        k.decode .inPlace (namedWithin k.name j) = k.decode .inPlace j := by
      simp only [keys, List.forall_mem_cons]
      exact ⟨fun _ => rfl, fun _ => rfl, FeatureSwitches.decode_restrict,
        HoverSettings.decode_restrict, by simp⟩
    have hmap : fields.ofMembers .inPlace
          ((ms.filter fun m => m.1 ∈ names keys).map fun m => (m.1, namedWithin m.1 m.2)) =
        fields.ofMembers .inPlace (ms.filter fun m => m.1 ∈ names keys) :=
      keyed.ofMembers_map hwithin
    exact congrArg (Except.mapError SettingsError.malformed) (hmap.trans keyed.ofMembers_filter)
  | _ => rfl

end Settings

/-! ### Changes within a value -/

theorem FeatureSwitches.decode_insertMember {ms : List (String × Json)}
    {switches : FeatureSwitches} (h : decode .inPlace (.obj ms) = .ok switches) (f : Feature)
    (enabled : Bool) :
    decode .inPlace (.obj (Json.insertMember f.key (.bool enabled) ms)) =
      .ok (switches.set f enabled) := by
  have hf : keyOf f ∈ keys := List.mem_map_of_mem f.mem_all
  refine readByKey.ok_iff.mpr ((readByKey.ok_iff.mp h).insertMember keyed.nodup hf ?_ ?_)
  · show Except.ok enabled = .ok ((switches.set f enabled).isEnabled f)
    rw [isEnabled_set, if_pos rfl]
  · refine List.forall_mem_map.mpr fun g _ hkey => ?_
    have hg : f ≠ g := by
      rintro rfl
      exact hkey rfl
    show (switches.set f enabled).isEnabled g = switches.isEnabled g
    rw [isEnabled_set, if_neg hg]

theorem HoverSettings.decode_insertMember (ms : List (String × Json)) (language : String) :
    decode .inPlace (.obj (Json.insertMember "trustedLanguage" (.str language) ms)) =
      .ok ⟨language⟩ := by
  refine readByKey.ok_iff.mpr (List.forall_mem_singleton.mpr ?_)
  show Fills .string .inPlace _ (List.lookup "trustedLanguage" _) _
  rw [Json.lookup_insertMember_self]
  rfl

namespace Settings

variable {ms inner : List (String × Json)} {s : Settings}

/-- A switch that is set within the settings is set in what they load as. -/
theorem ofJson_setAt_experimental (hs : ofJson (.obj ms) = .ok s)
    (hinner : ms.lookup "experimental" = some (.obj inner)) (f : Feature) (enabled : Bool) :
    ofJson ((Json.obj ms).setAt ["experimental", f.key] (.bool enabled)) =
      .ok (s.withFeature f enabled) := by
  have hholds : Holds keys ms s := readByKey.ok_iff.mp hs
  have hread : FeatureSwitches.decode .inPlace (.obj inner) = .ok s.experimental := by
    have hfills := (holds_iff.mp hholds).2.2.1
    rwa [hinner] at hfills
  have hset := FeatureSwitches.decode_insertMember hread f enabled
  have hkey : experimentalKey ∈ keys := by simp [keys]
  rw [Json.setAt, hinner]
  refine readByKey.ok_iff.mpr (hholds.insertMember keyed.nodup hkey hset ?_)
  simp only [keys, List.forall_mem_cons]
  exact ⟨fun _ => rfl, fun _ => rfl, fun hne => absurd rfl hne, fun _ => rfl, by simp⟩

/-- The trusted language that is set within the settings is set in what they load as. -/
theorem ofJson_setAt_hover (hs : ofJson (.obj ms) = .ok s)
    (hinner : ms.lookup "hover" = some (.obj inner)) (language : String) :
    ofJson ((Json.obj ms).setAt ["hover", "trustedLanguage"] (.str language)) =
      .ok { s with hover := ⟨language⟩ } := by
  have hholds : Holds keys ms s := readByKey.ok_iff.mp hs
  have hset := HoverSettings.decode_insertMember inner language
  have hkey : hoverKey ∈ keys := by simp [keys]
  rw [Json.setAt, hinner]
  refine readByKey.ok_iff.mpr (hholds.insertMember keyed.nodup hkey hset ?_)
  simp only [keys, List.forall_mem_cons]
  exact ⟨fun _ => rfl, fun _ => rfl, fun _ => rfl, fun hne => absurd rfl hne, by simp⟩

/-- **Settings load key by key.**  They load exactly if each member that is there for one of their
keys decodes on its own.  Then each field is what its member decodes to, or the default of its key;
otherwise the error is that of the first member that does not decode.  The switches and the settings
of hovers are read in the same way where they are objects.  What the format does not name changes
nothing, and another value for one key, in the settings or in an object within them, changes its own
field only. -/
theorem loads_by_key :
    ReadByKey (fun ms => ofJson (.obj ms)) .malformed keys ∧
    ReadByKey (fun ms => FeatureSwitches.decode .inPlace (.obj ms)) id FeatureSwitches.keys ∧
    ReadByKey (fun ms => HoverSettings.decode .inPlace (.obj ms)) id HoverSettings.keys ∧
    (∀ j j', named j = named j' → ofJson j = ofJson j') ∧
    (∀ ms inner s, ofJson (.obj ms) = .ok s → ms.lookup "experimental" = some (.obj inner) →
      ∀ f enabled, ofJson ((Json.obj ms).setAt ["experimental", f.key] (.bool enabled)) =
        .ok (s.withFeature f enabled)) ∧
    ∀ ms inner s, ofJson (.obj ms) = .ok s → ms.lookup "hover" = some (.obj inner) →
      ∀ language, ofJson ((Json.obj ms).setAt ["hover", "trustedLanguage"] (.str language)) =
        .ok { s with hover := ⟨language⟩ } := by
  refine ⟨readByKey, FeatureSwitches.readByKey, HoverSettings.readByKey, fun j j' h => ?_,
    fun ms inner s => ofJson_setAt_experimental, fun ms inner s => ofJson_setAt_hover⟩
  rw [← ofJson_named j, h, ofJson_named]

/-- Settings with one switch off and a key that is not theirs. -/
def partialSettings : List (String × Json) :=
  [("experimental", .obj [("hoverActions", .bool false)]), ("zone", .null)]

/-- Settings with two members that do not decode, the first for a member of its own. -/
def faultySettings : List (String × Json) :=
  [("experimental", .obj [("hoverActions", .int 1), ("zone", .null)]), ("logFilter", .null)]

/-- A text that writes these settings, with the keys in another order. -/
def faultyText : String :=
  "\x7b\"logFilter\": null, \"experimental\": \x7b\"zone\": null, \"hoverActions\": 1\x7d\x7d"

theorem loads_by_key_sample :
    Json.read faultyText = .ok (.obj faultySettings) ∧
    ofJson (.obj faultySettings) = .error (.malformed (.wrongType (.integer 1) .boolean)) ∧
    ofJson ((Json.obj partialSettings).setAt ["experimental", "codeActionGroup"] (.bool false)) =
      .ok ⟨"info", .json, ⟨true, false, true, false⟩, ⟨"rust"⟩⟩ := by
  have hload : ofJson (.obj partialSettings) =
      .ok ⟨"info", .json, ⟨true, true, true, false⟩, ⟨"rust"⟩⟩ := rfl
  have htext : Json.read faultyText = .ok (.obj faultySettings) := by decide +kernel
  -- The fault of the first key in order counts, not that of the first in the text.
  have hsorted : Json.KeysIncrease (.obj faultySettings) :=
    (Json.keysIncrease_of_readWithin htext).1
  obtain ⟨hread, -, -, -, hswitch, -⟩ := loads_by_key
  refine ⟨htext, (hread.error_iff hsorted).mpr ?_, hswitch _ _ _ hload rfl .codeActionGroup false⟩
  exact ⟨[], _, _, _, rfl, by simp, ⟨experimentalKey, by simp [keys], rfl, rfl⟩, rfl⟩

end Settings

end EditorBridge
