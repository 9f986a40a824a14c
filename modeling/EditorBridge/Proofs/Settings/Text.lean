import EditorBridge.Proofs.Json.Places
import EditorBridge.Proofs.Json.RoundTrip
import EditorBridge.Settings.Basic

/-!
# Settings as text

Settings load from the text of a value as they load from the value, and settings that are written
load from their text as they are.  Main statement: `Settings.text_loads_as_value`.

It is put together from two round trips: a printed value is read back (`Json.readWithin_print`), and
written settings decode to themselves (`Settings.inverts`).  What is written for settings has its
keys in order, no numbers, and at most two objects open at once (`Json.Printable`).
-/

namespace EditorBridge

open Fields (Reads)

/-! ### Values that are read back -/

namespace Json

/-- A value whose text is read back where so many arrays and objects may be open. -/
structure Printable (n : Nat) (j : Json) : Prop where
  keysIncrease : j.Everywhere KeysIncrease
  numeralRereads : j.Everywhere NumeralRereads
  depth_le : j.depth ≤ n

theorem printable_str (s : String) : Printable 0 (.str s) :=
  ⟨trivial, trivial, Nat.le_refl 0⟩

theorem printable_bool (b : Bool) : Printable 0 (.bool b) :=
  ⟨trivial, trivial, Nat.le_refl 0⟩

theorem Printable.mono {n n' : Nat} {j : Json} (h : Printable n j) (hle : n ≤ n') :
    Printable n' j :=
  ⟨h.keysIncrease, h.numeralRereads, Nat.le_trans h.depth_le hle⟩

/-- A record is one object around what is written for its fields. -/
theorem printable_record {n : Nat} {fields : List (String × Option Json)}
    (h : ∀ name j, (name, some j) ∈ fields → Printable n j) : Printable (n + 1) (record fields) := by
  have hmembers : ∀ m ∈ members fields, Printable n m.2 := fun m hm =>
    h m.1 m.2 (mem_of_mem_members hm)
  constructor
  case keysIncrease =>
    exact ⟨keysIncrease_sortMembers _, everywhereMembers_iff.mpr fun m hm => (hmembers m hm).1⟩
  case numeralRereads =>
    exact ⟨trivial, everywhereMembers_iff.mpr fun m hm => (hmembers m hm).2⟩
  case depth_le =>
    exact Nat.succ_le_succ (depthMembers_le_iff.mpr fun m hm => (hmembers m hm).3)

theorem Printable.read_print {n : Nat} {j : Json} (h : Printable n j) (hn : n < depthLimit) :
    read j.print = .ok j := by
  refine readWithin_print h.keysIncrease h.numeralRereads ?_
  rintro _ ⟨⟩
  exact Nat.lt_of_le_of_lt h.depth_le hn

end Json

/-! ### Written settings -/

theorem LogFormat.inverts : LogFormat.decode.Inverts LogFormat.toJson where
  decode_toJson source format := by cases format <;> rfl
  toJson_ne_null _ := Json.noConfusion

/-- What is written for the switches. -/
def FeatureSwitches.written (switches : FeatureSwitches) : List (String × Option Json) :=
  Feature.all.map fun f => (f.key, some (.bool (switches.isEnabled f)))

theorem FeatureSwitches.inverts : FeatureSwitches.decode.Inverts FeatureSwitches.toJson := by
  have hnames (switches : FeatureSwitches) : (switches.written.map Prod.fst).Nodup := by
    rw [written, List.map_map]
    exact Feature.nodup_keys
  have hmem (switches : FeatureSwitches) (f : Feature) :
      (f.key, some (.bool (switches.isEnabled f))) ∈ switches.written :=
    List.mem_map.mpr ⟨f, f.mem_all, rfl⟩
  refine Reads.inverts (fun switches => ?_) hnames
  refine .seq (.seq (.seq (.map ?_) ?_) ?_) ?_
  · exact .withDefault Decoder.inverts_bool (hmem switches .snippetTextEdit)
  · exact .withDefault Decoder.inverts_bool (hmem switches .codeActionGroup)
  · exact .withDefault Decoder.inverts_bool (hmem switches .resolveCodeAction)
  · exact .withDefault Decoder.inverts_bool (hmem switches .hoverActions)

theorem HoverSettings.inverts : HoverSettings.decode.Inverts HoverSettings.toJson := by
  refine Reads.inverts (fun ⟨trustedLanguage⟩ => ?_) fun _ => by simp
  exact .map (.withDefault Decoder.inverts_string (by simp))

namespace Settings

theorem inverts : decode.Inverts toJson := by
  refine Reads.inverts (fun ⟨logFilter, logFormat, experimental, hover⟩ => ?_) fun _ => by simp
  refine .seq (.seq (.seq (.map ?_) ?_) ?_) ?_
  · exact .withDefault Decoder.inverts_string (by simp)
  · exact .withDefault LogFormat.inverts (by simp)
  · exact .withDefault FeatureSwitches.inverts (by simp)
  · exact .withDefault HoverSettings.inverts (by simp)

/-- Switches are written as one object, and settings as one around it. -/
theorem printable_toJson (s : Settings) : s.toJson.Printable 2 := by
  have hswitches : (Json.record s.experimental.written).Printable 1 := by
    refine Json.printable_record fun name j hj => ?_
    obtain ⟨f, -, hf⟩ := List.mem_map.mp hj
    cases hf
    exact Json.printable_bool _
  have hhover : s.hover.toJson.Printable 1 := by
    refine Json.printable_record fun name j hj => ?_
    cases List.mem_singleton.mp hj
    exact Json.printable_str _
  refine Json.printable_record fun name j hj => ?_
  simp only [List.mem_cons, Prod.mk.injEq, Option.some.injEq, List.not_mem_nil, or_false] at hj
  rcases hj with ⟨-, rfl⟩ | ⟨-, rfl⟩ | ⟨-, rfl⟩ | ⟨-, rfl⟩
  · exact (Json.printable_str _).mono (by decide)
  · exact (Json.printable_str _).mono (by decide)
  · exact hswitches
  · exact hhover

/-- Settings that are written load as they are. -/
theorem ofJson_toJson (s : Settings) : ofJson s.toJson = .ok s := by
  have hdecode := inverts.decode_toJson .inPlace s
  show (decode .inPlace s.toJson).mapError _ = _
  rw [hdecode]
  rfl

/-- A text that is read loads as the value that it writes. -/
theorem ofText_of_read {text : String} {j : Json} (h : Json.read text = .ok j) :
    ofText text = ofJson j := by
  rw [ofText, h]

/-- **Settings load alike from a text and from a value.**  A value whose objects hold their members
by key, in which fewer arrays and objects are open at once than the reader refuses, and whose
numbers read back from their texts, loads from its text as it does itself, with the same settings or
the same error.  Settings that are written load from their text as they are. -/
theorem text_loads_as_value :
    (∀ j : Json, j.Everywhere Json.KeysIncrease → j.Everywhere Json.NumeralRereads →
      j.depth < Json.depthLimit → ofText j.print = ofJson j) ∧
    ∀ s : Settings, ofText s.toJson.print = .ok s := by
  constructor
  · intro j hkeys hnumbers hdepth
    have hprintable : j.Printable j.depth := ⟨hkeys, hnumbers, Nat.le_refl _⟩
    exact ofText_of_read (hprintable.read_print hdepth)
  · intro s
    have hread : Json.read s.toJson.print = .ok s.toJson :=
      s.printable_toJson.read_print (by decide)
    rw [ofText_of_read hread, ofJson_toJson]

/-- Settings with a key that is not theirs, and a filter that is none of their type. -/
def mistypedSettings : Json :=
  .obj [("a\n", .arr [.int (-9223372036854775808), .arr [.obj []]]), ("logFilter", .int 7)]

/-- A text that writes these settings, with two filters, of which the later counts. -/
def mistypedText : String :=
  "\x7b\"logFilter\": 5, \"a\\n\": [-9223372036854775808, [\x7b\x7d]], \"logFilter\": 7\x7d"

theorem text_loads_as_value_sample :
    Json.read mistypedText = .ok mistypedSettings ∧
    mistypedSettings.Everywhere Json.KeysIncrease ∧
    mistypedSettings.Everywhere Json.NumeralRereads ∧
    mistypedSettings.depth < Json.depthLimit ∧
    ofText mistypedSettings.print = .error (.malformed (.wrongType (.integer 7) .string)) := by
  have htext : Json.read mistypedText = .ok mistypedSettings := by decide +kernel
  have hkeys : mistypedSettings.Everywhere Json.KeysIncrease :=
    Json.keysIncrease_of_readWithin htext
  have hnumbers : mistypedSettings.Everywhere Json.NumeralRereads := by
    refine ⟨trivial, ?_⟩
    simp [Json.EverywhereMembers, Json.Everywhere, Json.EverywhereItems,
      Json.rereads_int (i := -9223372036854775808) (by decide) (by decide),
      Json.rereads_int (i := 7) (by decide) (by decide)]
    simp [Json.NumeralRereads]
  have hdepth : mistypedSettings.depth < Json.depthLimit := by decide
  refine ⟨htext, hkeys, hnumbers, hdepth, ?_⟩
  rw [text_loads_as_value.1 mistypedSettings hkeys hnumbers hdepth]
  rfl

end Settings

end EditorBridge
