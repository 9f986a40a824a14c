import EditorBridge.CodeActions.Offer
import EditorBridge.Proofs.Protocol.Records

/-!
# Members that records are read from

A record is read from an object exactly if each of its fields is read from the member with its name
(`Fields.fromMembers_seq_eq_ok_iff`), and a field that may be `null` takes a member that is not
there for `null` (`Fields.fromMembers_nullable`).  Where a decoder is exact, a value tells the member
that it was read from (`Decoder.Exact`).

Main statements: the members that commands, code actions and deferred actions are read from
(`Command.decode_obj_eq_ok_iff`, `CodeAction.members_of_decode`, `DeferredAction.members_of_decode`).
-/

namespace EditorBridge

/-! ### Exact decoders -/

namespace Decoder

/-- The decoder reads each value from one JSON value only, which is not `null`. -/
structure Exact {α : Type} (decode : Decoder α) (toJson : α → Json) : Prop where
  decode_eq_ok_iff {source : Source} {j : Json} {x : α} : decode source j = .ok x ↔ j = toJson x
  toJson_ne_null (x : α) : toJson x ≠ .null

variable {α : Type} {decode : Decoder α} {toJson : α → Json} {source : Source} {j : Json}

theorem exact_string : Exact string .str where
  decode_eq_ok_iff := ⟨string_ok, fun h => h ▸ rfl⟩
  toJson_ne_null _ := Json.noConfusion

theorem exact_values : Exact (list any) .arr where
  decode_eq_ok_iff {source j js} := by
    constructor
    · intro h
      obtain ⟨items, rfl, -⟩ := list_ok h
      rw [inverts_values.decode_toJson] at h
      rw [Except.ok.inj h]
    · rintro rfl
      exact inverts_values.decode_toJson source js
  toJson_ne_null _ := Json.noConfusion

/-- What may be `null` is read as none from `null`, and as some value from any other value that is
read as that. -/
theorem nullable_eq_ok_iff {x : Option α} :
    nullable decode source j = .ok x ↔
      (j = .null ∧ x = none) ∨ (j ≠ .null ∧ ∃ y, decode source j = .ok y ∧ x = some y) := by
  by_cases hj : j = .null
  · simp [hj, nullable, eq_comm]
  · rw [nullable_of_ne_null hj]
    cases decode source j <;> simp [hj, Except.map, eq_comm]

theorem Exact.nullable_eq_ok_iff (h : decode.Exact toJson) {x : Option α} :
    nullable decode source j = .ok x ↔ j = (x.map toJson).getD .null := by
  rw [Decoder.nullable_eq_ok_iff]
  cases x with
  | none => simp
  | some y =>
    constructor
    · rintro (⟨-, ⟨⟩⟩ | ⟨-, z, hz, ⟨⟩⟩)
      exact h.decode_eq_ok_iff.mp hz
    · rintro rfl
      exact .inr ⟨h.toJson_ne_null y, y, h.decode_eq_ok_iff.mpr rfl, rfl⟩

end Decoder

/-! ### Fields -/

namespace Fields

variable {α β : Type} {source : Source} {ms : List (String × Json)} {name : String}

/-- The record of an object is that of its members; only the errors differ. -/
theorem ofMembers_eq_ok_iff {fields : Fields α} {x : α} :
    fields.ofMembers source ms = .ok x ↔ fields.fromMembers source ms = .ok x := by
  refine ⟨fromMembers_of_ofMembers, fun h => ?_⟩
  rw [ofMembers, h]

theorem fromMembers_seq_eq_ok_iff {f : Fields (α → β)} {fields : Fields α} {y : β} :
    (f <*> fields).fromMembers source ms = .ok y ↔
      ∃ g x, f.fromMembers source ms = .ok g ∧ fields.fromMembers source ms = .ok x ∧ g x = y := by
  refine ⟨fromMembers_seq_ok, ?_⟩
  rintro ⟨g, x, hf, hx, rfl⟩
  change (Fields.seq f fields).fromMembers source ms = _
  rw [Fields.seq]
  simp only [hf, hx, Except.map]

theorem fromMembers_map_eq_ok_iff {f : α → β} {fields : Fields α} {y : β} :
    (f <$> fields).fromMembers source ms = .ok y ↔
      ∃ x, fields.fromMembers source ms = .ok x ∧ f x = y := by
  refine ⟨fromMembers_map_ok, ?_⟩
  rintro ⟨x, hx, rfl⟩
  exact fromMembers_seq_eq_ok_iff.mpr ⟨f, x, rfl, hx, rfl⟩

theorem fromMembers_required_eq_ok_iff {decode : Decoder α} {x : α} :
    (required name decode).fromMembers source ms = .ok x ↔
      ∃ j, ms.lookup name = some j ∧ decode source j = .ok x := by
  refine ⟨fromMembers_required_ok, ?_⟩
  rintro ⟨j, hj, hx⟩
  exact (fromMembers_field hj).trans hx

/-- A field that may be `null` takes a member that is not there for `null`. -/
theorem fromMembers_nullable {decode : Decoder α} {short : Option (Option α)} :
    (field name (.nullable decode) (some none) short).fromMembers source ms =
      Decoder.nullable decode source ((ms.lookup name).getD .null) := by
  cases hj : ms.lookup name <;> simp [field, hj, Decoder.nullable]

theorem fromMembers_required_string {s : String} :
    (required name .string).fromMembers source ms = .ok s ↔ ms.lookup name = some (.str s) := by
  simp only [fromMembers_required_eq_ok_iff, Decoder.exact_string.decode_eq_ok_iff,
    exists_eq_right]

/-- A record with flattened parts is read from an object exactly if its own fields are, and the parts
from the same members. -/
theorem flattened_obj_eq_ok_iff {own : Fields α}
    {parts : α → List (String × Json) → Except DecodeError β} {y : β} :
    flattened own parts name source (.obj ms) = .ok y ↔
      ∃ x, own.ofMembers source ms = .ok x ∧ parts x ms = .ok y := by
  rw [flattened]
  cases own.ofMembers source ms <;> simp

end Fields

/-! ### Commands and actions -/

/-- A command is read from its title, its name, and its arguments, which are a list if they are
there and not `null`. -/
theorem Command.decode_obj_eq_ok_iff {source : Source} {ms : List (String × Json)} {c : Command} :
    decode source (.obj ms) = .ok c ↔
      ms.lookup "title" = some (.str c.title) ∧ ms.lookup "command" = some (.str c.command) ∧
        (ms.lookup "arguments").getD .null = (c.arguments.map .arr).getD .null := by
  obtain ⟨title, command, arguments⟩ := c
  change fields.ofMembers source ms = _ ↔ _
  simp only [fields, Fields.optional, Fields.ofMembers_eq_ok_iff, Fields.fromMembers_seq_eq_ok_iff,
    Fields.fromMembers_map_eq_ok_iff, Fields.fromMembers_required_string,
    Fields.fromMembers_nullable, Decoder.exact_values.nullable_eq_ok_iff]
  constructor
  · rintro ⟨_, arguments, ⟨_, command, ⟨title, htitle, rfl⟩, hcommand, rfl⟩, harguments, ⟨⟩⟩
    exact ⟨htitle, hcommand, harguments⟩
  · rintro ⟨htitle, hcommand, harguments⟩
    exact ⟨_, _, ⟨_, _, ⟨_, htitle, rfl⟩, hcommand, rfl⟩, harguments, rfl⟩

/-- A code action has the title, the edit and the command of the members that it was read from. -/
theorem CodeAction.members_of_decode {source : Source} {ms : List (String × Json)} {a : CodeAction}
    (h : decode source (.obj ms) = .ok a) :
    ms.lookup "title" = some (.str a.title) ∧
      Decoder.nullable WorkspaceEdit.decode source ((ms.lookup "edit").getD .null) = .ok a.edit ∧
      Decoder.nullable Command.decode source ((ms.lookup "command").getD .null) = .ok a.command := by
  -- The fields are taken apart from the last one on.
  obtain ⟨withDisabled, data, hdisabled, -, rfl⟩ :=
    Fields.fromMembers_seq_ok (Fields.fromMembers_of_ofMembers h)
  obtain ⟨withPreferred, disabled, hpreferred, -, rfl⟩ := Fields.fromMembers_seq_ok hdisabled
  obtain ⟨withCommand, isPreferred, hcommands, -, rfl⟩ := Fields.fromMembers_seq_ok hpreferred
  obtain ⟨withEdit, command, hedits, hcommand, rfl⟩ := Fields.fromMembers_seq_ok hcommands
  obtain ⟨withDiagnostics, edit, hdiagnostics, hedit, rfl⟩ := Fields.fromMembers_seq_ok hedits
  obtain ⟨withKind, diagnostics, hkind, -, rfl⟩ := Fields.fromMembers_seq_ok hdiagnostics
  obtain ⟨withTitle, kind, htitles, -, rfl⟩ := Fields.fromMembers_seq_ok hkind
  obtain ⟨title, htitle, rfl⟩ := Fields.fromMembers_map_ok htitles
  exact ⟨Fields.fromMembers_required_string.mp htitle, Fields.fromMembers_nullable.symm.trans hedit,
    Fields.fromMembers_nullable.symm.trans hcommand⟩

/-- A deferred action has the title, the group and the identifier of the members that it was read
from; what is not there is `null`. -/
theorem DeferredAction.members_of_decode {source : Source} {ms : List (String × Json)}
    {a : DeferredAction} (h : decode source (.obj ms) = .ok a) :
    ms.lookup "title" = some (.str a.title) ∧
      (ms.lookup "group").getD .null = (a.group.map .str).getD .null ∧
      (ms.lookup "id").getD .null = a.id := by
  obtain ⟨withGroup, id, hgroups, hid, rfl⟩ :=
    Fields.fromMembers_seq_ok (Fields.fromMembers_of_ofMembers h)
  obtain ⟨withDiagnostics, group, hdiagnostics, hgroup, rfl⟩ := Fields.fromMembers_seq_ok hgroups
  obtain ⟨withKind, diagnostics, hkind, -, rfl⟩ := Fields.fromMembers_seq_ok hdiagnostics
  obtain ⟨withTitle, kind, htitles, -, rfl⟩ := Fields.fromMembers_seq_ok hkind
  obtain ⟨title, htitle, rfl⟩ := Fields.fromMembers_map_ok htitles
  have hread : Decoder.nullable .string source ((ms.lookup "group").getD .null) = .ok group :=
    Fields.fromMembers_nullable.symm.trans hgroup
  rw [Fields.fromMembers_omissibleValue] at hid
  exact ⟨Fields.fromMembers_required_string.mp htitle,
    Decoder.exact_string.nullable_eq_ok_iff.mp hread, Except.ok.inj hid⟩

end EditorBridge
