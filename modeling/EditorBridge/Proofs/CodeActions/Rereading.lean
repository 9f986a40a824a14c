import EditorBridge.Proofs.CodeActions.Origins
import EditorBridge.Proofs.Protocol.Changes

/-!
# Offers that are read again

The forms of an offer are told apart by the members `command` and `edit`, and what is written for an
offer has them where the offer has a command or an edit (`hasMember_record`).  So an offer is read
again from what is written for it exactly if it is of one form (`decode_toJson_iff`), and an offer
that was read is.

Main statement: an offer that was read is read again from what is written for it
(`decode_toJson_of_decode`).
-/

namespace EditorBridge.Offer

/-! ### Members that are written -/

section Members

variable {fields : List (String × Option Json)} {key : String}

theorem hasMember_record (hnames : (fields.map Prod.fst).Nodup) (value : Option Json)
    (hmem : (key, value) ∈ fields) : hasMember key (.record fields) = value.any (!·.isNull) := by
  rw [hasMember, Json.get?_record hnames hmem]
  cases value <;> rfl

theorem hasMember_record_of_notMem (h : key ∉ fields.map Prod.fst) :
    hasMember key (.record fields) = false := by
  rw [hasMember, Json.get?_record_of_notMem h]

theorem hasString_record (hnames : (fields.map Prod.fst).Nodup) (s : String)
    (hmem : (key, some (.str s)) ∈ fields) : hasString key (.record fields) = true := by
  rw [hasString, Json.get?_record hnames hmem]

theorem hasString_of_hasMember {j : Json} (h : hasMember key j = false) :
    hasString key j = false := by
  by_contra hstring
  rw [hasMember_of_hasString (by simpa using hstring)] at h
  cases h

end Members

/-! ### Offers of one form -/

/-- The offer is of one form: a code action has an edit, and no command besides. -/
def Unmixed : Offer → Prop
  | .action a => a.edit.isSome = true ∧ a.command = none
  | .command _ => True
  | .deferred _ => True

/-- An offer that was read is of one form. -/
theorem IsOf.unmixed {item : Json} {offer : Offer} (h : IsOf item offer) : offer.Unmixed := by
  cases h with
  | command => trivial
  | deferred => trivial
  | action _ hmember hdecode hnone =>
    -- A member `command` that is no string would have been read as a command.
    obtain ⟨hedit, hcommand⟩ := isSome_of_decode hdecode
    rw [hnone, Option.isSome_none] at hcommand
    rw [← hcommand, Bool.or_false] at hmember
    exact ⟨hedit.trans hmember, hnone⟩

theorem isOf_command (c : Command) : IsOf c.toJson (.command c) := by
  have hread := Command.inverts.decode_toJson .inPlace c
  exact .command (hasString_record (by simp) c.command (by simp)) hread

theorem isOf_action {a : CodeAction} (hedit : a.edit.isSome = true) (hcommand : a.command = none) :
    IsOf a.toJson (.action a) := by
  have hread := CodeAction.inverts.decode_toJson .inPlace a
  obtain ⟨edit, ha⟩ := Option.isSome_iff_exists.mp hedit
  have hhasEdit : hasMember "edit" a.toJson = true := by
    rw [CodeAction.toJson, hasMember_record (by simp) (some edit.toJson) (by simp [ha])]
    rfl
  have hhasCommand : hasMember "command" a.toJson = false := by
    rw [CodeAction.toJson, hasMember_record (by simp) none (by simp [hcommand])]
    rfl
  have hmember : (hasMember "edit" a.toJson || hasMember "command" a.toJson) = true := by
    rw [hhasEdit, Bool.true_or]
  exact .action (hasString_of_hasMember hhasCommand) hmember hread hcommand

theorem isOf_deferred (a : DeferredAction) : IsOf a.toJson (.deferred a) := by
  have hread := DeferredAction.inverts.decode_toJson .inPlace a
  have hhasEdit : hasMember "edit" a.toJson = false := hasMember_record_of_notMem (by simp)
  have hhasCommand : hasMember "command" a.toJson = false := hasMember_record_of_notMem (by simp)
  have hmember : (hasMember "edit" a.toJson || hasMember "command" a.toJson) = false := by
    rw [hhasEdit, hhasCommand, Bool.or_false]
  exact .deferred (hasString_of_hasMember hhasCommand) hmember hread

/-- The offers of one form are those that are read again from what is written for them. -/
theorem decode_toJson_iff (index : Nat) (offer : Offer) :
    decode index offer.toJson = .ok offer ↔ offer.Unmixed := by
  refine ⟨fun h => (isOf_of_decode h).unmixed, fun h => decode_of_isOf index ?_⟩
  cases offer with
  | command c => exact isOf_command c
  | action a => exact isOf_action h.1 h.2
  | deferred a => exact isOf_deferred a

/-- **Rereading**: an offer that was read from any item is read again, at the same index, from what
is written for it. -/
theorem decode_toJson_of_decode {index : Nat} {item : Json} {offer : Offer}
    (h : decode index item = .ok offer) : decode index offer.toJson = .ok offer :=
  (decode_toJson_iff index offer).mpr (isOf_of_decode h).unmixed

/-- A code action whose edit makes a file and then changes it.  The change and its document are
arrays, and what is not there is `null`. -/
def creatingItem : Json :=
  .obj [("command", .null),
    ("edit", .obj [("documentChanges", .arr [
      .obj [("kind", .str "create"), ("uri", .str "file:///b")],
      .arr [.arr [.str "file:///b", .null], .arr []]])]),
    ("title", .str "make")]

theorem decode_toJson_of_decode_sample : ∃ offer, decode 2 creatingItem = .ok offer ∧
    offer.toJson ≠ creatingItem ∧ decode 2 offer.toJson = .ok offer := by
  refine ⟨_, rfl, by decide, ?_⟩
  exact decode_toJson_of_decode (show decode 2 creatingItem = _ from rfl)

end EditorBridge.Offer
