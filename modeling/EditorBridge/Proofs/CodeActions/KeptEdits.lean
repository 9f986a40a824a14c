import EditorBridge.Proofs.CodeActions.Verdicts

/-!
# Edits that are kept

An item with an edit should be refused, or be the code action with that edit.  It is, unless the item
can be read as a command too: a string for its command is looked at before the edit is, and whatever
else the item has is then passed over.

Main statement: an item with an edit loses it exactly if it has a string for its command and no
arguments or a list of them; a command of any other form makes it refused
(`Offer.keepsEdit_iff`).  An edit that is lost is shown by `Offer.edit_lost_to_command`.
-/

namespace EditorBridge.Offer

/-- Nothing but the edit that `j` stands for was made of an item, if anything was. -/
def KeepsEdit (j : Json) : Except Violation Offer → Prop
  | .error _ => True
  | .ok offer => ∃ a edit, offer = .action a ∧ WorkspaceEdit.decode .inPlace j = .ok edit ∧
    a.edit = some edit

/-- The members of an object name a command, with a list of arguments or none. -/
def NamesCommand (members : List (String × Json)) (name : String)
    (arguments : Option (List Json)) : Prop :=
  members.lookup "command" = some (.str name) ∧
    (members.lookup "arguments").getD .null = (arguments.map .arr).getD .null

variable {members : List (String × Json)}

/-- An object with a title that names a command is taken for the command. -/
theorem decode_of_namesCommand (index : Nat) {title name : String} {arguments : Option (List Json)}
    (htitle : members.lookup "title" = some (.str title))
    (h : NamesCommand members name arguments) :
    decode index (.obj members) = .ok (.command ⟨title, name, arguments⟩) := by
  obtain ⟨hname, harguments⟩ := h
  have hread : Command.decode .inPlace (.obj members) = .ok ⟨title, name, arguments⟩ :=
    Command.decode_obj_eq_ok_iff.mpr ⟨htitle, hname, harguments⟩
  exact decode_of_isOf index (.command (hasString_eq_true_iff.mpr ⟨name, hname⟩) hread)

/-- An item with an edit is accepted for a command that it names, or for its edit alone. -/
theorem namesCommand_or_kept {index : Nat} {offer : Offer} {j : Json}
    (hedit : members.lookup "edit" = some j) (hne : j ≠ .null)
    (h : decode index (.obj members) = .ok offer) :
    (∃ name arguments, NamesCommand members name arguments) ∨
      hasMember "command" (.obj members) = false ∧ KeepsEdit j (.ok offer) := by
  have hhasEdit : hasMember "edit" (.obj members) = true := by
    rw [hasMember_eq_true_iff, hedit]
    exact hne
  cases isOf_of_decode h with
  | @command _ c _ hdecode =>
    obtain ⟨-, hname, harguments⟩ := Command.decode_obj_eq_ok_iff.mp hdecode
    exact .inl ⟨c.command, c.arguments, hname, harguments⟩
  | @action _ a hcommand hmember hdecode hnone =>
    cases (IsOf.action hcommand hmember hdecode hnone).verdict index with
    | @action _ _ edit _ _ hread hkept hno _ =>
      rw [hedit] at hread
      exact .inr ⟨hno, a, edit, rfl, hread, hkept⟩
  | deferred _ hmember _ =>
    obtain ⟨hno, -⟩ := Bool.or_eq_false_iff.mp hmember
    cases hhasEdit.symm.trans hno

/-- **Edits are kept**, unless they are lost to a command.  An item with a title and an edit is
refused or is the code action with that edit, exactly if it names no command; with a command besides
it is refused, exactly if it names none; and if it names one, it is taken for that command. -/
theorem keepsEdit_iff (index : Nat) {title : String} {j : Json}
    (htitle : members.lookup "title" = some (.str title))
    (hedit : members.lookup "edit" = some j) (hne : j ≠ .null) :
    (KeepsEdit j (decode index (.obj members)) ↔
      ∀ name arguments, ¬ NamesCommand members name arguments) ∧
    (hasMember "command" (.obj members) = true →
      ((∃ violation, decode index (.obj members) = .error violation) ↔
        ∀ name arguments, ¬ NamesCommand members name arguments)) ∧
    ∀ name arguments, NamesCommand members name arguments →
      decode index (.obj members) = .ok (.command ⟨title, name, arguments⟩) := by
  have hlost {name : String} {arguments : Option (List Json)}
      (h : NamesCommand members name arguments) := decode_of_namesCommand index htitle h
  refine ⟨?_, ?_, fun name arguments h => hlost h⟩
  · constructor
    · intro hkeeps name arguments h
      rw [hlost h] at hkeeps
      obtain ⟨a, edit, ⟨⟩, -⟩ := hkeeps
    · intro hno
      cases hdecode : decode index (.obj members) with
      | error violation => trivial
      | ok offer =>
        rcases namesCommand_or_kept hedit hne hdecode with ⟨name, arguments, h⟩ | ⟨-, hkept⟩
        · exact absurd h (hno name arguments)
        · exact hkept
  · intro hcommand
    constructor
    · rintro ⟨violation, hrefused⟩ name arguments h
      cases (hlost h).symm.trans hrefused
    · intro hno
      cases hdecode : decode index (.obj members) with
      | error violation => exact ⟨violation, rfl⟩
      | ok offer =>
        rcases namesCommand_or_kept hedit hne hdecode with ⟨name, arguments, h⟩ | ⟨hnone, -⟩
        · exact absurd h (hno name arguments)
        · cases hcommand.symm.trans hnone

/-- The edit that deletes a file. -/
def deletingEdit : Json :=
  .obj [("documentChanges", .arr [.obj [("kind", .str "delete"), ("uri", .str "file:///b")]])]

/-- An item with that edit and a command. -/
def doubleItem (command : Json) : List (String × Json) :=
  [("command", command), ("edit", deletingEdit), ("title", .str "Fix")]

/-- A command in the form of an array makes the item refused. -/
theorem keepsEdit_iff_sample :
    hasMember "command" (.obj (doubleItem (.arr [.str "Fix", .str "x.run", .null]))) = true ∧
      ∃ violation,
        decode 3 (.obj (doubleItem (.arr [.str "Fix", .str "x.run", .null]))) =
          .error violation := by
  have htitle : (doubleItem (.arr [.str "Fix", .str "x.run", .null])).lookup "title" =
      some (.str "Fix") := rfl
  have hedit : (doubleItem (.arr [.str "Fix", .str "x.run", .null])).lookup "edit" =
      some deletingEdit := rfl
  have hno (name : String) (arguments : Option (List Json)) :
      ¬ NamesCommand (doubleItem (.arr [.str "Fix", .str "x.run", .null])) name arguments := by
    rintro ⟨⟨⟩, -⟩
  obtain ⟨-, hrefused, -⟩ := keepsEdit_iff 3 htitle hedit Json.noConfusion
  exact ⟨rfl, (hrefused rfl).mpr hno⟩

/-- With a string for its command the item is taken for the command, and its edit is lost though it
can be read. -/
theorem edit_lost_to_command :
    decode 0 (.obj (doubleItem (.str "x.run"))) = .ok (.command ⟨"Fix", "x.run", none⟩) ∧
      (∃ edit, WorkspaceEdit.decode .inPlace deletingEdit = .ok edit) ∧
      ¬ KeepsEdit deletingEdit (decode 0 (.obj (doubleItem (.str "x.run")))) := by
  refine ⟨rfl, ⟨_, rfl⟩, ?_⟩
  rintro ⟨a, edit, ⟨⟩, -⟩

end EditorBridge.Offer
