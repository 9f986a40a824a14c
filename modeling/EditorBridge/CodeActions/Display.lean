import EditorBridge.CodeActions.Offer

/-!
# Code actions as the editor shows them

A shown action has a title and what happens when it is chosen: an edit or a command.
-/

namespace EditorBridge

/-- An action as the editor shows it. -/
structure DisplayAction where
  title : String
  kind : Option String
  diagnostics : List Diagnostic
  edit : Option WorkspaceEdit
  command : Option Command
deriving DecidableEq

namespace DisplayAction

/-- An action that runs a command and does nothing else. -/
def withCommand (title : String) (kind : Option String) (command : Command) : DisplayAction :=
  ⟨title, kind, [], none, some command⟩

/-- A code action as it is shown. -/
def ofAction (a : CodeAction) : DisplayAction :=
  ⟨a.title, a.kind, a.diagnostics.getD [], a.edit, a.command⟩

/-- A command as it is shown. -/
def ofCommand (c : Command) : DisplayAction :=
  withCommand c.title none c

/-- The name of the command, if there is one. -/
def commandId? (a : DisplayAction) : Option String :=
  a.command.map (·.command)

/-- The first argument of the command, if there is one. -/
def firstArgument? (a : DisplayAction) : Option Json :=
  a.command.bind Command.firstArgument?

/-- A shown action as a server could have offered it. -/
def toOffer (a : DisplayAction) : Offer :=
  .action {
    title := a.title
    kind := a.kind
    diagnostics := if a.diagnostics.isEmpty then none else some a.diagnostics
    edit := a.edit
    command := a.command
    isPreferred := none
    disabled := none
    data := .null }

/-- The JSON of a shown action; no diagnostics are left out. -/
def toJson (a : DisplayAction) : Json :=
  .record [
    ("title", some (.str a.title)),
    ("kind", a.kind.map .str),
    ("diagnostics",
      if a.diagnostics.isEmpty then none else some (.ofList Diagnostic.toJson a.diagnostics)),
    ("edit", a.edit.map WorkspaceEdit.toJson),
    ("command", a.command.map Command.toJson)]

end DisplayAction

end EditorBridge
