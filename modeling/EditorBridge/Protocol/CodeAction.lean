import EditorBridge.Protocol.WorkspaceEdit

/-!
# Commands and code actions

A command is an invocation by name.  A code action offers a change; it may carry the change as an
edit.
-/

namespace EditorBridge

/-- An invocation of something by name. -/
structure Command where
  title : String
  command : String
  arguments : Option (List Json)
deriving DecidableEq

namespace Command

/-- The fields of a command. -/
def fields : Fields Command :=
  Command.mk <$> .required "title" .string <*> .required "command" .string
    <*> .optional "arguments" (.list .any)

/-- Decodes a command. -/
def decode : Decoder Command :=
  fields.record "Command"

/-- The JSON of a command. -/
def toJson (c : Command) : Json :=
  .record [("title", some (.str c.title)), ("command", some (.str c.command)),
    ("arguments", c.arguments.map .arr)]

/-- The first argument, if there is one. -/
def firstArgument? (c : Command) : Option Json :=
  c.arguments.bind List.head?

end Command

/-- Why a code action cannot be chosen. -/
structure DisabledReason where
  reason : String
deriving DecidableEq, Repr

namespace DisabledReason

/-- The fields of a reason. -/
def fields : Fields DisabledReason :=
  DisabledReason.mk <$> .required "reason" .string

/-- Decodes a reason. -/
def decode : Decoder DisabledReason :=
  fields.record "CodeActionDisabled"

/-- The JSON of a reason. -/
def toJson (d : DisabledReason) : Json :=
  .record [("reason", some (.str d.reason))]

end DisabledReason

/-- A change that is offered to the user.  `data` is whatever the server keeps with it, `null` for
nothing. -/
structure CodeAction where
  title : String
  kind : Option String
  diagnostics : Option (List Diagnostic)
  edit : Option WorkspaceEdit
  command : Option Command
  isPreferred : Option Bool
  disabled : Option DisabledReason
  data : Json
deriving DecidableEq

namespace CodeAction

/-- The fields of a code action. -/
def fields : Fields CodeAction :=
  CodeAction.mk <$> .required "title" .string
    <*> .optional "kind" .string
    <*> .optional "diagnostics" (.list Diagnostic.decode)
    <*> .optional "edit" WorkspaceEdit.decode
    <*> .optional "command" Command.decode
    <*> .optional "isPreferred" .bool
    <*> .optional "disabled" DisabledReason.decode
    <*> .value "data"

/-- Decodes a code action. -/
def decode : Decoder CodeAction :=
  fields.record "CodeAction"

/-- The JSON of a code action. -/
def toJson (a : CodeAction) : Json :=
  .record [
    ("title", some (.str a.title)),
    ("kind", a.kind.map .str),
    ("diagnostics", a.diagnostics.map (.ofList Diagnostic.toJson)),
    ("edit", a.edit.map WorkspaceEdit.toJson),
    ("command", a.command.map Command.toJson),
    ("isPreferred", a.isPreferred.map .bool),
    ("disabled", a.disabled.map DisabledReason.toJson),
    ("data", a.data.unlessNull)]

end CodeAction

end EditorBridge
