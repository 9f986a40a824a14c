import EditorBridge.Violation

/-!
# Code actions as the server offers them

Each item of a server's list has exactly one of three forms: a command, a code action with its
edit, or a deferred action, whose edit is computed when it is chosen.  The members `command` and
`edit` tell which (`Offer.decode`); anything else is a violation.
-/

namespace EditorBridge

/-- A code action whose edit is computed when it is chosen.  The server may give it a group, and an
identifier of its own, `null` for none. -/
structure DeferredAction where
  title : String
  kind : Option String
  diagnostics : Option (List Diagnostic)
  group : Option String
  id : Json
deriving DecidableEq

namespace DeferredAction

/-- The fields of a deferred action. -/
def fields : Fields DeferredAction :=
  DeferredAction.mk <$> .required "title" .string
    <*> .omissible "kind" .string
    <*> .omissible "diagnostics" (.list Diagnostic.decode)
    <*> .omissible "group" .string
    <*> .omissibleValue "id"

/-- Decodes a deferred action. -/
def decode : Decoder DeferredAction :=
  fields.record "CodeActionStub"

/-- The JSON of a deferred action. -/
def toJson (a : DeferredAction) : Json :=
  .record [
    ("title", some (.str a.title)),
    ("kind", a.kind.map .str),
    ("diagnostics", a.diagnostics.map (.ofList Diagnostic.toJson)),
    ("group", a.group.map .str),
    ("id", a.id.unlessNull)]

end DeferredAction

/-- An item of the list of code actions that a server sends. -/
inductive Offer where
  | deferred (action : DeferredAction)
  | action (action : CodeAction)
  | command (command : Command)
deriving DecidableEq

namespace Offer

/-- Whether a member is there and not `null`. -/
def hasMember (key : String) (j : Json) : Bool :=
  match j.get? key with
  | some v => !v.isNull
  | none => false

/-- Whether a member is there and a string. -/
def hasString (key : String) (j : Json) : Bool :=
  match j.get? key with
  | some (.str _) => true
  | _ => false

/-- A decoding error as a violation of the item at an index. -/
def located {α : Type} (index : Nat) (result : Except DecodeError α) : Except Violation α :=
  result.mapError (.malformed index)

/-- Decodes an object with a title.  A command has a string `command`, a code action an `edit`, and
a deferred action neither; a code action must not have a command besides. -/
def decodeTitled (index : Nat) (j : Json) : Except Violation Offer :=
  if hasString "command" j then (located index (Command.decode .inPlace j)).map command
  else if hasMember "edit" j || hasMember "command" j then
    match located index (CodeAction.decode .inPlace j) with
    | .error violation => .error violation
    | .ok a =>
      match a.command with
      | some _ => .error (.commandInAction a.title)
      | none => .ok (action a)
  else (located index (DeferredAction.decode .inPlace j)).map deferred

/-- Decodes the item at an index. -/
def decode (index : Nat) : Json → Except Violation Offer
  | .obj ms =>
    if hasString "title" (.obj ms) then decodeTitled index (.obj ms)
    else .error (.missingTitle index)
  | _ => .error (.notAnObject index)

/-- Decodes items from an index on, up to the first violation. -/
def decodeItems (index : Nat) : List Json → Except Violation (List Offer)
  | [] => .ok []
  | j :: rest =>
    match decode index j with
    | .error violation => .error violation
    | .ok offer => (decodeItems (index + 1) rest).map (offer :: ·)

/-- Decodes the answer to a code action request; no answer, like `null`, is no list. -/
def decodeResult : Option Json → Except Violation (Option (List Offer))
  | none => .ok none
  | some .null => .ok none
  | some (.arr items) => (decodeItems 0 items).map some
  | some j => .error (.notAList j.kind)

/-- The JSON of what an offer holds. -/
def toJson : Offer → Json
  | deferred a => a.toJson
  | action a => a.toJson
  | command c => c.toJson

end Offer

end EditorBridge
