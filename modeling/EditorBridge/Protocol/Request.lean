import EditorBridge.Protocol.CodeAction

/-!
# Requests about a document

The parameters of the hover request and of the code action request, and those of the request that
asks for the edit of one deferred code action.
-/

namespace EditorBridge

/-- The requests that the client sends. -/
inductive Method where
  | handshake
  | hover
  | codeAction
  | resolveCodeAction
deriving DecidableEq, Repr

/-- The name of a request on the wire. -/
def Method.name : Method → String
  | .handshake => "initialize"
  | .hover => "textDocument/hover"
  | .codeAction => "textDocument/codeAction"
  | .resolveCodeAction => "experimental/resolveCodeAction"

/-- The part of a request that names a token for the progress of the work. -/
def workDoneTokenFields : Fields (Option NumberOrString) :=
  .optional "workDoneToken" NumberOrString.decode

/-- The part of a request that names a token for partial results. -/
def partialResultTokenFields : Fields (Option NumberOrString) :=
  .optional "partialResultToken" NumberOrString.decode

/-- A document. -/
structure DocumentId where
  uri : Uri
deriving DecidableEq

namespace DocumentId

/-- The fields of a document identifier. -/
def fields : Fields DocumentId :=
  DocumentId.mk <$> .required "uri" .uri

/-- Decodes a document identifier. -/
def decode : Decoder DocumentId :=
  fields.record "TextDocumentIdentifier"

/-- The JSON of a document identifier. -/
def toJson (d : DocumentId) : Json :=
  .record [("uri", some d.uri.toJson)]

end DocumentId

/-- Where and when code actions were asked for. -/
structure CodeActionContext where
  diagnostics : List Diagnostic
  only : Option (List String)
  triggerKind : Option Int32
deriving DecidableEq

namespace CodeActionContext

/-- The fields of a code action context. -/
def fields : Fields CodeActionContext :=
  CodeActionContext.mk <$> .required "diagnostics" (.list Diagnostic.decode)
    <*> .optional "only" (.list .string)
    <*> .optional "triggerKind" .int32

/-- Decodes a code action context. -/
def decode : Decoder CodeActionContext :=
  fields.record "CodeActionContext"

/-- The JSON of a code action context. -/
def toJson (c : CodeActionContext) : Json :=
  .record [("diagnostics", some (.ofList Diagnostic.toJson c.diagnostics)),
    ("only", c.only.map (.ofList .str)), ("triggerKind", c.triggerKind.map .ofInt32)]

end CodeActionContext

/-- A request for the code actions of a range. -/
structure CodeActionParams where
  textDocument : DocumentId
  range : Range
  context : CodeActionContext
  workDoneToken : Option NumberOrString
  partialResultToken : Option NumberOrString
deriving DecidableEq

namespace CodeActionParams

/-- The fields of a code action request, its tokens apart. -/
def ownFields : Fields (DocumentId × Range × CodeActionContext) :=
  (fun d r c => (d, r, c)) <$> .required "textDocument" DocumentId.decode
    <*> .required "range" Range.decode
    <*> .required "context" CodeActionContext.decode

/-- Decodes a code action request. -/
def decode : Decoder CodeActionParams :=
  ownFields.flattened (fun (document, range, context) ms => do
    let workDone ← workDoneTokenFields.ofMembers .gathered ms
    let partialResult ← partialResultTokenFields.ofMembers .gathered ms
    return ⟨document, range, context, workDone, partialResult⟩) "CodeActionParams"

/-- The JSON of a code action request. -/
def toJson (p : CodeActionParams) : Json :=
  .record [
    ("textDocument", some p.textDocument.toJson),
    ("range", some p.range.toJson),
    ("context", some p.context.toJson),
    ("workDoneToken", p.workDoneToken.map NumberOrString.toJson),
    ("partialResultToken", p.partialResultToken.map NumberOrString.toJson)]

end CodeActionParams

/-- A request for the hover at a position. -/
structure HoverParams where
  textDocument : DocumentId
  position : Position
  workDoneToken : Option NumberOrString
deriving DecidableEq

namespace HoverParams

/-- The part of a request that names a position of a document. -/
def placeFields : Fields (DocumentId × Position) :=
  Prod.mk <$> .required "textDocument" DocumentId.decode
    <*> .required "position" Position.decode

/-- Decodes a hover request. -/
def decode : Decoder HoverParams :=
  (Fields.pure ()).flattened (fun () ms => do
    let (document, position) ← placeFields.ofMembers .gathered ms
    let workDone ← workDoneTokenFields.ofMembers .gathered ms
    return ⟨document, position, workDone⟩) "HoverParams"

/-- The JSON of a hover request. -/
def toJson (p : HoverParams) : Json :=
  .record [
    ("textDocument", some p.textDocument.toJson),
    ("position", some p.position.toJson),
    ("workDoneToken", p.workDoneToken.map NumberOrString.toJson)]

end HoverParams

/-- A request for the edit of a deferred code action: the identifier that the server gave it,
`null` for none, and the request that it came from. -/
structure ResolveParams where
  id : Json
  codeActionParams : CodeActionParams
deriving DecidableEq

namespace ResolveParams

/-- The fields of a request for an edit. -/
def fields : Fields ResolveParams :=
  ResolveParams.mk <$> .omissibleValue "id"
    <*> .required "codeActionParams" CodeActionParams.decode

/-- Decodes a request for an edit. -/
def decode : Decoder ResolveParams :=
  fields.record "ResolveCodeActionParams"

/-- The JSON of a request for an edit. -/
def toJson (p : ResolveParams) : Json :=
  .record [("id", some p.id), ("codeActionParams", some p.codeActionParams.toJson)]

end ResolveParams

/-- One member of a group of code actions: its label, and the argument of its own command. -/
structure GroupEntry where
  label : String
  arguments : Json
deriving DecidableEq

namespace GroupEntry

/-- The fields of a group entry. -/
def fields : Fields GroupEntry :=
  GroupEntry.mk <$> .required "label" .string <*> .required "arguments" .any

/-- Decodes a group entry. -/
def decode : Decoder GroupEntry :=
  fields.record "ActionGroupEntry"

/-- The JSON of a group entry. -/
def toJson (e : GroupEntry) : Json :=
  .record [("label", some (.str e.label)), ("arguments", some e.arguments)]

end GroupEntry

end EditorBridge
