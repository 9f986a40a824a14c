import EditorBridge.Protocol.Request

/-!
# The handshake

The parameters of the first request of a session and the server's answer to it.

Most capabilities of either side are only handed on, and this library has no formats for them.
Those are read by a `CapabilityReader` and kept as the JSON that is written for them again.
-/

namespace EditorBridge

/-- Reads the capabilities that are only handed on: under each key, what is written for a value once
it has been read, or why it cannot be read. -/
abbrev CapabilityReader := String → Decoder Json

/-- Takes every value as it is. -/
def CapabilityReader.verbatim : CapabilityReader :=
  fun _ => .any

/-- A capability that is only handed on. -/
def Fields.handedOn (read : CapabilityReader) (name : String) : Fields (Option Json) :=
  .optional name (read name)

/-- General capabilities of a client. -/
structure GeneralCapabilities where
  regularExpressions : Option Json
  markdown : Option Json
  staleRequestSupport : Option Json
  positionEncodings : Option (List String)
deriving DecidableEq

namespace GeneralCapabilities

/-- The fields of general capabilities. -/
def fields (read : CapabilityReader) : Fields GeneralCapabilities :=
  GeneralCapabilities.mk <$> .handedOn read "regularExpressions"
    <*> .handedOn read "markdown"
    <*> .handedOn read "staleRequestSupport"
    <*> .optional "positionEncodings" (.list .string)

/-- Decodes general capabilities. -/
def decode (read : CapabilityReader) : Decoder GeneralCapabilities :=
  (fields read).record "GeneralClientCapabilities"

/-- The JSON of general capabilities. -/
def toJson (c : GeneralCapabilities) : Json :=
  .record [
    ("regularExpressions", c.regularExpressions),
    ("markdown", c.markdown),
    ("staleRequestSupport", c.staleRequestSupport),
    ("positionEncodings", c.positionEncodings.map (.ofList .str))]

end GeneralCapabilities

/-- What a client can do.  `experimental` holds capabilities outside the standard, `null` for
none. -/
structure ClientCapabilities where
  workspace : Option Json
  textDocument : Option Json
  notebookDocument : Option Json
  window : Option Json
  general : Option GeneralCapabilities
  experimental : Json
deriving DecidableEq

namespace ClientCapabilities

/-- The fields of a client's capabilities. -/
def fields (read : CapabilityReader) : Fields ClientCapabilities :=
  ClientCapabilities.mk <$> .handedOn read "workspace"
    <*> .handedOn read "textDocument"
    <*> .handedOn read "notebookDocument"
    <*> .handedOn read "window"
    <*> .optional "general" (GeneralCapabilities.decode read)
    <*> .value "experimental"

/-- Decodes a client's capabilities. -/
def decode (read : CapabilityReader) : Decoder ClientCapabilities :=
  (fields read).record "ClientCapabilities"

/-- The JSON of a client's capabilities. -/
def toJson (c : ClientCapabilities) : Json :=
  .record [
    ("workspace", c.workspace),
    ("textDocument", c.textDocument),
    ("notebookDocument", c.notebookDocument),
    ("window", c.window),
    ("general", c.general.map GeneralCapabilities.toJson),
    ("experimental", c.experimental.unlessNull)]

end ClientCapabilities

/-- How much the server is to report about its work. -/
inductive TraceValue where
  | off
  | messages
  | verbose
deriving DecidableEq, Repr

namespace TraceValue

/-- The values by their names. -/
def names : List (String × TraceValue) :=
  [("off", off), ("messages", messages), ("verbose", verbose)]

/-- Decodes a trace value. -/
def decode : Decoder TraceValue :=
  .variant names

/-- The JSON of a trace value. -/
def toJson : TraceValue → Json
  | off => .str "off"
  | messages => .str "messages"
  | verbose => .str "verbose"

end TraceValue

/-- A folder of the workspace. -/
structure WorkspaceFolder where
  uri : Uri
  name : String
deriving DecidableEq

namespace WorkspaceFolder

/-- The fields of a workspace folder. -/
def fields : Fields WorkspaceFolder :=
  WorkspaceFolder.mk <$> .required "uri" .uri <*> .required "name" .string

/-- Decodes a workspace folder. -/
def decode : Decoder WorkspaceFolder :=
  fields.record "WorkspaceFolder"

/-- The JSON of a workspace folder. -/
def toJson (f : WorkspaceFolder) : Json :=
  .record [("uri", some f.uri.toJson), ("name", some (.str f.name))]

end WorkspaceFolder

/-- The name of a program and its version. -/
structure ProgramInfo where
  name : String
  version : Option String
deriving DecidableEq, Repr

namespace ProgramInfo

/-- The fields of a program's name and version. -/
def fields : Fields ProgramInfo :=
  ProgramInfo.mk <$> .required "name" .string <*> .optional "version" .string

/-- Decodes a program's name and version; `side` is the name of the record. -/
def decode (side : String) : Decoder ProgramInfo :=
  fields.record side

/-- The JSON of a program's name and version. -/
def toJson (i : ProgramInfo) : Json :=
  .record [("name", some (.str i.name)), ("version", i.version.map .str)]

end ProgramInfo

/-- The first request of a session. -/
structure InitializeParams where
  processId : Option UInt32
  rootPath : Option String
  rootUri : Option Uri
  initializationOptions : Json
  capabilities : ClientCapabilities
  trace : Option TraceValue
  workspaceFolders : Option (List WorkspaceFolder)
  clientInfo : Option ProgramInfo
  locale : Option String
  workDoneToken : Option NumberOrString
deriving DecidableEq

namespace InitializeParams

/-- The fields of the first request, given its token. -/
def ownFields (read : CapabilityReader) : Fields (Option NumberOrString → InitializeParams) :=
  InitializeParams.mk <$> .optional "processId" .uint32
    <*> .optional "rootPath" .string
    <*> .optional "rootUri" .uri
    <*> .value "initializationOptions"
    <*> .required "capabilities" (ClientCapabilities.decode read)
    <*> .optional "trace" TraceValue.decode
    <*> .optional "workspaceFolders" (.list WorkspaceFolder.decode)
    <*> .optional "clientInfo" (ProgramInfo.decode "ClientInfo")
    <*> .optional "locale" .string

/-- Decodes the first request. -/
def decode (read : CapabilityReader) : Decoder InitializeParams :=
  (ownFields read).flattened (fun withToken ms =>
    (workDoneTokenFields.ofMembers .gathered ms).map withToken) "InitializeParams"

/-- The JSON of the first request; an unknown process and an unknown root are `null`. -/
def toJson (p : InitializeParams) : Json :=
  .record [
    ("processId", some ((p.processId.map .ofUInt32).getD .null)),
    ("rootPath", p.rootPath.map .str),
    ("rootUri", some ((p.rootUri.map Uri.toJson).getD .null)),
    ("initializationOptions", p.initializationOptions.unlessNull),
    ("capabilities", some p.capabilities.toJson),
    ("trace", p.trace.map TraceValue.toJson),
    ("workspaceFolders", p.workspaceFolders.map (.ofList WorkspaceFolder.toJson)),
    ("clientInfo", p.clientInfo.map ProgramInfo.toJson),
    ("locale", p.locale.map .str),
    ("workDoneToken", p.workDoneToken.map NumberOrString.toJson)]

end InitializeParams

/-- Whether a server has a capability, or with which options. -/
inductive Provider (α : Type) where
  | simple (enabled : Bool)
  | options (options : α)
deriving DecidableEq, Repr

namespace Provider

/-- Decodes a capability that is a boolean or a record of options. -/
def decode {α : Type} (union : String) (options : Decoder α) : Decoder (Provider α) :=
  .firstOf union [
    fun source j => (Decoder.bool source j).map simple,
    fun source j => (options source j).map Provider.options]

/-- The JSON of a capability. -/
def toJson {α : Type} (options : α → Json) : Provider α → Json
  | simple enabled => .bool enabled
  | .options o => options o

end Provider

/-- Options of a capability that only tell whether the server reports progress. -/
structure ProgressOptions where
  workDoneProgress : Option Bool
deriving DecidableEq, Repr

namespace ProgressOptions

/-- The part of a record of options that tells whether the server reports progress. -/
def fields : Fields ProgressOptions :=
  ProgressOptions.mk <$> .optional "workDoneProgress" .bool

/-- Decodes options that hold this part and nothing else. -/
def decode (name : String) : Decoder ProgressOptions :=
  (Fields.pure ()).flattened (fun () ms => fields.ofMembers .gathered ms) name

/-- The JSON of the options. -/
def toJson (o : ProgressOptions) : Json :=
  .record [("workDoneProgress", o.workDoneProgress.map .bool)]

end ProgressOptions

/-- Options of a server's code actions. -/
structure CodeActionOptions where
  codeActionKinds : Option (List String)
  workDoneProgress : Option Bool
  resolveProvider : Option Bool
deriving DecidableEq, Repr

namespace CodeActionOptions

/-- The fields of code action options, the one on progress apart. -/
def ownFields : Fields (Option (List String) × Option Bool) :=
  Prod.mk <$> .optional "codeActionKinds" (.list .string) <*> .optional "resolveProvider" .bool

/-- Decodes code action options. -/
def decode : Decoder CodeActionOptions :=
  ownFields.flattened (fun (kinds, resolve) ms => do
    let progress ← ProgressOptions.fields.ofMembers .gathered ms
    return ⟨kinds, progress.workDoneProgress, resolve⟩) "CodeActionOptions"

/-- The JSON of code action options. -/
def toJson (o : CodeActionOptions) : Json :=
  .record [("codeActionKinds", o.codeActionKinds.map (.ofList .str)),
    ("workDoneProgress", o.workDoneProgress.map .bool),
    ("resolveProvider", o.resolveProvider.map .bool)]

end CodeActionOptions

/-- The commands that a server runs. -/
structure ExecuteCommandOptions where
  commands : List String
  workDoneProgress : Option Bool
deriving DecidableEq, Repr

namespace ExecuteCommandOptions

/-- The field of the commands. -/
def ownFields : Fields (List String) :=
  .required "commands" (.list .string)

/-- Decodes the commands that a server runs. -/
def decode : Decoder ExecuteCommandOptions :=
  ownFields.flattened (fun commands ms => do
    let progress ← ProgressOptions.fields.ofMembers .gathered ms
    return ⟨commands, progress.workDoneProgress⟩) "ExecuteCommandOptions"

/-- The JSON of the commands that a server runs. -/
def toJson (o : ExecuteCommandOptions) : Json :=
  .record [("commands", some (.ofList .str o.commands)),
    ("workDoneProgress", o.workDoneProgress.map .bool)]

end ExecuteCommandOptions

/-- What a server can do.  `experimental` holds capabilities outside the standard, `null` for
none. -/
structure ServerCapabilities where
  positionEncoding : Option String
  textDocumentSync : Option Json
  notebookDocumentSync : Option Json
  selectionRangeProvider : Option Json
  hoverProvider : Option (Provider ProgressOptions)
  completionProvider : Option Json
  signatureHelpProvider : Option Json
  definitionProvider : Option (Provider ProgressOptions)
  typeDefinitionProvider : Option Json
  implementationProvider : Option Json
  referencesProvider : Option Json
  documentHighlightProvider : Option Json
  documentSymbolProvider : Option Json
  workspaceSymbolProvider : Option Json
  codeActionProvider : Option (Provider CodeActionOptions)
  codeLensProvider : Option Json
  documentFormattingProvider : Option Json
  documentRangeFormattingProvider : Option Json
  documentOnTypeFormattingProvider : Option Json
  renameProvider : Option Json
  documentLinkProvider : Option Json
  colorProvider : Option Json
  foldingRangeProvider : Option Json
  declarationProvider : Option Json
  executeCommandProvider : Option ExecuteCommandOptions
  workspace : Option Json
  callHierarchyProvider : Option Json
  semanticTokensProvider : Option Json
  monikerProvider : Option Json
  linkedEditingRangeProvider : Option Json
  inlineValueProvider : Option Json
  inlayHintProvider : Option Json
  diagnosticProvider : Option Json
  experimental : Json
deriving DecidableEq

namespace ServerCapabilities

/-- The fields of a server's capabilities. -/
def fields (read : CapabilityReader) : Fields ServerCapabilities :=
  ServerCapabilities.mk <$> .optional "positionEncoding" .string
    <*> .handedOn read "textDocumentSync"
    <*> .handedOn read "notebookDocumentSync"
    <*> .handedOn read "selectionRangeProvider"
    <*> .optional "hoverProvider"
      (Provider.decode "HoverProviderCapability" (ProgressOptions.decode "HoverOptions"))
    <*> .handedOn read "completionProvider"
    <*> .handedOn read "signatureHelpProvider"
    <*> .optional "definitionProvider"
      (Provider.decode "OneOf" (ProgressOptions.decode "DefinitionOptions"))
    <*> .handedOn read "typeDefinitionProvider"
    <*> .handedOn read "implementationProvider"
    <*> .handedOn read "referencesProvider"
    <*> .handedOn read "documentHighlightProvider"
    <*> .handedOn read "documentSymbolProvider"
    <*> .handedOn read "workspaceSymbolProvider"
    <*> .optional "codeActionProvider"
      (Provider.decode "CodeActionProviderCapability" CodeActionOptions.decode)
    <*> .handedOn read "codeLensProvider"
    <*> .handedOn read "documentFormattingProvider"
    <*> .handedOn read "documentRangeFormattingProvider"
    <*> .handedOn read "documentOnTypeFormattingProvider"
    <*> .handedOn read "renameProvider"
    <*> .handedOn read "documentLinkProvider"
    <*> .handedOn read "colorProvider"
    <*> .handedOn read "foldingRangeProvider"
    <*> .handedOn read "declarationProvider"
    <*> .optional "executeCommandProvider" ExecuteCommandOptions.decode
    <*> .handedOn read "workspace"
    <*> .handedOn read "callHierarchyProvider"
    <*> .handedOn read "semanticTokensProvider"
    <*> .handedOn read "monikerProvider"
    <*> .handedOn read "linkedEditingRangeProvider"
    <*> .handedOn read "inlineValueProvider"
    <*> .handedOn read "inlayHintProvider"
    <*> .handedOn read "diagnosticProvider"
    <*> .value "experimental"

/-- Decodes a server's capabilities. -/
def decode (read : CapabilityReader) : Decoder ServerCapabilities :=
  (fields read).record "ServerCapabilities"

/-- The JSON of a server's capabilities. -/
def toJson (c : ServerCapabilities) : Json :=
  .record [
    ("positionEncoding", c.positionEncoding.map .str),
    ("textDocumentSync", c.textDocumentSync),
    ("notebookDocumentSync", c.notebookDocumentSync),
    ("selectionRangeProvider", c.selectionRangeProvider),
    ("hoverProvider", c.hoverProvider.map (Provider.toJson ProgressOptions.toJson)),
    ("completionProvider", c.completionProvider),
    ("signatureHelpProvider", c.signatureHelpProvider),
    ("definitionProvider", c.definitionProvider.map (Provider.toJson ProgressOptions.toJson)),
    ("typeDefinitionProvider", c.typeDefinitionProvider),
    ("implementationProvider", c.implementationProvider),
    ("referencesProvider", c.referencesProvider),
    ("documentHighlightProvider", c.documentHighlightProvider),
    ("documentSymbolProvider", c.documentSymbolProvider),
    ("workspaceSymbolProvider", c.workspaceSymbolProvider),
    ("codeActionProvider", c.codeActionProvider.map (Provider.toJson CodeActionOptions.toJson)),
    ("codeLensProvider", c.codeLensProvider),
    ("documentFormattingProvider", c.documentFormattingProvider),
    ("documentRangeFormattingProvider", c.documentRangeFormattingProvider),
    ("documentOnTypeFormattingProvider", c.documentOnTypeFormattingProvider),
    ("renameProvider", c.renameProvider),
    ("documentLinkProvider", c.documentLinkProvider),
    ("colorProvider", c.colorProvider),
    ("foldingRangeProvider", c.foldingRangeProvider),
    ("declarationProvider", c.declarationProvider),
    ("executeCommandProvider", c.executeCommandProvider.map ExecuteCommandOptions.toJson),
    ("workspace", c.workspace),
    ("callHierarchyProvider", c.callHierarchyProvider),
    ("semanticTokensProvider", c.semanticTokensProvider),
    ("monikerProvider", c.monikerProvider),
    ("linkedEditingRangeProvider", c.linkedEditingRangeProvider),
    ("inlineValueProvider", c.inlineValueProvider),
    ("inlayHintProvider", c.inlayHintProvider),
    ("diagnosticProvider", c.diagnosticProvider),
    ("experimental", c.experimental.unlessNull)]

end ServerCapabilities

/-- The answer to the first request. -/
structure InitializeResult where
  capabilities : ServerCapabilities
  serverInfo : Option ProgramInfo
deriving DecidableEq

namespace InitializeResult

/-- The fields of the answer to the first request. -/
def fields (read : CapabilityReader) : Fields InitializeResult :=
  InitializeResult.mk <$> .required "capabilities" (ServerCapabilities.decode read)
    <*> .optional "serverInfo" (ProgramInfo.decode "ServerInfo")

/-- Decodes the answer to the first request. -/
def decode (read : CapabilityReader) : Decoder InitializeResult :=
  (fields read).record "InitializeResult"

/-- The JSON of the answer to the first request. -/
def toJson (r : InitializeResult) : Json :=
  .record [("capabilities", some r.capabilities.toJson),
    ("serverInfo", r.serverInfo.map ProgramInfo.toJson)]

end InitializeResult

end EditorBridge
