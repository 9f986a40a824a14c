import EditorBridge.Protocol.Diagnostic

/-!
# Workspace edits

Changes to several documents at once: text edits by document, or a list of document changes, which
may also create, rename and delete files.

A list of document changes is read as text changes if all of them are, and otherwise each as an
operation on a file, or as a text change if it is none.
-/

namespace EditorBridge

/-- The version of a document that a text change was made for, if it is known. -/
structure VersionedDocument where
  uri : Uri
  version : Option Int32
deriving DecidableEq

namespace VersionedDocument

/-- The fields of a versioned document. -/
def fields : Fields VersionedDocument :=
  VersionedDocument.mk <$> .required "uri" .uri <*> .optional "version" .int32

/-- Decodes a versioned document. -/
def decode : Decoder VersionedDocument :=
  fields.record "OptionalVersionedTextDocumentIdentifier"

/-- The JSON of a versioned document; an unknown version is `null`. -/
def toJson (d : VersionedDocument) : Json :=
  .record [("uri", some d.uri.toJson), ("version", some ((d.version.map .ofInt32).getD .null))]

end VersionedDocument

/-- The text edits of one document. -/
structure TextDocumentEdit where
  textDocument : VersionedDocument
  edits : List TextEdit
deriving DecidableEq

namespace TextDocumentEdit

/-- The fields of the text edits of one document. -/
def fields : Fields TextDocumentEdit :=
  TextDocumentEdit.mk <$> .required "textDocument" VersionedDocument.decode
    <*> .required "edits" (.list TextEdit.decode)

/-- Decodes the text edits of one document. -/
def decode : Decoder TextDocumentEdit :=
  fields.record "TextDocumentEdit"

/-- The JSON of the text edits of one document. -/
def toJson (e : TextDocumentEdit) : Json :=
  .record [("textDocument", some e.textDocument.toJson),
    ("edits", some (.ofList TextEdit.toJson e.edits))]

end TextDocumentEdit

/-- What to do when the file that is to be made exists. -/
structure WriteOptions where
  overwrite : Option Bool
  ignoreIfExists : Option Bool
deriving DecidableEq, Repr

namespace WriteOptions

/-- The fields of write options. -/
def fields : Fields WriteOptions :=
  WriteOptions.mk <$> .optional "overwrite" .bool <*> .optional "ignoreIfExists" .bool

/-- Decodes write options. -/
def decode (name : String) : Decoder WriteOptions :=
  fields.record name

/-- The JSON of write options. -/
def toJson (o : WriteOptions) : Json :=
  .record [("overwrite", o.overwrite.map .bool), ("ignoreIfExists", o.ignoreIfExists.map .bool)]

end WriteOptions

/-- What to do when the file that is to be deleted is a folder or does not exist. -/
structure DeleteOptions where
  recursive : Option Bool
  ignoreIfNotExists : Option Bool
  annotationId : Option String
deriving DecidableEq, Repr

namespace DeleteOptions

/-- The fields of delete options. -/
def fields : Fields DeleteOptions :=
  DeleteOptions.mk <$> .optional "recursive" .bool <*> .optional "ignoreIfNotExists" .bool
    <*> .optional "annotationId" .string

/-- Decodes delete options. -/
def decode : Decoder DeleteOptions :=
  fields.record "DeleteFileOptions"

/-- The JSON of delete options. -/
def toJson (o : DeleteOptions) : Json :=
  .record [("recursive", o.recursive.map .bool),
    ("ignoreIfNotExists", o.ignoreIfNotExists.map .bool),
    ("annotationId", o.annotationId.map .str)]

end DeleteOptions

/-- An operation on a file. -/
inductive FileOperation where
  | create (uri : Uri) (options : Option WriteOptions) (annotationId : Option String)
  | rename (oldUri newUri : Uri) (options : Option WriteOptions) (annotationId : Option String)
  | delete (uri : Uri) (options : Option DeleteOptions)
deriving DecidableEq

namespace FileOperation

/-- The fields of the creation of a file. -/
def createFields : Fields FileOperation :=
  create <$> .required "uri" .uri <*> .optional "options" (WriteOptions.decode "CreateFileOptions")
    <*> .optional "annotationId" .string

/-- The fields of the renaming of a file. -/
def renameFields : Fields FileOperation :=
  rename <$> .required "oldUri" .uri <*> .required "newUri" .uri
    <*> .optional "options" (WriteOptions.decode "RenameFileOptions")
    <*> .optional "annotationId" .string

/-- The fields of the deletion of a file. -/
def deleteFields : Fields FileOperation :=
  delete <$> .required "uri" .uri <*> .optional "options" DeleteOptions.decode

/-- The kinds of operations, by the name or the number that is their tag. -/
def ofKind? : Json → Option (Decoder FileOperation)
  | .str "create" => some (createFields.record "CreateFile")
  | .str "rename" => some (renameFields.record "RenameFile")
  | .str "delete" => some (deleteFields.record "DeleteFile")
  | .int 0 => some (createFields.record "CreateFile")
  | .int 1 => some (renameFields.record "RenameFile")
  | .int 2 => some (deleteFields.record "DeleteFile")
  | _ => none

/-- Decodes an operation by its tag: the member `kind` of an object, or the first item of an
array. -/
def decode? : Json → Option FileOperation
  | .obj ms => do
    let tag ← ms.lookup "kind"
    let decode ← ofKind? tag
    (decode .gathered (.obj ms)).toOption
  | .arr (tag :: items) => do
    let decode ← ofKind? tag
    (decode .gathered (.arr items)).toOption
  | _ => none

/-- The JSON of an operation. -/
def toJson : FileOperation → Json
  | .create uri options annotationId =>
    .record [("kind", some (.str "create")), ("uri", some uri.toJson),
      ("options", options.map WriteOptions.toJson), ("annotationId", annotationId.map .str)]
  | .rename oldUri newUri options annotationId =>
    .record [("kind", some (.str "rename")), ("oldUri", some oldUri.toJson),
      ("newUri", some newUri.toJson), ("options", options.map WriteOptions.toJson),
      ("annotationId", annotationId.map .str)]
  | .delete uri options =>
    .record [("kind", some (.str "delete")), ("uri", some uri.toJson),
      ("options", options.map DeleteOptions.toJson)]

end FileOperation

/-- A change to a document or a file. -/
inductive DocumentChange where
  | text (edit : TextDocumentEdit)
  | file (operation : FileOperation)
deriving DecidableEq

namespace DocumentChange

/-- Decodes a change that may be an operation on a file. -/
def decodeAny : Decoder DocumentChange := fun source j =>
  match FileOperation.decode? j with
  | some operation => .ok (file operation)
  | none => (TextDocumentEdit.decode source j).map text

/-- Decodes a list of changes. -/
def decodeList : Decoder (List DocumentChange) :=
  .firstOf "DocumentChanges" [
    .list fun source j => (TextDocumentEdit.decode source j).map text,
    .list decodeAny]

/-- The JSON of a change. -/
def toJson : DocumentChange → Json
  | .text edit => edit.toJson
  | .file operation => operation.toJson

end DocumentChange

/-- What a user is told about some changes before they are made. -/
structure ChangeAnnotation where
  label : String
  needsConfirmation : Option Bool
  description : Option String
deriving DecidableEq, Repr

namespace ChangeAnnotation

/-- The fields of a change annotation. -/
def fields : Fields ChangeAnnotation :=
  ChangeAnnotation.mk <$> .required "label" .string <*> .optional "needsConfirmation" .bool
    <*> .optional "description" .string

/-- Decodes a change annotation. -/
def decode : Decoder ChangeAnnotation :=
  fields.record "ChangeAnnotation"

/-- The JSON of a change annotation. -/
def toJson (a : ChangeAnnotation) : Json :=
  .record [("label", some (.str a.label)), ("needsConfirmation", a.needsConfirmation.map .bool),
    ("description", a.description.map .str)]

end ChangeAnnotation

/-- Changes to several documents.  The entries of a map are kept in the order of its keys. -/
structure WorkspaceEdit where
  changes : Option (List (Uri × List TextEdit))
  documentChanges : Option (List DocumentChange)
  changeAnnotations : Option (List (String × ChangeAnnotation))
deriving DecidableEq

namespace WorkspaceEdit

/-- The fields of a workspace edit. -/
def fields : Fields WorkspaceEdit :=
  WorkspaceEdit.mk <$> .omissible "changes" (.map Decoder.uriKey (.list TextEdit.decode))
    <*> .optional "documentChanges" DocumentChange.decodeList
    <*> .optional "changeAnnotations" (.map .ok ChangeAnnotation.decode)

/-- Decodes a workspace edit. -/
def decode : Decoder WorkspaceEdit :=
  fields.record "WorkspaceEdit"

/-- The JSON of a workspace edit. -/
def toJson (e : WorkspaceEdit) : Json :=
  .record [
    ("changes", e.changes.map fun entries =>
      .obj (entries.map fun (uri, edits) => (uri.text, .ofList TextEdit.toJson edits))),
    ("documentChanges", e.documentChanges.map (.ofList DocumentChange.toJson)),
    ("changeAnnotations", e.changeAnnotations.map fun entries =>
      .obj (entries.map fun (id, annotation) => (id, annotation.toJson)))]

end WorkspaceEdit

end EditorBridge
