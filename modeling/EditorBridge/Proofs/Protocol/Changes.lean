import EditorBridge.CodeActions.Offer
import EditorBridge.Proofs.Protocol.RoundTrip

/-!
# Round trips of edits and code actions

What is written for a workspace edit, a command, a code action and a deferred action decodes to it.

A list of document changes has two readings, which are tried in order: text changes only, and text
changes among operations on files.  What is written for an operation on a file is no text change
(`TextDocumentEdit.decode_operation`) and what is written for a text change is no operation
(`FileOperation.decode?_edit`), so each list is read as what it is, by the first reading if it is
made of text changes and by the second otherwise (`DocumentChange.inverts_list`).

Main statements: `WorkspaceEdit.inverts`, `Command.inverts`, `CodeAction.inverts` and
`DeferredAction.inverts`.
-/

namespace EditorBridge

open Fields (Reads)

/-! ### Text changes -/

theorem TextEdit.inverts : TextEdit.decode.Inverts TextEdit.toJson := by
  refine Reads.inverts (fun ⟨range, newText⟩ => ?_) fun _ => by simp
  refine .seq (.map ?_) ?_
  · exact .required Range.inverts (by simp)
  · exact .required Decoder.inverts_string (by simp)

theorem VersionedDocument.inverts :
    VersionedDocument.decode.Inverts VersionedDocument.toJson := by
  refine Reads.inverts (fun ⟨uri, version⟩ => ?_) fun _ => by simp
  refine .seq (.map ?_) ?_
  · exact .required Decoder.inverts_uri (by simp [Uri.toJson])
  · exact .optional_getD Decoder.inverts_int32 (by simp)

theorem TextDocumentEdit.inverts : TextDocumentEdit.decode.Inverts TextDocumentEdit.toJson := by
  refine Reads.inverts (fun ⟨textDocument, edits⟩ => ?_) fun _ => by simp
  refine .seq (.map ?_) ?_
  · exact .required VersionedDocument.inverts (by simp)
  · exact .required TextEdit.inverts.list (by simp)

/-! ### Operations on files -/

theorem WriteOptions.inverts (name : String) :
    (WriteOptions.decode name).Inverts WriteOptions.toJson := by
  refine Reads.inverts (fun ⟨overwrite, ignoreIfExists⟩ => ?_) fun _ => by simp
  refine .seq (.map ?_) ?_
  · exact .optional Decoder.inverts_bool (by simp)
  · exact .optional Decoder.inverts_bool (by simp)

theorem DeleteOptions.inverts : DeleteOptions.decode.Inverts DeleteOptions.toJson := by
  refine Reads.inverts (fun ⟨recursive, ignoreIfNotExists, annotationId⟩ => ?_) fun _ => by simp
  refine .seq (.seq (.map ?_) ?_) ?_
  · exact .optional Decoder.inverts_bool (by simp)
  · exact .optional Decoder.inverts_bool (by simp)
  · exact .optional Decoder.inverts_string (by simp)

namespace FileOperation

/-- What is written for the fields of an operation, its kind among them. -/
def written : FileOperation → List (String × Option Json)
  | .create uri options annotationId =>
    [("kind", some (.str "create")), ("uri", some uri.toJson),
      ("options", options.map WriteOptions.toJson), ("annotationId", annotationId.map .str)]
  | .rename oldUri newUri options annotationId =>
    [("kind", some (.str "rename")), ("oldUri", some oldUri.toJson),
      ("newUri", some newUri.toJson), ("options", options.map WriteOptions.toJson),
      ("annotationId", annotationId.map .str)]
  | .delete uri options =>
    [("kind", some (.str "delete")), ("uri", some uri.toJson),
      ("options", options.map DeleteOptions.toJson)]

theorem toJson_eq (operation : FileOperation) : operation.toJson = .record operation.written := by
  cases operation <;> rfl

theorem nodup_written (operation : FileOperation) :
    (operation.written.map Prod.fst).Nodup := by
  cases operation <;> simp [written]

/-- The fields that are read for the kind of an operation. -/
def fields : FileOperation → Fields FileOperation
  | .create .. => createFields
  | .rename .. => renameFields
  | .delete .. => deleteFields

theorem reads (operation : FileOperation) :
    operation.fields.Reads operation.written operation := by
  cases operation with
  | create uri options annotationId =>
    refine .seq (.seq (.map ?_) ?_) ?_
    · exact .required Decoder.inverts_uri (by simp [written, Uri.toJson])
    · exact .optional (WriteOptions.inverts _) (by simp [written])
    · exact .optional Decoder.inverts_string (by simp [written])
  | rename oldUri newUri options annotationId =>
    refine .seq (.seq (.seq (.map ?_) ?_) ?_) ?_
    · exact .required Decoder.inverts_uri (by simp [written, Uri.toJson])
    · exact .required Decoder.inverts_uri (by simp [written, Uri.toJson])
    · exact .optional (WriteOptions.inverts _) (by simp [written])
    · exact .optional Decoder.inverts_string (by simp [written])
  | delete uri options =>
    refine .seq (.map ?_) ?_
    · exact .required Decoder.inverts_uri (by simp [written, Uri.toJson])
    · exact .optional DeleteOptions.inverts (by simp [written])

/-- The tag that is written for an operation names the fields that it has. -/
theorem exists_kind (operation : FileOperation) : ∃ tag name,
    ("kind", some tag) ∈ operation.written ∧
      ofKind? tag = some (operation.fields.record name) := by
  cases operation with
  | create => exact ⟨.str "create", "CreateFile", by simp [written], rfl⟩
  | rename => exact ⟨.str "rename", "RenameFile", by simp [written], rfl⟩
  | delete => exact ⟨.str "delete", "DeleteFile", by simp [written], rfl⟩

/-- What is written for an operation on a file decodes to it. -/
theorem decode?_toJson (operation : FileOperation) :
    decode? operation.toJson = some operation := by
  obtain ⟨tag, name, htag, hkind⟩ := operation.exists_kind
  have hlookup := Json.lookup_members operation.nodup_written htag
  have hread := operation.reads.ofMembers operation.nodup_written .gathered
  rw [toJson_eq]
  change decode? (.obj (Json.members operation.written)) = _
  simp only [decode?, hlookup, hkind, Fields.record, hread, Option.bind_eq_bind, Option.bind_some,
    Except.toOption]

/-- What is written for a text change is no operation on a file. -/
theorem decode?_edit (edit : TextDocumentEdit) : decode? edit.toJson = none := by
  have hlookup : List.lookup "kind" (Json.members
      [("textDocument", some edit.textDocument.toJson),
        ("edits", some (.ofList TextEdit.toJson edit.edits))]) = none :=
    Json.lookup_members_of_notMem (by simp)
  change decode? (.obj (Json.members _)) = none
  simp only [decode?, hlookup, Option.bind_eq_bind, Option.bind_none]

end FileOperation

/-- What is written for an operation on a file is no text change. -/
theorem TextDocumentEdit.decode_operation (source : Source) (operation : FileOperation) :
    ∃ e, TextDocumentEdit.decode source operation.toJson = .error e := by
  cases h : TextDocumentEdit.decode source operation.toJson with
  | error e => exact ⟨e, rfl⟩
  | ok edit =>
    -- A text change has a document, and what is written for an operation has none.
    rw [FileOperation.toJson_eq] at h
    obtain ⟨withDocument, edits, hdocument, -, -⟩ :=
      Fields.fromMembers_seq_ok (Fields.fromMembers_of_ofMembers h)
    obtain ⟨document, hread, -⟩ := Fields.fromMembers_map_ok hdocument
    obtain ⟨j, hlookup, -⟩ := Fields.fromMembers_required_ok hread
    have hnone : (Json.members operation.written).lookup "textDocument" = none :=
      Json.lookup_members_of_notMem (by cases operation <;> simp [FileOperation.written])
    exact absurd (hlookup.symm.trans hnone) (Option.some_ne_none j)

/-! ### Lists of document changes -/

namespace DocumentChange

theorem decodeAny_toJson (source : Source) (change : DocumentChange) :
    decodeAny source change.toJson = .ok change := by
  cases change with
  | text edit =>
    simp only [decodeAny, toJson, FileOperation.decode?_edit,
      TextDocumentEdit.inverts.decode_toJson, Except.map]
  | file operation => simp only [decodeAny, toJson, FileOperation.decode?_toJson]

/-- A list of changes is read as text changes if it holds nothing else. -/
theorem list_text_toJson {changes : List DocumentChange}
    (htext : ∀ change ∈ changes, ∃ edit, change = .text edit) (source : Source) :
    Decoder.list (fun source j => (TextDocumentEdit.decode source j).map text) source
      (.ofList toJson changes) = .ok changes := by
  refine Decoder.list_ofList fun change hmem => ?_
  obtain ⟨edit, rfl⟩ := htext change hmem
  simp only [toJson, TextDocumentEdit.inverts.decode_toJson, Except.map]

/-- A list with an operation on a file is not read as text changes. -/
theorem list_text_of_file {changes : List DocumentChange} {operation : FileOperation}
    (hmem : .file operation ∈ changes) (source : Source) :
    ∃ e, Decoder.list (fun source j => (TextDocumentEdit.decode source j).map text) source
      (.ofList toJson changes) = .error e := by
  cases h : Decoder.list (fun source j => (TextDocumentEdit.decode source j).map text) source
      (.ofList toJson changes) with
  | error e => exact ⟨e, rfl⟩
  | ok read =>
    -- Every item would have been read, the one of the operation among them.
    have hitems := Decoder.items_ok_iff.mp h
    obtain ⟨i, hi⟩ := List.mem_iff_getElem?.mp hmem
    have hitem : (changes.map toJson)[i]? = some operation.toJson := by
      rw [List.getElem?_map, hi]
      rfl
    obtain ⟨hlt, hget⟩ := List.getElem?_eq_some_iff.mp hitem
    have hread := (List.forall₂_iff_get.mp hitems).2 i hlt (hitems.length_eq ▸ hlt)
    obtain ⟨e, he⟩ := TextDocumentEdit.decode_operation source operation
    rw [List.get_eq_getElem, hget, he] at hread
    cases hread

/-- **Document changes**: a list of changes is read as it was written, whether it holds operations
on files or not. -/
theorem inverts_list : decodeList.Inverts (.ofList toJson) where
  decode_toJson source changes := by
    rw [decodeList]
    by_cases htext : ∀ change ∈ changes, ∃ edit, change = .text edit
    · exact Decoder.firstOf_cons_ok (list_text_toJson htext _) _
    · push Not at htext
      obtain ⟨change, hmem, hfile⟩ := htext
      cases change with
      | text edit => exact absurd rfl (hfile edit)
      | file operation =>
        obtain ⟨e, he⟩ := list_text_of_file hmem .gathered
        rw [Decoder.firstOf_cons_error he]
        refine Decoder.firstOf_cons_ok ?_ _
        exact Decoder.list_ofList fun change _ => decodeAny_toJson _ change
  toJson_ne_null _ := Json.noConfusion

end DocumentChange

/-! ### Workspace edits -/

theorem ChangeAnnotation.inverts : ChangeAnnotation.decode.Inverts ChangeAnnotation.toJson := by
  refine Reads.inverts (fun ⟨label, needsConfirmation, description⟩ => ?_) fun _ => by simp
  refine .seq (.seq (.map ?_) ?_) ?_
  · exact .required Decoder.inverts_string (by simp)
  · exact .optional Decoder.inverts_bool (by simp)
  · exact .optional Decoder.inverts_string (by simp)

theorem WorkspaceEdit.inverts : WorkspaceEdit.decode.Inverts WorkspaceEdit.toJson := by
  refine Reads.inverts (fun ⟨changes, documentChanges, changeAnnotations⟩ => ?_) fun _ => by simp
  refine .seq (.seq (.map ?_) ?_) ?_
  · exact .omissible (TextEdit.inverts.list.map (Decoder.uri_text .inPlace)) (by simp)
  · exact .optional DocumentChange.inverts_list (by simp)
  · exact .optional (Decoder.Inverts.map ChangeAnnotation.inverts fun _ => rfl) (by simp)

/-! ### Commands and actions -/

theorem Command.inverts : Command.decode.Inverts Command.toJson := by
  refine Reads.inverts (fun ⟨title, command, arguments⟩ => ?_) fun _ => by simp
  refine .seq (.seq (.map ?_) ?_) ?_
  · exact .required Decoder.inverts_string (by simp)
  · exact .required Decoder.inverts_string (by simp)
  · exact .optional Decoder.inverts_values (by simp)

theorem DisabledReason.inverts : DisabledReason.decode.Inverts DisabledReason.toJson := by
  refine Reads.inverts (fun ⟨reason⟩ => ?_) fun _ => by simp
  exact .map (.required Decoder.inverts_string (by simp))

theorem CodeAction.inverts : CodeAction.decode.Inverts CodeAction.toJson := by
  refine Reads.inverts (fun ⟨title, kind, diagnostics, edit, command, isPreferred, disabled,
    data⟩ => ?_) fun _ => by simp
  refine .seq (.seq (.seq (.seq (.seq (.seq (.seq (.map ?_) ?_) ?_) ?_) ?_) ?_) ?_) ?_
  · exact .required Decoder.inverts_string (by simp)
  · exact .optional Decoder.inverts_string (by simp)
  · exact .optional Diagnostic.inverts.list (by simp)
  · exact .optional WorkspaceEdit.inverts (by simp)
  · exact .optional Command.inverts (by simp)
  · exact .optional Decoder.inverts_bool (by simp)
  · exact .optional DisabledReason.inverts (by simp)
  · exact .value (by simp)

theorem DeferredAction.inverts : DeferredAction.decode.Inverts DeferredAction.toJson := by
  refine Reads.inverts (fun ⟨title, kind, diagnostics, group, id⟩ => ?_) fun _ => by simp
  refine .seq (.seq (.seq (.seq (.map ?_) ?_) ?_) ?_) ?_
  · exact .required Decoder.inverts_string (by simp)
  · exact .omissible Decoder.inverts_string (by simp)
  · exact .omissible Diagnostic.inverts.list (by simp)
  · exact .omissible Decoder.inverts_string (by simp)
  · exact .omissibleValue (by simp)

end EditorBridge
