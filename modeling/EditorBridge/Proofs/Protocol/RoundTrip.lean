import EditorBridge.Proofs.Protocol.Records
import EditorBridge.Protocol.Request

/-!
# Round trips of requests

What is written for the parameters of a request decodes to them, at its place and among gathered
members.  The proofs follow the declarations of the fields, with one rule of `Fields.Reads` for
each of them, in their order.

Main statement: the request for an edit, with the code action request in it, decodes to itself
(`ResolveParams.inverts`), and so do the entries of a group (`GroupEntry.inverts`).
-/

namespace EditorBridge

open Fields (Reads)

/-! ### Places -/

theorem Position.inverts : Position.decode.Inverts Position.toJson := by
  refine Reads.inverts (fun ⟨line, character⟩ => ?_) fun _ => by simp
  refine .seq (.map ?_) ?_
  · exact .required Decoder.inverts_uint32 (by simp)
  · exact .required Decoder.inverts_uint32 (by simp)

theorem Range.inverts : Range.decode.Inverts Range.toJson := by
  refine Reads.inverts (fun ⟨start, stop⟩ => ?_) fun _ => by simp
  refine .seq (.map ?_) ?_
  · exact .required Position.inverts (by simp)
  · exact .required Position.inverts (by simp)

theorem Location.inverts : Location.decode.Inverts Location.toJson := by
  refine Reads.inverts (fun ⟨uri, range⟩ => ?_) fun _ => by simp
  refine .seq (.map ?_) ?_
  · exact .required Decoder.inverts_uri (by simp [Uri.toJson])
  · exact .required Range.inverts (by simp)

theorem DocumentId.inverts : DocumentId.decode.Inverts DocumentId.toJson := by
  refine Reads.inverts (fun ⟨uri⟩ => ?_) fun _ => by simp
  exact .map (.required Decoder.inverts_uri (by simp [Uri.toJson]))

/-! ### Diagnostics -/

theorem NumberOrString.inverts : NumberOrString.decode.Inverts NumberOrString.toJson where
  decode_toJson source x := by
    cases x with
    | number i =>
      have hread := Decoder.int32_ofInt32 .gathered i
      simp only [NumberOrString.decode, NumberOrString.toJson, Decoder.firstOf,
        List.findSome?_cons, hread]
      rfl
    | string s => rfl
  toJson_ne_null x := by cases x <;> exact Json.noConfusion

theorem CodeDescription.inverts : CodeDescription.decode.Inverts CodeDescription.toJson := by
  refine Reads.inverts (fun ⟨href⟩ => ?_) fun _ => by simp
  exact .map (.required Decoder.inverts_uri (by simp [Uri.toJson]))

theorem RelatedInformation.inverts :
    RelatedInformation.decode.Inverts RelatedInformation.toJson := by
  refine Reads.inverts (fun ⟨location, message⟩ => ?_) fun _ => by simp
  refine .seq (.map ?_) ?_
  · exact .required Location.inverts (by simp)
  · exact .required Decoder.inverts_string (by simp)

theorem Diagnostic.inverts : Diagnostic.decode.Inverts Diagnostic.toJson := by
  refine Reads.inverts (fun ⟨range, severity, code, codeDescription, source, message,
    relatedInformation, tags, data⟩ => ?_) fun _ => by simp
  refine .seq (.seq (.seq (.seq (.seq (.seq (.seq (.seq (.map ?_) ?_) ?_) ?_) ?_) ?_) ?_) ?_) ?_
  · exact .required Range.inverts (by simp)
  · exact .optional Decoder.inverts_int32 (by simp)
  · exact .optional NumberOrString.inverts (by simp)
  · exact .optional CodeDescription.inverts (by simp)
  · exact .optional Decoder.inverts_string (by simp)
  · exact .required Decoder.inverts_string (by simp)
  · exact .optional RelatedInformation.inverts.list (by simp)
  · exact .optional Decoder.inverts_int32.list (by simp)
  · exact .value (by simp)

/-! ### Code actions -/

theorem CodeActionContext.inverts : CodeActionContext.decode.Inverts CodeActionContext.toJson := by
  refine Reads.inverts (fun ⟨diagnostics, only, triggerKind⟩ => ?_) fun _ => by simp
  refine .seq (.seq (.map ?_) ?_) ?_
  · exact .required Diagnostic.inverts.list (by simp)
  · exact .optional Decoder.inverts_string.list (by simp)
  · exact .optional Decoder.inverts_int32 (by simp)

/-- What is written for the fields of a code action request. -/
def CodeActionParams.written (p : CodeActionParams) : List (String × Option Json) :=
  [("textDocument", some p.textDocument.toJson),
    ("range", some p.range.toJson),
    ("context", some p.context.toJson),
    ("workDoneToken", p.workDoneToken.map NumberOrString.toJson),
    ("partialResultToken", p.partialResultToken.map NumberOrString.toJson)]

theorem CodeActionParams.inverts : CodeActionParams.decode.Inverts CodeActionParams.toJson where
  decode_toJson source p := by
    have hnames : (p.written.map Prod.fst).Nodup := by simp [written]
    have hown : ownFields.Reads p.written (p.textDocument, p.range, p.context) := by
      refine .seq (.seq (.map ?_) ?_) ?_
      · exact .required DocumentId.inverts (by simp [written])
      · exact .required Range.inverts (by simp [written])
      · exact .required CodeActionContext.inverts (by simp [written])
    -- The tokens are taken from the members of the same object.
    have hworkDone : workDoneTokenFields.Reads p.written p.workDoneToken :=
      .optional NumberOrString.inverts (by simp [written])
    have hpartialResult : partialResultTokenFields.Reads p.written p.partialResultToken :=
      .optional NumberOrString.inverts (by simp [written])
    change decode source (.obj (Json.members p.written)) = _
    rw [decode, Fields.flattened]
    simp only [hown.ofMembers hnames, hworkDone.ofMembers hnames, hpartialResult.ofMembers hnames]
    rfl
  toJson_ne_null _ := Json.noConfusion

theorem ResolveParams.inverts : ResolveParams.decode.Inverts ResolveParams.toJson := by
  refine Reads.inverts (fun ⟨id, params⟩ => ?_) fun _ => by simp
  refine .seq (.map ?_) ?_
  · exact .any (by simp)
  · exact .required CodeActionParams.inverts (by simp)

theorem GroupEntry.inverts : GroupEntry.decode.Inverts GroupEntry.toJson := by
  refine Reads.inverts (fun ⟨label, arguments⟩ => ?_) fun _ => by simp
  refine .seq (.map ?_) ?_
  · exact .required Decoder.inverts_string (by simp)
  · exact .any (by simp)

end EditorBridge
