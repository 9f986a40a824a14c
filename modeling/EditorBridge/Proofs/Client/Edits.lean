import EditorBridge.Proofs.Client.Events
import EditorBridge.Session.Script

/-!
# Which edits reach the editor

Only a command, a request for an edit or the choice in a group hands an edit to the editor, and
each of them at most one: the one that the server answered to the operation's one request.  The
result tells what became of it (`edits_history`).

`EditAccount` holds of an outcome and the events that come with it if they fit in this way.  It is
proved of every way in which an operation can go; the statements are read off it.
-/

namespace EditorBridge

open Event

variable {σ : Type}

/-- Whether a task only looks. -/
def Task.looks : Task → Bool
  | .initialise _ => true
  | .hover _ => true
  | .codeActions _ => true
  | .execute _ => false
  | .resolve _ => false
  | .applyGroup _ => false

/-- The result of an operation that has handed an edit to the editor. -/
def handedResult : Except EditorError Unit → Except ClientError TaskResult
  | .ok () => .ok (.edited true)
  | .error source => .error (.editor .resolveCodeAction source)

/-- How the outcome of an operation and the edits among its events fit: no edit was handed over and
the outcome does not say so, or the answer to the one request was, and the outcome tells what became
of it. -/
inductive EditAccount (out : Except ClientError TaskResult) (es : List Event) : Prop
  | none (hmade : out ≠ .ok (.edited true))
    (hrejected : ∀ operation source, out ≠ .error (.editor operation source))
    (hedits : edits es = [])
  | handed {params value : Json} {edit : WorkspaceEdit} {outcome : Except EditorError Unit}
    (before after : List Event) (hout : out = handedResult outcome)
    (hdecode : WorkspaceEdit.decode .inPlace value = .ok edit)
    (hes : es = before ++
      .sent .resolveCodeAction params (.ok (some value)) :: .edited edit outcome :: after)
    (hexchanges : exchanges es = [(.resolveCodeAction, params, .ok (some value))])
    (hedits : edits es = [(edit, outcome)])

namespace EditAccount

variable {out : Except ClientError TaskResult} {es : List Event}

theorem length_le (h : EditAccount out es) : (edits es).length ≤ 1 := by
  cases h with
  | none _ _ hedits => simp [hedits]
  | handed _ _ _ _ _ _ hedits => simp [hedits]

/-- An edit that was handed over is the decoded answer to the one request, made just before. -/
theorem exists_answer (h : EditAccount out es) {edit : WorkspaceEdit}
    {outcome : Except EditorError Unit} (hmem : (edit, outcome) ∈ edits es) :
    ∃ params value before after,
      exchanges es = [(.resolveCodeAction, params, .ok (some value))] ∧
      es = before ++
        .sent .resolveCodeAction params (.ok (some value)) :: .edited edit outcome :: after ∧
      WorkspaceEdit.decode .inPlace value = .ok edit := by
  cases h with
  | none _ _ hedits => simp [hedits] at hmem
  | handed before after _ hdecode hes hexchanges hedits =>
    rw [hedits, List.mem_singleton] at hmem
    cases hmem
    exact ⟨_, _, before, after, hexchanges, hes, hdecode⟩

theorem made_iff (h : EditAccount out es) :
    out = .ok (.edited true) ↔ ∃ edit, edits es = [(edit, .ok ())] := by
  cases h with
  | none hmade _ hedits => simp [hmade, hedits]
  | @handed _ _ edit outcome _ _ hout _ _ _ hedits =>
    cases outcome with
    | ok => simp [hout, handedResult, hedits]
    | error source => simp [hout, handedResult, hedits]

theorem rejected_iff (h : EditAccount out es) (source : EditorError) :
    (∃ operation, out = .error (.editor operation source)) ↔
      ∃ edit, edits es = [(edit, .error source)] := by
  cases h with
  | none _ hrejected hedits => simp [hrejected, hedits]
  | @handed _ _ edit outcome _ _ hout _ _ _ hedits =>
    cases outcome with
    | ok => simp [hout, handedResult, hedits]
    | error source => simp [hout, handedResult, hedits]

theorem eq_nil (h : EditAccount out es) (hmade : out ≠ .ok (.edited true))
    (hrejected : ∀ operation source, out ≠ .error (.editor operation source)) : edits es = [] := by
  cases h with
  | none _ _ hedits => exact hedits
  | @handed _ _ _ outcome _ _ hout =>
    cases outcome with
    | ok => exact absurd hout hmade
    | error source => exact absurd hout (hrejected _ _)

/-- An offer before the rest of an operation hands over nothing. -/
theorem cons_offered (h : EditAccount out es) {labels : List String} {choice : Option Nat} :
    EditAccount out (.offered labels choice :: es) := by
  cases h with
  | none hmade hrejected hedits => exact .none hmade hrejected hedits
  | handed before after hout hdecode hes hexchanges hedits =>
    exact .handed (.offered labels choice :: before) after hout hdecode (congrArg _ hes) hexchanges
      hedits

end EditAccount

namespace Client

variable {env : Environment σ} {s t : σ} {es : List Event}

theorem SendOutcome.edits_eq_nil {operation : Operation} {method : Method} {params : Json}
    {out : Except ClientError (Option Json)}
    (h : SendOutcome env operation method params s out es t) : edits es = [] := by
  cases h with
  | cancelled => rfl
  | failed => rfl
  | answered => rfl

/-- A request that fails does not fail with an error of the editor. -/
theorem SendOutcome.ne_editor {operation : Operation} {method : Method} {params : Json}
    {e : ClientError} (h : SendOutcome env operation method params s (.error e) es t)
    (operation' : Operation) (source : EditorError) : e ≠ .editor operation' source := by
  cases h with
  | cancelled => nofun
  | failed => nofun

theorem AskOutcome.edits_eq_nil {operation : Operation} {method : Method} {params : Json}
    {answer : Option Json} (h : AskOutcome env operation method params s answer es t) :
    edits es = [] := by
  cases h with
  | lost h => rw [edits_append, h.edits_eq_nil]; rfl
  | answered h => exact h.edits_eq_nil

/-! ### Looking -/

/-- An operation that hands over no edit and does not fail with an error of the editor. -/
def HandsOverNothing {α : Type} (out : Except ClientError α) (es : List Event) : Prop :=
  edits es = [] ∧ ∀ operation source, out ≠ .error (.editor operation source)

theorem InitialiseOutcome.handsOverNothing {client : Client} {params : InitializeParams}
    {out : Except ClientError InitializeResult} {kept : Option ServerCapabilities}
    (h : InitialiseOutcome env client params s out es t kept) : HandsOverNothing out es := by
  have hrecord (r : LogRecord) (es : List Event) : edits (.recorded r :: es) = edits es := rfl
  cases h with
  | unsent h =>
    refine ⟨by rw [hrecord, h.edits_eq_nil], fun operation source heq => ?_⟩
    exact h.ne_editor operation source (Except.error.inj heq)
  | missing h => exact ⟨by rw [hrecord, edits_append, h.edits_eq_nil]; rfl, nofun⟩
  | malformed h => exact ⟨by rw [hrecord, edits_append, h.edits_eq_nil]; rfl, nofun⟩
  | initialised h => exact ⟨by rw [hrecord, edits_append, h.edits_eq_nil]; rfl, nofun⟩

theorem HoverOutcome.handsOverNothing {client : Client} {params : HoverParams}
    {out : Except ClientError (Option EditorHover)}
    (h : HoverOutcome env client params s out es t) : HandsOverNothing out es := by
  cases h with
  | nothing h => exact ⟨h.edits_eq_nil, nofun⟩
  | malformed h => exact ⟨by rw [edits_append, h.edits_eq_nil]; rfl, nofun⟩
  | shown h => exact ⟨h.edits_eq_nil, nofun⟩

theorem CodeActionsOutcome.handsOverNothing {params : CodeActionParams}
    {out : Except ClientError (Option (List DisplayAction))}
    (h : CodeActionsOutcome env params s out es t) : HandsOverNothing out es := by
  cases h with
  | nothing h => exact ⟨h.edits_eq_nil, nofun⟩
  | refused h => exact ⟨by rw [edits_append, h.edits_eq_nil]; rfl, nofun⟩
  | listed h => exact ⟨by rw [edits_append, h.edits_eq_nil]; rfl, nofun⟩

/-- The account of an operation that hands over nothing, whose result is not that of an edit. -/
theorem HandsOverNothing.account {α : Type} {out : Except ClientError α} {f : α → TaskResult}
    (h : HandsOverNothing out es) (hf : ∀ x, f x ≠ .edited true) :
    EditAccount (out.map f) es := by
  obtain ⟨hedits, hrejected⟩ := h
  cases out with
  | ok x => exact .none (fun heq => hf x (Except.ok.inj heq)) nofun hedits
  | error e =>
    refine .none nofun (fun operation source heq => ?_) hedits
    exact hrejected operation source (congrArg _ (Except.error.inj heq))

/-! ### Changing -/

theorem ResolveOutcome.account {params : ResolveParams} {out : Except ClientError Bool}
    (h : ResolveOutcome env params s out es t) : EditAccount (out.map .edited) es := by
  cases h with
  | unsent h =>
    refine .none nofun (fun operation source heq => ?_) h.edits_eq_nil
    exact h.ne_editor operation source (Except.error.inj heq)
  | nothing h => exact .none nofun nofun h.edits_eq_nil
  | malformed h => exact .none nofun nofun (by rw [edits_append, h.edits_eq_nil]; rfl)
  -- An answer that decodes was sent by the one request, right before the edit is handed over.
  | rejected h hdecode _ =>
    obtain ⟨-, rfl⟩ := h.of_some
    exact .handed [.recorded (.sending .resolveCodeAction)] [] rfl hdecode rfl rfl rfl
  | applied h hdecode _ =>
    obtain ⟨-, rfl⟩ := h.of_some
    exact .handed [.recorded (.sending .resolveCodeAction)] [.recorded (.resolved params.id)]
      rfl hdecode rfl rfl rfl

theorem ApplyGroupOutcome.account {entries : List GroupEntry} {out : Except ClientError Bool}
    (h : ApplyGroupOutcome env entries s out es t) : EditAccount (out.map .edited) es := by
  cases h with
  | dismissed => exact .none nofun nofun rfl
  | outside => exact .none nofun nofun rfl
  | malformed => exact .none nofun nofun rfl
  | picked _ _ _ h => exact h.account.cons_offered

theorem ExecuteOutcome.account {command : Command} {out : Except ClientError Bool}
    (h : ExecuteOutcome env command s out es t) : EditAccount (out.map .edited) es := by
  cases h with
  | resolve _ _ h => exact h.account
  | resolveMalformed => exact .none nofun nofun rfl
  | applyGroup _ _ h => exact h.account
  | applyGroupMalformed => exact .none nofun nofun rfl
  | unknown => exact .none nofun nofun rfl

/-! ### Histories -/

theorem PerformOutcome.account {client : Client} {task : Task}
    {out : Except ClientError TaskResult} {kept : Option ServerCapabilities}
    (h : PerformOutcome env client s task out es t kept) :
    EditAccount out es ∧ (task.looks = true → edits es = []) := by
  cases h with
  | initialise h =>
    exact ⟨h.handsOverNothing.account fun _ => nofun, fun _ => h.handsOverNothing.1⟩
  | hover h =>
    exact ⟨h.handsOverNothing.account fun _ => nofun, fun _ => h.handsOverNothing.1⟩
  | codeActions h =>
    exact ⟨h.handsOverNothing.account fun _ => nofun, fun _ => h.handsOverNothing.1⟩
  | execute h =>
    exact ⟨h.account, nofun⟩
  | resolve h =>
    exact ⟨h.account, nofun⟩
  | applyGroup h =>
    exact ⟨h.account, nofun⟩

/-- Looking hands no edit to the editor.  A command, a request for an edit and a choice in a group
hand over at most one: the decoded answer to the one request for an edit that the operation sent.
The operation has the result `true` exactly if that edit was handed over and made, an error of the
editor exactly if it was handed over and rejected, and with every other outcome no edit was handed
over. -/
theorem edits_history (client : Client) (s : σ) (turns : List (Turn σ)) :
    ∀ r ∈ client.history s turns,
      (r.turn.task.looks = true → edits r.events = []) ∧
      (edits r.events).length ≤ 1 ∧
      (∀ edit outcome, (edit, outcome) ∈ edits r.events → ∃ params value before after,
        exchanges r.events = [(.resolveCodeAction, params, .ok (some value))] ∧
        r.events = before ++
          .sent .resolveCodeAction params (.ok (some value)) :: .edited edit outcome :: after ∧
        WorkspaceEdit.decode .inPlace value = .ok edit) ∧
      (r.outcome = .ok (.edited true) ↔ ∃ edit, edits r.events = [(edit, .ok ())]) ∧
      (∀ source, (∃ operation, r.outcome = .error (.editor operation source)) ↔
        ∃ edit, edits r.events = [(edit, .error source)]) ∧
      (r.outcome ≠ .ok (.edited true) →
        (∀ operation source, r.outcome ≠ .error (.editor operation source)) →
        edits r.events = []) := by
  apply forall_history
  intro client s t task env out es kept h
  obtain ⟨haccount, hlooks⟩ := h.account
  exact ⟨hlooks, haccount.length_le, fun _ _ => haccount.exists_answer, haccount.made_iff,
    haccount.rejected_iff, haccount.eq_nil⟩

/-- A request for the edit of the first character of a document. -/
def sampleRequest : ResolveParams :=
  ⟨.int 1, ⟨⟨⟨"file:///a", by decide⟩⟩, ⟨⟨0, 0⟩, ⟨0, 1⟩⟩, ⟨[], none, none⟩, none, none⟩⟩

/-- A server that answers with an edit that changes nothing. -/
def sampleServer : Script :=
  Script.blank.respond "experimental/resolveCodeAction" (.ok (some (.obj [("changes", .obj [])])))

theorem edits_history_sample : ∃ r,
    (ofSettings .default).history sampleServer [⟨.resolve sampleRequest, Script.environment⟩] =
      [r] ∧ r.outcome = .ok (.edited true) ∧ ∃ edit, edits r.events = [(edit, .ok ())] := by
  refine ⟨_, rfl, rfl, ?_⟩
  obtain ⟨-, -, -, hmade, -⟩ := edits_history (ofSettings .default) sampleServer
    [⟨.resolve sampleRequest, Script.environment⟩] _ List.mem_cons_self
  exact hmade.mp rfl

end Client

end EditorBridge
