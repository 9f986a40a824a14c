import EditorBridge.Proofs.Client.Events
import Mathlib.Data.List.Basic

/-!
# What is shown as an error

The messages that the editor shows are those of the violations with which operations fail, each
once and in order, and no others (`notices_history`).  A violation that an operation meets inside
another one, as a command does in the request for an edit, is shown by the inner one only.
-/

namespace EditorBridge

open Event

variable {σ α β : Type}

/-- The words for an error that is a violation. -/
def ClientError.notice? : ClientError → Option String
  | .violation operation source => some (ClientError.violation operation source).message
  | _ => none

/-- The words for the violation that an operation fails with, if it fails with one. -/
def noticeOf : Except ClientError α → Option String
  | .ok _ => none
  | .error e => e.notice?

@[simp] theorem noticeOf_map (f : α → β) (out : Except ClientError α) :
    noticeOf (out.map f) = noticeOf out := by
  cases out <;> rfl

namespace Client

variable {env : Environment σ} {s t : σ} {es : List Event}

theorem SendOutcome.notices_eq {operation : Operation} {method : Method} {params : Json}
    {out : Except ClientError (Option Json)}
    (h : SendOutcome env operation method params s out es t) :
    notices es = [] ∧ noticeOf out = none := by
  cases h with
  | cancelled => exact ⟨rfl, rfl⟩
  | failed => exact ⟨rfl, rfl⟩
  | answered => exact ⟨rfl, rfl⟩

theorem AskOutcome.notices_eq {operation : Operation} {method : Method} {params : Json}
    {answer : Option Json} (h : AskOutcome env operation method params s answer es t) :
    notices es = [] := by
  cases h with
  | lost h => rw [notices_append, h.notices_eq.1]; rfl
  | answered h => exact h.notices_eq.1

theorem InitialiseOutcome.notices_eq {client : Client} {params : InitializeParams}
    {out : Except ClientError InitializeResult} {kept : Option ServerCapabilities}
    (h : InitialiseOutcome env client params s out es t kept) : notices es = (noticeOf out).toList := by
  have hrecord (r : LogRecord) (es : List Event) : notices (.recorded r :: es) = notices es := rfl
  cases h with
  | unsent h =>
    -- A request fails with an error of the transport, which is not shown.
    obtain ⟨hes, hout⟩ := h.notices_eq
    rw [hrecord, hes]
    exact (congrArg Option.toList hout).symm
  | missing h => rw [hrecord, notices_append, h.notices_eq.1]; rfl
  | malformed h => rw [hrecord, notices_append, h.notices_eq.1]; rfl
  | initialised h => rw [hrecord, notices_append, h.notices_eq.1]; rfl

theorem HoverOutcome.notices_eq {client : Client} {params : HoverParams}
    {out : Except ClientError (Option EditorHover)}
    (h : HoverOutcome env client params s out es t) : notices es = (noticeOf out).toList := by
  cases h with
  | nothing h => exact h.notices_eq
  | malformed h => rw [notices_append, h.notices_eq]; rfl
  | shown h => exact h.notices_eq

theorem CodeActionsOutcome.notices_eq {params : CodeActionParams}
    {out : Except ClientError (Option (List DisplayAction))}
    (h : CodeActionsOutcome env params s out es t) : notices es = (noticeOf out).toList := by
  cases h with
  | nothing h => exact h.notices_eq
  | refused h => rw [notices_append, h.notices_eq]; rfl
  | listed h => rw [notices_append, h.notices_eq]; rfl

theorem ResolveOutcome.notices_eq {params : ResolveParams} {out : Except ClientError Bool}
    (h : ResolveOutcome env params s out es t) : notices es = (noticeOf out).toList := by
  cases h with
  | unsent h =>
    obtain ⟨hes, hout⟩ := h.notices_eq
    rw [hes]
    exact (congrArg Option.toList hout).symm
  | nothing h => exact h.notices_eq.1
  | malformed h => rw [notices_append, h.notices_eq.1]; rfl
  | rejected h => rw [notices_append, h.notices_eq.1]; rfl
  | applied h => rw [notices_append, h.notices_eq.1]; rfl

theorem ApplyGroupOutcome.notices_eq {entries : List GroupEntry} {out : Except ClientError Bool}
    (h : ApplyGroupOutcome env entries s out es t) : notices es = (noticeOf out).toList := by
  cases h with
  | dismissed => rfl
  | outside => rfl
  | malformed => rfl
  | picked _ _ _ h => exact h.notices_eq

theorem ExecuteOutcome.notices_eq {command : Command} {out : Except ClientError Bool}
    (h : ExecuteOutcome env command s out es t) : notices es = (noticeOf out).toList := by
  cases h with
  | resolve _ _ h => exact h.notices_eq
  | resolveMalformed => rfl
  | applyGroup _ _ h => exact h.notices_eq
  | applyGroupMalformed => rfl
  | unknown => rfl

theorem PerformOutcome.notices_eq {client : Client} {task : Task}
    {out : Except ClientError TaskResult} {kept : Option ServerCapabilities}
    (h : PerformOutcome env client s task out es t kept) : notices es = (noticeOf out).toList := by
  cases h with
  | initialise h => rw [noticeOf_map, h.notices_eq]
  | hover h => rw [noticeOf_map, h.notices_eq]
  | codeActions h => rw [noticeOf_map, h.notices_eq]
  | execute h => rw [noticeOf_map, h.notices_eq]
  | resolve h => rw [noticeOf_map, h.notices_eq]
  | applyGroup h => rw [noticeOf_map, h.notices_eq]

/-- Each operation shows the words for the violation that it fails with, and nothing if it does not
fail with one; so over a whole history the messages shown are those of the violations that were
returned, in order. -/
theorem notices_history (client : Client) (s : σ) (turns : List (Turn σ)) :
    (∀ r ∈ client.history s turns, notices r.events = (noticeOf r.outcome).toList) ∧
    notices ((client.history s turns).flatMap (·.events)) =
      (client.history s turns).filterMap fun r => noticeOf r.outcome := by
  have heach : ∀ r ∈ client.history s turns, notices r.events = (noticeOf r.outcome).toList :=
    forall_history (fun h => h.notices_eq) client s turns
  refine ⟨heach, ?_⟩
  rw [notices, List.filterMap_flatMap, List.filterMap_eq_flatMap_toList]
  exact List.flatMap_congr heach

end Client

end EditorBridge
