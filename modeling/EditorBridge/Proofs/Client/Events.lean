import EditorBridge.Proofs.Client.Outcomes

/-!
# What the events of an operation say

Views of a list of events: the requests with their answers (`Event.exchanges`) and without
(`Event.requests`), the edits that were handed over with what became of them (`Event.edits`), and
the messages that were shown (`Event.notices`).

`Environment.Leads env s es t` says that the events `es` are what happens when the environment is
asked, from the state `s` on, and leaves it in `t`: each event is the answer that the environment
gives in the state in which it is asked.  Main statement: the events of each report of a history
lead its environment from the state in which the turn begins to the one in which the next begins,
or, from the last, to the state after the history (`history_leads`).  So events are not made up, and
the environment changes by nothing else.
-/

namespace EditorBridge

variable {σ : Type}

namespace Event

/-! ### Views of events -/

/-- The request, its parameters and its answer. -/
def exchange? : Event → Option (Method × Json × TransportAnswer)
  | .sent method params answer => some (method, params, answer)
  | _ => none

/-- The edit that was handed over, and what became of it. -/
def edit? : Event → Option (WorkspaceEdit × Except EditorError Unit)
  | .edited edit outcome => some (edit, outcome)
  | _ => none

/-- The message that was shown. -/
def notice? : Event → Option String
  | .shown message => some message
  | _ => none

/-- The requests with their answers. -/
def exchanges (es : List Event) : List (Method × Json × TransportAnswer) :=
  es.filterMap exchange?

/-- The requests, without their answers. -/
def requests (es : List Event) : List (Method × Json) :=
  (exchanges es).map fun x => (x.1, x.2.1)

/-- The edits that were handed over. -/
def edits (es : List Event) : List (WorkspaceEdit × Except EditorError Unit) :=
  es.filterMap edit?

/-- The messages that were shown. -/
def notices (es : List Event) : List String :=
  es.filterMap notice?

@[simp] theorem exchanges_append (es fs : List Event) :
    exchanges (es ++ fs) = exchanges es ++ exchanges fs :=
  List.filterMap_append

@[simp] theorem requests_append (es fs : List Event) :
    requests (es ++ fs) = requests es ++ requests fs := by
  rw [requests, exchanges_append, List.map_append]
  rfl

@[simp] theorem edits_append (es fs : List Event) : edits (es ++ fs) = edits es ++ edits fs :=
  List.filterMap_append

@[simp] theorem notices_append (es fs : List Event) :
    notices (es ++ fs) = notices es ++ notices fs :=
  List.filterMap_append

theorem exchanges_append_of_nil {es fs : List Event} (h : exchanges fs = []) :
    exchanges (es ++ fs) = exchanges es := by
  rw [exchanges_append, h, List.append_nil]

theorem edits_append_of_nil {es fs : List Event} (h : edits fs = []) :
    edits (es ++ fs) = edits es := by
  rw [edits_append, h, List.append_nil]

/-! ### Events of an environment -/

/-- In the state `s` the environment answers as the event says, and passes to the state `t`; a
record is nothing that the environment is asked. -/
def Explains (env : Environment σ) (s : σ) : Event → σ → Prop
  | .sent method params answer, t => env.send method params s = (answer, t)
  | .offered labels choice, t => env.pick labels s = (choice, t)
  | .edited edit outcome, t => env.applyEdit edit s = (outcome, t)
  | .shown message, t => env.showError message s = t
  | .recorded _, t => s = t

end Event

/-- From the state `s` on the environment answers as the events say, one after the other, and ends
in the state `t`. -/
def Environment.Leads (env : Environment σ) (s : σ) : List Event → σ → Prop
  | [], t => s = t
  | e :: es, u => ∃ t, e.Explains env s t ∧ Leads env t es u

/-- Report after report, from the state `s` to the state `u`: each report begins where the one before
it ends, and its events are the answers of its environment. -/
def Report.Lead (s : σ) : List (Report σ) → σ → Prop
  | [], u => s = u
  | r :: rs, u => r.start = s ∧ ∃ t, r.turn.env.Leads s r.events t ∧ Report.Lead t rs u

namespace Environment

variable {env : Environment σ} {s t u : σ} {es fs : List Event}

theorem Leads.append (h : env.Leads s es t) (h' : env.Leads t fs u) :
    env.Leads s (es ++ fs) u := by
  induction es generalizing s with
  | nil =>
    cases h
    exact h'
  | cons e es ih =>
    obtain ⟨s', he, h⟩ := h
    exact ⟨s', he, ih h⟩

theorem leads_recorded (r : LogRecord) : env.Leads s [.recorded r] s :=
  ⟨s, rfl, rfl⟩

end Environment

namespace Client

open Event Environment

variable {env : Environment σ} {s t : σ} {es : List Event}

/-! ### Requests and violations -/

theorem leads_violationEvents (operation : Operation) (violation : Violation) :
    env.Leads s (violationEvents operation violation)
      (afterViolation env operation violation s) :=
  ⟨s, rfl, _, rfl, rfl⟩

theorem SendOutcome.leads {operation : Operation} {method : Method} {params : Json}
    {out : Except ClientError (Option Json)}
    (h : SendOutcome env operation method params s out es t) : env.Leads s es t := by
  cases h with
  | cancelled => rfl
  | failed _ hanswer => exact ⟨s, rfl, t, hanswer, rfl⟩
  | answered _ hanswer => exact ⟨s, rfl, t, hanswer, rfl⟩

theorem AskOutcome.leads {operation : Operation} {method : Method} {params : Json}
    {answer : Option Json} (h : AskOutcome env operation method params s answer es t) :
    env.Leads s es t := by
  cases h with
  | lost h => exact h.leads.append (leads_recorded _)
  | answered h => exact h.leads

/-! ### Operations -/

theorem InitialiseOutcome.leads {client : Client} {params : InitializeParams}
    {out : Except ClientError InitializeResult} {kept : Option ServerCapabilities}
    (h : InitialiseOutcome env client params s out es t kept) : env.Leads s es t := by
  cases h with
  | unsent h => exact ⟨s, rfl, h.leads⟩
  | missing h => exact ⟨s, rfl, h.leads.append (leads_violationEvents ..)⟩
  | malformed h => exact ⟨s, rfl, h.leads.append (leads_violationEvents ..)⟩
  | initialised h => exact ⟨s, rfl, h.leads.append (leads_recorded _)⟩

theorem HoverOutcome.leads {client : Client} {params : HoverParams}
    {out : Except ClientError (Option EditorHover)}
    (h : HoverOutcome env client params s out es t) : env.Leads s es t := by
  cases h with
  | nothing h => exact h.leads
  | malformed h => exact h.leads.append (leads_violationEvents ..)
  | shown h => exact h.leads

theorem CodeActionsOutcome.leads {params : CodeActionParams}
    {out : Except ClientError (Option (List DisplayAction))}
    (h : CodeActionsOutcome env params s out es t) : env.Leads s es t := by
  cases h with
  | nothing h => exact h.leads
  | refused h => exact h.leads.append (leads_violationEvents ..)
  | listed h => exact h.leads.append (leads_recorded _)

theorem ResolveOutcome.leads {params : ResolveParams} {out : Except ClientError Bool}
    (h : ResolveOutcome env params s out es t) : env.Leads s es t := by
  cases h with
  | unsent h => exact h.leads
  | nothing h => exact h.leads
  | malformed h => exact h.leads.append (leads_violationEvents ..)
  | rejected h _ hedit => exact h.leads.append ⟨t, hedit, rfl⟩
  | applied h _ hedit => exact h.leads.append ⟨t, hedit, leads_recorded _⟩

theorem ApplyGroupOutcome.leads {entries : List GroupEntry} {out : Except ClientError Bool}
    (h : ApplyGroupOutcome env entries s out es t) : env.Leads s es t := by
  cases h with
  | dismissed hpick => exact ⟨t, hpick, leads_recorded _⟩
  | outside hpick => exact ⟨t, hpick, leads_recorded _⟩
  | malformed hpick => exact ⟨_, hpick, leads_violationEvents ..⟩
  | picked hpick _ _ h => exact ⟨_, hpick, h.leads⟩

theorem ExecuteOutcome.leads {command : Command} {out : Except ClientError Bool}
    (h : ExecuteOutcome env command s out es t) : env.Leads s es t := by
  cases h with
  | resolve _ _ h => exact h.leads
  | resolveMalformed => exact leads_violationEvents ..
  | applyGroup _ _ h => exact h.leads
  | applyGroupMalformed => exact leads_violationEvents ..
  | unknown => rfl

theorem PerformOutcome.leads {client : Client} {task : Task}
    {out : Except ClientError TaskResult} {kept : Option ServerCapabilities}
    (h : PerformOutcome env client s task out es t kept) : env.Leads s es t := by
  cases h with
  | initialise h => exact h.leads
  | hover h => exact h.leads
  | codeActions h => exact h.leads
  | execute h => exact h.leads
  | resolve h => exact h.leads
  | applyGroup h => exact h.leads

/-! ### Histories -/

/-- The environments of a history answer as its reports say. -/
theorem history_leads (client : Client) (s : σ) (turns : List (Turn σ)) :
    Report.Lead s (client.history s turns) (client.after s turns).2 := by
  induction turns generalizing client s with
  | nil => rfl
  | cons turn rest ih =>
    obtain ⟨out, es, t, kept, hout, htake⟩ := takeTurn_outcome client s turn
    rw [history, after, htake client.capabilities]
    exact ⟨rfl, t, hout.leads, ih _ _⟩

end Client

end EditorBridge
