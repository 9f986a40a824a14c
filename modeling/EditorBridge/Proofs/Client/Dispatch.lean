import EditorBridge.Proofs.Client.Edits

/-!
# Which requests are sent, and what comes of their failure

`dispatch? env client s task` is the request that a task comes to send, with the state of the
environment in which it comes to it: the caller may give a request up while the user is still
picking.  A task that ends before, because an argument is malformed or nothing is picked, comes to
none.

`Course` holds of what a task comes to if it fits the request: given up, failed, answered or never
come to.  It is proved of every way in which an operation can go.

Main statement: every turn sends its request at most once and not after it has been given up, and
deals with the failure of the request as the task demands (`takeTurn_policy`).
-/

namespace EditorBridge

open Event

variable {σ : Type}

/-- A request that is about to be sent, and the state of the environment in which it is. -/
structure Dispatch (σ : Type) where
  method : Method
  params : Json
  state : σ

/-- The environment with another wish to cancel. -/
def Environment.withToken (env : Environment σ) (isCancelled : σ → Bool) : Environment σ :=
  { env with isCancelled := isCancelled }

/-- The turn with another wish to cancel. -/
def Turn.withToken (turn : Turn σ) (isCancelled : σ → Bool) : Turn σ :=
  ⟨turn.task, turn.env.withToken isCancelled⟩

/-- Whether a task hides the failures of the transport. -/
def Task.hidesFailures : Task → Bool
  | .hover _ => true
  | .codeActions _ => true
  | .initialise _ => false
  | .execute _ => false
  | .resolve _ => false
  | .applyGroup _ => false

/-- What the failure of its request makes of a task.  A hover and a list of actions are none;
otherwise the failure is returned as it is. -/
def Task.failed (source : TransportError) : Task → Except ClientError TaskResult
  | .hover _ => .ok (.hover none)
  | .codeActions _ => .ok (.actions none)
  | .initialise _ => .error (.transport .initialise source)
  | .execute _ => .error (.transport .resolveCodeAction source)
  | .resolve _ => .error (.transport .resolveCodeAction source)
  | .applyGroup _ => .error (.transport .resolveCodeAction source)

/-- The failure of a request is returned, if it is, as it was. -/
theorem Task.failed_transport {task : Task} {operation : Operation}
    {source source' : TransportError}
    (h : task.failed source' = .error (.transport operation source)) : source = source' := by
  cases task with
  | hover => cases h
  | codeActions => cases h
  | initialise => cases h; rfl
  | execute => cases h; rfl
  | resolve => cases h; rfl
  | applyGroup => cases h; rfl

/-- The outcome is not an error of the transport. -/
def NoTransportError {α : Type} (out : Except ClientError α) : Prop :=
  ∀ operation source, out ≠ .error (.transport operation source)

namespace Client

/-! ### The request of a task -/

/-- The request for an edit. -/
def editDispatch (params : ResolveParams) (s : σ) : Dispatch σ :=
  ⟨.resolveCodeAction, params.toJson, s⟩

/-- The request that the choice in a group comes to: none if nothing is picked, if there is no such
member, or if its arguments are malformed. -/
def choiceDispatch? (env : Environment σ) (entries : List GroupEntry) (s : σ) :
    Option (Dispatch σ) :=
  match env.pick (entries.map (·.label)) s with
  | (none, _) => none
  | (some choice, t) =>
    match entries[choice]? with
    | none => none
    | some entry =>
      match ResolveParams.decode .inPlace entry.arguments with
      | .ok params => some (editDispatch params t)
      | .error _ => none

/-- The request that a command comes to: none if its argument is malformed, if the choice that it
offers comes to none, or if the command is not one of the client. -/
def commandDispatch? (env : Environment σ) (command : Command) (s : σ) : Option (Dispatch σ) :=
  if command.command = resolveCommand then
    match decodeArgument ResolveParams.decode command with
    | .ok params => some (editDispatch params s)
    | .error _ => none
  else if command.command = applyGroupCommand then
    match decodeArgument (.list GroupEntry.decode) command with
    | .ok entries => choiceDispatch? env entries s
    | .error _ => none
  else none

/-- The request that a task comes to. -/
def dispatch? (env : Environment σ) (client : Client) (s : σ) : Task → Option (Dispatch σ)
  | .initialise params => some ⟨.handshake, (client.announced params).toJson, s⟩
  | .hover params => some ⟨.hover, params.toJson, s⟩
  | .codeActions params => some ⟨.codeAction, params.toJson, s⟩
  | .execute command => commandDispatch? env command s
  | .resolve params => some (editDispatch params s)
  | .applyGroup entries => choiceDispatch? env entries s

/-! ### What a task comes to, by its request -/

/-- How the outcome and the events of a task fit the request that the task comes to. -/
inductive Course (env : Environment σ) (task : Task) (out : Except ClientError TaskResult)
    (es : List Event) : Option (Dispatch σ) → Prop
  | unsent (hexchanges : exchanges es = []) (hedits : edits es = [])
    (hout : NoTransportError out) : Course env task out es none
  | givenUp {d : Dispatch σ} (hcancelled : env.isCancelled d.state = true)
    (hexchanges : exchanges es = []) (hedits : edits es = [])
    (hout : out = task.failed .cancelled) : Course env task out es (some d)
  | failed {d : Dispatch σ} {source : TransportError} {t : σ}
    (hlive : env.isCancelled d.state = false)
    (hanswer : env.send d.method d.params d.state = (.error source, t))
    (hexchanges : exchanges es = [(d.method, d.params, .error source)]) (hedits : edits es = [])
    (hout : out = task.failed source) : Course env task out es (some d)
  | answered {d : Dispatch σ} {answer : Option Json} {t : σ}
    (hlive : env.isCancelled d.state = false)
    (hanswer : env.send d.method d.params d.state = (.ok answer, t))
    (hexchanges : exchanges es = [(d.method, d.params, .ok answer)])
    (hout : NoTransportError out) : Course env task out es (some d)

variable {env : Environment σ} {s t : σ} {es fs : List Event} {task : Task}
  {out : Except ClientError TaskResult}

/-- The course of a task whose request fails. -/
theorem SendOutcome.course_error {operation : Operation} {method : Method} {params : Json}
    {e : ClientError} (h : SendOutcome env operation method params s (.error e) es t)
    (hexchanges : exchanges fs = exchanges es) (hedits : edits fs = edits es)
    (hout : ∀ source, e = .transport operation source → out = task.failed source) :
    Course env task out fs (some ⟨method, params, s⟩) := by
  cases h with
  | cancelled hcancelled => exact .givenUp hcancelled hexchanges hedits (hout _ rfl)
  | failed hlive hanswer => exact .failed hlive hanswer hexchanges hedits (hout _ rfl)

/-- The course of a task whose request is answered. -/
theorem SendOutcome.course_ok {operation : Operation} {method : Method} {params : Json}
    {answer : Option Json} (h : SendOutcome env operation method params s (.ok answer) es t)
    (hexchanges : exchanges fs = exchanges es) (hout : NoTransportError out) :
    Course env task out fs (some ⟨method, params, s⟩) := by
  cases h with
  | answered hlive hanswer => exact .answered hlive hanswer hexchanges hout

/-- The course of a task whose request hides its failures. -/
theorem AskOutcome.course {operation : Operation} {method : Method} {params : Json}
    {answer : Option Json} (h : AskOutcome env operation method params s answer es t)
    (hexchanges : exchanges fs = exchanges es) (hedits : edits fs = edits es)
    (hout : NoTransportError out) (hlost : answer = none → ∀ source, out = task.failed source) :
    Course env task out fs (some ⟨method, params, s⟩) := by
  cases h with
  | lost h =>
    -- The record of the failure adds nothing to what was sent and handed over.
    rw [exchanges_append_of_nil rfl] at hexchanges
    rw [edits_append_of_nil rfl] at hedits
    exact h.course_error hexchanges hedits fun source _ => hlost rfl source
  | answered h => exact h.course_ok hexchanges hout

namespace Course

variable {d : Dispatch σ} {d? : Option (Dispatch σ)}

theorem length_requests_le (h : Course env task out es d?) : (requests es).length ≤ 1 := by
  rw [requests, List.length_map]
  cases h with
  | unsent hexchanges => simp [hexchanges]
  | givenUp _ hexchanges => simp [hexchanges]
  | failed _ _ hexchanges => simp [hexchanges]
  | answered _ _ hexchanges => simp [hexchanges]

theorem of_cancelled (h : Course env task out es (some d))
    (hcancelled : env.isCancelled d.state = true) :
    exchanges es = [] ∧ edits es = [] ∧ out = task.failed .cancelled := by
  cases h with
  | givenUp _ hexchanges hedits hout => exact ⟨hexchanges, hedits, hout⟩
  | failed hlive => simp [hlive] at hcancelled
  | answered hlive => simp [hlive] at hcancelled

theorem of_live (h : Course env task out es (some d)) (hlive : env.isCancelled d.state = false) :
    ∃ answer t, env.send d.method d.params d.state = (answer, t) ∧
      exchanges es = [(d.method, d.params, answer)] ∧
      ∀ source, answer = .error source → edits es = [] ∧ out = task.failed source := by
  cases h with
  | givenUp hcancelled => simp [hcancelled] at hlive
  | failed _ hanswer hexchanges hedits hout =>
    refine ⟨_, _, hanswer, hexchanges, ?_⟩
    rintro source ⟨⟩
    exact ⟨hedits, hout⟩
  | answered _ hanswer hexchanges _ => exact ⟨_, _, hanswer, hexchanges, nofun⟩

/-- A request that is due is sent, unless the caller has given it up. -/
theorem requests_eq (h : Course env task out es (some d)) :
    requests es = if env.isCancelled d.state then [] else [(d.method, d.params)] := by
  cases hcancelled : env.isCancelled d.state with
  | true =>
    obtain ⟨hexchanges, -, -⟩ := h.of_cancelled hcancelled
    rw [requests, hexchanges]
    rfl
  | false =>
    obtain ⟨answer, t, -, hexchanges, -⟩ := h.of_live hcancelled
    rw [requests, hexchanges]
    rfl

theorem of_none (h : Course env task out es none) : exchanges es = [] ∧ edits es = [] := by
  cases h with
  | unsent hexchanges hedits _ => exact ⟨hexchanges, hedits⟩

/-- An error of the transport is that of the request, or of a request that was given up. -/
theorem of_transport (h : Course env task out es d?) {operation : Operation}
    {source : TransportError} (hout : out = .error (.transport operation source)) :
    ∃ d, d? = some d ∧ out = task.failed source ∧
      if env.isCancelled d.state then source = .cancelled
      else ∃ t, env.send d.method d.params d.state = (.error source, t) := by
  cases h with
  | unsent _ _ hlocal => exact absurd hout (hlocal operation source)
  | @givenUp d hcancelled _ _ hfailed =>
    have hsource : source = .cancelled := Task.failed_transport (hfailed.symm.trans hout)
    rw [hsource]
    exact ⟨d, rfl, hfailed, by rw [if_pos hcancelled]⟩
  | @failed d source' t hlive hanswer _ _ hfailed =>
    have hsource : source = source' := Task.failed_transport (hfailed.symm.trans hout)
    rw [hsource]
    exact ⟨d, rfl, hfailed, by simp [hlive, hanswer]⟩
  | answered _ _ _ hlocal => exact absurd hout (hlocal operation source)

end Course

/-! ### Operations -/

theorem InitialiseOutcome.course {client : Client} {params : InitializeParams}
    {out : Except ClientError InitializeResult} {kept : Option ServerCapabilities}
    (h : InitialiseOutcome env client params s out es t kept) :
    Course env (.initialise params) (out.map .initialised) es
      (some ⟨.handshake, (client.announced params).toJson, s⟩) := by
  cases h with
  | unsent h => exact h.course_error rfl rfl fun source he => by rw [he]; rfl
  | missing h => exact h.course_ok (exchanges_append_of_nil rfl) nofun
  | malformed h => exact h.course_ok (exchanges_append_of_nil rfl) nofun
  | initialised h => exact h.course_ok (exchanges_append_of_nil rfl) nofun

theorem HoverOutcome.course {client : Client} {params : HoverParams}
    {out : Except ClientError (Option EditorHover)}
    (h : HoverOutcome env client params s out es t) :
    Course env (.hover params) (out.map .hover) es (some ⟨.hover, params.toJson, s⟩) := by
  cases h with
  | nothing h => exact h.course rfl rfl nofun fun _ _ => rfl
  | malformed h =>
    exact h.course (exchanges_append_of_nil rfl) (edits_append_of_nil rfl) nofun nofun
  | shown h => exact h.course rfl rfl nofun nofun

theorem CodeActionsOutcome.course {params : CodeActionParams}
    {out : Except ClientError (Option (List DisplayAction))}
    (h : CodeActionsOutcome env params s out es t) :
    Course env (.codeActions params) (out.map .actions) es
      (some ⟨.codeAction, params.toJson, s⟩) := by
  cases h with
  | nothing h => exact h.course rfl rfl nofun fun _ _ => rfl
  | refused h =>
    exact h.course (exchanges_append_of_nil rfl) (edits_append_of_nil rfl) nofun nofun
  | listed h =>
    exact h.course (exchanges_append_of_nil rfl) (edits_append_of_nil rfl) nofun nofun

/-- The course of every task that comes to a request for an edit. -/
theorem ResolveOutcome.course {params : ResolveParams} {out : Except ClientError Bool}
    (h : ResolveOutcome env params s out es t)
    (hfailed : ∀ source, task.failed source = .error (.transport .resolveCodeAction source))
    (hexchanges : exchanges fs = exchanges es) (hedits : edits fs = edits es) :
    Course env task (out.map .edited) fs (some (editDispatch params s)) := by
  cases h with
  | unsent h => exact h.course_error hexchanges hedits fun source he => by rw [he, hfailed]; rfl
  | nothing h => exact h.course_ok hexchanges nofun
  | malformed h => exact h.course_ok (hexchanges.trans (exchanges_append_of_nil rfl)) nofun
  | rejected h => exact h.course_ok (hexchanges.trans (exchanges_append_of_nil rfl)) nofun
  | applied h => exact h.course_ok (hexchanges.trans (exchanges_append_of_nil rfl)) nofun

theorem ApplyGroupOutcome.course {entries : List GroupEntry} {out : Except ClientError Bool}
    (h : ApplyGroupOutcome env entries s out es t)
    (hfailed : ∀ source, task.failed source = .error (.transport .resolveCodeAction source)) :
    Course env task (out.map .edited) es (choiceDispatch? env entries s) := by
  rw [choiceDispatch?]
  cases h with
  | dismissed hpick => rw [hpick]; exact .unsent rfl rfl nofun
  | outside hpick hentry => simp only [hpick, hentry]; exact .unsent rfl rfl nofun
  | malformed hpick hentry hdecode =>
    simp only [hpick, hentry, hdecode]
    exact .unsent rfl rfl nofun
  | picked hpick hentry hdecode h =>
    simp only [hpick, hentry, hdecode]
    exact h.course hfailed rfl rfl

theorem ExecuteOutcome.course {command : Command} {out : Except ClientError Bool}
    (h : ExecuteOutcome env command s out es t) :
    Course env (.execute command) (out.map .edited) es (commandDispatch? env command s) := by
  rw [commandDispatch?]
  cases h with
  | resolve hname hdecode h =>
    simp only [if_pos hname, hdecode]
    exact h.course (fun _ => rfl) rfl rfl
  | resolveMalformed hname hdecode =>
    simp only [if_pos hname, hdecode]
    exact .unsent rfl rfl nofun
  | applyGroup hname hdecode h =>
    have hother : command.command ≠ resolveCommand := fun h =>
      resolveCommand_ne_applyGroupCommand (h.symm.trans hname)
    simp only [if_neg hother, if_pos hname, hdecode]
    exact h.course fun _ => rfl
  | applyGroupMalformed hname hdecode =>
    have hother : command.command ≠ resolveCommand := fun h =>
      resolveCommand_ne_applyGroupCommand (h.symm.trans hname)
    simp only [if_neg hother, if_pos hname, hdecode]
    exact .unsent rfl rfl nofun
  | unknown hresolve hgroup =>
    simp only [if_neg hresolve, if_neg hgroup]
    exact .unsent rfl rfl nofun

theorem PerformOutcome.course {client : Client} {out : Except ClientError TaskResult}
    {kept : Option ServerCapabilities} (h : PerformOutcome env client s task out es t kept) :
    Course env task out es (client.dispatch? env s task) := by
  cases h with
  | initialise h => exact h.course
  | hover h => exact h.course
  | codeActions h => exact h.course
  | execute h => exact h.course
  | resolve h => exact h.course (fun _ => rfl) rfl rfl
  | applyGroup h => exact h.course fun _ => rfl

/-! ### Errors -/

/-- A task that hides the failures of the transport fails with a violation or not at all. -/
theorem PerformOutcome.isViolation {client : Client} {out : Except ClientError TaskResult}
    {kept : Option ServerCapabilities} (h : PerformOutcome env client s task out es t kept)
    (hhides : task.hidesFailures = true) {e : ClientError} (hout : out = .error e) :
    e.isViolation = true := by
  cases h with
  | hover h =>
    cases h with
    | nothing => cases hout
    | malformed => cases hout; rfl
    | shown => cases hout
  | codeActions h =>
    cases h with
    | nothing => cases hout
    | refused => cases hout; rfl
    | listed => cases hout
  | initialise => cases hhides
  | execute => cases hhides
  | resolve => cases hhides
  | applyGroup => cases hhides

/-! ### Tasks that come to no request -/

section WithToken

variable (isCancelled : σ → Bool)

/-- What was to follow a violation is not run. -/
theorem violate_bind_runIn {α β : Type} (operation : Operation) (violation : Violation)
    (next next' : α → Call σ β) (w : World σ) :
    (violate (env.withToken isCancelled) operation violation >>= next).runIn w =
      (violate env operation violation >>= next').runIn w := by
  rw [Call.runIn_bind, Call.runIn_bind]
  rfl

theorem applyGroup_withToken {entries : List GroupEntry}
    (h : choiceDispatch? env entries s = none) (client : Client) (before : List Event) :
    (applyGroup (env.withToken isCancelled) entries).runIn ⟨s, client, before⟩ =
      (applyGroup env entries).runIn ⟨s, client, before⟩ := by
  have hpicks : (env.withToken isCancelled).pick = env.pick := rfl
  simp only [applyGroup, Call.runIn_bind, Call.runIn_consult, hpicks]
  rw [choiceDispatch?] at h
  rcases hpick : env.pick (entries.map (·.label)) s with ⟨_ | choice, t⟩
  · simp only [hpick]
  · simp only [hpick] at h ⊢
    cases hentry : entries[choice]? with
    | none => rfl
    | some entry =>
      simp only [hentry] at h ⊢
      cases hdecode : ResolveParams.decode .inPlace entry.arguments with
      | ok params => simp [hdecode] at h
      | error e => exact violate_bind_runIn isCancelled _ _ _ _ _

theorem execute_withToken {command : Command} (h : commandDispatch? env command s = none)
    (client : Client) (before : List Event) :
    (execute (env.withToken isCancelled) command).runIn ⟨s, client, before⟩ =
      (execute env command).runIn ⟨s, client, before⟩ := by
  rw [commandDispatch?] at h
  rw [execute, execute, commandArgument, commandArgument, commandArgument, commandArgument]
  by_cases hresolve : command.command = resolveCommand
  · simp only [if_pos hresolve] at h ⊢
    cases hdecode : decodeArgument ResolveParams.decode command with
    | ok params => simp [hdecode] at h
    | error fault => exact violate_bind_runIn isCancelled _ _ _ _ _
  simp only [if_neg hresolve] at h ⊢
  by_cases hgroup : command.command = applyGroupCommand
  · simp only [if_pos hgroup] at h ⊢
    cases hdecode : decodeArgument (.list GroupEntry.decode) command with
    | ok entries =>
      simp only [hdecode] at h
      exact applyGroup_withToken isCancelled h client before
    | error fault => exact violate_bind_runIn isCancelled _ _ _ _ _
  · simp only [if_neg hgroup]

/-- A task that comes to no request goes the same way for every wish to cancel. -/
theorem perform_withToken {client : Client} (h : client.dispatch? env s task = none) :
    (perform (env.withToken isCancelled) task).runIn ⟨s, client, []⟩ =
      (perform env task).runIn ⟨s, client, []⟩ := by
  cases task with
  | initialise => cases h
  | hover => cases h
  | codeActions => cases h
  | execute command =>
    simp only [perform, Call.runIn_bind, execute_withToken isCancelled h]
  | resolve => cases h
  | applyGroup entries =>
    simp only [perform, Call.runIn_bind, applyGroup_withToken isCancelled h]

/-- A turn that comes to no request is reported alike for every wish to cancel. -/
theorem takeTurn_withToken {client : Client} {turn : Turn σ}
    (h : client.dispatch? turn.env s turn.task = none) :
    client.takeTurn s (turn.withToken isCancelled) =
      ({ (client.takeTurn s turn).1 with turn := turn.withToken isCancelled },
        (client.takeTurn s turn).2) := by
  have hrun := perform_withToken isCancelled h
  rw [takeTurn, takeTurn, Turn.withToken, hrun]

end WithToken

/-! ### Turns -/

/-- How a turn, from its report, deals with its request and with the failure of it. -/
structure KeepsPolicy (client : Client) (s : σ) (turn : Turn σ) (report : Report σ) : Prop where
  /-- At most one request is sent. -/
  once : (requests report.events).length ≤ 1
  /-- A request that has been given up when it would be sent is not sent, no edit is handed over,
  and the turn ends as with a transport that says so. -/
  givenUp : ∀ d, client.dispatch? turn.env s turn.task = some d →
    turn.env.isCancelled d.state = true →
    exchanges report.events = [] ∧ edits report.events = [] ∧
      report.outcome = turn.task.failed .cancelled
  /-- Any other request that the task comes to is sent, and the failure of it is hidden or returned
  as it is. -/
  sent : ∀ d, client.dispatch? turn.env s turn.task = some d →
    turn.env.isCancelled d.state = false →
    ∃ answer t, turn.env.send d.method d.params d.state = (answer, t) ∧
      exchanges report.events = [(d.method, d.params, answer)] ∧
      ∀ source, answer = .error source →
        edits report.events = [] ∧ report.outcome = turn.task.failed source
  /-- A task that comes to no request sends none, and ends in the same way for every wish to
  cancel. -/
  unsent : client.dispatch? turn.env s turn.task = none →
    exchanges report.events = [] ∧ edits report.events = [] ∧
    ∀ isCancelled, client.takeTurn s (turn.withToken isCancelled) =
      ({ report with turn := turn.withToken isCancelled }, (client.takeTurn s turn).2)
  /-- A hover and a list of actions fail with a violation or not at all. -/
  quiet : turn.task.hidesFailures = true → ∀ e, report.outcome = .error e → e.isViolation = true
  /-- An error of the transport is returned only for a request that failed with it. -/
  honest : ∀ operation source, report.outcome = .error (.transport operation source) →
    ∃ d, client.dispatch? turn.env s turn.task = some d ∧
      report.outcome = turn.task.failed source ∧
      if turn.env.isCancelled d.state then source = .cancelled
      else ∃ t, turn.env.send d.method d.params d.state = (.error source, t)

/-- **Dispatch**: whatever is asked of a client, and however the environment answers and gives up,
at most one request is sent, none after it has been given up, and the failure of it is hidden where
the user only looks and returned as it is where the user has asked for a change. -/
theorem takeTurn_policy (client : Client) (s : σ) (turn : Turn σ) :
    client.KeepsPolicy s turn (client.takeTurn s turn).1 := by
  obtain ⟨out, es, t, kept, h, htake⟩ := takeTurn_outcome client s turn
  have hcourse := h.course
  have hreport : (client.takeTurn s turn).1 = ⟨turn, s, out, es⟩ := by
    rw [htake client.capabilities]
  rw [hreport]
  constructor
  case once => exact hcourse.length_requests_le
  case givenUp =>
    intro d hd hcancelled
    rw [hd] at hcourse
    exact hcourse.of_cancelled hcancelled
  case sent =>
    intro d hd hlive
    rw [hd] at hcourse
    exact hcourse.of_live hlive
  case unsent =>
    intro hnone
    rw [hnone] at hcourse
    obtain ⟨hexchanges, hedits⟩ := hcourse.of_none
    refine ⟨hexchanges, hedits, fun isCancelled => ?_⟩
    rw [takeTurn_withToken isCancelled hnone, hreport]
  case quiet =>
    intro hhides e he
    exact h.isViolation hhides he
  case honest =>
    intro operation source hout
    exact hcourse.of_transport hout

/-- An editor whose user gives everything up while picking. -/
def hastyEnvironment : Environment Script :=
  { Script.environment with
    pick := fun labels script =>
      ((Script.environment.pick labels script).1,
        { (Script.environment.pick labels script).2 with cancelled := true }) }

/-- The user picks the only member of a group and gives up; its edit is not asked for. -/
theorem takeTurn_policy_sample : ∃ report next,
    (ofSettings .default).takeTurn (sampleServer.choose (some 0))
      ⟨.applyGroup [⟨"one", sampleRequest.toJson⟩], hastyEnvironment⟩ = (report, next) ∧
    exchanges report.events = [] ∧
    report.outcome = .error (.transport .resolveCodeAction .cancelled) := by
  refine ⟨_, _, rfl, ?_⟩
  obtain ⟨hexchanges, -, hout⟩ := (takeTurn_policy (ofSettings .default)
    (sampleServer.choose (some 0))
    ⟨.applyGroup [⟨"one", sampleRequest.toJson⟩], hastyEnvironment⟩).givenUp _ rfl rfl
  exact ⟨hexchanges, hout⟩

end Client

end EditorBridge
