import EditorBridge.Client.History
import EditorBridge.Proofs.Client.Calls

/-!
# The ways in which an operation can go

For each operation of the client an inductive relation lists the ways in which it can go, with the
answers of the environment that lead there, its result or error, the events that it adds and the
state in which it leaves the environment: `SendOutcome`, `AskOutcome`, `InitialiseOutcome`,
`HoverOutcome`, `CodeActionsOutcome`, `ResolveOutcome`, `ApplyGroupOutcome` and `ExecuteOutcome`.
Only the handshake also tells what it remembers; the others remember nothing.

Main statement: every operation goes in one of its ways (`perform_ends`, and `takeTurn_outcome` for
a turn).  What holds of all operations is proved from here by cases.
-/

namespace EditorBridge.Client

open Call (Ends Post keeping ends_pure ends_throw)

variable {σ α β : Type} {client : Client}

/-! ### Violations -/

/-- The events of a violation that is reported. -/
def violationEvents (operation : Operation) (violation : Violation) : List Event :=
  let failure := ClientError.violation operation violation
  [.recorded (.violated operation failure.message), .shown failure.message]

/-- The state of the environment after a violation has been shown. -/
def afterViolation (env : Environment σ) (operation : Operation) (violation : Violation)
    (s : σ) : σ :=
  env.showError (ClientError.violation operation violation).message s

theorem violate_ends {env : Environment σ} {operation : Operation} {violation : Violation} {s : σ}
    {post : Post σ α}
    (h : post (.error (.violation operation violation)) (violationEvents operation violation)
      (afterViolation env operation violation s) none) :
    (violate env operation violation : Call σ α).Ends client s post := by
  apply Ends.record
  apply Ends.consult
  exact ends_throw h

theorem violate_bind_ends {env : Environment σ} {operation : Operation} {violation : Violation}
    {next : α → Call σ β} {s : σ} {post : Post σ β}
    (h : post (.error (.violation operation violation)) (violationEvents operation violation)
      (afterViolation env operation violation s) none) :
    Ends (violate env operation violation >>= next) client s post := by
  simp only [violate, bind_assoc]
  apply Ends.record
  apply Ends.consult
  exact Call.ends_throw_bind h

theorem orViolate_bind_ends {env : Environment σ} {operation : Operation}
    {result : Except Violation α} {next : α → Call σ β} {s : σ}
    {post : Post σ β}
    (hok : ∀ x, result = .ok x → (next x).Ends client s post)
    (herror : ∀ violation, result = .error violation →
      post (.error (.violation operation violation)) (violationEvents operation violation)
        (afterViolation env operation violation s) none) :
    Ends (orViolate env operation result >>= next) client s post := by
  cases result with
  | ok x => exact Call.ends_pure_bind (hok x rfl)
  | error violation => exact violate_bind_ends (herror violation rfl)

/-- The rule for a result whose errors are wrapped into violations. -/
theorem orViolate_mapError_bind_ends {ε : Type} {env : Environment σ} {operation : Operation}
    {result : Except ε α} {wrap : ε → Violation} {next : α → Call σ β} {s : σ}
    {post : Post σ β}
    (hok : ∀ x, result = .ok x → (next x).Ends client s post)
    (herror : ∀ e, result = .error e →
      post (.error (.violation operation (wrap e))) (violationEvents operation (wrap e))
        (afterViolation env operation (wrap e) s) none) :
    Ends (orViolate env operation (result.mapError wrap) >>= next) client s post := by
  apply orViolate_bind_ends
  · intro x hx
    cases result with
    | ok y => cases hx; exact hok x rfl
    | error e => cases hx
  · intro violation hv
    cases result with
    | ok y => cases hv
    | error e => cases hv; exact herror e rfl

/-! ### Requests -/

variable (env : Environment σ)

/-- The ways in which a request can go. -/
inductive SendOutcome (operation : Operation) (method : Method) (params : Json) (s : σ) :
    Except ClientError (Option Json) → List Event → σ → Prop
  | cancelled (h : env.isCancelled s = true) :
    SendOutcome operation method params s (.error (.transport operation .cancelled)) [] s
  | failed {source : TransportError} {t : σ} (h : env.isCancelled s = false)
    (hanswer : env.send method params s = (.error source, t)) :
    SendOutcome operation method params s (.error (.transport operation source))
      [.recorded (.sending method), .sent method params (.error source)] t
  | answered {answer : Option Json} {t : σ} (h : env.isCancelled s = false)
    (hanswer : env.send method params s = (.ok answer, t)) :
    SendOutcome operation method params s (.ok (answer.bind Json.unlessNull))
      [.recorded (.sending method), .sent method params (.ok answer)] t

theorem send_ends (operation : Operation) (method : Method) (params : Json) (s : σ) :
    (send env operation method params).Ends client s
      (keeping (SendOutcome env operation method params s)) := by
  apply Ends.get
  · exact fun memory before => rfl
  cases h : env.isCancelled s with
  | true =>
    simp only [↓reduceIte]
    exact Call.ends_throw_bind ⟨rfl, .cancelled h⟩
  | false =>
    simp only [Bool.false_eq_true, ↓reduceIte]
    apply Ends.record
    apply Ends.consult
    rcases hanswer : env.send method params s with ⟨source | _ | value, t⟩
    · exact ends_throw ⟨rfl, .failed h hanswer⟩
    · exact ends_pure ⟨rfl, .answered h hanswer⟩
    · cases value <;> exact ends_pure ⟨rfl, .answered h hanswer⟩

/-- An answer that is passed on is the answer to the one request, and not `null`. -/
theorem SendOutcome.of_some {env : Environment σ} {operation : Operation} {method : Method}
    {params value : Json} {s t : σ} {es : List Event}
    (h : SendOutcome env operation method params s (.ok (some value)) es t) :
    value ≠ .null ∧
      es = [.recorded (.sending method), .sent method params (.ok (some value))] := by
  generalize hout : Except.ok (some value) = out at h
  cases h with
  | cancelled => cases hout
  | failed => cases hout
  | @answered answer _ _ _ =>
    cases answer with
    | none => cases hout
    | some j =>
      cases j with
      | null => cases hout
      | bool | int | float | str | arr | obj => cases hout; exact ⟨nofun, rfl⟩

/-- The record of a transport failure that is turned into no answer. -/
def recoveryRecord (operation : Operation) : TransportError → LogRecord
  | .cancelled => .requestCancelled operation
  | source => .requestFailed operation source

/-- The ways in which a request can go whose failure is no answer. -/
inductive AskOutcome (operation : Operation) (method : Method) (params : Json) (s : σ) :
    Option Json → List Event → σ → Prop
  | lost {source : TransportError} {es : List Event} {t : σ}
    (h : SendOutcome env operation method params s (.error (.transport operation source)) es t) :
    AskOutcome operation method params s none
      (es ++ [.recorded (recoveryRecord operation source)]) t
  | answered {answer : Option Json} {es : List Event} {t : σ}
    (h : SendOutcome env operation method params s (.ok answer) es t) :
    AskOutcome operation method params s answer es t

theorem recover_ends (operation : Operation) (method : Method) (params : Json) (s : σ) :
    (recover operation (send env operation method params)).Ends client s
      (keeping fun out es t =>
        ∃ answer, out = .ok answer ∧ AskOutcome env operation method params s answer es t) := by
  apply Ends.tryCatch (send_ends env operation method params s)
  · intro answer es t h
    exact ⟨rfl, answer, rfl, .answered h⟩
  · intro e es t h
    have hsource : ∃ source, e = .transport operation source := by
      cases h with
      | cancelled => exact ⟨_, rfl⟩
      | failed => exact ⟨_, rfl⟩
    obtain ⟨source, rfl⟩ := hsource
    -- Only the record tells a request that was given up from one that failed.
    cases source <;> exact .record (ends_pure ⟨rfl, none, rfl, .lost h⟩)

/-! ### Looking -/

/-- The ways in which a handshake can go, and what it remembers. -/
inductive InitialiseOutcome (client : Client) (params : InitializeParams) (s : σ) :
    Post σ InitializeResult
  | unsent {e : ClientError} {es : List Event} {t : σ}
    (h : SendOutcome env .initialise .handshake (client.announced params).toJson s
      (.error e) es t) :
    InitialiseOutcome client params s (.error e)
      (.recorded (.announcing client.features.flags) :: es) t none
  | missing {es : List Event} {t : σ}
    (h : SendOutcome env .initialise .handshake (client.announced params).toJson s
      (.ok none) es t) :
    InitialiseOutcome client params s
      (.error (.violation .initialise (.missingResult .handshake)))
      (.recorded (.announcing client.features.flags) ::
        (es ++ violationEvents .initialise (.missingResult .handshake)))
      (afterViolation env .initialise (.missingResult .handshake) t) none
  | malformed {value : Json} {error : DecodeError} {es : List Event} {t : σ}
    (h : SendOutcome env .initialise .handshake (client.announced params).toJson s
      (.ok (some value)) es t)
    (hdecode : InitializeResult.decode env.readCapability .inPlace value = .error error) :
    InitialiseOutcome client params s
      (.error (.violation .initialise (.malformedResult .handshake error)))
      (.recorded (.announcing client.features.flags) ::
        (es ++ violationEvents .initialise (.malformedResult .handshake error)))
      (afterViolation env .initialise (.malformedResult .handshake error) t) none
  | initialised {value : Json} {result : InitializeResult} {es : List Event} {t : σ}
    (h : SendOutcome env .initialise .handshake (client.announced params).toJson s
      (.ok (some value)) es t)
    (hdecode : InitializeResult.decode env.readCapability .inPlace value = .ok result) :
    InitialiseOutcome client params s (.ok result)
      (.recorded (.announcing client.features.flags) ::
        (es ++ [.recorded (.initialised (result.serverInfo.map (·.name)))])) t
      (some result.capabilities)

theorem initialise_ends (client : Client) (params : InitializeParams) (s : σ) :
    (initialise env params).Ends client s (InitialiseOutcome env client params s) := by
  apply Ends.get
  · exact fun memory before => rfl
  apply Ends.record
  apply Ends.bind (send_ends env _ _ _ s)
  · intro answer es t h
    cases answer with
    | none => exact violate_ends (.missing h)
    | some value =>
      apply orViolate_mapError_bind_ends
      · intro result hdecode
        exact .record (.remember (ends_pure (.initialised h hdecode)))
      · intro error hdecode
        exact .malformed h hdecode
  · intro e es t h
    exact .unsent h

/-- The ways in which a hover can go. -/
inductive HoverOutcome (client : Client) (params : HoverParams) (s : σ) :
    Except ClientError (Option EditorHover) → List Event → σ → Prop
  | nothing {es : List Event} {t : σ} (h : AskOutcome env .hover .hover params.toJson s none es t) :
    HoverOutcome client params s (.ok none) es t
  | malformed {value : Json} {error : DecodeError} {es : List Event} {t : σ}
    (h : AskOutcome env .hover .hover params.toJson s (some value) es t)
    (hdecode : HoverResult.decode .inPlace value = .error error) :
    HoverOutcome client params s (.error (.violation .hover (.malformedResult .hover error)))
      (es ++ violationEvents .hover (.malformedResult .hover error))
      (afterViolation env .hover (.malformedResult .hover error) t)
  | shown {value : Json} {hover : HoverResult} {es : List Event} {t : σ}
    (h : AskOutcome env .hover .hover params.toJson s (some value) es t)
    (hdecode : HoverResult.decode .inPlace value = .ok hover) :
    HoverOutcome client params s (.ok (some (client.enricher.enrich hover))) es t

theorem hover_ends (client : Client) (params : HoverParams) (s : σ) :
    (hover env params).Ends client s (keeping (HoverOutcome env client params s)) := by
  apply Ends.bind (recover_ends env _ _ _ s)
  · rintro answer es t ⟨_, ⟨⟩, h⟩
    cases answer with
    | none => exact ends_pure ⟨rfl, by simpa using .nothing h⟩
    | some value =>
      apply orViolate_mapError_bind_ends
      · intro hover hdecode
        apply Ends.get
        · exact fun memory before => rfl
        · exact ends_pure ⟨rfl, by simpa using .shown h hdecode⟩
      · intro error hdecode
        exact ⟨rfl, .malformed h hdecode⟩
  · rintro e es t ⟨_, ⟨⟩, -⟩

/-- The ways in which a request for code actions can go. -/
inductive CodeActionsOutcome (params : CodeActionParams) (s : σ) :
    Except ClientError (Option (List DisplayAction)) → List Event → σ → Prop
  | nothing {es : List Event} {t : σ}
    (h : AskOutcome env .codeAction .codeAction params.toJson s none es t) :
    CodeActionsOutcome params s (.ok none) es t
  | refused {value : Json} {violation : Violation} {es : List Event} {t : σ}
    (h : AskOutcome env .codeAction .codeAction params.toJson s (some value) es t)
    (hdecode : Offer.decodeResult (some value) = .error violation) :
    CodeActionsOutcome params s (.error (.violation .codeAction violation))
      (es ++ violationEvents .codeAction violation) (afterViolation env .codeAction violation t)
  | listed {value : Json} {offers : List Offer} {es : List Event} {t : σ}
    (h : AskOutcome env .codeAction .codeAction params.toJson s (some value) es t)
    (hdecode : Offer.decodeResult (some value) = .ok (some offers)) :
    CodeActionsOutcome params s (.ok (some (groupOffers params offers)))
      (es ++ [.recorded
        (.grouped (groupOffers params offers).length (groupCount params offers))]) t

/-- An answer that is passed on is not `null`. -/
theorem AskOutcome.ne_null {env : Environment σ} {operation : Operation} {method : Method}
    {params value : Json} {s t : σ} {es : List Event}
    (h : AskOutcome env operation method params s (some value) es t) : value ≠ .null := by
  cases h with
  | answered h => exact h.of_some.1

/-- Only an answer that is none or `null` is no list. -/
theorem decodeResult_ok_none {value : Json} (h : Offer.decodeResult (some value) = .ok none) :
    value = .null := by
  cases value with
  | null => rfl
  | arr items =>
    rw [Offer.decodeResult] at h
    cases hitems : Offer.decodeItems 0 items <;> rw [hitems] at h <;> cases h
  | bool | int | float | str | obj => cases h

theorem codeActions_ends (params : CodeActionParams) (s : σ) :
    (codeActions env params).Ends client s (keeping (CodeActionsOutcome env params s)) := by
  apply Ends.bind (recover_ends env _ _ _ s)
  · rintro answer es t ⟨_, ⟨⟩, h⟩
    apply orViolate_bind_ends
    · intro listed hdecode
      cases answer with
      | none =>
        cases hdecode
        exact ends_pure ⟨rfl, by simpa using .nothing h⟩
      | some value =>
        cases listed with
        -- An answer that is no list is `null`, and that is not passed on.
        | none => exact absurd (decodeResult_ok_none hdecode) h.ne_null
        | some offers => exact .record (ends_pure ⟨rfl, .listed h hdecode⟩)
    · intro violation hdecode
      cases answer with
      | none => cases hdecode
      | some value => exact ⟨rfl, .refused h hdecode⟩
  · rintro e es t ⟨_, ⟨⟩, -⟩

/-! ### Changing -/

/-- The ways in which the request for an edit can go. -/
inductive ResolveOutcome (params : ResolveParams) (s : σ) :
    Except ClientError Bool → List Event → σ → Prop
  | unsent {e : ClientError} {es : List Event} {t : σ}
    (h : SendOutcome env .resolveCodeAction .resolveCodeAction params.toJson s (.error e) es t) :
    ResolveOutcome params s (.error e) es t
  | nothing {es : List Event} {t : σ}
    (h : SendOutcome env .resolveCodeAction .resolveCodeAction params.toJson s (.ok none) es t) :
    ResolveOutcome params s (.ok false) es t
  | malformed {value : Json} {error : DecodeError} {es : List Event} {t : σ}
    (h : SendOutcome env .resolveCodeAction .resolveCodeAction params.toJson s
      (.ok (some value)) es t)
    (hdecode : WorkspaceEdit.decode .inPlace value = .error error) :
    ResolveOutcome params s
      (.error (.violation .resolveCodeAction (.malformedResult .resolveCodeAction error)))
      (es ++ violationEvents .resolveCodeAction (.malformedResult .resolveCodeAction error))
      (afterViolation env .resolveCodeAction (.malformedResult .resolveCodeAction error) t)
  | rejected {value : Json} {edit : WorkspaceEdit} {source : EditorError} {es : List Event}
    {t u : σ}
    (h : SendOutcome env .resolveCodeAction .resolveCodeAction params.toJson s
      (.ok (some value)) es t)
    (hdecode : WorkspaceEdit.decode .inPlace value = .ok edit)
    (hedit : env.applyEdit edit t = (.error source, u)) :
    ResolveOutcome params s (.error (.editor .resolveCodeAction source))
      (es ++ [.edited edit (.error source)]) u
  | applied {value : Json} {edit : WorkspaceEdit} {es : List Event} {t u : σ}
    (h : SendOutcome env .resolveCodeAction .resolveCodeAction params.toJson s
      (.ok (some value)) es t)
    (hdecode : WorkspaceEdit.decode .inPlace value = .ok edit)
    (hedit : env.applyEdit edit t = (.ok (), u)) :
    ResolveOutcome params s (.ok true)
      (es ++ [.edited edit (.ok ()), .recorded (.resolved params.id)]) u

theorem resolve_ends (params : ResolveParams) (s : σ) :
    (resolve env params).Ends client s (keeping (ResolveOutcome env params s)) := by
  apply Ends.bind (send_ends env _ _ _ s)
  · intro answer es t h
    cases answer with
    | none => exact ends_pure ⟨rfl, by simpa using .nothing h⟩
    | some value =>
      apply orViolate_mapError_bind_ends
      · intro edit hdecode
        apply Ends.consult
        rcases hedit : env.applyEdit edit t with ⟨source | ⟨⟩, u⟩
        · exact ends_throw ⟨rfl, .rejected h hdecode hedit⟩
        · exact .record (ends_pure ⟨rfl, .applied h hdecode hedit⟩)
      · intro error hdecode
        exact ⟨rfl, .malformed h hdecode⟩
  · intro e es t h
    exact ⟨rfl, .unsent h⟩

/-- The ways in which the choice of a member of a group can go. -/
inductive ApplyGroupOutcome (entries : List GroupEntry) (s : σ) :
    Except ClientError Bool → List Event → σ → Prop
  | dismissed {t : σ} (hpick : env.pick (entries.map (·.label)) s = (none, t)) :
    ApplyGroupOutcome entries s (.ok false)
      [.offered (entries.map (·.label)) none, .recorded .pickDismissed] t
  | outside {choice : Nat} {t : σ} (hpick : env.pick (entries.map (·.label)) s = (some choice, t))
    (hentry : entries[choice]? = none) :
    ApplyGroupOutcome entries s (.ok false)
      [.offered (entries.map (·.label)) (some choice),
        .recorded (.pickOutside choice entries.length)] t
  | malformed {choice : Nat} {entry : GroupEntry} {error : DecodeError} {t : σ}
    (hpick : env.pick (entries.map (·.label)) s = (some choice, t))
    (hentry : entries[choice]? = some entry)
    (hdecode : ResolveParams.decode .inPlace entry.arguments = .error error) :
    ApplyGroupOutcome entries s
      (.error (.violation .applyActionGroup
        (.malformedArguments applyGroupCommand (.malformed error))))
      (.offered (entries.map (·.label)) (some choice) ::
        violationEvents .applyActionGroup
          (.malformedArguments applyGroupCommand (.malformed error)))
      (afterViolation env .applyActionGroup
        (.malformedArguments applyGroupCommand (.malformed error)) t)
  | picked {choice : Nat} {entry : GroupEntry} {params : ResolveParams}
    {out : Except ClientError Bool} {es : List Event} {t u : σ}
    (hpick : env.pick (entries.map (·.label)) s = (some choice, t))
    (hentry : entries[choice]? = some entry)
    (hdecode : ResolveParams.decode .inPlace entry.arguments = .ok params)
    (h : ResolveOutcome env params t out es u) :
    ApplyGroupOutcome entries s out
      (.offered (entries.map (·.label)) (some choice) :: es) u

theorem applyGroup_ends (entries : List GroupEntry) (s : σ) :
    (applyGroup env entries).Ends client s (keeping (ApplyGroupOutcome env entries s)) := by
  apply Ends.consult
  rcases hpick : env.pick (entries.map (·.label)) s with ⟨_ | choice, t⟩ <;> simp only [hpick]
  · exact .record (ends_pure ⟨rfl, .dismissed hpick⟩)
  · cases hentry : entries[choice]? with
    | none => exact .record (ends_pure ⟨rfl, .outside hpick hentry⟩)
    | some entry =>
      apply orViolate_mapError_bind_ends
      · intro params hdecode
        exact (resolve_ends env params t).mono fun h => ⟨h.1, .picked hpick hentry hdecode h.2⟩
      · intro error hdecode
        exact ⟨rfl, .malformed hpick hentry hdecode⟩

theorem resolveCommand_ne_applyGroupCommand : resolveCommand ≠ applyGroupCommand := by
  decide

/-- The ways in which a command can go. -/
inductive ExecuteOutcome (command : Command) (s : σ) :
    Except ClientError Bool → List Event → σ → Prop
  | resolve {params : ResolveParams} {out : Except ClientError Bool} {es : List Event} {t : σ}
    (hname : command.command = resolveCommand)
    (hdecode : decodeArgument ResolveParams.decode command = .ok params)
    (h : ResolveOutcome env params s out es t) : ExecuteOutcome command s out es t
  | resolveMalformed {fault : ArgumentFault} (hname : command.command = resolveCommand)
    (hdecode : decodeArgument ResolveParams.decode command = .error fault) :
    ExecuteOutcome command s
      (.error (.violation .resolveCodeAction (.malformedArguments command.command fault)))
      (violationEvents .resolveCodeAction (.malformedArguments command.command fault))
      (afterViolation env .resolveCodeAction (.malformedArguments command.command fault) s)
  | applyGroup {entries : List GroupEntry} {out : Except ClientError Bool} {es : List Event}
    {t : σ} (hname : command.command = applyGroupCommand)
    (hdecode : decodeArgument (.list GroupEntry.decode) command = .ok entries)
    (h : ApplyGroupOutcome env entries s out es t) : ExecuteOutcome command s out es t
  | applyGroupMalformed {fault : ArgumentFault} (hname : command.command = applyGroupCommand)
    (hdecode : decodeArgument (.list GroupEntry.decode) command = .error fault) :
    ExecuteOutcome command s
      (.error (.violation .applyActionGroup (.malformedArguments command.command fault)))
      (violationEvents .applyActionGroup (.malformedArguments command.command fault))
      (afterViolation env .applyActionGroup (.malformedArguments command.command fault) s)
  | unknown (hresolve : command.command ≠ resolveCommand)
    (hgroup : command.command ≠ applyGroupCommand) :
    ExecuteOutcome command s (.error (.unknownCommand command.command)) [] s

theorem execute_ends (command : Command) (s : σ) :
    (execute env command).Ends client s (keeping (ExecuteOutcome env command s)) := by
  rw [execute]
  by_cases hresolve : command.command = resolveCommand
  · rw [if_pos hresolve]
    apply orViolate_mapError_bind_ends
    · intro params hdecode
      exact (resolve_ends env params s).mono fun h => ⟨h.1, .resolve hresolve hdecode h.2⟩
    · intro fault hdecode
      exact ⟨rfl, .resolveMalformed hresolve hdecode⟩
  rw [if_neg hresolve]
  by_cases hgroup : command.command = applyGroupCommand
  · rw [if_pos hgroup]
    apply orViolate_mapError_bind_ends
    · intro entries hdecode
      exact (applyGroup_ends env entries s).mono fun h => ⟨h.1, .applyGroup hgroup hdecode h.2⟩
    · intro fault hdecode
      exact ⟨rfl, .applyGroupMalformed hgroup hdecode⟩
  rw [if_neg hgroup]
  exact ends_throw ⟨rfl, .unknown hresolve hgroup⟩

/-! ### Tasks and turns -/

/-- The ways in which a task can go, and what it remembers. -/
inductive PerformOutcome (client : Client) (s : σ) : Task → Post σ TaskResult
  | initialise {params : InitializeParams} {out : Except ClientError InitializeResult}
    {es : List Event} {t : σ} {kept : Option ServerCapabilities}
    (h : InitialiseOutcome env client params s out es t kept) :
    PerformOutcome client s (.initialise params) (out.map .initialised) es t kept
  | hover {params : HoverParams} {out : Except ClientError (Option EditorHover)}
    {es : List Event} {t : σ} (h : HoverOutcome env client params s out es t) :
    PerformOutcome client s (.hover params) (out.map .hover) es t none
  | codeActions {params : CodeActionParams} {out : Except ClientError (Option (List DisplayAction))}
    {es : List Event} {t : σ} (h : CodeActionsOutcome env params s out es t) :
    PerformOutcome client s (.codeActions params) (out.map .actions) es t none
  | execute {command : Command} {out : Except ClientError Bool} {es : List Event} {t : σ}
    (h : ExecuteOutcome env command s out es t) :
    PerformOutcome client s (.execute command) (out.map .edited) es t none
  | resolve {params : ResolveParams} {out : Except ClientError Bool} {es : List Event} {t : σ}
    (h : ResolveOutcome env params s out es t) :
    PerformOutcome client s (.resolve params) (out.map .edited) es t none
  | applyGroup {entries : List GroupEntry} {out : Except ClientError Bool} {es : List Event} {t : σ}
    (h : ApplyGroupOutcome env entries s out es t) :
    PerformOutcome client s (.applyGroup entries) (out.map .edited) es t none

/-- A call that remembers nothing, as a task. -/
theorem perform_of_keeping {call : Call σ α} {s : σ} {f : α → TaskResult} {post : Post σ TaskResult}
    {first : Except ClientError α → List Event → σ → Prop} (h : call.Ends client s (keeping first))
    (hpost : ∀ {out es t}, first out es t → post (out.map f) es t none) :
    Ends (call >>= fun x => pure (f x)) client s post := by
  apply h.bind_pure
  rintro out es t _ ⟨rfl, hfirst⟩
  exact hpost hfirst

theorem perform_ends (client : Client) (task : Task) (s : σ) :
    (perform env task).Ends client s (PerformOutcome env client s task) := by
  cases task with
  | initialise params => exact (initialise_ends env client params s).bind_pure .initialise
  | hover params => exact perform_of_keeping (hover_ends env client params s) .hover
  | codeActions params => exact perform_of_keeping (codeActions_ends env params s) .codeActions
  | execute command => exact perform_of_keeping (execute_ends env command s) .execute
  | resolve params => exact perform_of_keeping (resolve_ends env params s) .resolve
  | applyGroup entries => exact perform_of_keeping (applyGroup_ends env entries s) .applyGroup

/-- A turn is reported as its task went, whatever the client remembers; and all that it changes of
the client is the memory. -/
theorem takeTurn_outcome (client : Client) (s : σ) (turn : Turn σ) :
    ∃ out es t kept, PerformOutcome turn.env client s turn.task out es t kept ∧ ∀ memory,
      { client with capabilities := memory }.takeTurn s turn =
        (⟨turn, s, out, es⟩, { client with capabilities := kept.or memory }, t) := by
  -- A turn starts without events, so its events are those that the task adds.
  obtain ⟨out, es, t, kept, h, hrun⟩ := perform_ends turn.env client turn.task s
  refine ⟨out, es, t, kept, h, fun memory => ?_⟩
  rw [takeTurn, hrun]
  rfl

/-- What holds of every way in which a task can go holds of every report of a history. -/
theorem forall_history {P : Report σ → Prop}
    (h : ∀ {client : Client} {s t : σ} {task : Task} {env : Environment σ}
      {out : Except ClientError TaskResult} {es : List Event} {kept : Option ServerCapabilities},
      PerformOutcome env client s task out es t kept → P ⟨⟨task, env⟩, s, out, es⟩)
    (client : Client) (s : σ) (turns : List (Turn σ)) : ∀ r ∈ client.history s turns, P r := by
  induction turns generalizing client s with
  | nil => simp [history]
  | cons turn rest ih =>
    obtain ⟨out, es, t, kept, hout, htake⟩ := takeTurn_outcome client s turn
    intro r hr
    rw [history, htake] at hr
    rcases List.mem_cons.mp hr with rfl | hr
    · exact h hout
    · exact ih _ _ r hr

end EditorBridge.Client
