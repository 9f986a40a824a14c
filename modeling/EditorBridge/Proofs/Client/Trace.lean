import EditorBridge.Proofs.Client.Notices
import EditorBridge.Proofs.CodeActions.Layout
import EditorBridge.Proofs.Protocol.Records
import EditorBridge.Proofs.Trace.Written
import EditorBridge.Session.Script
import Mathlib.Data.List.Dedup

/-!
# What the records tell

The records of a run are an account of it (`FaithfulTrace`): the requests are those that were sent,
the errors are the violations that were returned, the warnings are the failures that were hidden
from the user and the picks that chose nothing of their group, and an edit or a list of code
actions is recorded exactly where an operation results in it.  A channel whose filter admits all
records of the client writes them all, in order, each as it is spelled out (`LogRecord.spelled`);
where it writes objects, their members tell all this (`ObjectsTell`).  Main statement:
`trace_history`, which also says that the events are the answers of the environment.

A record is known by what it says or by its level.  A violation has its own words, which no other
record says (`violation_message_ne`).
-/

namespace EditorBridge

open Event

variable {σ : Type}

/-! ### Records -/

namespace Event

/-- The record of an event that is one. -/
def record? : Event → Option LogRecord
  | .recorded r => some r
  | _ => none

/-- The records among events. -/
def records (es : List Event) : List LogRecord :=
  es.filterMap record?

@[simp] theorem records_append (es fs : List Event) :
    records (es ++ fs) = records es ++ records fs :=
  List.filterMap_append

end Event

/-- What a channel writes for the records among events. -/
def Channel.written (channel : Channel) (es : List Event) : List Json :=
  (records es).filterMap channel.write?

/-- A channel whose filter admits all records of the client writes them all. -/
theorem Channel.written_eq {channel : Channel}
    (h : ∀ level, channel.filter.admits logTarget level = true) (es : List Event) :
    channel.written es = (records es).map (LogRecord.spelled channel.format) := by
  rw [Channel.written, ← List.filterMap_eq_map]
  refine List.filterMap_congr fun r _ => ?_
  rw [Channel.write?, if_pos (h r.level), r.written_eq]
  rfl

/-! ### The account of a run -/

/-- The record that an event calls for as a warning: of a failure other than the wish to cancel, if
an operation hides it, and of a pick outside the labels that were offered. -/
def Event.setback? (hider : Option Operation) : Event → Option LogRecord
  | .sent _ _ (.error .cancelled) => none
  | .sent _ _ (.error source) => hider.map (.requestFailed · source)
  | .offered labels (some choice) =>
    if labels.length ≤ choice then some (.pickOutside choice labels.length) else none
  | _ => none

/-- The record of the violation that an operation fails with, if it fails with one. -/
def violated? : Except ClientError TaskResult → Option LogRecord
  | .error (.violation operation source) =>
    some (.violated operation (ClientError.violation operation source).message)
  | _ => none

/-- The id in the parameters of the last request. -/
def Event.requestedId (es : List Event) : Json :=
  ((requests es).getLast?.bind fun request => request.2.get? "id").getD .null

/-- The tags of the deferred actions that an answer lists. -/
def answeredTags : TransportAnswer → List String
  | .ok answer =>
    match Offer.decodeResult answer with
    | .ok (some offers) => offers.filterMap Offer.tag?
    | _ => []
  | .error _ => []

/-- Whether an operation results in an edit that was made. -/
def madeEdit : Except ClientError TaskResult → Bool
  | .ok (.edited made) => made
  | _ => false

/-- What the result of an operation tells if it is a list of code actions: its length, and the
number of different tags in the answer. -/
def listed? (out : Except ClientError TaskResult) (es : List Event) : Option (Nat × Nat) :=
  match out with
  | .ok (.actions (some actions)) =>
    some (actions.length, ((exchanges es).flatMap fun x => answeredTags x.2.2).dedup.length)
  | _ => none

/-- The operation that hides the failures of its requests: a hover or a request for code actions
that has a result none the less. -/
def hider? (task : Task) (out : Except ClientError TaskResult) : Option Operation :=
  match task, out with
  | .hover _, .ok _ => some .hover
  | .codeActions _, .ok _ => some .codeAction
  | _, _ => none

/-- The records of the reports account for what was done. -/
structure FaithfulTrace (reports : List (Report σ)) : Prop where
  /-- The requests that are recorded are those that were sent. -/
  sending : LogRecord.saying "sending request" (records (reports.flatMap (·.events))) =
    (requests (reports.flatMap (·.events))).map fun request => .sending request.1
  /-- The errors are the violations that were returned, in their words. -/
  errors : LogRecord.atLevel .error (records (reports.flatMap (·.events))) =
    reports.filterMap fun r => violated? r.outcome
  /-- The warnings are the failures that were hidden and the picks outside a group. -/
  warnings : LogRecord.atLevel .warn (records (reports.flatMap (·.events))) =
    reports.flatMap fun r => r.events.filterMap (setback? (hider? r.turn.task r.outcome))
  /-- An edit is recorded for each operation that results in one. -/
  edits : LogRecord.saying "applied resolved code action" (records (reports.flatMap (·.events))) =
    (reports.filter fun r => madeEdit r.outcome).map fun r => .resolved (requestedId r.events)
  /-- A list of code actions is recorded for each operation that results in one. -/
  lists : LogRecord.saying "grouped code actions" (records (reports.flatMap (·.events))) =
    (reports.filterMap fun r => listed? r.outcome r.events).map fun x => .grouped x.1 x.2

/-- The objects that are written for the reports tell what was done. -/
structure ObjectsTell (reports : List (Report σ)) (objects : List Json) : Prop where
  /-- The methods are those of the requests that were sent. -/
  sending : (LogRecord.objectsSaying "sending request" objects).map (·.get? "method") =
    (requests (reports.flatMap (·.events))).map fun request => some (.str request.1.name)
  /-- The operations and the words are those of the violations that were returned. -/
  errors : (LogRecord.objectsAtLevel .error objects).map
      (fun j => (j.get? "operation", j.get? "message")) =
    reports.filterMap fun r =>
      match r.outcome with
      | .error (.violation operation source) => some (some (.str operation.label),
          some (.str (ClientError.violation operation source).message))
      | _ => none
  /-- The warnings are those that the events call for, and nothing else. -/
  warnings : LogRecord.objectsAtLevel .warn objects =
    reports.flatMap fun r =>
      (r.events.filterMap (setback? (hider? r.turn.task r.outcome))).map LogRecord.object
  /-- The ids are those in the requests of the operations that result in an edit. -/
  edits : (LogRecord.objectsSaying "applied resolved code action" objects).map (·.get? "id") =
    (reports.filter fun r => madeEdit r.outcome).map fun r =>
      some (.str (Json.inspectOptional (requestedId r.events)))
  /-- The numbers are the length of each list and how many different tags the answer has. -/
  lists : (LogRecord.objectsSaying "grouped code actions" objects).map
      (fun j => (j.get? "actions", j.get? "groups")) =
    (reports.filterMap fun r => listed? r.outcome r.events).map fun x =>
      (some (.int x.1), some (.int x.2))

/-- What the records tell is told by their objects. -/
theorem FaithfulTrace.objectsTell {reports : List (Report σ)} (h : FaithfulTrace reports) :
    ObjectsTell reports ((records (reports.flatMap (·.events))).map LogRecord.object) where
  sending := by
    rw [LogRecord.objectsSaying_map, h.sending, List.map_map, List.map_map]
    rfl
  errors := by
    rw [LogRecord.objectsAtLevel_map, h.errors, List.map_map, List.map_filterMap]
    refine List.filterMap_congr fun r _ => ?_
    rcases r.outcome with e | result
    · cases e <;> rfl
    · rfl
  warnings := by
    rw [LogRecord.objectsAtLevel_map, h.warnings, List.map_flatMap]
  edits := by
    rw [LogRecord.objectsSaying_map, h.edits, List.map_map, List.map_map]
    rfl
  lists := by
    rw [LogRecord.objectsSaying_map, h.lists, List.map_map, List.map_map]
    rfl

/-! ### Events without a consequence -/

/-- The words for a violation are those of no other record. -/
theorem violation_message_ne (operation : Operation) (violation : Violation) {text : String}
    (h : text.toList.head? ≠ some 'p') :
    (ClientError.violation operation violation).message ≠ text := by
  have hwords : (ClientError.violation operation violation).message =
      "protocol contract violated during " ++ operation.label ++ ": " ++ violation.message := rfl
  have hfirst : "protocol contract violated during ".toList.head? = some 'p' := by
    decide +kernel
  rintro rfl
  refine h ?_
  rw [hwords]
  simp only [String.toList_append, List.head?_append, hfirst, Option.some_or]

/-- Events among which the requests and the warnings are recorded as they should be, and no
violation, no edit and no list. -/
structure Quiet (hider : Option Operation) (es : List Event) : Prop where
  sending : LogRecord.saying "sending request" (records es) =
    (requests es).map fun request => .sending request.1
  errors : LogRecord.atLevel .error (records es) = []
  warnings : LogRecord.atLevel .warn (records es) = es.filterMap (setback? hider)
  edits : LogRecord.saying "applied resolved code action" (records es) = []
  lists : LogRecord.saying "grouped code actions" (records es) = []

/-- How the outcome of an operation, its events and their records fit. -/
structure TraceAccount (hider : Option Operation) (out : Except ClientError TaskResult)
    (es : List Event) : Prop where
  sending : LogRecord.saying "sending request" (records es) =
    (requests es).map fun request => .sending request.1
  errors : LogRecord.atLevel .error (records es) = (violated? out).toList
  warnings : LogRecord.atLevel .warn (records es) = es.filterMap (setback? hider)
  edits : LogRecord.saying "applied resolved code action" (records es) =
    if madeEdit out then [.resolved (requestedId es)] else []
  lists : LogRecord.saying "grouped code actions" (records es) =
    (listed? out es).toList.map fun x => .grouped x.1 x.2

variable {hider : Option Operation} {es fs : List Event}

theorem Quiet.append (h : Quiet hider es) (h' : Quiet hider fs) : Quiet hider (es ++ fs) where
  sending := by rw [records_append, LogRecord.saying_append, h.sending, h'.sending,
    requests_append, List.map_append]
  errors := by rw [records_append, LogRecord.atLevel_append, h.errors, h'.errors]; rfl
  warnings := by rw [records_append, LogRecord.atLevel_append, h.warnings, h'.warnings,
    List.filterMap_append]
  edits := by rw [records_append, LogRecord.saying_append, h.edits, h'.edits]; rfl
  lists := by rw [records_append, LogRecord.saying_append, h.lists, h'.lists]; rfl

theorem violated?_eq_none {out : Except ClientError TaskResult} (h : noticeOf out = none) :
    violated? out = none := by
  rcases out with e | result
  · cases e with
    | violation => cases h
    | transport | editor | unknownCommand => rfl
  · rfl

/-- The account of an operation without a consequence. -/
theorem Quiet.account {out : Except ClientError TaskResult} (h : Quiet hider es)
    (hnotice : noticeOf out = none) (hmade : madeEdit out = false) (hlist : listed? out es = none) :
    TraceAccount hider out es where
  sending := h.sending
  errors := by rw [h.errors, violated?_eq_none hnotice]; rfl
  warnings := h.warnings
  edits := by rw [h.edits, hmade]; rfl
  lists := by rw [h.lists, hlist]; rfl

/-- The account of an operation that fails with a violation. -/
theorem Quiet.account_violation (h : Quiet none es) (operation : Operation)
    (violation : Violation) :
    TraceAccount none (.error (.violation operation violation))
      (es ++ Client.violationEvents operation violation) := by
  have hsays (text : String) (htext : text.toList.head? ≠ some 'p') :
      LogRecord.saying text (records (Client.violationEvents operation violation)) = [] := by
    have hne := violation_message_ne operation violation htext
    simp [Client.violationEvents, records, record?, LogRecord.saying, LogRecord.message, hne]
  exact {
    sending := by
      rw [records_append, LogRecord.saying_append, h.sending, hsays _ (by decide), requests_append,
        List.map_append]
      rfl
    errors := by
      rw [records_append, LogRecord.atLevel_append, h.errors]
      rfl
    warnings := by
      rw [records_append, LogRecord.atLevel_append, h.warnings, List.filterMap_append]
      rfl
    edits := by
      rw [records_append, LogRecord.saying_append, h.edits, hsays _ (by decide)]
      rfl
    lists := by
      rw [records_append, LogRecord.saying_append, h.lists, hsays _ (by decide)]
      rfl }

/-- A pick within the labels changes nothing in an account. -/
theorem TraceAccount.cons_offered {out : Except ClientError TaskResult}
    (h : TraceAccount none out es) {labels : List String} {choice : Nat}
    (hchoice : choice < labels.length) :
    TraceAccount none out (.offered labels (some choice) :: es) where
  sending := h.sending
  errors := h.errors
  warnings := by
    rw [List.filterMap_cons_none]
    · exact h.warnings
    · exact if_neg (by omega)
  edits := h.edits
  lists := h.lists

namespace Client

variable {env : Environment σ} {s t : σ}

/-! ### Requests -/

/-- A request that was sent is recorded; its failure is hidden by nobody here. -/
theorem SendOutcome.quiet {operation : Operation} {method : Method} {params : Json}
    {out : Except ClientError (Option Json)}
    (h : SendOutcome env operation method params s out es t) : Quiet none es := by
  cases h with
  | cancelled => exact ⟨rfl, rfl, rfl, rfl, rfl⟩
  | @failed source _ _ _ =>
    cases source <;> exact ⟨rfl, rfl, rfl, rfl, rfl⟩
  | answered => exact ⟨rfl, rfl, rfl, rfl, rfl⟩

/-- After a request that was answered nothing is left to hide. -/
theorem SendOutcome.quiet_ok {operation : Operation} {method : Method} {params : Json}
    {answer : Option Json} (h : SendOutcome env operation method params s (.ok answer) es t)
    (hider : Option Operation) : Quiet hider es := by
  generalize hout : Except.ok answer = out at h
  cases h with
  | cancelled => cases hout
  | failed => cases hout
  | answered => exact ⟨rfl, rfl, rfl, rfl, rfl⟩

/-- A request whose failure is no answer is quiet: the operation hides the failure, and a warning
is recorded unless the caller has given the request up. -/
theorem AskOutcome.quiet {operation : Operation} {method : Method} {params : Json}
    {answer : Option Json} (h : AskOutcome env operation method params s answer es t) :
    Quiet (some operation) es := by
  cases h with
  | @lost source es t h =>
    generalize hout : Except.error (ClientError.transport operation source) = out at h
    cases h with
    | cancelled =>
      cases hout
      exact ⟨rfl, rfl, rfl, rfl, rfl⟩
    | failed =>
      cases hout
      cases source <;> exact ⟨rfl, rfl, rfl, rfl, rfl⟩
    | answered => cases hout
  | answered h => exact h.quiet_ok _

/-- An answer that is passed on is the answer to the one request. -/
theorem AskOutcome.of_some {operation : Operation} {method : Method} {params value : Json}
    (h : AskOutcome env operation method params s (some value) es t) :
    es = [.recorded (.sending method), .sent method params (.ok (some value))] := by
  cases h with
  | answered h => exact h.of_some.2

theorem AskOutcome.quiet_some {operation : Operation} {method : Method} {params value : Json}
    (h : AskOutcome env operation method params s (some value) es t) (hider : Option Operation) :
    Quiet hider es := by
  rw [h.of_some]
  exact ⟨rfl, rfl, rfl, rfl, rfl⟩

/-! ### Operations -/

theorem InitialiseOutcome.traced {client : Client} {params : InitializeParams}
    {out : Except ClientError InitializeResult} {kept : Option ServerCapabilities}
    (h : InitialiseOutcome env client params s out es t kept) :
    TraceAccount none (out.map .initialised) es := by
  have hannounced : Quiet none [.recorded (.announcing client.features.flags)] :=
    ⟨rfl, rfl, rfl, rfl, rfl⟩
  cases h with
  | unsent h =>
    exact (hannounced.append h.quiet).account h.notices_eq.2 rfl rfl
  | missing h => exact (hannounced.append h.quiet).account_violation _ _
  | malformed h => exact (hannounced.append h.quiet).account_violation _ _
  | @initialised value result es t h hdecode =>
    have hinitialised : Quiet none [.recorded (.initialised (result.serverInfo.map (·.name)))] :=
      ⟨rfl, rfl, rfl, rfl, rfl⟩
    exact (hannounced.append (h.quiet.append hinitialised)).account rfl rfl rfl

theorem HoverOutcome.traced {client : Client} {params : HoverParams}
    {out : Except ClientError (Option EditorHover)}
    (h : HoverOutcome env client params s out es t) :
    TraceAccount (hider? (.hover params) (out.map .hover)) (out.map .hover) es := by
  cases h with
  | nothing h => exact h.quiet.account rfl rfl rfl
  | malformed h => exact (h.quiet_some none).account_violation _ _
  | shown h => exact h.quiet.account rfl rfl rfl

/-- The tags in an answer that is a list are those of its offers. -/
theorem answeredTags_eq {value : Json} {offers : List Offer}
    (h : Offer.decodeResult (some value) = .ok (some offers)) :
    answeredTags (.ok (some value)) = offers.filterMap Offer.tag? := by
  rw [answeredTags, h]

theorem CodeActionsOutcome.traced {params : CodeActionParams}
    {out : Except ClientError (Option (List DisplayAction))}
    (h : CodeActionsOutcome env params s out es t) :
    TraceAccount (hider? (.codeActions params) (out.map .actions)) (out.map .actions) es := by
  cases h with
  | nothing h => exact h.quiet.account rfl rfl rfl
  | refused h => exact (h.quiet_some none).account_violation _ _
  | listed h hdecode =>
    rw [h.of_some]
    refine ⟨rfl, rfl, rfl, rfl, ?_⟩
    -- The one answer is the list that is shown, so its tags are counted.
    rw [groupCount_eq, ← answeredTags_eq hdecode, ← List.append_nil (answeredTags _)]
    rfl

theorem ResolveOutcome.traced {params : ResolveParams} {out : Except ClientError Bool}
    (h : ResolveOutcome env params s out es t) : TraceAccount none (out.map .edited) es := by
  have hid : params.toJson.get? "id" = some params.id :=
    Json.get?_record (by simp) (by simp)
  cases h with
  | unsent h => exact h.quiet.account h.notices_eq.2 rfl rfl
  | nothing h => exact h.quiet.account rfl rfl rfl
  | malformed h => exact h.quiet.account_violation _ _
  | rejected h =>
    exact (h.quiet.append ⟨rfl, rfl, rfl, rfl, rfl⟩).account rfl rfl rfl
  | applied h =>
    rw [h.of_some.2]
    refine ⟨rfl, rfl, rfl, ?_, rfl⟩
    have hrequested : (params.toJson.get? "id").getD .null = params.id := by rw [hid]; rfl
    rw [← hrequested]
    rfl

theorem ApplyGroupOutcome.traced {entries : List GroupEntry} {out : Except ClientError Bool}
    (h : ApplyGroupOutcome env entries s out es t) : TraceAccount none (out.map .edited) es := by
  have hlabels : (entries.map (·.label)).length = entries.length := List.length_map _
  have hinside {choice : Nat} {entry : GroupEntry} (hentry : entries[choice]? = some entry) :
      choice < (entries.map (·.label)).length :=
    hlabels ▸ (List.getElem?_eq_some_iff.mp hentry).1
  have hnothing : Quiet none [] := ⟨rfl, rfl, rfl, rfl, rfl⟩
  cases h with
  | dismissed => exact ⟨rfl, rfl, rfl, rfl, rfl⟩
  | @outside choice _ _ hentry =>
    have houtside : (entries.map (·.label)).length ≤ choice :=
      hlabels ▸ List.getElem?_eq_none_iff.mp hentry
    have hwarned : setback? none (.offered (entries.map (·.label)) (some choice)) =
        some (.pickOutside choice entries.length) := by
      rw [setback?, if_pos houtside, hlabels]
    refine ⟨rfl, rfl, ?_, rfl, rfl⟩
    rw [List.filterMap_cons_some hwarned]
    rfl
  | malformed _ hentry =>
    exact (hnothing.account_violation _ _).cons_offered (hinside hentry)
  | picked _ hentry _ h => exact h.traced.cons_offered (hinside hentry)

theorem ExecuteOutcome.traced {command : Command} {out : Except ClientError Bool}
    (h : ExecuteOutcome env command s out es t) : TraceAccount none (out.map .edited) es := by
  have hnothing : Quiet none [] := ⟨rfl, rfl, rfl, rfl, rfl⟩
  cases h with
  | resolve _ _ h => exact h.traced
  | resolveMalformed => exact hnothing.account_violation _ _
  | applyGroup _ _ h => exact h.traced
  | applyGroupMalformed => exact hnothing.account_violation _ _
  | unknown => exact hnothing.account rfl rfl rfl

theorem PerformOutcome.traced {client : Client} {task : Task}
    {out : Except ClientError TaskResult} {kept : Option ServerCapabilities}
    (h : PerformOutcome env client s task out es t kept) :
    TraceAccount (hider? task out) out es := by
  cases h with
  | initialise h | hover h | codeActions h | execute h | resolve h | applyGroup h => exact h.traced

end Client

/-! ### Histories -/

/-- The account of an operation is that of the run of it alone. -/
theorem TraceAccount.faithfulTrace {r : Report σ}
    (h : TraceAccount (hider? r.turn.task r.outcome) r.outcome r.events) : FaithfulTrace [r] where
  sending := by simpa using h.sending
  errors := by simpa [List.filterMap_eq_flatMap_toList] using h.errors
  warnings := by simpa using h.warnings
  edits := by cases hmade : madeEdit r.outcome <;> simpa [hmade] using h.edits
  lists := by simpa [List.filterMap_eq_flatMap_toList] using h.lists

theorem FaithfulTrace.append {rs qs : List (Report σ)} (h : FaithfulTrace rs)
    (h' : FaithfulTrace qs) : FaithfulTrace (rs ++ qs) where
  sending := by simp [h.sending, h'.sending]
  errors := by simp [h.errors, h'.errors]
  warnings := by simp [h.warnings, h'.warnings]
  edits := by simp [h.edits, h'.edits]
  lists := by simp [h.lists, h'.lists]

/-- The records of a run account for it if those of each report do. -/
theorem FaithfulTrace.of_forall :
    ∀ {rs : List (Report σ)}, (∀ r ∈ rs, FaithfulTrace [r]) → FaithfulTrace rs
  | [], _ => ⟨rfl, rfl, rfl, rfl, rfl⟩
  | _ :: _, h => (h _ List.mem_cons_self).append (.of_forall fun r hr => h r (.tail _ hr))

namespace Client

/-- **The trace is faithful.**  Whatever the environment does, the records of each operation account
for it, and those of a run for the run, in order, where the events are what the environment answers.
A channel whose filter admits all levels of the client's target writes them all, each as it is
spelled out; if it writes objects, their members tell what was done. -/
theorem trace_history (channel : Channel)
    (hadmits : ∀ level, channel.filter.admits logTarget level = true)
    (client : Client) (s : σ) (turns : List (Turn σ)) :
    (∀ r ∈ client.history s turns, FaithfulTrace [r]) ∧
    FaithfulTrace (client.history s turns) ∧
    Report.Lead s (client.history s turns) (client.after s turns).2 ∧
    channel.written ((client.history s turns).flatMap (·.events)) =
      (records ((client.history s turns).flatMap (·.events))).map
        (LogRecord.spelled channel.format) ∧
    (channel.format = .json → ObjectsTell (client.history s turns)
      (channel.written ((client.history s turns).flatMap (·.events)))) := by
  have heach : ∀ r ∈ client.history s turns, FaithfulTrace [r] :=
    forall_history (fun h => h.traced.faithfulTrace) client s turns
  have hwhole : FaithfulTrace (client.history s turns) := .of_forall heach
  have hwritten := Channel.written_eq hadmits ((client.history s turns).flatMap (·.events))
  refine ⟨heach, hwhole, history_leads client s turns, hwritten, fun hformat => ?_⟩
  rw [hwritten, hformat]
  exact hwhole.objectsTell

/-- A channel for all records of the client. -/
def debugChannel : Channel :=
  ⟨1, ⟨[⟨some logTarget.toList, .debug⟩]⟩, .json⟩

/-- A deferred action with a tag, as a server sends it. -/
def taggedItem (id : Int) (tag : String) : Json :=
  .obj [("group", .str tag), ("id", .int id), ("title", .str "fix")]

/-- A server that lists four deferred actions, three of them with one tag, and is too busy for
hovers. -/
def busyServer : Script :=
  (Script.blank.respond "textDocument/codeAction"
    (.ok (some (.arr [taggedItem 1 "a", taggedItem 2 "b", taggedItem 3 "a", taggedItem 4 "a",
      .obj [("command", .str "x.run"), ("title", .str "run")]])))).respond
      "textDocument/hover" (.error .busy)

/-- A client asks for code actions and for a hover. -/
def lookingTurns : List (Turn Script) :=
  [⟨.codeActions ⟨⟨⟨"file:///c", by decide⟩⟩, ⟨⟨0, 0⟩, ⟨0, 1⟩⟩, ⟨[], none, none⟩, none, none⟩,
      Script.environment⟩,
    ⟨.hover ⟨⟨⟨"file:///c", by decide⟩⟩, ⟨0, 0⟩, none⟩, Script.environment⟩]

/-- Three actions are shown, for two tags and a command; the hover is none. -/
theorem trace_history_sample :
    (∀ level, debugChannel.filter.admits logTarget level = true) ∧
    debugChannel.format = .json ∧
    ∃ lines, lines = debugChannel.written
        (((ofSettings .default).history busyServer lookingTurns).flatMap (·.events)) ∧
      (LogRecord.objectsSaying "sending request" lines).map (·.get? "method") =
        [some (.str "textDocument/codeAction"), some (.str "textDocument/hover")] ∧
      (LogRecord.objectsSaying "grouped code actions" lines).map
        (fun j => (j.get? "actions", j.get? "groups")) = [(some (.int 3), some (.int 2))] ∧
      LogRecord.objectsAtLevel .warn lines =
        [.obj [("error", .str "language server is busy"), ("level", .str "WARN"),
          ("message", .str "request failed; showing no result"), ("operation", .str "hover"),
          ("target", .str "tether_client")]] ∧
      lines.length = 4 := by
  have hadmits : ∀ level, debugChannel.filter.admits logTarget level = true := by
    intro level
    cases level <;> decide +kernel
  obtain ⟨-, -, -, hwritten, htell⟩ :=
    trace_history debugChannel hadmits (ofSettings .default) busyServer lookingTurns
  have htold := htell rfl
  refine ⟨hadmits, rfl, _, rfl, ?_, ?_, ?_, ?_⟩
  · rw [htold.sending]
    decide +kernel
  · rw [htold.lists]
    decide +kernel
  · rw [htold.warnings]
    decide +kernel
  · rw [hwritten, List.length_map]
    decide +kernel

end Client

end EditorBridge
