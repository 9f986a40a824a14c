import EditorBridge.Client.History
import EditorBridge.Session.Script

/-!
# Sessions

A session is a client in a scripted environment, with the trace channel of its process and the code
actions that were shown last.  It is driven step by step (`Step`); `Session.perform` gives the
outcome of a step, the events that came with it, and the session after it.

Steps bring their parameters as JSON.  A step that needs a client fails for want of one before its
parameters are looked at.
-/

namespace EditorBridge

/-- What a session can be asked to do. -/
inductive Action where
  | respond (method : String) (answer : TransportAnswer)
  | choose (choice : Option Nat)
  | failEdits (failure : Option EditorError)
  | renew (settings : Json)
  | start (settings : Json)
  | install (settings : Json)
  | occupy
  | initialise (params : Json)
  | serverCapabilities
  | hover (params : Json)
  | codeActions (params : Json)
  | invoke (title : String)
  | execute (command : Json)
  | resolve (params : Json)
  | applyGroup (entries : Json)

/-- One step: what to do, and whether requests are given up before they are sent. -/
structure Step where
  action : Action
  cancelled : Bool

/-- The result of a step. -/
inductive StepResult where
  | done
  | started
  | flag (b : Bool)
  | capabilities (capabilities : Option ServerCapabilities)
  | performed (result : TaskResult)

/-- Why a step has no result. -/
inductive StepError where
  | noClient
  | undecodable (error : DecodeError)
  | settings (error : SettingsError)
  | trace (error : TraceError)
  | noSuchAction (title : String)
  | client (error : ClientError)

/-- A session.  `lastActions` are the actions of the last successful request for them; `channels`
counts the trace channels that were asked for with settings that load. -/
structure Session where
  client : Option Client
  script : Script
  lastActions : List DisplayAction
  slot : TraceSlot
  channels : Nat

/-- What a step comes to. -/
structure StepReport where
  outcome : Except StepError StepResult
  events : List Event

namespace Session

/-- A session without a client, in a process without a trace channel. -/
def blank : Session :=
  ⟨none, .blank, [], .free, 0⟩

/-- A session with a client of the given settings.  If it is traced, its records go to channel 1,
which the settings describe. -/
def ofSettings (settings : Settings) (traced : Bool) : Except TraceError Session :=
  if traced then
    match Channel.ofSettings LogFilter.parse settings 1 with
    | .error e => .error e
    | .ok channel =>
      .ok ⟨some (.ofSettings settings), .blank, [], .installed channel, 1⟩
  else .ok { blank with client := some (.ofSettings settings) }

/-- A step that only has an outcome. -/
def plain (s : Session) (outcome : Except StepError StepResult) : StepReport × Session :=
  (⟨outcome, []⟩, s)

/-- The session after a task: the actions that it found, if it asked for some, are the last ones. -/
def keep (s : Session) : TaskResult → Session
  | .actions actions => { s with lastActions := actions.getD [] }
  | _ => s

/-- Has the client do a task. -/
def run (s : Session) (client : Client) (task : Task) : StepReport × Session :=
  let (report, client, script) := client.takeTurn s.script ⟨task, Script.environment⟩
  let s := { s with client := some client, script := script }
  match report.outcome with
  | .error e => (⟨.error (.client e), report.events⟩, s)
  | .ok result => (⟨.ok (.performed result), report.events⟩, s.keep result)

/-- Decodes parameters and goes on with them. -/
def decoding {α : Type} (s : Session) (decode : Decoder α) (params : Json)
    (next : α → StepReport × Session) : StepReport × Session :=
  match decode .inPlace params with
  | .ok x => next x
  | .error e => s.plain (.error (.undecodable e))

/-- Loads settings and goes on with them. -/
def loading (s : Session) (settings : Json) (next : Settings → StepReport × Session) :
    StepReport × Session :=
  match Settings.ofJson settings with
  | .ok loaded => next loaded
  | .error e => s.plain (.error (.settings e))

/-- Goes on with the client. -/
def withClient (s : Session) (next : Client → StepReport × Session) : StepReport × Session :=
  match s.client with
  | some client => next client
  | none => s.plain (.error .noClient)

/-- The command of the first of the last actions with a title. -/
def commandTitled? (s : Session) (title : String) : Option Command :=
  (s.lastActions.find? fun a => a.title = title).bind (·.command)

/-- Does one thing. -/
def act (s : Session) : Action → StepReport × Session
  | .respond method answer => { s with script := s.script.respond method answer }.plain (.ok .done)
  | .choose choice => { s with script := s.script.choose choice }.plain (.ok .done)
  | .failEdits failure =>
    { s with script := { s.script with editFailure := failure } }.plain (.ok .done)
  | .renew settings =>
    s.loading settings fun loaded =>
      { s with client := some (.ofSettings loaded) }.plain (.ok .done)
  | .start settings =>
    s.loading settings fun loaded =>
      let number := s.channels + 1
      match Client.start LogFilter.parse s.slot loaded number with
      | (.ok (client, records), slot) =>
        (⟨.ok .started, records.map .recorded⟩,
          { s with client := some client, slot := slot, channels := number })
      | (.error e, slot) =>
        { s with slot := slot, channels := number }.plain (.error (.trace e))
  | .install settings =>
    s.loading settings fun loaded =>
      let number := s.channels + 1
      match s.slot.install LogFilter.parse loaded number with
      | (.ok installed, slot) =>
        { s with slot := slot, channels := number }.plain (.ok (.flag installed))
      | (.error e, slot) =>
        { s with slot := slot, channels := number }.plain (.error (.trace e))
  | .occupy => { s with slot := s.slot.occupy.2 }.plain (.ok (.flag s.slot.occupy.1))
  | .initialise params =>
    s.withClient fun client =>
      s.decoding (InitializeParams.decode .verbatim) params fun p => s.run client (.initialise p)
  | .serverCapabilities => s.withClient fun client => s.plain (.ok (.capabilities client.capabilities))
  | .hover params =>
    s.withClient fun client => s.decoding HoverParams.decode params fun p => s.run client (.hover p)
  | .codeActions params =>
    s.withClient fun client =>
      s.decoding CodeActionParams.decode params fun p => s.run client (.codeActions p)
  | .invoke title =>
    s.withClient fun client =>
      match s.commandTitled? title with
      | some command => s.run client (.execute command)
      | none => s.plain (.error (.noSuchAction title))
  | .execute command =>
    s.withClient fun client => s.decoding Command.decode command fun c => s.run client (.execute c)
  | .resolve params =>
    s.withClient fun client =>
      s.decoding ResolveParams.decode params fun p => s.run client (.resolve p)
  | .applyGroup entries =>
    s.withClient fun client =>
      s.decoding (.list GroupEntry.decode) entries fun es => s.run client (.applyGroup es)

/-- Performs one step. -/
def perform (s : Session) (step : Step) : StepReport × Session :=
  { s with script := { s.script with cancelled := step.cancelled } }.act step.action

/-- The reports of a list of steps, each with the place of the trace channel when it was done. -/
def performAll (s : Session) : List Step → List (StepReport × TraceSlot)
  | [] => []
  | step :: rest =>
    let (report, s) := s.perform step
    (report, s.slot) :: s.performAll rest

end Session

end EditorBridge
