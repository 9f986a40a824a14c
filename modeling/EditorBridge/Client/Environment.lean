import EditorBridge.CodeActions.Display
import EditorBridge.Hover.Enricher
import EditorBridge.Protocol.Handshake
import EditorBridge.Trace.Record

/-!
# What the client works with

An `Environment` is the transport that carries requests, the editor, and the caller's wish to
cancel.  It has a state of any type, and nothing is known of how it answers.  `World` is that state
with the client itself and the list of what has happened so far, and `Call` is a computation of the
client in it: it consults the environment, adds events, may change the client, and returns a result
or an error.
-/

namespace EditorBridge

/-- A client.  `capabilities` are those of the server, once the handshake has succeeded. -/
structure Client where
  features : FeatureSwitches
  enricher : HoverEnricher
  capabilities : Option ServerCapabilities
deriving DecidableEq

/-- A client with the given settings, before its handshake. -/
def Client.ofSettings (settings : Settings) : Client :=
  ⟨settings.experimental, .ofSettings settings, none⟩

/-- What a transport answers to a request. -/
abbrev TransportAnswer := Except TransportError (Option Json)

/-- The transport, the editor and the wish to cancel, over a state. -/
structure Environment (σ : Type) where
  /-- Whether the caller has given the request up. -/
  isCancelled : σ → Bool
  /-- Sends a request and waits for its answer. -/
  send : Method → Json → σ → TransportAnswer × σ
  /-- Offers labels to the user; none if the user picks nothing. -/
  pick : List String → σ → Option Nat × σ
  /-- Makes an edit in the open documents. -/
  applyEdit : WorkspaceEdit → σ → Except EditorError Unit × σ
  /-- Shows an error to the user. -/
  showError : String → σ → σ
  /-- How capabilities of the server are read that the client only hands on. -/
  readCapability : CapabilityReader

/-- What happens while the client works: what it asks of the environment, with the answer, and what
it records. -/
inductive Event where
  | sent (method : Method) (params : Json) (answer : TransportAnswer)
  | offered (labels : List String) (choice : Option Nat)
  | edited (edit : WorkspaceEdit) (outcome : Except EditorError Unit)
  | shown (message : String)
  | recorded (record : LogRecord)

/-- The state of the environment, the client, and what has happened, the first first. -/
structure World (σ : Type) where
  state : σ
  client : Client
  events : List Event

/-- A computation of the client. -/
abbrev Call (σ : Type) (α : Type) := ExceptT ClientError (StateM (World σ)) α

namespace Call

variable {σ α : Type}

/-- Adds a record. -/
def record (r : LogRecord) : Call σ Unit :=
  modify fun w => { w with events := w.events ++ [.recorded r] }

/-- Consults the environment, and adds the event of its answer. -/
def consult (question : σ → α × σ) (event : α → Event) : Call σ α :=
  modifyGet fun w =>
    ((question w.state).1,
      { w with state := (question w.state).2, events := w.events ++ [event (question w.state).1] })

/-- Puts the capabilities of the server in the place of those that the client remembers. -/
def remember (capabilities : ServerCapabilities) : Call σ Unit :=
  modify fun w => { w with client := { w.client with capabilities := some capabilities } }

/-- Runs a computation in a world. -/
def runIn (call : Call σ α) (w : World σ) : Except ClientError α × World σ :=
  call.run.run w

end Call

end EditorBridge
