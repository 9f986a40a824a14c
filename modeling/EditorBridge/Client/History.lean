import EditorBridge.Client.Basic

/-!
# Histories of a client

A client is asked to do one thing after another (`Task`), each in an environment of its own over
one shared state (`Turn`): the caller may give every request a different wish to cancel.
`takeTurn` does one task and reports what came of it, `history` is the list of the reports of a list
of turns, and `after` is the client after them.  The client goes on as a task leaves it, whether the
task succeeds or fails.
-/

namespace EditorBridge

/-- What a client can be asked to do. -/
inductive Task where
  | initialise (params : InitializeParams)
  | hover (params : HoverParams)
  | codeActions (params : CodeActionParams)
  | execute (command : Command)
  | resolve (params : ResolveParams)
  | applyGroup (entries : List GroupEntry)

/-- The result of a task. -/
inductive TaskResult where
  | initialised (result : InitializeResult)
  | hover (hover : Option EditorHover)
  | actions (actions : Option (List DisplayAction))
  | edited (made : Bool)

/-- A task, and the environment in which it is to be done. -/
structure Turn (σ : Type) where
  task : Task
  env : Environment σ

/-- What came of a turn that began in the state `start`: the result or the error, and the events in
their order. -/
structure Report (σ : Type) where
  turn : Turn σ
  start : σ
  outcome : Except ClientError TaskResult
  events : List Event

namespace Client

variable {σ : Type}

/-- Does a task. -/
def perform (env : Environment σ) : Task → Call σ TaskResult
  | .initialise params => return .initialised (← initialise env params)
  | .hover params => return .hover (← hover env params)
  | .codeActions params => return .actions (← codeActions env params)
  | .execute command => return .edited (← execute env command)
  | .resolve params => return .edited (← resolve env params)
  | .applyGroup entries => return .edited (← applyGroup env entries)

/-- Takes a turn, in a state of the environment. -/
def takeTurn (client : Client) (s : σ) (turn : Turn σ) : Report σ × Client × σ :=
  let (outcome, world) := (perform turn.env turn.task).runIn ⟨s, client, []⟩
  (⟨turn, s, outcome, world.events⟩, world.client, world.state)

/-- The reports of a list of turns, from a state of the environment on. -/
def history (client : Client) (s : σ) : List (Turn σ) → List (Report σ)
  | [] => []
  | turn :: rest =>
    let (report, client, s) := client.takeTurn s turn
    report :: client.history s rest

/-- The client and the state of the environment after a list of turns. -/
def after (client : Client) (s : σ) : List (Turn σ) → Client × σ
  | [] => (client, s)
  | turn :: rest =>
    let (_, client, s) := client.takeTurn s turn
    client.after s rest

end Client

end EditorBridge
