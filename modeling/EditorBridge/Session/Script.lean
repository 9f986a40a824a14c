import EditorBridge.Client.Environment

/-!
# A scripted environment

An environment that answers as it has been told to, to run a client without a server and an
editor.  A request whose method has no answer in the script gets none; a pick takes the next choice
that is queued, and dismisses the offer if there is none; edits fail while a failure is set.  The
capabilities that the client only hands on are taken as they come.
-/

namespace EditorBridge

/-- How the environment will answer. -/
structure Script where
  /-- The answers by the names of the methods. -/
  answers : List (String × TransportAnswer)
  /-- The choices that picks will take, the next one first. -/
  choices : List (Option Nat)
  /-- The failure of all edits, if they are to fail. -/
  editFailure : Option EditorError
  /-- Whether requests are given up before they are sent. -/
  cancelled : Bool

namespace Script

/-- The script that says nothing. -/
def blank : Script :=
  ⟨[], [], none, false⟩

/-- The script with the answer to a method set. -/
def respond (script : Script) (method : String) (answer : TransportAnswer) : Script :=
  { script with answers := (method, answer) :: script.answers.filter fun a => a.1 ≠ method }

/-- The script with one more choice queued. -/
def choose (script : Script) (choice : Option Nat) : Script :=
  { script with choices := script.choices ++ [choice] }

/-- The environment that follows the script it has as its state. -/
def environment : Environment Script where
  isCancelled script := script.cancelled
  send method _ script := ((script.answers.lookup method.name).getD (.ok none), script)
  pick _ script :=
    match script.choices with
    | [] => (none, script)
    | choice :: rest => (choice, { script with choices := rest })
  applyEdit _ script :=
    match script.editFailure with
    | none => (.ok (), script)
    | some failure => (.error failure, script)
  showError _ script := script
  readCapability := .verbatim

end Script

end EditorBridge
