import EditorBridge.Settings.Basic
import EditorBridge.Trace.Record

/-!
# The trace channel

Records go to one channel for the whole process.  It is installed by the first request for it that
succeeds, and later requests share it without being looked at.  A request fails if its filter is
none, or if the place for records is taken by someone else; then nothing is installed.

A process has a cell that tells whether a request has succeeded, and a place for what its records go
to, which others can take too (`TraceSlot`).  A request also has a flag of its own, which tells
whether its own channel was installed (`TraceSlot.Setup`).

What reads filters is handed in.  A session reads them by `LogFilter.parse`.
-/

namespace EditorBridge

/-- Where records go: a channel, known by its number, with a filter and a format. -/
structure Channel where
  number : Nat
  filter : LogFilter
  format : LogFormat
deriving DecidableEq, Repr

/-- A record as the channel writes it, if its filter lets it through. -/
def Channel.write? (channel : Channel) (r : LogRecord) : Option Json :=
  if channel.filter.admits logTarget r.level then some (r.written channel.format) else none

/-- Why a channel cannot be made or installed. -/
inductive TraceError where
  | badFilter (filter : String) (fault : FilterFault)
  | occupied
deriving DecidableEq, Repr

/-- The words for a trace error. -/
def TraceError.message : TraceError → String
  | .badFilter filter fault => "invalid log filter '" ++ filter ++ "': " ++ fault.message
  | .occupied =>
    "a global tracing subscriber is already installed: " ++
      "a global default trace dispatcher has already been set"

/-- Reads filters. -/
abbrev FilterReader := String → Except FilterFault LogFilter

/-- The channel that the settings ask for. -/
def Channel.ofSettings (parse : FilterReader) (settings : Settings) (number : Nat) :
    Except TraceError Channel :=
  match parse settings.logFilter with
  | .ok filter => .ok ⟨number, filter, settings.logFormat⟩
  | .error fault => .error (.badFilter settings.logFilter fault)

/-- What the records of a process go to. -/
inductive Recipient where
  | foreign
  | channel (channel : Channel)
deriving DecidableEq, Repr

/-- What a process keeps of the channel: the cell that the first request that succeeds fills, and
the place for what all records go to, which is taken once. -/
structure TraceSlot where
  filled : Bool
  recipient : Option Recipient
deriving DecidableEq, Repr

namespace TraceSlot

/-- Nothing has been set up. -/
@[match_pattern] abbrev free : TraceSlot :=
  ⟨false, none⟩

/-- Someone else has the place. -/
@[match_pattern] abbrev foreign : TraceSlot :=
  ⟨false, some .foreign⟩

/-- A channel has been installed. -/
@[match_pattern] abbrev installed (channel : Channel) : TraceSlot :=
  ⟨true, some (.channel channel)⟩

/-- A part of a request, with the flag that tells whether the request has installed its channel. -/
abbrev Setup (α : Type) := ExceptT TraceError (StateM (TraceSlot × Bool)) α

/-- Fills the cell by a computation, unless it is filled.  If the computation fails the cell stays
as it is. -/
def fillOnce (fill : Setup Unit) : Setup Unit := do
  unless (← get).1.filled do
    fill
    modify fun (slot, flag) => ({ slot with filled := true }, flag)

/-- Takes the place for records, if it is free. -/
def takePlace (recipient : Recipient) : Setup Unit := do
  let (slot, flag) ← get
  match slot.recipient with
  | none => set ({ slot with recipient := some recipient }, flag)
  | some _ => throw .occupied

/-- Makes the channel that the settings ask for and installs it. -/
def installChannel (parse : FilterReader) (settings : Settings) (number : Nat) : Setup Unit := do
  let channel ← liftExcept (Channel.ofSettings parse settings number)
  takePlace (.channel channel)
  modify fun (slot, _) => (slot, true)

/-- A request for a channel, and the process after it.  The answer tells whether the channel of this
request was installed. -/
def install (parse : FilterReader) (slot : TraceSlot) (settings : Settings) (number : Nat) :
    Except TraceError Bool × TraceSlot :=
  let request : Setup Bool := do
    fillOnce (installChannel parse settings number)
    return (← get).2
  let (answer, slot, _) := request.run.run (slot, false)
  (answer, slot)

/-- Someone else takes the place for records, if it is free. -/
def occupy (slot : TraceSlot) : Bool × TraceSlot :=
  match slot.recipient with
  | none => (true, { slot with recipient := some .foreign })
  | some _ => (false, slot)

/-- A record as it is written, with the number of its channel. -/
def write? (slot : TraceSlot) (r : LogRecord) : Option (Nat × Json) :=
  match slot.recipient with
  | some (.channel channel) => (channel.write? r).map (channel.number, ·)
  | _ => none

theorem write?_installed (channel : Channel) (r : LogRecord) :
    (installed channel).write? r = (channel.write? r).map (channel.number, ·) :=
  rfl

end TraceSlot

end EditorBridge
