import EditorBridge.Client.Basic
import Mathlib.Data.List.Forall2

/-!
# Requests for the trace channel

One request for the channel has one of four outcomes (`TraceSlot.InstallOutcome`), by the cell, the
filter and the place for records.  Of requests one after another, where nothing is set up, those
before the first with a readable filter are refused, that one is installed, and all that follow
share it, whatever they ask for (`TraceSlot.FirstInstalls`).  Where the place is taken by someone
else, all are turned away.

Main statement: `TraceSlot.installed_once`.  Nothing is assumed of what reads filters.
-/

namespace EditorBridge

namespace TraceSlot

/-- The answer to a request for the channel, and the place after it. -/
abbrev Report := Except TraceError Bool × TraceSlot

/-! ### One request -/

/-- A request that is refused for its filter leaves the place as it was. -/
def Refused (parse : FilterReader) (slot : TraceSlot) (settings : Settings) (report : Report) :
    Prop :=
  ∃ fault, parse settings.logFilter = .error fault ∧
    report = (.error (.badFilter settings.logFilter fault), slot)

theorem Refused.eq_error {parse : FilterReader} {slot : TraceSlot} {settings : Settings}
    {report : Report} (h : Refused parse slot settings report) :
    ∃ e, report = (.error e, slot) := by
  obtain ⟨fault, -, rfl⟩ := h
  exact ⟨_, rfl⟩

/-- What a request for a channel with a number comes to, by what the process keeps of the channel. -/
inductive InstallOutcome (parse : FilterReader) (number : Nat) (settings : Settings) :
    TraceSlot → Report → Prop
  | shared {recipient : Option Recipient} :
    InstallOutcome parse number settings ⟨true, recipient⟩ (.ok false, ⟨true, recipient⟩)
  | installed {filter : LogFilter} (h : parse settings.logFilter = .ok filter) :
    InstallOutcome parse number settings .free
      (.ok true, .installed ⟨number, filter, settings.logFormat⟩)
  | occupied {recipient : Recipient} {filter : LogFilter}
    (h : parse settings.logFilter = .ok filter) :
    InstallOutcome parse number settings ⟨false, some recipient⟩
      (.error .occupied, ⟨false, some recipient⟩)
  | refused {recipient : Option Recipient} {report : Report}
    (h : Refused parse ⟨false, recipient⟩ settings report) :
    InstallOutcome parse number settings ⟨false, recipient⟩ report

/-- The filled cell is looked at before the filter, and the filter before the place for records; the
answer is yes exactly if all three were passed. -/
theorem install_outcome (parse : FilterReader) (slot : TraceSlot) (settings : Settings)
    (number : Nat) :
    InstallOutcome parse number settings slot (slot.install parse settings number) := by
  obtain ⟨filled, recipient⟩ := slot
  cases filled with
  | true => exact .shared
  | false =>
    cases hparse : parse settings.logFilter with
    | error fault =>
      rw [install, installChannel, Channel.ofSettings, hparse]
      exact .refused ⟨fault, hparse, rfl⟩
    | ok filter =>
      rw [install, installChannel, Channel.ofSettings, hparse]
      cases recipient with
      | none => exact .installed hparse
      | some recipient => exact .occupied hparse

/-! ### Requests one after another -/

/-- The reports of requests one after another.  The channels that are asked for are numbered from
the given number on. -/
def installAll (parse : FilterReader) (slot : TraceSlot) (number : Nat) :
    List Settings → List Report
  | [] => []
  | settings :: rest =>
    let report := slot.install parse settings number
    report :: installAll parse report.2 (number + 1) rest

variable {parse : FilterReader} {number : Nat} {requests : List Settings} {reports : List Report}

/-- Once the cell is filled all requests share what is there. -/
theorem installAll_filled (recipient : Option Recipient) :
    installAll parse ⟨true, recipient⟩ number requests =
      List.replicate requests.length (.ok false, ⟨true, recipient⟩) := by
  induction requests generalizing number with
  | nil => rfl
  | cons settings rest ih => exact congrArg _ ih

/-- Of the requests, those before the first with a readable filter are refused, that one is
installed, and those after it share its channel.  If none has a readable filter, all are refused. -/
inductive FirstInstalls (parse : FilterReader) (number : Nat) : List Settings → List Report → Prop
  | never {requests : List Settings} {reports : List Report}
    (h : requests.Forall₂ (Refused parse .free) reports) :
    FirstInstalls parse number requests reports
  | installs {before after : List Settings} {first : Settings} {filter : LogFilter}
    {refusals : List Report} {slot : TraceSlot}
    (hbefore : before.Forall₂ (Refused parse .free) refusals)
    (hfirst : parse first.logFilter = .ok filter)
    (hslot : slot = .installed ⟨number + before.length, filter, first.logFormat⟩) :
    FirstInstalls parse number (before ++ first :: after)
      (refusals ++ (.ok true, slot) :: List.replicate after.length (.ok false, slot))

/-- Where the place is free, the first request with a readable filter installs its channel. -/
theorem firstInstalls_installAll :
    FirstInstalls parse number requests (installAll parse .free number requests) := by
  induction requests generalizing number with
  | nil => exact .never .nil
  | cons settings rest ih =>
    rw [installAll]
    have houtcome := install_outcome parse .free settings number
    generalize free.install parse settings number = report at houtcome
    cases houtcome with
    | installed h =>
      rw [installAll_filled]
      have hnone : ([] : List Settings).Forall₂ (Refused parse .free) [] := .nil
      exact .installs hnone h rfl
    | refused h =>
      obtain ⟨e, he⟩ := h.eq_error
      have hafter : report.2 = .free := congrArg Prod.snd he
      rw [hafter]
      have hrest : FirstInstalls parse (number + 1) rest (installAll parse .free (number + 1) rest) :=
        ih
      generalize installAll parse .free (number + 1) rest = reports at hrest
      cases hrest with
      | never hall => exact .never (.cons h hall)
      | installs hbefore hfirst hslot =>
        refine .installs (.cons h hbefore) hfirst ?_
        rw [hslot, List.length_cons, Nat.add_right_comm, Nat.add_assoc]

example (s t : Settings) : (free.installAll (fun _ => .ok ⟨[]⟩) 0 [s, t]).map Prod.fst =
    [.ok true, .ok false] :=
  rfl

/-- What a request comes to where the place is taken: it is refused for its filter, or for the
place. -/
inductive TurnedAway (parse : FilterReader) (recipient : Recipient) (settings : Settings) :
    Report → Prop
  | badFilter {report : Report} (h : Refused parse ⟨false, some recipient⟩ settings report) :
    TurnedAway parse recipient settings report
  | occupied {filter : LogFilter} (h : parse settings.logFilter = .ok filter) :
    TurnedAway parse recipient settings (.error .occupied, ⟨false, some recipient⟩)

theorem TurnedAway.eq_error {recipient : Recipient} {settings : Settings} {report : Report}
    (h : TurnedAway parse recipient settings report) :
    ∃ e, report = (.error e, ⟨false, some recipient⟩) := by
  cases h with
  | badFilter h => exact h.eq_error
  | occupied _ => exact ⟨_, rfl⟩

/-- Where the place is taken and the cell is not filled, every request is turned away. -/
theorem turnedAway_installAll (recipient : Recipient) :
    requests.Forall₂ (TurnedAway parse recipient)
      (installAll parse ⟨false, some recipient⟩ number requests) := by
  induction requests generalizing number with
  | nil => exact .nil
  | cons settings rest ih =>
    have haway : TurnedAway parse recipient settings
        (install parse ⟨false, some recipient⟩ settings number) := by
      have houtcome := install_outcome parse ⟨false, some recipient⟩ settings number
      generalize install parse ⟨false, some recipient⟩ settings number = report at houtcome
      cases houtcome with
      | occupied h => exact .occupied h
      | refused h => exact .badFilter h
    obtain ⟨e, he⟩ := haway.eq_error
    rw [installAll]
    refine .cons haway ?_
    rw [he]
    exact ih

/-! ### When the channel is installed -/

/-- What is told of a request by its place among the requests, where the channel of the `n`-th is
installed. -/
inductive Stage (n : Nat) (channel : Channel) (i : Nat) : Report → Prop
  | early (h : i < n) (e : TraceError) : Stage n channel i (.error e, .free)
  | now (h : i = n) : Stage n channel i (.ok true, .installed channel)
  | late (h : n < i) : Stage n channel i (.ok false, .installed channel)

theorem eq_error_of_refused {R : Settings → Report → Prop} {slot : TraceSlot}
    (hR : ∀ settings report, R settings report → ∃ e, report = (.error e, slot))
    (h : requests.Forall₂ R reports) {report : Report} (hmem : report ∈ reports) :
    ∃ e, report = (.error e, slot) := by
  induction h with
  | nil => cases hmem
  | cons hfirst _ ih =>
    rcases List.mem_cons.mp hmem with rfl | hmem
    · exact hR _ _ hfirst
    · exact ih hmem

/-- Each request is before, at or behind the one that is installed; if none is, all are before. -/
theorem FirstInstalls.stages (h : FirstInstalls parse number requests reports) :
    ∃ n channel, channel.number = number + n ∧
      ∀ i report, reports[i]? = some report → Stage n channel i report := by
  cases h with
  | never hall =>
    -- No channel is installed, so any will do for one behind the last request.
    refine ⟨reports.length, ⟨number + reports.length, ⟨[]⟩, .json⟩, rfl, fun i report hi => ?_⟩
    obtain ⟨hlt, -⟩ := List.getElem?_eq_some_iff.mp hi
    obtain ⟨e, rfl⟩ := eq_error_of_refused (fun _ _ => Refused.eq_error) hall
      (List.mem_of_getElem? hi)
    exact .early hlt e
  | @installs before after first filter refusals slot hbefore hfirst hslot =>
    have hlength := hbefore.length_eq
    refine ⟨before.length, ⟨number + before.length, filter, first.logFormat⟩, rfl,
      fun i report hi => ?_⟩
    rcases Nat.lt_trichotomy i before.length with hlt | heq | hgt
    · rw [List.getElem?_append_left (hlength ▸ hlt)] at hi
      obtain ⟨e, rfl⟩ := eq_error_of_refused (fun _ _ => Refused.eq_error) hbefore
        (List.mem_of_getElem? hi)
      exact .early hlt e
    · rw [List.getElem?_append_right (by omega), heq, hlength, Nat.sub_self] at hi
      cases hi
      rw [hslot]
      exact .now heq
    · obtain ⟨k, rfl⟩ := Nat.exists_eq_add_of_lt hgt
      rw [List.getElem?_append_right (by omega), hlength, Nat.add_assoc, Nat.add_sub_cancel_left,
        List.getElem?_cons_succ] at hi
      rw [List.eq_of_mem_replicate (List.mem_of_getElem? hi), hslot]
      exact .late hgt

/-- At most one request of a run is answered with an installation. -/
theorem installAll_inj {slot slot' slot'' : TraceSlot} {i j : Nat}
    (hi : (installAll parse slot number requests)[i]? = some (.ok true, slot'))
    (hj : (installAll parse slot number requests)[j]? = some (.ok true, slot'')) : i = j := by
  match slot with
  | .free =>
    obtain ⟨n, channel, -, hstage⟩ := firstInstalls_installAll.stages
    have hin := hstage i _ hi
    have hjn := hstage j _ hj
    cases hin with
    | now hin =>
      cases hjn with
      | now hjn => rw [hin, hjn]
  | ⟨true, recipient⟩ =>
    rw [installAll_filled] at hi
    have hshared := List.eq_of_mem_replicate (List.mem_of_getElem? hi)
    simp at hshared
  | ⟨false, some recipient⟩ =>
    obtain ⟨e, he⟩ := eq_error_of_refused (fun _ _ => TurnedAway.eq_error)
      (turnedAway_installAll recipient) (List.mem_of_getElem? hi)
    simp at he

end TraceSlot

namespace Client

/-- A client of the settings, and what it records if the channel of its request was installed. -/
def started (settings : Settings) (installed : Bool) : Client × List LogRecord :=
  (ofSettings settings,
    if installed then [.channelInstalled settings.logFilter settings.logFormat] else [])

/-- Clients started one after another, each with the place of the channel after it. -/
def startAll (parse : FilterReader) (slot : TraceSlot) (number : Nat) :
    List Settings → List (Except TraceError (Client × List LogRecord) × TraceSlot)
  | [] => []
  | settings :: rest =>
    let report := start parse slot settings number
    report :: startAll parse report.2 (number + 1) rest

theorem start_eq (parse : FilterReader) (slot : TraceSlot) (settings : Settings) (number : Nat) :
    start parse slot settings number =
      ((slot.install parse settings number).1.map (started settings),
        (slot.install parse settings number).2) := by
  rw [start]
  rcases slot.install parse settings number with ⟨_ | installed, slot'⟩ <;> rfl

/-- A client starts exactly if its request for the channel does not fail. -/
theorem startAll_eq (parse : FilterReader) (slot : TraceSlot) (number : Nat)
    (requests : List Settings) :
    startAll parse slot number requests =
      List.zipWith (fun settings report => (report.1.map (started settings), report.2)) requests
        (slot.installAll parse number requests) := by
  induction requests generalizing slot number with
  | nil => rfl
  | cons settings rest ih =>
    rw [startAll, TraceSlot.installAll, List.zipWith_cons_cons, start_eq, ih]

end Client

namespace TraceSlot

/-- How requests for the channel go in a process without one, where the `n`-th asks for the channel
with the number `n`. -/
structure InstalledOnce (parse : FilterReader) (requests : List Settings) : Prop where
  /-- Where the place is free, the first request with a readable filter installs its channel; those
  before it install nothing, and those after it share that channel. -/
  firstInstalls : FirstInstalls parse 0 requests (free.installAll parse 0 requests)
  /-- From then on all records go to that channel. -/
  written {n : Nat} {slot : TraceSlot}
    (h : (free.installAll parse 0 requests)[n]? = some (.ok true, slot)) :
    ∃ channel, slot = .installed channel ∧ ∀ i report, n ≤ i →
      (free.installAll parse 0 requests)[i]? = some report →
        ∀ r, report.2.write? r = (channel.write? r).map (n, ·)
  /-- What the filter of that channel admits is written, in the format of the channel. -/
  admitted {n i : Nat} {channel : Channel} {report : Report} {r : LogRecord}
    (h : (free.installAll parse 0 requests)[n]? = some (.ok true, .installed channel)) (hle : n ≤ i)
    (hi : (free.installAll parse 0 requests)[i]? = some report)
    (hadmits : channel.filter.admits logTarget r.level = true) :
    report.2.write? r = some (n, r.written channel.format)
  /-- No other channel gets a record, and this one none before it is installed. -/
  receiver {i n : Nat} {report : Report} {r : LogRecord} {line : Json}
    (h : (free.installAll parse 0 requests)[i]? = some report)
    (hwrite : report.2.write? r = some (n, line)) :
    n ≤ i ∧ ∃ slot, (free.installAll parse 0 requests)[n]? = some (.ok true, slot)
  /-- Where someone else has the place, every request fails, for its filter or for the place. -/
  turnedAway : requests.Forall₂ (TurnedAway parse .foreign) (foreign.installAll parse 0 requests)
  /-- Whoever has the place, at most one request is answered with an installation. -/
  unique {slot slot' slot'' : TraceSlot} {i j : Nat}
    (hi : (slot.installAll parse 0 requests)[i]? = some (.ok true, slot'))
    (hj : (slot.installAll parse 0 requests)[j]? = some (.ok true, slot'')) : i = j
  /-- Clients that are started make these requests, and start unless their request fails. -/
  started (slot : TraceSlot) :
    Client.startAll parse slot 0 requests =
      List.zipWith (fun settings report => (report.1.map (Client.started settings), report.2))
        requests (slot.installAll parse 0 requests)

/-- **The trace channel is installed once**, by the first request that can be met, and requests that
fail leave its place free. -/
theorem installed_once (parse : FilterReader) (requests : List Settings) :
    InstalledOnce parse requests := by
  have hfirst : FirstInstalls parse 0 requests (free.installAll parse 0 requests) :=
    firstInstalls_installAll
  obtain ⟨n, channel, hnumber, hstage⟩ := hfirst.stages
  rw [Nat.zero_add] at hnumber
  have hwritten {m : Nat} {slot : TraceSlot}
      (hm : (free.installAll parse 0 requests)[m]? = some (.ok true, slot)) :
      slot = .installed channel ∧ ∀ i report, m ≤ i →
        (free.installAll parse 0 requests)[i]? = some report →
          ∀ r, report.2.write? r = (channel.write? r).map (m, ·) := by
    cases hstage m _ hm with
    | now heq =>
      refine ⟨rfl, fun i report hle hi r => ?_⟩
      cases hstage i report hi with
      | early h => omega
      | now => rw [write?_installed, hnumber, heq]
      | late => rw [write?_installed, hnumber, heq]
  constructor
  case firstInstalls => exact hfirst
  case turnedAway => exact turnedAway_installAll .foreign
  case unique => exact installAll_inj
  case started => exact fun slot => Client.startAll_eq parse slot 0 requests
  case written => exact fun hm => ⟨channel, hwritten hm⟩
  case admitted =>
    intro m i channel' report r hm hle hi hadmits
    obtain ⟨hslot, hwrite⟩ := hwritten hm
    obtain rfl : channel' = channel := by simpa using hslot
    rw [hwrite i report hle hi r, Channel.write?, if_pos hadmits]
    rfl
  case receiver =>
    intro i m report r line hi hwrite
    obtain ⟨hle, hslot⟩ : n ≤ i ∧ report.2 = .installed channel := by
      cases hstage i report hi with
      | early => cases hwrite
      | now h => exact ⟨Nat.le_of_eq h.symm, rfl⟩
      | late h => exact ⟨Nat.le_of_lt h, rfl⟩
    obtain rfl : n = m := by
      rw [hslot, write?_installed, hnumber] at hwrite
      obtain ⟨_, -, hline⟩ := Option.map_eq_some_iff.mp hwrite
      exact congrArg Prod.fst hline
    -- The request that is answered with the installation comes no later, so there is one.
    obtain ⟨hlt, -⟩ := List.getElem?_eq_some_iff.mp hi
    have hn := List.getElem?_eq_getElem (Nat.lt_of_le_of_lt hle hlt)
    have hreport := hstage n _ hn
    refine ⟨hle, .installed channel, ?_⟩
    generalize (free.installAll parse 0 requests)[n] = first at hn hreport
    cases hreport with
    | early h => omega
    | now => exact hn
    | late h => omega

end TraceSlot

end EditorBridge
