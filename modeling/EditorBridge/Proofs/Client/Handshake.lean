import EditorBridge.Proofs.Client.Events
import EditorBridge.Session.Script

/-!
# What a client remembers

A client remembers the capabilities of the server, from the last handshake that succeeded.  A task
that fails does not change them, and no other task does; and whatever a client is asked, what comes
of it does not depend on them.

`Report.handshake?` are the capabilities that a report brings.  A task can put anything in the place
of the memory, at any point; that it puts there what its report brings is read off the ways in which
it can go (`PerformOutcome.kept_eq`).  Main statement: `capabilities_history`, about a client at any
point of a history.
-/

namespace EditorBridge

variable {σ α : Type}

/-- The capabilities in the report of a handshake that succeeded. -/
def Report.handshake? (r : Report σ) : Option ServerCapabilities :=
  match r.turn.task, r.outcome with
  | .initialise _, .ok (.initialised result) => some result.capabilities
  | _, _ => none

namespace Client

open Event

/-! ### Handshakes -/

variable {env : Environment σ} {client : Client} {s t : σ} {es : List Event}
  {kept : Option ServerCapabilities}

theorem SendOutcome.exchanges_eq {operation : Operation} {method : Method} {params : Json}
    {answer : Option Json} (h : SendOutcome env operation method params s (.ok answer) es t) :
    ∃ sent, exchanges es = [(method, params, .ok sent)] ∧ answer = sent.bind Json.unlessNull := by
  cases h with
  | @answered sent _ _ _ => exact ⟨sent, rfl, rfl⟩

/-- A handshake succeeds exactly with the result that can be read from the answer to its request. -/
theorem InitialiseOutcome.eq_ok_iff {params : InitializeParams}
    {out : Except ClientError InitializeResult} {result : InitializeResult}
    (h : InitialiseOutcome env client params s out es t kept) :
    out = .ok result ↔ ∃ sent value, exchanges es = [(.handshake, sent, .ok (some value))] ∧
      InitializeResult.decode env.readCapability .inPlace value = .ok result := by
  cases h with
  | unsent h =>
    refine ⟨nofun, ?_⟩
    rintro ⟨sent, value, hexchanges, -⟩
    cases h with
    | cancelled => exact absurd hexchanges nofun
    | failed => exact absurd hexchanges nofun
  | missing h =>
    refine ⟨nofun, ?_⟩
    rintro ⟨sent, value, hexchanges, hdecode⟩
    obtain ⟨answer, hes, hnone⟩ := h.exchanges_eq
    have hsame := hes.symm.trans ((exchanges_append_of_nil rfl).symm.trans hexchanges)
    cases hsame
    -- The one answer that is passed on as none is `null`, which is no result.
    cases value with
    | null => cases hdecode
    | _ => cases hnone
  | malformed h herror =>
    refine ⟨nofun, ?_⟩
    rintro ⟨sent, value, hexchanges, hdecode⟩
    obtain ⟨-, rfl⟩ := h.of_some
    cases hexchanges
    rw [herror] at hdecode
    cases hdecode
  | initialised h hok =>
    obtain ⟨-, rfl⟩ := h.of_some
    constructor
    · rintro ⟨⟩
      exact ⟨_, _, rfl, hok⟩
    · rintro ⟨sent, value, hexchanges, hdecode⟩
      cases hexchanges
      exact congrArg Except.ok (Except.ok.inj (hok.symm.trans hdecode))

/-! ### One turn -/

/-- A task remembers what its report brings. -/
theorem PerformOutcome.kept_eq {task : Task} {out : Except ClientError TaskResult}
    (h : PerformOutcome env client s task out es t kept) :
    kept = Report.handshake? ⟨⟨task, env⟩, s, out, es⟩ := by
  cases h with
  | initialise h =>
    cases h with
    | unsent => rfl
    | missing => rfl
    | malformed => rfl
    | initialised => rfl
  | @hover _ out => cases out <;> rfl
  | @codeActions _ out => cases out <;> rfl
  | @execute _ out => cases out <;> rfl
  | @resolve _ out => cases out <;> rfl
  | @applyGroup _ out => cases out <;> rfl

/-- Only a handshake that succeeds changes the client, and only its memory. -/
theorem takeTurn_client (client : Client) (s : σ) (turn : Turn σ) :
    (client.takeTurn s turn).2.1 =
      { client with
        capabilities := (client.takeTurn s turn).1.handshake?.or client.capabilities } := by
  obtain ⟨out, es, t, kept, h, htake⟩ := takeTurn_outcome client s turn
  rw [htake client.capabilities, h.kept_eq]

/-- What comes of a turn does not depend on what the client remembers. -/
theorem takeTurn_forgets (client : Client) (capabilities : Option ServerCapabilities) (s : σ)
    (turn : Turn σ) :
    ({ client with capabilities := capabilities }.takeTurn s turn).1 =
        (client.takeTurn s turn).1 ∧
      ({ client with capabilities := capabilities }.takeTurn s turn).2.2 =
        (client.takeTurn s turn).2.2 := by
  obtain ⟨out, es, t, kept, -, htake⟩ := takeTurn_outcome client s turn
  rw [htake, htake client.capabilities]
  exact ⟨rfl, rfl⟩

/-! ### Histories -/

theorem history_cons (client : Client) (s : σ) (turn : Turn σ) (rest : List (Turn σ)) :
    client.history s (turn :: rest) =
      (client.takeTurn s turn).1 ::
        (client.takeTurn s turn).2.1.history (client.takeTurn s turn).2.2 rest := rfl

theorem after_cons (client : Client) (s : σ) (turn : Turn σ) (rest : List (Turn σ)) :
    client.after s (turn :: rest) =
      (client.takeTurn s turn).2.1.after (client.takeTurn s turn).2.2 rest := rfl

/-- After a point of a history the client goes on as it is then. -/
theorem after_append (client : Client) (s : σ) (turns rest : List (Turn σ)) :
    client.after s (turns ++ rest) =
      (client.after s turns).1.after (client.after s turns).2 rest := by
  induction turns generalizing client s with
  | nil => rfl
  | cons turn turns ih => rw [List.cons_append, after_cons, after_cons, ih]

/-- A client at a point of a history remembers what the last handshake before it brought, and is
otherwise the client at the start. -/
theorem after_client (client : Client) (s : σ) (turns : List (Turn σ)) :
    (client.after s turns).1 =
      { client with
        capabilities :=
          ((client.history s turns).filterMap Report.handshake?).getLast?.or
            client.capabilities } := by
  induction turns generalizing client s with
  | nil => rfl
  | cons turn rest ih =>
    rw [after_cons, history_cons, ih, takeTurn_client, List.filterMap_cons]
    cases (client.takeTurn s turn).1.handshake? with
    | none => rfl
    | some capabilities =>
      rw [List.getLast?_cons]
      cases (List.filterMap Report.handshake? _).getLast? <;> rfl

/-- What comes of any turns does not depend on what the client remembers. -/
theorem history_forgets (client : Client) (capabilities : Option ServerCapabilities) (s : σ)
    (turns : List (Turn σ)) :
    { client with capabilities := capabilities }.history s turns = client.history s turns := by
  induction turns generalizing client capabilities s with
  | nil => rfl
  | cons turn rest ih =>
    obtain ⟨hreport, hstate⟩ := takeTurn_forgets client capabilities s turn
    rw [history_cons, history_cons, hreport, hstate, takeTurn_client, takeTurn_client client]
    -- After the turn both are the one client, each with some memory.
    exact congrArg _ ((ih client _ _).trans (ih client _ _).symm)

theorem handshake?_eq_none {client : Client} {s : σ} {turn : Turn σ}
    (h : (∀ params, turn.task ≠ .initialise params) ∨
      ∃ e, (client.takeTurn s turn).1.outcome = .error e) :
    (client.takeTurn s turn).1.handshake? = none := by
  obtain ⟨task, env⟩ := turn
  obtain ⟨out, es, t, kept, -, htake⟩ := takeTurn_outcome client s ⟨task, env⟩
  rw [htake client.capabilities] at h ⊢
  rcases h with hother | ⟨e, he⟩
  · cases task with
    | initialise params => exact absurd rfl (hother params)
    | _ => rfl
  · rw [Report.handshake?]
    simp only at he
    simp only [he]

/-- **Memory**: at any point of a history a client that was made from settings remembers the
capabilities of the last handshake that succeeded, and none if none has.  A handshake succeeds with
the result that can be read from the answer, and fails if there is none.  A handshake that fails and
any other task leave the memory as it is.  Whatever is asked from then on, in any state of the
environment, is reported as it would be by a client before its first handshake. -/
theorem capabilities_history (settings : Settings) (s : σ) (turns : List (Turn σ)) :
    ((ofSettings settings).after s turns).1.capabilities =
      (((ofSettings settings).history s turns).filterMap Report.handshake?).getLast? ∧
    (∀ r ∈ (ofSettings settings).history s turns, ∀ params result,
      r.turn.task = .initialise params →
      (r.outcome = .ok (.initialised result) ↔ ∃ sent value,
        exchanges r.events = [(.handshake, sent, .ok (some value))] ∧
        InitializeResult.decode r.turn.env.readCapability .inPlace value = .ok result)) ∧
    (∀ (client : Client) (t : σ) (turn : Turn σ), (ofSettings settings).after s turns = (client, t) →
      ((∀ params, turn.task ≠ .initialise params) ∨
        ∃ e, (client.takeTurn t turn).1.outcome = .error e) →
      ((ofSettings settings).after s (turns ++ [turn])).1.capabilities = client.capabilities) ∧
    ∀ (t : σ) (rest : List (Turn σ)),
      ((ofSettings settings).after s turns).1.history t rest =
        (ofSettings settings).history t rest := by
  have hafter := after_client (ofSettings settings) s turns
  refine ⟨?_, ?_, ?_, ?_⟩
  · rw [hafter]
    exact Option.or_none
  · apply forall_history
    rintro client s t task env out es kept h params result ⟨⟩
    cases h with
    | @initialise _ out _ _ _ h =>
      rw [← h.eq_ok_iff]
      cases out with
      | ok x => simp [Except.map]
      | error e => simp [Except.map]
  · intro client t turn hnow hidle
    rw [after_append, hnow, after_cons, takeTurn_client, handshake?_eq_none hidle]
    rfl
  · intro t rest
    rw [hafter, history_forgets]

/-- A handshake that says nothing of the client. -/
def plainParams : InitializeParams :=
  ⟨none, none, none, .null, ⟨none, none, none, none, none, .null⟩, none, none, none, none, none⟩

/-- Reads completion options that hold nothing but whether the server reports progress. -/
def completionReader : CapabilityReader
  | "completionProvider" => fun source j =>
    (ProgressOptions.decode "CompletionOptions" source j).map ProgressOptions.toJson
  | _ => .any

/-- A server that says how it counts characters and that it completes, with the given options. -/
def completingServer (options : Json) : Environment Unit where
  isCancelled _ := false
  send _ _ s := (.ok (some (.obj [("capabilities", .obj [("completionProvider", options),
    ("positionEncoding", .str "utf-16")])])), s)
  pick _ s := (none, s)
  applyEdit _ s := (.ok (), s)
  showError _ s := s
  readCapability := completionReader

/-- What a handshake with a server that completes leads to, and that a later one does not undo it
whose options cannot be read. -/
theorem capabilities_history_sample : ∃ capabilities,
    capabilities.toJson = .obj [("completionProvider", .obj []),
      ("positionEncoding", .str "utf-16")] ∧
    ((ofSettings .default).after () ([⟨.initialise plainParams, completingServer (.obj [])⟩] ++
      [⟨.initialise plainParams, completingServer (.int 5)⟩])).1.capabilities =
        some capabilities := by
  obtain ⟨-, -, hkept, -⟩ := capabilities_history .default ()
    [⟨.initialise plainParams, completingServer (.obj [])⟩]
  exact ⟨_, rfl, hkept _ _ _ rfl (.inr ⟨_, rfl⟩)⟩

end Client

end EditorBridge
