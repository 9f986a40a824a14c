import EditorBridge.Client.Basic

/-!
# What a call comes to

`Call.Ends call client s post` says that `call`, begun by `client` in the state `s`, ends with an
outcome, new events, a state and what it remembers, of which `post` holds, whatever has happened
before and whatever the client remembers from before.  So a call only ever adds events, it changes
nothing of the client but its memory, and neither what it comes to nor what it remembers depends on
the earlier events and the earlier memory.  `keeping` is for the calls that remember nothing.

There is one rule for each way to put calls together (`ends_pure`, `ends_throw`, `Ends.bind`,
`Ends.tryCatch`) and one for each thing that a call can do (`Ends.record`, `Ends.consult`,
`Ends.get`, `Ends.remember`).
-/

namespace EditorBridge.Call

variable {σ α β : Type}

/-! ### Running a call -/

@[simp] theorem runIn_pure (x : α) (w : World σ) : runIn (pure x) w = (.ok x, w) := rfl

@[simp] theorem runIn_throw (e : ClientError) (w : World σ) :
    runIn (throw e : Call σ α) w = (.error e, w) := rfl

@[simp] theorem runIn_get (w : World σ) : runIn (get : Call σ (World σ)) w = (.ok w, w) := rfl

@[simp] theorem runIn_record (r : LogRecord) (w : World σ) :
    (record r).runIn w = (.ok (), ⟨w.state, w.client, w.events ++ [.recorded r]⟩) := rfl

@[simp] theorem runIn_consult (question : σ → α × σ) (event : α → Event) (w : World σ) :
    (consult question event).runIn w =
      (.ok (question w.state).1,
        ⟨(question w.state).2, w.client, w.events ++ [event (question w.state).1]⟩) := rfl

@[simp] theorem runIn_remember (capabilities : ServerCapabilities) (w : World σ) :
    (remember capabilities).runIn w =
      (.ok (), ⟨w.state, { w.client with capabilities := some capabilities }, w.events⟩) := rfl

theorem runIn_bind (call : Call σ α) (next : α → Call σ β) (w : World σ) :
    runIn (call >>= next) w =
      match call.runIn w with
      | (.ok x, v) => (next x).runIn v
      | (.error e, v) => (.error e, v) := by
  simp only [runIn, ExceptT.run_bind, StateT.run_bind]
  rcases StateT.run (ExceptT.run call) w with ⟨out, v⟩
  cases out with
  | ok x => rfl
  | error e => rfl

theorem runIn_tryCatch (call : Call σ α) (handle : ClientError → Call σ α) (w : World σ) :
    runIn (tryCatch call handle) w =
      match call.runIn w with
      | (.ok x, v) => (.ok x, v)
      | (.error e, v) => (handle e).runIn v := by
  simp only [runIn, ExceptT.run_tryCatch, StateT.run_bind]
  rcases StateT.run (ExceptT.run call) w with ⟨out, v⟩
  cases out with
  | ok x => rfl
  | error e => rfl

/-! ### How a call ends -/

/-- What is said of the outcome of a call, of its events, of the state after it, and of what it
remembers, if it remembers something. -/
abbrev Post (σ α : Type) :=
  Except ClientError α → List Event → σ → Option ServerCapabilities → Prop

/-- What is said of a call that remembers nothing. -/
abbrev keeping (post : Except ClientError α → List Event → σ → Prop) : Post σ α :=
  fun out new t kept => kept = none ∧ post out new t

/-- The call, begun by the client in the state `s`, ends so that `post` holds.  What it comes to is
the same for every memory of the client and for all events before. -/
def Ends (call : Call σ α) (client : Client) (s : σ) (post : Post σ α) : Prop :=
  ∃ out new t kept, post out new t kept ∧ ∀ memory before,
    call.runIn ⟨s, { client with capabilities := memory }, before⟩ =
      (out, ⟨t, { client with capabilities := kept.or memory }, before ++ new⟩)

variable {call : Call σ α} {next : α → Call σ β} {client : Client} {s : σ} {post : Post σ α}
  {post' : Post σ β} {first : Except ClientError α → List Event → σ → Prop}

theorem ends_pure {x : α} (h : post (.ok x) [] s none) : Ends (pure x : Call σ α) client s post :=
  ⟨.ok x, [], s, none, h, fun memory before => by simp⟩

theorem ends_throw {e : ClientError} (h : post (.error e) [] s none) :
    Ends (throw e : Call σ α) client s post :=
  ⟨.error e, [], s, none, h, fun memory before => by simp⟩

theorem ends_pure_bind {x : α} {next : α → Call σ β} (h : (next x).Ends client s post') :
    Ends (pure x >>= next) client s post' := by
  obtain ⟨out, new, t, kept, hpost, hrun⟩ := h
  refine ⟨out, new, t, kept, hpost, fun memory before => ?_⟩
  rw [runIn_bind, runIn_pure]
  exact hrun memory before

theorem ends_throw_bind {e : ClientError} {next : α → Call σ β}
    (h : post' (.error e) [] s none) : Ends (throw e >>= next) client s post' := by
  refine ⟨.error e, [], s, none, h, fun memory before => ?_⟩
  rw [runIn_bind, runIn_throw, List.append_nil, Option.none_or]

theorem Ends.mono {weaker : Post σ α} (h : call.Ends client s post)
    (hpost : ∀ {out new t kept}, post out new t kept → weaker out new t kept) :
    call.Ends client s weaker := by
  obtain ⟨out, new, t, kept, hout, hrun⟩ := h
  exact ⟨out, new, t, kept, hpost hout, hrun⟩

/-- A call that fails ends the whole; otherwise the rest adds its events to those of the call. -/
theorem Ends.bind (h : call.Ends client s (keeping first))
    (hok : ∀ {x new t}, first (.ok x) new t →
      (next x).Ends client t fun out more u kept => post' out (new ++ more) u kept)
    (herror : ∀ {e new t}, first (.error e) new t → post' (.error e) new t none) :
    Ends (call >>= next) client s post' := by
  obtain ⟨out, new, t, _, ⟨rfl, hfirst⟩, hrun⟩ := h
  -- The rest is run only after a result, with the events of the call before it.
  cases out with
  | error e =>
    refine ⟨.error e, new, t, none, herror hfirst, fun memory before => ?_⟩
    rw [runIn_bind, hrun]
  | ok x =>
    obtain ⟨out, more, u, kept, hpost, hnext⟩ := hok hfirst
    refine ⟨out, new ++ more, u, kept, hpost, fun memory before => ?_⟩
    rw [runIn_bind, hrun]
    simp only [Option.none_or, hnext, List.append_assoc]

theorem Ends.bind_pure {f : α → β} (h : call.Ends client s post)
    (hpost : ∀ {out new t kept}, post out new t kept → post' (out.map f) new t kept) :
    Ends (call >>= fun x => pure (f x)) client s post' := by
  obtain ⟨out, new, t, kept, hout, hrun⟩ := h
  refine ⟨out.map f, new, t, kept, hpost hout, fun memory before => ?_⟩
  rw [runIn_bind, hrun]
  cases out with
  | ok x => rfl
  | error e => rfl

theorem Ends.tryCatch {handle : ClientError → Call σ α} (h : call.Ends client s (keeping first))
    (hok : ∀ {x new t}, first (.ok x) new t → post (.ok x) new t none)
    (herror : ∀ {e new t}, first (.error e) new t →
      (handle e).Ends client t fun out more u kept => post out (new ++ more) u kept) :
    Ends (tryCatch call handle) client s post := by
  obtain ⟨out, new, t, _, ⟨rfl, hfirst⟩, hrun⟩ := h
  cases out with
  | ok x =>
    refine ⟨.ok x, new, t, none, hok hfirst, fun memory before => ?_⟩
    rw [runIn_tryCatch, hrun]
  | error e =>
    obtain ⟨out, more, u, kept, hpost, hhandle⟩ := herror hfirst
    refine ⟨out, new ++ more, u, kept, hpost, fun memory before => ?_⟩
    rw [runIn_tryCatch, hrun]
    simp only [Option.none_or, hhandle, List.append_assoc]

/-- What is looked at must be neither the memory nor the events. -/
theorem Ends.get {next : World σ → Call σ β}
    (hsame : ∀ memory before,
      next ⟨s, { client with capabilities := memory }, before⟩ = next ⟨s, client, []⟩)
    (h : (next ⟨s, client, []⟩).Ends client s post') :
    Ends (MonadState.get >>= next) client s post' := by
  obtain ⟨out, new, t, kept, hpost, hrun⟩ := h
  refine ⟨out, new, t, kept, hpost, fun memory before => ?_⟩
  rw [runIn_bind, runIn_get]
  simp only [hsame, hrun]

theorem Ends.record {r : LogRecord} {next : Unit → Call σ β}
    (h : (next ()).Ends client s fun out new t kept => post' out (.recorded r :: new) t kept) :
    Ends (Call.record r >>= next) client s post' := by
  obtain ⟨out, new, t, kept, hpost, hrun⟩ := h
  refine ⟨out, .recorded r :: new, t, kept, hpost, fun memory before => ?_⟩
  rw [runIn_bind, runIn_record]
  simp only [hrun, List.append_assoc, List.singleton_append]

theorem Ends.consult {question : σ → α × σ} {event : α → Event}
    (h : (next (question s).1).Ends client (question s).2
      fun out new t kept => post' out (event (question s).1 :: new) t kept) :
    Ends (Call.consult question event >>= next) client s post' := by
  obtain ⟨out, new, t, kept, hpost, hrun⟩ := h
  refine ⟨out, event (question s).1 :: new, t, kept, hpost, fun memory before => ?_⟩
  rw [runIn_bind, runIn_consult]
  simp only [hrun, List.append_assoc, List.singleton_append]

/-- What the rest remembers comes in the place of what is remembered now. -/
theorem Ends.remember {capabilities : ServerCapabilities} {next : Unit → Call σ β}
    (h : (next ()).Ends client s
      fun out new t kept => post' out new t (kept.or (some capabilities))) :
    Ends (Call.remember capabilities >>= next) client s post' := by
  obtain ⟨out, new, t, kept, hpost, hrun⟩ := h
  refine ⟨out, new, t, kept.or (some capabilities), hpost, fun memory before => ?_⟩
  rw [runIn_bind, runIn_remember]
  simp only [hrun, Option.or_assoc, Option.some_or]

end EditorBridge.Call
