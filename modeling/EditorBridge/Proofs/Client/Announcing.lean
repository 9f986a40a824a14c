import EditorBridge.Proofs.Client.Dispatch
import EditorBridge.Proofs.Client.Handshake
import EditorBridge.Proofs.Settings.Announcement

/-!
# What a handshake sends

A handshake sends the host's parameters with the features announced among the experimental
capabilities, and with nothing else changed (`Announces`): at every place apart from them the
request holds what the host had put there.  Main statement: `announces_history`, about every
handshake of a history, and about announcements that follow one another.
-/

namespace EditorBridge

open Event Json

/-- The keys that lead to the experimental capabilities in the parameters of a handshake. -/
def experimentalKeys : List String :=
  ["capabilities", "experimental"]

/-- The parameters `sent` are those of the host with the features announced, each on or off.  The
experimental capabilities are then the object of `members`. -/
structure Announces (on : Feature → Bool) (host sent : Json) (members : List (String × Json)) :
    Prop where
  /-- The object is set, and that is all. -/
  sent_eq : sent = host.setAt experimentalKeys (.obj members)
  experimental : sent.at? (placeOf experimentalKeys) = some (.obj members)
  /-- Every place that is neither within the experimental capabilities nor on the way to them is as
  it was. -/
  elsewhere (place : List Step) (h : Apart (placeOf experimentalKeys) place) :
    sent.at? place = host.at? place
  flags (f : Feature) : members.lookup f.key = some (.bool (on f))
  /-- Under any other name there is what the host had put there if it had put an object, and
  otherwise nothing. -/
  others (name : String) (h : ∀ f : Feature, name ≠ f.key) :
    members.lookup name = (host.at? (placeOf experimentalKeys)).bind (get? name)
  ordered (h : ∀ j ∈ host.at? (placeOf experimentalKeys), KeysIncrease j) :
    KeysIncrease (.obj members)

/-! ### Parameters -/

/-- Setting the experimental capabilities sets one member of the capabilities. -/
theorem ClientCapabilities.toJson_withExperimental (capabilities : ClientCapabilities)
    (members : List (String × Json)) :
    { capabilities with experimental := .obj members }.toJson =
      capabilities.toJson.setAt ["experimental"] (.obj members) :=
  record_set [_, _, _, _, _] [] (by simp) capabilities.experimental.unlessNull _

theorem ClientCapabilities.at?_experimental (capabilities : ClientCapabilities) :
    capabilities.toJson.at? [.member "experimental"] = capabilities.experimental.unlessNull := by
  have hexperimental := Option.bind_fun_some capabilities.experimental.unlessNull
  refine (at?_record (by simp) ?_ []).trans hexperimental
  simp

namespace InitializeParams

/-- What is written for the fields of the first request. -/
def written (p : InitializeParams) : List (String × Option Json) :=
  [("processId", some ((p.processId.map .ofUInt32).getD .null)),
    ("rootPath", p.rootPath.map .str),
    ("rootUri", some ((p.rootUri.map Uri.toJson).getD .null)),
    ("initializationOptions", p.initializationOptions.unlessNull),
    ("capabilities", some p.capabilities.toJson),
    ("trace", p.trace.map TraceValue.toJson),
    ("workspaceFolders", p.workspaceFolders.map (.ofList WorkspaceFolder.toJson)),
    ("clientInfo", p.clientInfo.map ProgramInfo.toJson),
    ("locale", p.locale.map .str),
    ("workDoneToken", p.workDoneToken.map NumberOrString.toJson)]

theorem nodup_written (p : InitializeParams) : (p.written.map Prod.fst).Nodup := by
  simp [written]

/-- What is set within the capabilities is set within the parameters. -/
theorem toJson_withCapabilities (p : InitializeParams) {capabilities : ClientCapabilities}
    {keys : List String} {value : Json}
    (h : capabilities.toJson = p.capabilities.toJson.setAt keys value) :
    { p with capabilities := capabilities }.toJson =
      p.toJson.setAt ("capabilities" :: keys) value := by
  rw [toJson, h]
  exact record_setAt (p.written.take 4) (p.written.drop 5) p.nodup_written keys value

theorem at?_experimental (p : InitializeParams) :
    p.toJson.at? (placeOf experimentalKeys) = p.capabilities.experimental.unlessNull := by
  have hmem : ("capabilities", some p.capabilities.toJson) ∈ p.written := by simp [written]
  exact (at?_record p.nodup_written hmem _).trans p.capabilities.at?_experimental

end InitializeParams

namespace Client

variable {σ : Type}

/-- The parameters that a client sends differ from the host's in what it announces. -/
theorem announces_announced (client : Client) (params : InitializeParams) :
    ∃ members, Announces client.features.isEnabled params.toJson (client.announced params).toJson
      members := by
  obtain ⟨members, hmerged⟩ : ∃ members,
      client.features.mergeInto params.capabilities.experimental = .obj members :=
    ⟨_, client.features.mergeInto_eq _⟩
  have hlookup (name : String) : members.lookup name =
      (client.features.flags.lookup name).or (params.capabilities.experimental.get? name) := by
    rw [← FeatureSwitches.get?_mergeInto, hmerged, get?]
  have hcapabilities : (client.features.announce params.capabilities).toJson =
      params.capabilities.toJson.setAt ["experimental"] (.obj members) := by
    rw [FeatureSwitches.announce, hmerged]
    exact params.capabilities.toJson_withExperimental members
  have hsent : (client.announced params).toJson =
      params.toJson.setAt experimentalKeys (.obj members) :=
    params.toJson_withCapabilities hcapabilities
  refine ⟨members, ?_⟩
  constructor
  case sent_eq => exact hsent
  case experimental =>
    rw [InitializeParams.at?_experimental]
    show (client.features.mergeInto params.capabilities.experimental).unlessNull = _
    rw [hmerged]
    rfl
  case elsewhere =>
    intro place hplace
    rw [hsent, at?_setAt_of_apart hplace]
  case flags =>
    intro f
    rw [hlookup, FeatureSwitches.lookup_flags]
    rfl
  case others =>
    intro name hname
    rw [hlookup, FeatureSwitches.lookup_flags_of_ne _ hname, InitializeParams.at?_experimental]
    cases params.capabilities.experimental <;> rfl
  case ordered =>
    intro hhost
    rw [InitializeParams.at?_experimental] at hhost
    rw [← hmerged]
    refine client.features.keysIncrease_mergeInto ?_
    cases hexperimental : params.capabilities.experimental with
    | null => trivial
    | _ => exact hhost _ (by rw [hexperimental]; rfl)

/-! ### Histories -/

/-- A report of a history is the report of a turn of the client as it was at the start. -/
theorem exists_turn_of_mem_history {client : Client} {s : σ} {turns : List (Turn σ)} {r : Report σ}
    (h : r ∈ client.history s turns) :
    ∃ turn t, r = (client.takeTurn t turn).1 := by
  induction turns generalizing client s with
  | nil => cases h
  | cons turn rest ih =>
    rw [history_cons, takeTurn_client, history_forgets] at h
    rcases List.mem_cons.mp h with rfl | hrest
    · exact ⟨turn, s, rfl⟩
    · exact ih hrest

/-- **A handshake changes only the announced flags.**  Unless the caller has given it up, a handshake
sends one request: the host's parameters, in which the experimental capabilities are an object of
each feature's switch under its key and of whatever else the host's object held, and in which every
other place is as it was.  Of announcements that follow one another only the last counts. -/
theorem announces_history (settings : Settings) (s : σ) (turns : List (Turn σ)) :
    (∀ r ∈ (ofSettings settings).history s turns, ∀ params, r.turn.task = .initialise params →
      ∃ sent members, Announces settings.isEnabled params.toJson sent members ∧
        requests r.events =
          if r.turn.env.isCancelled r.start then [] else [(.handshake, sent)]) ∧
    ∀ (first second : FeatureSwitches) (capabilities : ClientCapabilities),
      second.announce (first.announce capabilities) = second.announce capabilities := by
  refine ⟨?_, FeatureSwitches.announce_announce⟩
  intro r hr params htask
  obtain ⟨⟨task, env⟩, t, rfl⟩ := exists_turn_of_mem_history hr
  obtain ⟨out, es, t', kept, hout, htake⟩ := takeTurn_outcome (ofSettings settings) t ⟨task, env⟩
  rw [htake (ofSettings settings).capabilities] at htask ⊢
  obtain rfl : task = .initialise params := htask
  obtain ⟨members, hannounces⟩ := (ofSettings settings).announces_announced params
  exact ⟨_, members, hannounces, hout.course.requests_eq⟩

/-- A host with capabilities that are handed on.  Its experimental ones hold a member named like a
feature, and another. -/
def experimentalHost : InitializeParams :=
  { plainParams with
    capabilities :=
      ⟨some (.obj [("applyEdit", .bool true)]), none, none, none,
        some ⟨none, some (.obj [("parser", .str "marked")]), none, none⟩,
        .obj [("hoverActions", .str "old"), ("snippets", .arr [.null])]⟩ }

theorem announces_history_sample :
    ∃ r ∈ (ofSettings .default).history () [⟨.initialise experimentalHost,
        completingServer (.obj [])⟩],
      r.turn.task = .initialise experimentalHost ∧
      ∃ sent members, requests r.events = [(.handshake, sent)] ∧
        sent = experimentalHost.toJson.setAt experimentalKeys (.obj members) ∧
        members.lookup "hoverActions" = some (.bool true) ∧
        members.lookup "snippets" = some (.arr [.null]) ∧
        sent.at? (placeOf ["capabilities", "workspace", "applyEdit"]) = some (.bool true) ∧
        sent.at? (placeOf ["capabilities", "general", "markdown", "parser"]) =
          some (.str "marked") := by
  refine ⟨_, List.mem_cons_self, rfl, ?_⟩
  obtain ⟨heach, -⟩ := announces_history .default ()
    [⟨.initialise experimentalHost, completingServer (.obj [])⟩]
  obtain ⟨sent, members, hannounces, hrequests⟩ := heach _ List.mem_cons_self _ rfl
  have hsnippets : members.lookup "snippets" = some (.arr [.null]) := by
    have hother : ∀ f : Feature, "snippets" ≠ f.key := by
      intro f
      cases f <;> decide
    rw [hannounces.others "snippets" hother, InitializeParams.at?_experimental]
    rfl
  have hworkspace : Apart (placeOf experimentalKeys)
      (placeOf ["capabilities", "workspace", "applyEdit"]) := by
    simp [Apart, placeOf, experimentalKeys]
  have hmarkdown : Apart (placeOf experimentalKeys)
      (placeOf ["capabilities", "general", "markdown", "parser"]) := by
    simp [Apart, placeOf, experimentalKeys]
  refine ⟨sent, members, hrequests, hannounces.sent_eq, hannounces.flags .hoverActions, hsnippets,
    ?_, ?_⟩
  · rw [hannounces.elsewhere _ hworkspace]
    rfl
  · rw [hannounces.elsewhere _ hmarkdown]
    rfl

end Client

end EditorBridge
