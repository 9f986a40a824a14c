import EditorBridge.Proofs.Client.Events
import EditorBridge.Proofs.CodeActions.Origins
import EditorBridge.Session.Script

/-!
# What a shown action asks for

The command of an action that is shown for deferred actions carries what is needed to ask for their
edits: the identifier that the server gave each of them, and the request that the server answered.
Whenever the command is run, these are sent back as they were.

Main statement: `resolution_history`, about any two turns of a history, of which the first lists
actions and the second runs the command of one of them.
-/

namespace EditorBridge

open Event

variable {σ : Type}

/-- The request for the edit of a deferred action, from the item that the server sent for it and the
parameters of the request that the server answered. -/
def editRequest (asked item : Json) : Method × Json :=
  (.resolveCodeAction, .obj [("codeActionParams", asked), ("id", itemId item)])

/-- The outcome is the violation that the arguments of a command are malformed. -/
def MalformedArguments {α : Type} (out : Except ClientError α) : Prop :=
  ∃ operation command fault, out = .error (.violation operation (.malformedArguments command fault))

/-- What the report of a turn says that ran the command of an action with these items behind it; the
list of the action answered the request `asked`. -/
structure Report.Resolves (r : Report σ) (asked : Json) (behind : List Json) : Prop where
  /-- For a single item its edit is asked for, and nothing else. -/
  one : ∀ item, behind = [item] → r.turn.env.isCancelled r.start = false →
    requests r.events = [editRequest asked item]
  /-- For several the titles are offered first, and the edit of the one that is picked is asked for,
  and nothing else. -/
  several : 2 ≤ behind.length → ∃ choice later state,
    r.events = .offered (behind.map itemTitle) choice :: later ∧
    r.turn.env.pick (behind.map itemTitle) r.start = (choice, state) ∧
    ∀ k item, choice = some k → behind[k]? = some item → r.turn.env.isCancelled state = false →
      requests r.events = [editRequest asked item]
  /-- The client understands the arguments that it has made itself. -/
  understood : ¬ MalformedArguments r.outcome

/-! ### Arguments -/

theorem ResolveParams.toJson_eq (p : ResolveParams) :
    p.toJson = .obj [("codeActionParams", p.codeActionParams.toJson), ("id", p.id)] := by
  have horder : ¬ "id" < "codeActionParams" ∧ "codeActionParams" < "id" := by decide
  simp [ResolveParams.toJson, Json.record, Json.ofMembers, Json.sortMembers, Json.insertMember,
    horder]

/-- The request for the edit of a deferred action sends back what the server sent. -/
theorem editRequest_eq {params : CodeActionParams} {item : Json} {a : DeferredAction}
    (h : a.SentAs item) :
    (Method.resolveCodeAction, (a.resolveParams params).toJson) =
      editRequest params.toJson item := by
  rw [ResolveParams.toJson_eq, editRequest, ← h.2]
  rfl

namespace Client

variable {env : Environment σ} {s t : σ} {es : List Event}

/-- An argument that the client has written is understood. -/
theorem decodeArgument_toJson {α : Type} {decode : Decoder α} {toJson : α → Json}
    (h : decode.Inverts toJson) {command : Command} {x : α}
    (harguments : command.arguments = some [toJson x]) :
    decodeArgument decode command = .ok x := by
  rw [decodeArgument, Command.firstArgument?, harguments]
  simp only [Option.bind_some, List.head?_cons, h.decode_toJson]
  rfl

/-! ### Requests -/

theorem SendOutcome.requests_eq {operation : Operation} {method : Method} {params : Json}
    {out : Except ClientError (Option Json)}
    (h : SendOutcome env operation method params s out es t) (hlive : env.isCancelled s = false) :
    requests es = [(method, params)] := by
  cases h with
  | cancelled hcancelled => rw [hlive] at hcancelled; cases hcancelled
  | failed => rfl
  | answered => rfl

theorem ResolveOutcome.requests_eq {params : ResolveParams} {out : Except ClientError Bool}
    (h : ResolveOutcome env params s out es t) (hlive : env.isCancelled s = false) :
    requests es = [(.resolveCodeAction, params.toJson)] := by
  cases h with
  | unsent h => exact h.requests_eq hlive
  | nothing h => exact h.requests_eq hlive
  | malformed h => rw [requests_append, h.requests_eq hlive]; rfl
  | rejected h => rw [requests_append, h.requests_eq hlive]; rfl
  | applied h => rw [requests_append, h.requests_eq hlive]; rfl

theorem ResolveOutcome.understood {params : ResolveParams} {out : Except ClientError Bool}
    (h : ResolveOutcome env params s out es t) : ¬ MalformedArguments out := by
  rintro ⟨operation, command, fault, rfl⟩
  cases h with
  | unsent h => cases h

theorem ApplyGroupOutcome.exists_offered {entries : List GroupEntry}
    {out : Except ClientError Bool} (h : ApplyGroupOutcome env entries s out es t) :
    ∃ choice later state, es = .offered (entries.map (·.label)) choice :: later ∧
      env.pick (entries.map (·.label)) s = (choice, state) ∧
      ∀ k entry params, choice = some k → entries[k]? = some entry →
        ResolveParams.decode .inPlace entry.arguments = .ok params →
        ResolveOutcome env params state out later t := by
  cases h with
  | dismissed hpick => exact ⟨_, _, _, rfl, hpick, nofun⟩
  | outside hpick hentry =>
    refine ⟨_, _, _, rfl, hpick, ?_⟩
    rintro k entry params ⟨⟩ hentry' -
    rw [hentry] at hentry'
    cases hentry'
  | malformed hpick hentry hdecode =>
    refine ⟨_, _, _, rfl, hpick, ?_⟩
    rintro k entry params ⟨⟩ hentry' hdecode'
    rw [hentry] at hentry'
    cases hentry'
    rw [hdecode] at hdecode'
    cases hdecode'
  | picked hpick hentry hdecode h =>
    refine ⟨_, _, _, rfl, hpick, ?_⟩
    rintro k entry params ⟨⟩ hentry' hdecode'
    rw [hentry] at hentry'
    cases hentry'
    rw [hdecode] at hdecode'
    cases hdecode'
    exact h

/-- Entries that can all be decoded are never refused. -/
theorem ApplyGroupOutcome.understood {entries : List GroupEntry} {out : Except ClientError Bool}
    (h : ApplyGroupOutcome env entries s out es t)
    (hentries : ∀ entry ∈ entries, ∃ params,
      ResolveParams.decode .inPlace entry.arguments = .ok params) : ¬ MalformedArguments out := by
  cases h with
  | dismissed => rintro ⟨_, _, _, ⟨⟩⟩
  | outside => rintro ⟨_, _, _, ⟨⟩⟩
  | malformed _ hentry hdecode =>
    obtain ⟨params, hok⟩ := hentries _ (List.mem_of_getElem? hentry)
    rw [hok] at hdecode
    cases hdecode
  | picked _ _ _ h => exact h.understood

/-! ### Commands -/

theorem ExecuteOutcome.of_resolve {command : Command} {out : Except ClientError Bool}
    (h : ExecuteOutcome env command s out es t) (hname : command.command = resolveCommand)
    {params : ResolveParams} (hok : decodeArgument ResolveParams.decode command = .ok params) :
    ResolveOutcome env params s out es t := by
  cases h with
  | resolve _ hdecode h =>
    rw [hok] at hdecode
    cases hdecode
    exact h
  | resolveMalformed _ hdecode =>
    rw [hok] at hdecode
    cases hdecode
  | applyGroup hother => exact absurd (hname.symm.trans hother) resolveCommand_ne_applyGroupCommand
  | applyGroupMalformed hother =>
    exact absurd (hname.symm.trans hother) resolveCommand_ne_applyGroupCommand
  | unknown hother => exact absurd hname hother

theorem ExecuteOutcome.of_applyGroup {command : Command} {out : Except ClientError Bool}
    (h : ExecuteOutcome env command s out es t) (hname : command.command = applyGroupCommand)
    {entries : List GroupEntry}
    (hok : decodeArgument (.list GroupEntry.decode) command = .ok entries) :
    ApplyGroupOutcome env entries s out es t := by
  cases h with
  | resolve hother => exact absurd (hother.symm.trans hname) resolveCommand_ne_applyGroupCommand
  | resolveMalformed hother =>
    exact absurd (hother.symm.trans hname) resolveCommand_ne_applyGroupCommand
  | applyGroup _ hdecode h =>
    rw [hok] at hdecode
    cases hdecode
    exact h
  | applyGroupMalformed _ hdecode =>
    rw [hok] at hdecode
    cases hdecode
  | unknown _ hother => exact absurd hname hother

/-- The command of a deferred action that is shown asks for its edit. -/
theorem ExecuteOutcome.of_display {command : Command} {out : Except ClientError Bool}
    (h : ExecuteOutcome env command s out es t) {params : CodeActionParams} {a : DeferredAction}
    (hcommand : (a.display params).command = some command) :
    ResolveOutcome env (a.resolveParams params) s out es t := by
  cases hcommand
  exact h.of_resolve rfl (decodeArgument_toJson ResolveParams.inverts rfl)

/-- The entry of a deferred action in its group. -/
def memberEntry (params : CodeActionParams) (a : DeferredAction) : GroupEntry :=
  ⟨a.title, (a.resolveParams params).toJson⟩

/-- The command of a composite lets the user pick among its members. -/
theorem ExecuteOutcome.of_composite {command : Command} {out : Except ClientError Bool}
    (h : ExecuteOutcome env command s out es t) {params : CodeActionParams} {tag : String}
    {kind : Option String} {members : List DeferredAction}
    (hcommand : (composite params tag kind members).command = some command) :
    ApplyGroupOutcome env (members.map (memberEntry params)) s out es t := by
  cases hcommand
  apply h.of_applyGroup rfl
  apply decodeArgument_toJson GroupEntry.inverts.list
  simp only [Json.ofList, List.map_map, Function.comp_def, GroupEntry.toJson_eq]
  rfl

/-! ### Members and items -/

variable {params : CodeActionParams} {behind : List Json} {members : List DeferredAction}

/-- The members of a composite are offered by the titles that the server sent. -/
theorem map_label_eq (hbehind : behind.Forall₂ (fun item a => a.SentAs item) members) :
    (members.map (memberEntry params)).map (·.label) = behind.map itemTitle := by
  induction hbehind with
  | nil => rfl
  | cons hsent _ ih => exact congrArg₂ List.cons hsent.1 ih

theorem malformedArguments_of_map {α β : Type} {out : Except ClientError α} {f : α → β}
    (h : MalformedArguments (out.map f)) : MalformedArguments out := by
  obtain ⟨operation, command, fault, h⟩ := h
  cases out with
  | ok x => cases h
  | error e => cases h; exact ⟨operation, command, fault, rfl⟩

/-- Running the command of an action that is shown resolves one of the items behind it. -/
theorem ExecuteOutcome.resolves (hbehind : behind.Forall₂ (fun item a => a.SentAs item) members)
    {action : DisplayAction} (haction : StandsFor params action members) {command : Command}
    (hcommand : action.command = some command) {out : Except ClientError Bool}
    (h : ExecuteOutcome env command s out es t) :
    Report.Resolves ⟨⟨.execute command, env⟩, s, out.map .edited, es⟩ params.toJson behind := by
  cases haction with
  | one a =>
    obtain ⟨item, _, hsent, hnil, rfl⟩ := List.forall₂_cons_right_iff.mp hbehind
    cases hnil
    have hresolve := h.of_display hcommand
    constructor
    case one =>
      rintro _ ⟨⟩ hlive
      rw [← editRequest_eq hsent]
      exact hresolve.requests_eq hlive
    case several =>
      intro hlength
      exact absurd hlength (by simp)
    case understood =>
      intro hmalformed
      exact hresolve.understood (malformedArguments_of_map hmalformed)
  | several tag kind hlength =>
    have happly := h.of_composite hcommand
    constructor
    case one =>
      rintro item rfl
      rw [← hbehind.length_eq] at hlength
      exact absurd hlength (by simp)
    case several =>
      intro _
      obtain ⟨choice, later, state, hes, hpick, hpicked⟩ := happly.exists_offered
      rw [map_label_eq hbehind] at hes hpick
      refine ⟨choice, later, state, hes, hpick, fun k item hk hitem hlive => ?_⟩
      -- The entry that is picked is that of the member that the item decodes to.
      obtain ⟨a, hmember, hsent⟩ := exists_related hbehind hitem
      have hentry : (members.map (memberEntry params))[k]? = some (memberEntry params a) := by
        rw [List.getElem?_map, hmember]
        rfl
      have hresolve := hpicked k _ (a.resolveParams params) hk hentry
        (ResolveParams.inverts.decode_toJson _ _)
      rw [hes, ← editRequest_eq hsent]
      exact hresolve.requests_eq hlive
    case understood =>
      intro hmalformed
      refine happly.understood (fun entry hentry => ?_) (malformedArguments_of_map hmalformed)
      obtain ⟨a, -, rfl⟩ := List.mem_map.mp hentry
      exact ⟨_, ResolveParams.inverts.decode_toJson _ _⟩

/-! ### Histories -/

theorem decodeResult_ok_some {value : Json} {offers : List Offer}
    (h : Offer.decodeResult (some value) = .ok (some offers)) :
    ∃ items, value = .arr items ∧ Offer.decodeItems 0 items = .ok offers := by
  cases value with
  | arr items =>
    refine ⟨items, rfl, ?_⟩
    rw [Offer.decodeResult] at h
    cases hitems : Offer.decodeItems 0 items with
    | error violation => rw [hitems] at h; cases h
    | ok offers' => rw [hitems] at h; cases h; rfl
  | _ => cases h

/-- A list of actions that is shown groups the offers of the answer to the one request. -/
theorem CodeActionsOutcome.of_shown {shown : List DisplayAction}
    (h : CodeActionsOutcome env params s (.ok (some shown)) es t) :
    ∃ items offers, exchanges es = [(.codeAction, params.toJson, .ok (some (.arr items)))] ∧
      Offer.decodeItems 0 items = .ok offers ∧ shown = groupOffers params offers := by
  cases h with
  | listed hask hdecode =>
    obtain ⟨items, rfl, hitems⟩ := decodeResult_ok_some hdecode
    refine ⟨items, _, ?_, hitems, rfl⟩
    cases hask with
    | answered hsend =>
      obtain ⟨-, rfl⟩ := hsend.of_some
      rfl

/-- What a turn that lists actions reports. -/
theorem history_shown (client : Client) (s : σ) (turns : List (Turn σ)) :
    ∀ r ∈ client.history s turns, ∀ params shown, r.turn.task = .codeActions params →
      r.outcome = .ok (.actions (some shown)) →
      ∃ items offers, exchanges r.events = [(.codeAction, params.toJson, .ok (some (.arr items)))] ∧
        Offer.decodeItems 0 items = .ok offers ∧ shown = groupOffers params offers := by
  apply forall_history
  rintro client s t task env out es kept h params shown ⟨⟩ hshown
  cases h with
  | @codeActions _ out _ _ h =>
    cases out with
    | error e => cases hshown
    | ok actions => cases hshown; exact h.of_shown

/-- A turn that runs a command goes in one of the ways in which the command can go. -/
theorem history_executed (client : Client) (s : σ) (turns : List (Turn σ)) :
    ∀ r ∈ client.history s turns, ∀ command, r.turn.task = .execute command →
      ∃ out t, ExecuteOutcome r.turn.env command r.start out r.events t ∧
        r = ⟨⟨.execute command, r.turn.env⟩, r.start, out.map .edited, r.events⟩ := by
  apply forall_history
  rintro client s t task env out es kept h command ⟨⟩
  cases h with
  | execute h => exact ⟨_, t, h, rfl⟩

/-- **Resolution**: the answer to a request for code actions is a list of items, of which each
offer contributes to what is shown; and whenever the command of an action that is shown is run
later, it asks for the edits of the items behind the action, with their identifiers and with the
parameters of the request as they were sent. -/
theorem resolution_history (client : Client) (s : σ) (turns : List (Turn σ))
    {asked ran : Report σ} (horder : [asked, ran].Sublist (client.history s turns))
    {params : CodeActionParams} (hasked : asked.turn.task = .codeActions params)
    {shown : List DisplayAction} (hshown : asked.outcome = .ok (.actions (some shown)))
    {command : Command} (hran : ran.turn.task = .execute command) :
    ∃ sent items offers,
      exchanges asked.events = [(.codeAction, sent, .ok (some (.arr items)))] ∧
      Offer.decodeItems 0 items = .ok offers ∧
      shown = (List.range offers.length).filterMap (contribution params offers) ∧
      ∀ i action, contribution params offers i = some action → action.command = some command →
        itemsBehind items offers i ≠ [] → ran.Resolves sent (itemsBehind items offers i) := by
  obtain ⟨items, offers, hexchanges, hitems, hactions⟩ :=
    history_shown client s turns asked (horder.subset (by simp)) params shown hasked hshown
  obtain ⟨out, t, hout, hreport⟩ :=
    history_executed client s turns ran (horder.subset (by simp)) command hran
  refine ⟨params.toJson, items, offers, hexchanges, hitems, ?_, ?_⟩
  · rw [hactions, groupOffers_eq_layout, layout_filled_eq]
  · intro i action hcontribution hcommand hbehind
    obtain ⟨members, hmembers, haction⟩ :=
      contribution_origin (Offer.forall₂_of_decodeItems hitems) hcontribution hbehind
    rw [hreport]
    exact hout.resolves hmembers haction hcommand

/-- Two deferred actions with one tag, as a server sends them. -/
def sampleItems : List Json :=
  [.obj [("group", .str "g"), ("id", .int 1), ("title", .str "one")],
    .obj [("group", .str "g"), ("id", .int 2), ("title", .str "two")]]

/-- What the items decode to. -/
def sampleMembers : List DeferredAction :=
  [⟨"one", none, none, some "g", .int 1⟩, ⟨"two", none, none, some "g", .int 2⟩]

/-- The request that the items answer. -/
def sampleParams : CodeActionParams :=
  ⟨⟨⟨"file:///b", by decide⟩⟩, ⟨⟨0, 0⟩, ⟨0, 1⟩⟩, ⟨[], none, none⟩, none, none⟩

/-- The command of the composite that is shown for the items. -/
def sampleCommand : Command :=
  ⟨"g", applyGroupCommand,
    some [.ofList GroupEntry.toJson (sampleMembers.map (memberEntry sampleParams))]⟩

/-- The items are listed, and then the command of their composite is run. -/
def sampleTurns : List (Turn Script) :=
  [⟨.codeActions sampleParams, Script.environment⟩, ⟨.execute sampleCommand, Script.environment⟩]

/-- A server that answers with the items, and a user that picks the second of them. -/
def sampleStart : Script :=
  (Script.blank.respond "textDocument/codeAction" (.ok (some (.arr sampleItems)))).choose (some 1)

theorem resolution_history_sample : ∃ asked ran,
    (ofSettings .default).history sampleStart sampleTurns = [asked, ran] ∧
      requests ran.events = [(.resolveCodeAction,
        .obj [("codeActionParams", sampleParams.toJson), ("id", .int 2)])] := by
  refine ⟨_, _, rfl, ?_⟩
  obtain ⟨sent, items, offers, hexchanges, hitems, -, hresolves⟩ :=
    resolution_history (ofSettings .default) sampleStart sampleTurns (List.Sublist.refl _)
      rfl rfl rfl
  cases hexchanges
  cases hitems
  have hresolved := hresolves 0 (composite sampleParams "g" none sampleMembers) rfl rfl (by decide)
  obtain ⟨choice, later, state, hes, hpick, hpicked⟩ := hresolved.several (by decide)
  cases hpick
  exact hpicked 1 _ rfl rfl rfl

end Client

end EditorBridge
