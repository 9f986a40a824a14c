import EditorBridge.Announcement
import EditorBridge.Client.Environment
import EditorBridge.CodeActions.Grouping
import EditorBridge.Trace.Channel

/-!
# The client

The client stands between an editor and a language server.  It announces its features in the
handshake, prepares hovers, groups code actions, and runs the two commands of its own that shown
actions carry.

While the user only looks, transport failures are not shown: a hover or a list of actions that
does not come is none (`recover`).  Where the user has asked for a change they are returned.  A
message that violates the protocol is shown and returned, always (`violate`).
-/

namespace EditorBridge

namespace Client

variable {σ α : Type}

/-! ### Parts of the operations -/

/-- Reports a violation: records it, shows it and fails with it. -/
def violate (env : Environment σ) (operation : Operation) (violation : Violation) : Call σ α := do
  let failure := ClientError.violation operation violation
  Call.record (.violated operation failure.message)
  Call.consult (fun s => ((), env.showError failure.message s)) fun _ => .shown failure.message
  throw failure

/-- The result, or a violation. -/
def orViolate (env : Environment σ) (operation : Operation) :
    Except Violation α → Call σ α
  | .ok x => pure x
  | .error violation => violate env operation violation

/-- Sends a request, unless the caller has given it up.  The answer `null` is none. -/
def send (env : Environment σ) (operation : Operation) (method : Method) (params : Json) :
    Call σ (Option Json) := do
  if env.isCancelled (← get).state then
    throw (.transport operation .cancelled)
  Call.record (.sending method)
  match ← Call.consult (env.send method params) (.sent method params) with
  | .ok none => return none
  | .ok (some .null) => return none
  | .ok (some value) => return some value
  | .error source => throw (.transport operation source)

/-- Turns a transport failure into no answer. -/
def recover (operation : Operation) (call : Call σ (Option Json)) : Call σ (Option Json) :=
  tryCatch call fun
    | .transport _ .cancelled => do
      Call.record (.requestCancelled operation)
      return none
    | .transport _ source => do
      Call.record (.requestFailed operation source)
      return none
    | failure => throw failure

/-- Decodes the answer to a request. -/
def decodeResult (env : Environment σ) (operation : Operation) (method : Method)
    (decode : Decoder α) (value : Json) : Call σ α :=
  orViolate env operation ((decode .inPlace value).mapError (.malformedResult method))

/-- The first argument of a command, decoded. -/
def decodeArgument (decode : Decoder α) (command : Command) : Except ArgumentFault α :=
  match command.firstArgument? with
  | some argument => (decode .inPlace argument).mapError .malformed
  | none => .error .missing

/-- Decodes the first argument of a command. -/
def commandArgument (env : Environment σ) (operation : Operation) (decode : Decoder α)
    (command : Command) : Call σ α :=
  orViolate env operation
    ((decodeArgument decode command).mapError (.malformedArguments command.command))

/-! ### Operations -/

/-- The parameters of the handshake, with the features announced. -/
def announced (client : Client) (params : InitializeParams) : InitializeParams :=
  { params with capabilities := client.features.announce params.capabilities }

/-- The handshake, with the features announced.  The client remembers the server's capabilities. -/
def initialise (env : Environment σ) (params : InitializeParams) : Call σ InitializeResult := do
  let client := (← get).client
  Call.record (.announcing client.features.flags)
  match ← send env .initialise .handshake (client.announced params).toJson with
  | none => violate env .initialise (.missingResult .handshake)
  | some value =>
    let decode := InitializeResult.decode env.readCapability
    let result ← decodeResult env .initialise .handshake decode value
    Call.record (.initialised (result.serverInfo.map (·.name)))
    Call.remember result.capabilities
    return result

/-- The hover at a position, as the editor shows it. -/
def hover (env : Environment σ) (params : HoverParams) : Call σ (Option EditorHover) := do
  match ← recover .hover (send env .hover .hover params.toJson) with
  | none => return none
  | some value =>
    let hover ← decodeResult env .hover .hover HoverResult.decode value
    return some ((← get).client.enricher.enrich hover)

/-- The code actions of a range, as the editor shows them. -/
def codeActions (env : Environment σ) (params : CodeActionParams) :
    Call σ (Option (List DisplayAction)) := do
  let answer ← recover .codeAction (send env .codeAction .codeAction params.toJson)
  match ← orViolate env .codeAction (Offer.decodeResult answer) with
  | none => return none
  | some offers =>
    let actions := groupOffers params offers
    Call.record (.grouped actions.length (groupCount params offers))
    return some actions

/-- Asks for the edit of a deferred action and hands it to the editor; whether there was one. -/
def resolve (env : Environment σ) (params : ResolveParams) : Call σ Bool := do
  match ← send env .resolveCodeAction .resolveCodeAction params.toJson with
  | none => return false
  | some value =>
    let edit ← decodeResult env .resolveCodeAction .resolveCodeAction WorkspaceEdit.decode value
    match ← Call.consult (env.applyEdit edit) (.edited edit) with
    | .error source => throw (.editor .resolveCodeAction source)
    | .ok () =>
      Call.record (.resolved params.id)
      return true

/-- Lets the user pick a member of a group, and resolves it; whether an edit was made. -/
def applyGroup (env : Environment σ) (entries : List GroupEntry) : Call σ Bool := do
  let labels := entries.map (·.label)
  match ← Call.consult (env.pick labels) (.offered labels) with
  | none =>
    Call.record .pickDismissed
    return false
  | some choice =>
    match entries[choice]? with
    | none =>
      Call.record (.pickOutside choice entries.length)
      return false
    | some entry =>
      let params ← orViolate env .applyActionGroup
        ((ResolveParams.decode .inPlace entry.arguments).mapError
          (.malformedArguments applyGroupCommand <| .malformed ·))
      resolve env params

/-- Runs a command of the client; whether an edit was made. -/
def execute (env : Environment σ) (command : Command) : Call σ Bool := do
  if command.command = resolveCommand then
    let params ← commandArgument env .resolveCodeAction ResolveParams.decode command
    resolve env params
  else if command.command = applyGroupCommand then
    let entries ← commandArgument env .applyActionGroup (.list GroupEntry.decode) command
    applyGroup env entries
  else throw (.unknownCommand command.command)

/-- Makes a client and asks for a trace channel with the given number. -/
def start (parse : FilterReader) (slot : TraceSlot) (settings : Settings) (number : Nat) :
    Except TraceError (Client × List LogRecord) × TraceSlot :=
  match slot.install parse settings number with
  | (.ok installed, slot) =>
    let records :=
      if installed then [.channelInstalled settings.logFilter settings.logFormat] else []
    (.ok (ofSettings settings, records), slot)
  | (.error e, slot) => (.error e, slot)

end Client

end EditorBridge
