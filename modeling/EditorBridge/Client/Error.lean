import EditorBridge.Violation

/-!
# Errors of the client
-/

namespace EditorBridge

/-- What the client was doing. -/
inductive Operation where
  | initialise
  | hover
  | codeAction
  | resolveCodeAction
  | applyActionGroup
deriving DecidableEq, Repr

/-- The name of an operation. -/
def Operation.label : Operation → String
  | .initialise => "initialisation"
  | .hover => "hover"
  | .codeAction => "codeAction"
  | .resolveCodeAction => "resolveCodeAction"
  | .applyActionGroup => "applyActionGroup"

/-- Why a request got no answer. -/
inductive TransportError where
  | rejected (code : Int) (message : String)
  | busy
  | cancelled
  | disconnected
deriving DecidableEq, Repr

/-- The words for a transport error. -/
def TransportError.message : TransportError → String
  | .rejected code message =>
    "request rejected by server: " ++ message ++ " (code: " ++
      String.ofList (Json.intChars code) ++ ")"
  | .busy => "language server is busy"
  | .cancelled => "request was cancelled"
  | .disconnected => "connection to the language server is closed"

/-- Why the editor did not make an edit, and what was behind it. -/
structure EditorError where
  message : String
  source : Option String
deriving DecidableEq, Repr

/-- Why an operation of the client failed. -/
inductive ClientError where
  | transport (operation : Operation) (source : TransportError)
  | violation (operation : Operation) (source : Violation)
  | editor (operation : Operation) (source : EditorError)
  | unknownCommand (command : String)
deriving DecidableEq, Repr

namespace ClientError

/-- The words for a client error. -/
def message : ClientError → String
  | transport operation source =>
    "transport failed during " ++ operation.label ++ ": " ++ source.message
  | violation operation source =>
    "protocol contract violated during " ++ operation.label ++ ": " ++ source.message
  | editor operation source =>
    "editor failed during " ++ operation.label ++ ": " ++ source.message
  | unknownCommand command => "command '" ++ command ++ "' is not handled by this client"

/-- The operation that failed, if the error belongs to one. -/
def operation? : ClientError → Option Operation
  | transport operation _ => some operation
  | violation operation _ => some operation
  | editor operation _ => some operation
  | unknownCommand _ => none

/-- The words for what is behind an error, the nearest first. -/
def causes : ClientError → List String
  | transport _ source => [source.message]
  | violation _ source => source.message :: (source.cause?.map DecodeError.message).toList
  | editor _ source => source.message :: source.source.toList
  | unknownCommand _ => []

/-- Whether the error is a violation of the protocol. -/
def isViolation : ClientError → Bool
  | violation _ _ => true
  | _ => false

end ClientError

end EditorBridge
