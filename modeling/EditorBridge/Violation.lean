import EditorBridge.Protocol.Request

/-!
# Violations of the protocol

What a server may send that the client does not accept.  Nothing is coerced: a message that does
not have the form it must have is a violation.
-/

namespace EditorBridge

/-- What is wrong with the argument of a command. -/
inductive ArgumentFault where
  | missing
  | malformed (error : DecodeError)
deriving DecidableEq, Repr

/-- The words for what is wrong with the argument of a command. -/
def ArgumentFault.message : ArgumentFault → String
  | .missing => "expected one argument"
  | .malformed error => error.message

/-- A message that the protocol does not allow. -/
inductive Violation where
  | notAList (kind : String)
  | notAnObject (index : Nat)
  | missingTitle (index : Nat)
  | commandInAction (title : String)
  | malformed (index : Nat) (error : DecodeError)
  | malformedResult (method : Method) (error : DecodeError)
  | missingResult (method : Method)
  | malformedArguments (command : String) (fault : ArgumentFault)
deriving DecidableEq, Repr

namespace Violation

/-- The words for a violation. -/
def message : Violation → String
  | notAList kind => "expected a list of code actions, got " ++ kind
  | notAnObject index => "code action at index " ++ toString index ++ " is not a JSON object"
  | missingTitle index => "code action at index " ++ toString index ++ " has no string title"
  | commandInAction title =>
    "code action '" ++ title ++ "' carries a command; code actions must not"
  | malformed index error =>
    "code action at index " ++ toString index ++ " is malformed: " ++ error.message
  | malformedResult method error =>
    "result of '" ++ method.name ++ "' is malformed: " ++ error.message
  | missingResult method => "result of '" ++ method.name ++ "' is missing"
  | malformedArguments command fault =>
    "arguments for command '" ++ command ++ "' are malformed: " ++ fault.message

/-- The decoding error behind a violation, if it has one. -/
def cause? : Violation → Option DecodeError
  | malformed _ error => some error
  | malformedResult _ error => some error
  | _ => none

end Violation

end EditorBridge
