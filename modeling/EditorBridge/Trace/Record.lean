import EditorBridge.Client.Error
import EditorBridge.Json.Inspection
import EditorBridge.Settings.LogFormat
import EditorBridge.Trace.Filter

/-!
# Log records

`LogRecord` names what the client reports; level, message and fields follow from it.  A record is
written as a JSON object or as a line (`LogRecord.written`).  In a line a text field is quoted and
a shown one is not, and the controls that can steer a terminal are escaped in the message.
-/

namespace EditorBridge

/-- The target of all records. -/
def logTarget : String := "tether_client"

/-- What the client reports. -/
inductive LogRecord where
  | channelInstalled (filter : String) (format : LogFormat)
  | announcing (flags : List (String × Json))
  | initialised (server : Option String)
  | sending (method : Method)
  | requestCancelled (operation : Operation)
  | requestFailed (operation : Operation) (source : TransportError)
  | violated (operation : Operation) (message : String)
  | grouped (actions groups : Nat)
  | resolved (id : Json)
  | pickDismissed
  | pickOutside (choice options : Nat)
deriving DecidableEq

/-- The value of a field of a record. -/
inductive LogValue where
  | count (n : Nat)
  | text (s : String)
  | shown (s : String)
deriving DecidableEq, Repr

namespace LogValue

/-- The JSON of a field's value. -/
def toJson : LogValue → Json
  | count n => .int n
  | text s => .str s
  | shown s => .str s

/-- A field's value in a line. -/
def inLine : LogValue → String
  | count n => toString n
  | text s => Text.quoted s
  | shown s => s

end LogValue

namespace LogRecord

/-- How grave a record is. -/
def level : LogRecord → Level
  | channelInstalled .. => .info
  | announcing _ => .debug
  | initialised _ => .info
  | sending _ => .debug
  | requestCancelled _ => .debug
  | requestFailed .. => .warn
  | violated .. => .error
  | grouped .. => .debug
  | resolved _ => .debug
  | pickDismissed => .debug
  | pickOutside .. => .warn

/-- What a record says. -/
def message : LogRecord → String
  | channelInstalled .. => "trace channel installed"
  | announcing _ => "announcing experimental capabilities"
  | initialised _ => "language server initialised"
  | sending _ => "sending request"
  | requestCancelled _ => "request cancelled"
  | requestFailed .. => "request failed; showing no result"
  | violated _ message => message
  | grouped .. => "grouped code actions"
  | resolved _ => "applied resolved code action"
  | pickDismissed => "action group pick dismissed"
  | pickOutside .. => "editor picked an action outside the group"

/-- The text of a name that may be absent. -/
def optionalName : Option String → String
  | none => "None"
  | some name => "Some(" ++ Text.quoted name ++ ")"

/-- The fields of a record, in their order. -/
def fields : LogRecord → List (String × LogValue)
  | channelInstalled filter format => [("filter", .text filter), ("format", .shown format.name)]
  | announcing flags => [("flags", .shown (Json.inspectMap flags))]
  | initialised server => [("server", .shown (optionalName server))]
  | sending method => [("method", .text method.name)]
  | requestCancelled operation => [("operation", .shown operation.label)]
  | requestFailed operation source =>
    [("operation", .shown operation.label), ("error", .shown source.message)]
  | violated operation _ => [("operation", .shown operation.label)]
  | grouped actions groups => [("actions", .count actions), ("groups", .count groups)]
  | resolved id => [("id", .shown (Json.inspectOptional id))]
  | pickDismissed => []
  | pickOutside choice options => [("choice", .count choice), ("options", .count options)]

/-- A record as a JSON object. -/
def toJson (r : LogRecord) : Json :=
  .ofMembers ([("level", .str r.level.name), ("target", .str logTarget),
    ("message", .str r.message)] ++ r.fields.map fun (name, value) => (name, value.toJson))

/-- How a character of a message is written in a line: the controls that can steer a terminal are
escaped. -/
def lineChar (c : Char) : List Char :=
  if c = '\x1b' then "\\x1b".toList
  else if c = '\x07' then "\\x07".toList
  else if c = '\x08' then "\\x08".toList
  else if c = '\x0c' then "\\x0c".toList
  else if c = '\x7f' then "\\x7f".toList
  else if 0x80 ≤ c.toNat ∧ c.toNat ≤ 0x9f then Text.codePointEscape c
  else [c]

/-- The name of a level, set to the right in five places. -/
def paddedLevel (level : Level) : List Char :=
  List.replicate (5 - level.name.length) ' ' ++ level.name.toList

/-- A record as a line. -/
def toLine (r : LogRecord) : String :=
  String.ofList (paddedLevel r.level ++ ' ' :: logTarget.toList ++ [':', ' '] ++
    r.message.toList.flatMap lineChar) ++
    String.join (r.fields.map fun (name, value) => " " ++ name ++ "=" ++ value.inLine)

/-- A record as a format writes it: an object, or a line as a string. -/
def written (r : LogRecord) : LogFormat → Json
  | .json => r.toJson
  | .compact => .str r.toLine

end LogRecord

end EditorBridge
