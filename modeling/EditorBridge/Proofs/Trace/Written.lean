import EditorBridge.Trace.Channel
import Mathlib.Data.List.Basic

/-!
# How records are written

`LogRecord.object` and `LogRecord.line` spell out what is written for each record, as an object and
as a line, with the names of its fields and what they hold.  Main statement: the formats write just
that (`LogRecord.written_eq`).

Among objects the records of a level, and those that say a text, are told by the members `level` and
`message` (`graded_map_object`, `said_map_object`).
-/

namespace EditorBridge

namespace LogRecord

/-- The object of a record, member by member. -/
def object : LogRecord → Json
  | channelInstalled filter format =>
    .obj [("filter", .str filter), ("format", .str format.name), ("level", .str "INFO"),
      ("message", .str "trace channel installed"), ("target", .str "tether_client")]
  | announcing flags =>
    .obj [("flags", .str (Json.inspectMap flags)), ("level", .str "DEBUG"),
      ("message", .str "announcing experimental capabilities"), ("target", .str "tether_client")]
  | initialised server =>
    .obj [("level", .str "INFO"), ("message", .str "language server initialised"),
      ("server", .str (optionalName server)), ("target", .str "tether_client")]
  | sending method =>
    .obj [("level", .str "DEBUG"), ("message", .str "sending request"),
      ("method", .str method.name), ("target", .str "tether_client")]
  | requestCancelled operation =>
    .obj [("level", .str "DEBUG"), ("message", .str "request cancelled"),
      ("operation", .str operation.label), ("target", .str "tether_client")]
  | requestFailed operation source =>
    .obj [("error", .str source.message), ("level", .str "WARN"),
      ("message", .str "request failed; showing no result"), ("operation", .str operation.label),
      ("target", .str "tether_client")]
  | violated operation message =>
    .obj [("level", .str "ERROR"), ("message", .str message), ("operation", .str operation.label),
      ("target", .str "tether_client")]
  | grouped actions groups =>
    .obj [("actions", .int actions), ("groups", .int groups), ("level", .str "DEBUG"),
      ("message", .str "grouped code actions"), ("target", .str "tether_client")]
  | resolved id =>
    .obj [("id", .str (Json.inspectOptional id)), ("level", .str "DEBUG"),
      ("message", .str "applied resolved code action"), ("target", .str "tether_client")]
  | pickDismissed =>
    .obj [("level", .str "DEBUG"), ("message", .str "action group pick dismissed"),
      ("target", .str "tether_client")]
  | pickOutside choice options =>
    .obj [("choice", .int choice), ("level", .str "WARN"),
      ("message", .str "editor picked an action outside the group"), ("options", .int options),
      ("target", .str "tether_client")]

theorem toJson_eq_object (r : LogRecord) : r.toJson = r.object := by
  cases r <;>
    simp only [toJson, object, fields, level, message, Level.name, logTarget, LogValue.toJson,
      List.map_cons, List.map_nil, List.cons_append, List.nil_append, List.append_nil,
      Json.ofMembers, Json.sortMembers, List.foldl_cons, List.foldl_nil, Json.insertMember,
      String.reduceLT, String.reduceEq, ↓reduceIte]

/-- What stands before the fields in a line. -/
def heading (level : Level) (message : String) : String :=
  String.ofList (paddedLevel level ++ ' ' :: logTarget.toList ++ [':', ' '] ++
    message.toList.flatMap lineChar)

/-- The pieces of the line of a record. -/
def pieces : LogRecord → List String
  | channelInstalled filter format =>
    [" INFO tether_client: trace channel installed", " filter=", Text.quoted filter, " format=",
      format.name]
  | announcing flags =>
    ["DEBUG tether_client: announcing experimental capabilities", " flags=", Json.inspectMap flags]
  | initialised server =>
    [" INFO tether_client: language server initialised", " server=", optionalName server]
  | sending method =>
    ["DEBUG tether_client: sending request", " method=", Text.quoted method.name]
  | requestCancelled operation =>
    ["DEBUG tether_client: request cancelled", " operation=", operation.label]
  | requestFailed operation source =>
    [" WARN tether_client: request failed; showing no result", " operation=", operation.label,
      " error=", source.message]
  | violated operation message =>
    ["ERROR tether_client: " ++ String.ofList (message.toList.flatMap lineChar), " operation=",
      operation.label]
  | grouped actions groups =>
    ["DEBUG tether_client: grouped code actions", " actions=", toString actions, " groups=",
      toString groups]
  | resolved id =>
    ["DEBUG tether_client: applied resolved code action", " id=", Json.inspectOptional id]
  | pickDismissed => ["DEBUG tether_client: action group pick dismissed"]
  | pickOutside choice options =>
    [" WARN tether_client: editor picked an action outside the group", " choice=", toString choice,
      " options=", toString options]

/-- The names and the values of fields, one after another. -/
theorem join_fields (fields : List (String × LogValue)) :
    String.join (fields.map fun field => " " ++ field.1 ++ "=" ++ field.2.inLine) =
      String.join (fields.flatMap fun field => [" " ++ field.1 ++ "=", field.2.inLine]) := by
  induction fields with
  | nil => rfl
  | cons field fields ih =>
    rw [List.map_cons, List.flatMap_cons, String.join_append, String.join_cons, String.join_cons,
      String.join_cons, ih]
    simp

/-- A line is its heading, and a name and a value for each field. -/
theorem toLine_eq {r : LogRecord} {head : String} {rest : List String}
    (hpieces : r.pieces = head :: rest) (hhead : heading r.level r.message = head)
    (hrest : (r.fields.flatMap fun field => [" " ++ field.1 ++ "=", field.2.inLine]) = rest) :
    r.toLine = String.join r.pieces := by
  rw [hpieces, String.join_cons, ← hrest, ← join_fields, ← hhead]
  rfl

theorem heading_error (message : String) : heading .error message =
    "ERROR tether_client: " ++ String.ofList (message.toList.flatMap lineChar) := by
  have hfront : String.ofList (paddedLevel .error ++ ' ' :: logTarget.toList ++ [':', ' ']) =
      "ERROR tether_client: " := by
    decide +kernel
  rw [heading, String.ofList_append, hfront]

theorem toLine_eq_join (r : LogRecord) : r.toLine = String.join r.pieces := by
  cases r with
  -- The words of a violation are not known, so their controls are escaped as they come.
  | violated operation text =>
    exact toLine_eq rfl (heading_error text) (by simp [fields, LogValue.inLine])
  | _ =>
    exact toLine_eq rfl (by simp only [level, message]; decide +kernel)
      (by simp [fields, LogValue.inLine])

/-- What a format writes for a record. -/
def spelled (format : LogFormat) (r : LogRecord) : Json :=
  match format with
  | .json => r.object
  | .compact => .str (String.join r.pieces)

/-- **What is written**: each format writes a record as it is spelled out. -/
theorem written_eq (r : LogRecord) (format : LogFormat) : r.written format = spelled format r := by
  cases format with
  | json => exact r.toJson_eq_object
  | compact => exact congrArg Json.str r.toLine_eq_join

/-! ### Records among others -/

/-- The records that say a text. -/
def saying (text : String) (rs : List LogRecord) : List LogRecord :=
  rs.filter fun r => r.message = text

/-- The records of a level. -/
def atLevel (level : Level) (rs : List LogRecord) : List LogRecord :=
  rs.filter fun r => r.level = level

@[simp] theorem saying_append (text : String) (rs qs : List LogRecord) :
    saying text (rs ++ qs) = saying text rs ++ saying text qs :=
  List.filter_append rs qs

@[simp] theorem atLevel_append (level : Level) (rs qs : List LogRecord) :
    atLevel level (rs ++ qs) = atLevel level rs ++ atLevel level qs :=
  List.filter_append rs qs

/-- Among objects those that say a text. -/
def objectsSaying (text : String) (objects : List Json) : List Json :=
  objects.filter fun j => j.get? "message" = some (.str text)

/-- Among objects those of a level. -/
def objectsAtLevel (level : Level) (objects : List Json) : List Json :=
  objects.filter fun j => j.get? "level" = some (.str level.name)

theorem get?_message (r : LogRecord) : r.object.get? "message" = some (.str r.message) := by
  cases r <;> rfl

theorem get?_level (r : LogRecord) : r.object.get? "level" = some (.str r.level.name) := by
  cases r <;> rfl

/-- What a record says can be told from its object. -/
theorem objectsSaying_map (text : String) (rs : List LogRecord) :
    objectsSaying text (rs.map object) = (saying text rs).map object := by
  rw [objectsSaying, saying, List.filter_map]
  refine congrArg _ (List.filter_congr fun r _ => ?_)
  simp [get?_message]

/-- The level of a record can be told from its object. -/
theorem objectsAtLevel_map (level : Level) (rs : List LogRecord) :
    objectsAtLevel level (rs.map object) = (atLevel level rs).map object := by
  have hname : ∀ other : Level, other.name = level.name ↔ other = level := by
    cases level <;> intro other <;> cases other <;> decide
  rw [objectsAtLevel, atLevel, List.filter_map]
  refine congrArg _ (List.filter_congr fun r _ => ?_)
  simp [get?_level, hname]

end LogRecord

end EditorBridge
