import EditorBridge.Settings.Feature

/-!
# Log formats
-/

namespace EditorBridge

/-- How log records are written. -/
inductive LogFormat where
  | json
  | compact
deriving DecidableEq, Repr

namespace LogFormat

/-- The name of a format. -/
def name : LogFormat → String
  | json => "json"
  | compact => "compact"

/-- The formats by their names. -/
def names : List (String × LogFormat) :=
  [json, compact].map fun format => (format.name, format)

/-- The format with a name, in any case. -/
def ofName? (s : String) : Option LogFormat :=
  lookupIgnoringCase names s

/-- Decodes a format by its name. -/
def decode : Decoder LogFormat :=
  .variant names

/-- The JSON of a format. -/
def toJson (format : LogFormat) : Json :=
  .str format.name

end LogFormat

end EditorBridge
