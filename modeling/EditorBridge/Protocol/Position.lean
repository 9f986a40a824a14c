import EditorBridge.Decode.Fields

/-!
# Places in documents

Positions, ranges and locations, and the edits that replace the text of a range.
-/

namespace EditorBridge

/-- A place between two characters of a document: a line and a character, both from zero. -/
structure Position where
  line : UInt32
  character : UInt32
deriving DecidableEq, Repr

namespace Position

/-- The fields of a position. -/
def fields : Fields Position :=
  Position.mk <$> .required "line" .uint32 <*> .required "character" .uint32

/-- Decodes a position. -/
def decode : Decoder Position :=
  fields.record "Position"

/-- The JSON of a position. -/
def toJson (p : Position) : Json :=
  .record [("line", some (.ofUInt32 p.line)), ("character", some (.ofUInt32 p.character))]

end Position

/-- The text from a position up to another. -/
structure Range where
  start : Position
  stop : Position
deriving DecidableEq, Repr

namespace Range

/-- The fields of a range. -/
def fields : Fields Range :=
  Range.mk <$> .required "start" Position.decode <*> .required "end" Position.decode

/-- Decodes a range. -/
def decode : Decoder Range :=
  fields.record "Range"

/-- The JSON of a range. -/
def toJson (r : Range) : Json :=
  .record [("start", some r.start.toJson), ("end", some r.stop.toJson)]

end Range

/-- The JSON of a URI reference. -/
def Uri.toJson (u : Uri) : Json :=
  .str u.text

/-- A range of a document. -/
structure Location where
  uri : Uri
  range : Range
deriving DecidableEq

namespace Location

/-- The fields of a location. -/
def fields : Fields Location :=
  Location.mk <$> .required "uri" .uri <*> .required "range" Range.decode

/-- Decodes a location. -/
def decode : Decoder Location :=
  fields.record "Location"

/-- The JSON of a location. -/
def toJson (l : Location) : Json :=
  .record [("uri", some l.uri.toJson), ("range", some l.range.toJson)]

end Location

/-- A replacement of the text of a range. -/
structure TextEdit where
  range : Range
  newText : String
deriving DecidableEq, Repr

namespace TextEdit

/-- The fields of a text edit. -/
def fields : Fields TextEdit :=
  TextEdit.mk <$> .required "range" Range.decode <*> .required "newText" .string

/-- Decodes a text edit. -/
def decode : Decoder TextEdit :=
  fields.record "TextEdit"

/-- The JSON of a text edit. -/
def toJson (e : TextEdit) : Json :=
  .record [("range", some e.range.toJson), ("newText", some (.str e.newText))]

end TextEdit

end EditorBridge
