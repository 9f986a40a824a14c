import EditorBridge.Protocol.Position

/-!
# Diagnostics

What a server reports about a range of a document.  Severities and tags are kept as the numbers
they are written by, known or not.
-/

namespace EditorBridge

/-- A number or a string, as it is used for codes and tokens. -/
inductive NumberOrString where
  | number (i : Int32)
  | string (s : String)
deriving DecidableEq, Repr

namespace NumberOrString

/-- Decodes a number or a string. -/
def decode : Decoder NumberOrString :=
  .firstOf "NumberOrString" [
    fun source j => (Decoder.int32 source j).map number,
    fun source j => (Decoder.string source j).map string]

/-- The JSON of a number or a string. -/
def toJson : NumberOrString → Json
  | .number i => .ofInt32 i
  | .string s => .str s

end NumberOrString

/-- Where a diagnostic's code is explained. -/
structure CodeDescription where
  href : Uri
deriving DecidableEq

namespace CodeDescription

/-- Decodes a code description. -/
def decode : Decoder CodeDescription :=
  (CodeDescription.mk <$> .required "href" .uri : Fields _).record "CodeDescription"

/-- The JSON of a code description. -/
def toJson (d : CodeDescription) : Json :=
  .record [("href", some d.href.toJson)]

end CodeDescription

/-- Another place that has to do with a diagnostic. -/
structure RelatedInformation where
  location : Location
  message : String
deriving DecidableEq

namespace RelatedInformation

/-- The fields of related information. -/
def fields : Fields RelatedInformation :=
  RelatedInformation.mk <$> .required "location" Location.decode <*> .required "message" .string

/-- Decodes related information. -/
def decode : Decoder RelatedInformation :=
  fields.record "DiagnosticRelatedInformation"

/-- The JSON of related information. -/
def toJson (r : RelatedInformation) : Json :=
  .record [("location", some r.location.toJson), ("message", some (.str r.message))]

end RelatedInformation

/-- A diagnostic.  `data` is whatever the server keeps with it, `null` for nothing. -/
structure Diagnostic where
  range : Range
  severity : Option Int32
  code : Option NumberOrString
  codeDescription : Option CodeDescription
  source : Option String
  message : String
  relatedInformation : Option (List RelatedInformation)
  tags : Option (List Int32)
  data : Json
deriving DecidableEq

namespace Diagnostic

/-- The fields of a diagnostic. -/
def fields : Fields Diagnostic :=
  Diagnostic.mk <$> .required "range" Range.decode
    <*> .optional "severity" .int32
    <*> .optional "code" NumberOrString.decode
    <*> .optional "codeDescription" CodeDescription.decode
    <*> .optional "source" .string
    <*> .required "message" .string
    <*> .optional "relatedInformation" (.list RelatedInformation.decode)
    <*> .optional "tags" (.list .int32)
    <*> .value "data"

/-- Decodes a diagnostic. -/
def decode : Decoder Diagnostic :=
  fields.record "Diagnostic"

/-- The JSON of a diagnostic. -/
def toJson (d : Diagnostic) : Json :=
  .record [
    ("range", some d.range.toJson),
    ("severity", d.severity.map .ofInt32),
    ("code", d.code.map NumberOrString.toJson),
    ("codeDescription", d.codeDescription.map CodeDescription.toJson),
    ("source", d.source.map .str),
    ("message", some (.str d.message)),
    ("relatedInformation", d.relatedInformation.map (.ofList RelatedInformation.toJson)),
    ("tags", d.tags.map (.ofList .ofInt32)),
    ("data", d.data.unlessNull)]

end Diagnostic

end EditorBridge
