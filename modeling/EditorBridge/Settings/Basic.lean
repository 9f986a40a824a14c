import EditorBridge.Json.Reader
import EditorBridge.Settings.LogFormat

/-!
# Client settings

An editor delivers settings as a JSON object, by value (`Settings.ofJson`) or as text
(`Settings.ofText`).  A key that is not there has a default, so the empty object and `null` are
settings; a key that is there must hold a value of its type.
-/

namespace EditorBridge

/-- Settings of hovers. -/
structure HoverSettings where
  /-- The language whose code blocks may run commands. -/
  trustedLanguage : String
deriving DecidableEq, Repr

namespace HoverSettings

/-- The language that is trusted if the settings name none. -/
def defaultTrustedLanguage : String := "rust"

/-- The settings of hovers where nothing is set. -/
def default : HoverSettings :=
  ⟨defaultTrustedLanguage⟩

/-- The fields of the settings of hovers. -/
def fields : Fields HoverSettings :=
  HoverSettings.mk <$> .withDefault "trustedLanguage" .string defaultTrustedLanguage

/-- Decodes the settings of hovers. -/
def decode : Decoder HoverSettings :=
  fields.record "HoverSettings"

/-- The JSON of the settings of hovers. -/
def toJson (h : HoverSettings) : Json :=
  .record [("trustedLanguage", some (.str h.trustedLanguage))]

end HoverSettings

/-- The settings of a client. -/
structure Settings where
  logFilter : String
  logFormat : LogFormat
  experimental : FeatureSwitches
  hover : HoverSettings
deriving DecidableEq, Repr

/-- Why settings do not load. -/
inductive SettingsError where
  | notAnObject (kind : String)
  | malformedText (error : Json.SyntaxError)
  | malformed (error : DecodeError)
deriving DecidableEq, Repr

/-- The words for a settings error. -/
def SettingsError.message : SettingsError → String
  | .notAnObject kind => "client settings must be a JSON object, got " ++ kind
  | .malformedText error => "invalid client settings: " ++ error.message
  | .malformed error => "invalid client settings: " ++ error.message

namespace Settings

/-- The log filter if the settings name none. -/
def defaultLogFilter : String := "info"

/-- The log format if the settings name none. -/
def defaultLogFormat : LogFormat := .json

/-- The settings where nothing is set. -/
def default : Settings :=
  ⟨defaultLogFilter, defaultLogFormat, .allOn, .default⟩

/-- The fields of the settings. -/
def fields : Fields Settings :=
  Settings.mk <$> .withDefault "logFilter" .string defaultLogFilter
    <*> .withDefault "logFormat" LogFormat.decode defaultLogFormat
    <*> .withDefault "experimental" FeatureSwitches.decode .allOn
    <*> .withDefault "hover" HoverSettings.decode .default

/-- Decodes the settings. -/
def decode : Decoder Settings :=
  fields.record "Config"

/-- The JSON of the settings. -/
def toJson (s : Settings) : Json :=
  .record [
    ("logFilter", some (.str s.logFilter)),
    ("logFormat", some s.logFormat.toJson),
    ("experimental", some s.experimental.toJson),
    ("hover", some s.hover.toJson)]

/-- The settings that a JSON value holds. -/
def ofJson : Json → Except SettingsError Settings
  | .null => .ok default
  | .obj ms => (decode .inPlace (.obj ms)).mapError .malformed
  | j => .error (.notAnObject j.kind)

/-- The settings that a JSON text holds. -/
def ofText (text : String) : Except SettingsError Settings :=
  match Json.read text with
  | .ok j => ofJson j
  | .error e => .error (.malformedText e)

/-- Whether a feature is on. -/
def isEnabled (s : Settings) (feature : Feature) : Bool :=
  s.experimental.isEnabled feature

/-- The settings with the switch of a feature set. -/
def withFeature (s : Settings) (feature : Feature) (enabled : Bool) : Settings :=
  { s with experimental := s.experimental.set feature enabled }

end Settings

end EditorBridge
