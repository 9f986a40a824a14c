import EditorBridge.Decode.Fields

/-!
# Experimental features

The extensions of the protocol that the client can announce, and a switch for each of them.
-/

namespace EditorBridge

/-- Whether two texts are equal up to the case of ASCII letters. -/
def sameIgnoringCase (s t : String) : Bool :=
  s.toList.map Char.toLower == t.toList.map Char.toLower

/-- The first name that a text is, up to the case of ASCII letters, and what it stands for. -/
def lookupIgnoringCase {α : Type} (names : List (String × α)) (s : String) : Option α :=
  (names.find? fun entry => sameIgnoringCase entry.1 s).map (·.2)

/-- An extension of the protocol. -/
inductive Feature where
  | snippetTextEdit
  | codeActionGroup
  | resolveCodeAction
  | hoverActions
deriving DecidableEq, Repr

namespace Feature

/-- Every feature. -/
def all : List Feature :=
  [snippetTextEdit, codeActionGroup, resolveCodeAction, hoverActions]

/-- The key of a feature in settings and capabilities. -/
def key : Feature → String
  | snippetTextEdit => "snippetTextEdit"
  | codeActionGroup => "codeActionGroup"
  | resolveCodeAction => "resolveCodeAction"
  | hoverActions => "hoverActions"

theorem mem_all (feature : Feature) : feature ∈ all := by
  cases feature <;> decide

/-- No two features have the same key. -/
theorem nodup_keys : (all.map key).Nodup := by decide

/-- The features by their keys. -/
def names : List (String × Feature) :=
  all.map fun feature => (feature.key, feature)

/-- The feature with a key, in any case. -/
def ofName? (s : String) : Option Feature :=
  lookupIgnoringCase names s

/-- Decodes a feature by its key. -/
def decode : Decoder Feature :=
  .variant names

/-- The JSON of a feature. -/
def toJson (feature : Feature) : Json :=
  .str feature.key

end Feature

/-- A switch for each feature. -/
structure FeatureSwitches where
  snippetTextEdit : Bool
  codeActionGroup : Bool
  resolveCodeAction : Bool
  hoverActions : Bool
deriving DecidableEq, Repr

namespace FeatureSwitches

/-- All features on. -/
def allOn : FeatureSwitches :=
  ⟨true, true, true, true⟩

/-- The switch of a feature. -/
def isEnabled (switches : FeatureSwitches) : Feature → Bool
  | .snippetTextEdit => switches.snippetTextEdit
  | .codeActionGroup => switches.codeActionGroup
  | .resolveCodeAction => switches.resolveCodeAction
  | .hoverActions => switches.hoverActions

/-- The switches with the one of a feature set. -/
def set (switches : FeatureSwitches) (feature : Feature) (enabled : Bool) : FeatureSwitches :=
  match feature with
  | .snippetTextEdit => { switches with snippetTextEdit := enabled }
  | .codeActionGroup => { switches with codeActionGroup := enabled }
  | .resolveCodeAction => { switches with resolveCodeAction := enabled }
  | .hoverActions => { switches with hoverActions := enabled }

/-- A switch that has been set reads as it was set, and the others as before. -/
theorem isEnabled_set (switches : FeatureSwitches) (f g : Feature) (enabled : Bool) :
    (switches.set f enabled).isEnabled g = if f = g then enabled else switches.isEnabled g := by
  cases f <;> cases g <;> rfl

/-- The fields of the switches; one that is not there is on. -/
def fields : Fields FeatureSwitches :=
  FeatureSwitches.mk <$> .withDefault "snippetTextEdit" .bool true
    <*> .withDefault "codeActionGroup" .bool true
    <*> .withDefault "resolveCodeAction" .bool true
    <*> .withDefault "hoverActions" .bool true

/-- Decodes the switches. -/
def decode : Decoder FeatureSwitches :=
  fields.record "ExperimentalFeatures"

/-- The members of the switches' JSON: the key of each feature with its switch. -/
def members (switches : FeatureSwitches) : List (String × Json) :=
  Feature.all.map fun feature => (feature.key, .bool (switches.isEnabled feature))

/-- The JSON of the switches. -/
def toJson (switches : FeatureSwitches) : Json :=
  .ofMembers switches.members

end FeatureSwitches

end EditorBridge
