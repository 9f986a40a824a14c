import EditorBridge.Protocol.Handshake
import EditorBridge.Settings.Basic

/-!
# Announcement of features

The client tells the server which features it handles: a boolean for each among its experimental
capabilities.  The host may have put members of its own there; they are kept unless they are named
like a feature, and anything but an object is replaced.
-/

namespace EditorBridge.FeatureSwitches

/-- The features as members of an object, by key. -/
def flags (switches : FeatureSwitches) : List (String × Json) :=
  Json.sortMembers switches.members

/-- The experimental capabilities with the features among them. -/
def mergeInto (switches : FeatureSwitches) : Json → Json
  | .obj members =>
    .obj (switches.flags.foldl (fun ms flag => Json.insertMember flag.1 flag.2 ms) members)
  | _ => .obj switches.flags

/-- The capabilities with the features announced. -/
def announce (switches : FeatureSwitches) (capabilities : ClientCapabilities) :
    ClientCapabilities :=
  { capabilities with experimental := switches.mergeInto capabilities.experimental }

end EditorBridge.FeatureSwitches
