import EditorBridge.CodeActions.Display

/-!
# Grouping of deferred actions

A server's list is shown in its order.  A deferred action becomes one whose command asks for its
edit.  Deferred actions with one tag share one place, that of the first of them: a single one is
shown as it is, several become one action whose command lets the user pick among them.

The list is walked once (`Slots.add`).  A tag that is met for the first time reserves an empty
slot, and its members are collected beside the slots, in the order of the tags; at the end each
tag's members are collapsed into its slot (`Slots.fill`).
-/

namespace EditorBridge

/-- The command that asks for the edit of a deferred action. -/
def resolveCommand : String := "tether.resolveCodeAction"

/-- The command that lets the user pick a member of a group. -/
def applyGroupCommand : String := "tether.applyActionGroup"

namespace DeferredAction

/-- The argument of the command that asks for the edit. -/
def resolveParams (params : CodeActionParams) (a : DeferredAction) : ResolveParams :=
  ⟨a.id, params⟩

/-- A deferred action as it is shown: its command asks for its edit. -/
def display (params : CodeActionParams) (a : DeferredAction) : DisplayAction :=
  { DisplayAction.withCommand a.title a.kind
      ⟨a.title, resolveCommand, some [(a.resolveParams params).toJson]⟩ with
    diagnostics := a.diagnostics.getD [] }

end DeferredAction

namespace DisplayAction

/-- The entry of an action in the list of its group. -/
def groupEntry (a : DisplayAction) : GroupEntry :=
  ⟨a.title, a.firstArgument?.getD .null⟩

/-- The one action for the members of a group: none for no member, the member itself for one, and
for several one that lets the user pick. -/
def collapse? (tag : String) : List DisplayAction → Option DisplayAction
  | [] => none
  | [single] => some single
  | first :: second :: rest =>
    some (withCommand tag first.kind
      ⟨tag, applyGroupCommand,
        some [.ofList GroupEntry.toJson ((first :: second :: rest).map groupEntry)]⟩)

end DisplayAction

/-- The members of a tag so far, and the slot that they are to fill. -/
structure TagGroup where
  tag : String
  slot : Nat
  members : List DisplayAction
deriving DecidableEq

/-- The slots of the list that is shown, with the groups that have a slot reserved, by first
appearance of their tags. -/
structure Slots where
  shown : List (Option DisplayAction)
  groups : List TagGroup
deriving DecidableEq

namespace Slots

/-- No slots. -/
def empty : Slots :=
  ⟨[], []⟩

/-- Adds an action at the end. -/
def push (s : Slots) (a : DisplayAction) : Slots :=
  { s with shown := s.shown ++ [some a] }

/-- Adds a member to the group with a tag. -/
def addMember (tag : String) (a : DisplayAction) : List TagGroup → List TagGroup
  | [] => []
  | g :: rest =>
    if g.tag = tag then { g with members := g.members ++ [a] } :: rest
    else g :: addMember tag a rest

/-- Whether a tag has a group. -/
def hasTag (s : Slots) (tag : String) : Bool :=
  s.groups.any fun g => g.tag = tag

/-- Adds a member of a tag: to the tag's group, or to a new one with a slot at the end. -/
def pushTagged (s : Slots) (tag : String) (a : DisplayAction) : Slots :=
  if s.hasTag tag then { s with groups := addMember tag a s.groups }
  else ⟨s.shown ++ [none], s.groups ++ [⟨tag, s.shown.length, [a]⟩]⟩

/-- Adds an offer. -/
def add (params : CodeActionParams) (s : Slots) : Offer → Slots
  | .action a => s.push (.ofAction a)
  | .command c => s.push (.ofCommand c)
  | .deferred a =>
    match a.group with
    | some tag => s.pushTagged tag (a.display params)
    | none => s.push (a.display params)

/-- The slots after a list of offers. -/
def ofOffers (params : CodeActionParams) (offers : List Offer) : Slots :=
  offers.foldl (add params) empty

/-- The slots with each group collapsed into its own. -/
def fill (s : Slots) : List (Option DisplayAction) :=
  s.groups.foldl (fun shown g => shown.set g.slot (DisplayAction.collapse? g.tag g.members)) s.shown

/-- The actions that are shown in the end. -/
def actions (s : Slots) : List DisplayAction :=
  s.fill.filterMap id

end Slots

/-- The actions that are shown for a server's list, which answered the request `params`. -/
def groupOffers (params : CodeActionParams) (offers : List Offer) : List DisplayAction :=
  (Slots.ofOffers params offers).actions

/-- How many tags there are among a server's list. -/
def groupCount (params : CodeActionParams) (offers : List Offer) : Nat :=
  (Slots.ofOffers params offers).groups.length

end EditorBridge
