import EditorBridge.Proofs.CodeActions.Grouping
import EditorBridge.Proofs.Protocol.Members
import EditorBridge.Proofs.Protocol.RoundTrip
import Mathlib.Data.List.Forall2

/-!
# Where shown actions come from

An item decodes exactly if it has one of the forms of an offer (`Offer.decode_eq_ok_iff`), and a list
of items is decoded one by one (`Offer.decodeItems_eq_ok_iff`).

`itemsBehind items offers i` are the items of the server's list that stand behind what the offer at
the index `i` contributes: a deferred action stands behind the action that is shown for it, and all
those with one tag stand behind the composite of the tag.

Main statement: what is shown for an offer is made of the deferred actions that the items behind it
decode to, in their order (`contribution_origin`).
-/

namespace EditorBridge

/-- Lists that are related one by one are so at each index. -/
theorem exists_related {α β : Type} {R : α → β → Prop} {xs : List α} {ys : List β}
    (h : xs.Forall₂ R ys) {i : Nat} {x : α} (hx : xs[i]? = some x) :
    ∃ y, ys[i]? = some y ∧ R x y := by
  obtain ⟨hlt, rfl⟩ := List.getElem?_eq_some_iff.mp hx
  have hlt' : i < ys.length := by
    rw [← h.length_eq]
    exact hlt
  exact ⟨ys[i], List.getElem?_eq_getElem hlt', (List.forall₂_iff_get.mp h).2 i hlt hlt'⟩

/-! ### Items and offers -/

/-- The identifier of a deferred action as the server sent it; `null` when there is none. -/
def itemId (item : Json) : Json :=
  (item.get? "id").getD .null

/-- The title of an item as the server sent it. -/
def itemTitle (item : Json) : String :=
  match item.get? "title" with
  | some (.str title) => title
  | _ => ""

theorem located_ok {α : Type} {index : Nat} {result : Except DecodeError α} {x : α}
    (h : Offer.located index result = .ok x) : result = .ok x := by
  cases result with
  | ok y => cases h; rfl
  | error e => cases h

namespace Offer

/-- The forms that an item can have, with the offer that it is in each of them. -/
inductive IsOf : Json → Offer → Prop
  | command {members : List (String × Json)} {c : Command}
    (hcommand : hasString "command" (.obj members) = true)
    (hdecode : Command.decode .inPlace (.obj members) = .ok c) : IsOf (.obj members) (.command c)
  | action {members : List (String × Json)} {a : CodeAction}
    (hcommand : hasString "command" (.obj members) = false)
    (hmember : (hasMember "edit" (.obj members) || hasMember "command" (.obj members)) = true)
    (hdecode : CodeAction.decode .inPlace (.obj members) = .ok a) (hnone : a.command = none) :
    IsOf (.obj members) (.action a)
  | deferred {members : List (String × Json)} {a : DeferredAction}
    (hcommand : hasString "command" (.obj members) = false)
    (hmember : (hasMember "edit" (.obj members) || hasMember "command" (.obj members)) = false)
    (hdecode : DeferredAction.decode .inPlace (.obj members) = .ok a) :
    IsOf (.obj members) (.deferred a)

/-- An item that decodes has one of the forms, wherever it stands. -/
theorem isOf_of_decode {index : Nat} {item : Json} {offer : Offer}
    (h : decode index item = .ok offer) : IsOf item offer := by
  cases item with
  | obj members =>
    rw [decode] at h
    split_ifs at h with htitle
    rw [decodeTitled] at h
    split_ifs at h with hcommand hmember
    · obtain ⟨c, hread, rfl⟩ := exists_of_map_ok h
      exact .command hcommand (located_ok hread)
    · cases hread : located index (CodeAction.decode .inPlace (.obj members)) with
      | error violation => simp [hread] at h
      | ok a =>
        cases hnone : a.command with
        | some c => simp [hread, hnone] at h
        | none =>
          simp only [hread, hnone, Except.ok.injEq] at h
          exact h ▸ .action (by simpa using hcommand) hmember (located_ok hread) hnone
    · obtain ⟨a, hread, rfl⟩ := exists_of_map_ok h
      exact .deferred (by simpa using hcommand) (by simpa using hmember) (located_ok hread)
  | _ => cases h

theorem hasString_eq_true_iff {key : String} {ms : List (String × Json)} :
    hasString key (.obj ms) = true ↔ ∃ s, ms.lookup key = some (.str s) := by
  rw [hasString, Json.get?]
  cases ms.lookup key with
  | none => simp
  | some j => cases j <;> simp

/-- An object with a title is decoded by its other members. -/
theorem decode_of_title {index : Nat} {ms : List (String × Json)} {title : String}
    (h : ms.lookup "title" = some (.str title)) :
    decode index (.obj ms) = decodeTitled index (.obj ms) :=
  if_pos (hasString_eq_true_iff.mpr ⟨title, h⟩)

/-- An item that has one of the forms decodes to the offer that it is in that form. -/
theorem decode_of_isOf (index : Nat) {item : Json} {offer : Offer} (h : IsOf item offer) :
    decode index item = .ok offer := by
  cases h with
  | command hcommand hdecode =>
    obtain ⟨htitle, -, -⟩ := Command.decode_obj_eq_ok_iff.mp hdecode
    rw [decode_of_title htitle, decodeTitled, if_pos hcommand, hdecode]
    rfl
  | action hcommand hmember hdecode hnone =>
    obtain ⟨htitle, -, -⟩ := CodeAction.members_of_decode hdecode
    rw [decode_of_title htitle, decodeTitled, if_neg (by simp [hcommand]), if_pos hmember, hdecode]
    simp only [located, Except.mapError, hnone]
  | deferred hcommand hmember hdecode =>
    obtain ⟨htitle, -, -⟩ := DeferredAction.members_of_decode hdecode
    rw [decode_of_title htitle, decodeTitled, if_neg (by simp [hcommand]),
      if_neg (by simp [hmember]), hdecode]
    rfl

/-- The items that decode are those that have one of the forms. -/
theorem decode_eq_ok_iff {index : Nat} {item : Json} {offer : Offer} :
    decode index item = .ok offer ↔ IsOf item offer :=
  ⟨isOf_of_decode, decode_of_isOf index⟩

theorem decodeItems_cons_eq_ok_iff {start : Nat} {item : Json} {rest : List Json}
    {offers : List Offer} :
    decodeItems start (item :: rest) = .ok offers ↔
      ∃ offer more, decode start item = .ok offer ∧ decodeItems (start + 1) rest = .ok more ∧
        offers = offer :: more := by
  rw [decodeItems]
  cases decode start item with
  | error violation => simp
  | ok offer => cases decodeItems (start + 1) rest <;> simp [Except.map, eq_comm]

/-- Items are decoded one by one, each at its index. -/
theorem decodeItems_eq_ok_iff {start : Nat} {items : List Json} {offers : List Offer} :
    decodeItems start items = .ok offers ↔
      (items.zipIdx start).Forall₂ (fun x offer => decode x.2 x.1 = .ok offer) offers := by
  induction items generalizing start offers with
  | nil => simp [decodeItems, eq_comm]
  | cons item rest ih =>
    simp only [decodeItems_cons_eq_ok_iff, List.zipIdx_cons, List.forall₂_cons_left_iff, ih]

/-- Items that decode are of the forms of their offers. -/
theorem forall₂_of_decodeItems {start : Nat} {items : List Json} {offers : List Offer}
    (h : decodeItems start items = .ok offers) : items.Forall₂ IsOf offers := by
  have hindexed := decodeItems_eq_ok_iff.mp h
  rw [← List.zipIdx_map_fst start items, List.forall₂_map_left_iff]
  exact hindexed.imp fun _ _ hdecode => isOf_of_decode hdecode

/-! ### What an item has -/

theorem hasMember_of_hasString {key : String} {j : Json} (h : hasString key j = true) :
    hasMember key j = true := by
  rw [hasString] at h
  rw [hasMember]
  split at h
  · next s hs => rw [hs]; rfl
  · cases h

theorem hasMember_eq_true_iff {key : String} {ms : List (String × Json)} :
    hasMember key (.obj ms) = true ↔ (ms.lookup key).getD .null ≠ .null := by
  rw [hasMember, Json.get?]
  cases ms.lookup key with
  | none => simp
  | some j => cases j <;> simp [Json.isNull]

/-- A field that may be `null` is read as some value exactly from a member that is not. -/
theorem isSome_eq_hasMember {α : Type} {source : Source} {ms : List (String × Json)}
    {name : String} {decode : Decoder α} {x : Option α}
    (h : Decoder.nullable decode source ((ms.lookup name).getD .null) = .ok x) :
    x.isSome = hasMember name (.obj ms) := by
  rw [Bool.eq_iff_iff, hasMember_eq_true_iff]
  rcases Decoder.nullable_eq_ok_iff.mp h with ⟨hnull, rfl⟩ | ⟨hne, y, -, rfl⟩
  · simp [hnull]
  · simp [hne]

/-- A code action has the edit and the command of the object that it was read from. -/
theorem isSome_of_decode {source : Source} {ms : List (String × Json)} {a : CodeAction}
    (h : CodeAction.decode source (.obj ms) = .ok a) :
    a.edit.isSome = hasMember "edit" (.obj ms) ∧ a.command.isSome = hasMember "command" (.obj ms) := by
  obtain ⟨-, hedit, hcommand⟩ := CodeAction.members_of_decode h
  exact ⟨isSome_eq_hasMember hedit, isSome_eq_hasMember hcommand⟩

end Offer

/-- The deferred action has the title and the identifier that were sent with the item. -/
def DeferredAction.SentAs (item : Json) (a : DeferredAction) : Prop :=
  a.title = itemTitle item ∧ a.id = itemId item

theorem sentAs_of_isOf {item : Json} {a : DeferredAction} (h : Offer.IsOf item (.deferred a)) :
    a.SentAs item := by
  cases h with
  | deferred _ _ hdecode =>
    obtain ⟨htitle, -, hid⟩ := DeferredAction.members_of_decode hdecode
    refine ⟨?_, hid.symm⟩
    rw [itemTitle, Json.get?, htitle]

/-! ### Items behind what is shown -/

/-- The items that decode to a deferred action with the tag. -/
def itemsWithTag (tag : String) (items : List Json) (offers : List Offer) : List Json :=
  ((items.zip offers).filter fun x => x.2.tag? = some tag).map Prod.fst

/-- The items behind what the offer at an index contributes: its own alone if it has no tag, and all
those with its tag otherwise. -/
def itemsBehind (items : List Json) (offers : List Offer) (i : Nat) : List Json :=
  match offers[i]? with
  | some (.deferred a) =>
    match a.group with
    | none => items[i]?.toList
    | some tag => itemsWithTag tag items offers
  | _ => []

theorem forall₂_itemsWithTag {items : List Json} {offers : List Offer}
    (h : items.Forall₂ Offer.IsOf offers) (tag : String) :
    (itemsWithTag tag items offers).Forall₂ (fun item a => a.SentAs item) (tagged tag offers) := by
  induction h with
  | nil => exact .nil
  | @cons item offer items offers hitem _ ih =>
    have hsplit : tagged tag (offer :: offers) = tagged tag [offer] ++ tagged tag offers :=
      tagged_append tag [offer] offers
    rw [itemsWithTag, List.zip_cons_cons, List.filter_cons, hsplit]
    by_cases htag : offer.tag? = some tag
    · obtain ⟨a, rfl, hgroup⟩ := eq_deferred_of_tag? htag
      rw [if_pos (decide_eq_true htag), tagged_singleton_deferred hgroup]
      exact .cons (sentAs_of_isOf hitem) ih
    · rw [if_neg (by simpa using htag), tagged_singleton_of_tag?_ne htag]
      exact ih

/-- The shown action stands for the deferred actions: it is a single one itself, or the composite of
several. -/
inductive StandsFor (params : CodeActionParams) : DisplayAction → List DeferredAction → Prop
  | one (a : DeferredAction) : StandsFor params (a.display params) [a]
  | several (tag : String) (kind : Option String) {members : List DeferredAction}
    (hlength : 2 ≤ members.length) :
    StandsFor params (composite params tag kind members) members

/-- What is shown for an offer stands for the deferred actions that the items behind it decode to,
in their order. -/
theorem contribution_origin {params : CodeActionParams} {items : List Json} {offers : List Offer}
    (h : items.Forall₂ Offer.IsOf offers) {i : Nat} {action : DisplayAction}
    (hshown : contribution params offers i = some action)
    (hbehind : itemsBehind items offers i ≠ []) :
    ∃ members, (itemsBehind items offers i).Forall₂ (fun item a => a.SentAs item) members ∧
      StandsFor params action members := by
  rw [itemsBehind] at hbehind ⊢
  rw [contribution] at hshown
  cases hi : offers[i]? with
  | none => simp [hi] at hshown
  | some offer =>
    cases offer with
    | action => simp [hi] at hbehind
    | command => simp [hi] at hbehind
    | deferred a =>
      cases hgroup : a.group with
      | none =>
        have hflip : offers.Forall₂ (flip Offer.IsOf) items := h.flip
        obtain ⟨item, hitem, hof⟩ := exists_related hflip hi
        simp only [hi, hgroup, Option.some.injEq] at hshown
        simp only [hgroup, hitem, Option.toList_some]
        exact ⟨[a], .cons (sentAs_of_isOf hof) .nil, hshown ▸ .one a⟩
      | some tag =>
        simp only [hi, hgroup] at hshown
        simp only [hgroup]
        refine ⟨tagged tag offers, forall₂_itemsWithTag h tag, ?_⟩
        split_ifs at hshown with hfirst hlater
        · -- More with the tag follow.
          obtain ⟨b, rest, hrest⟩ := List.exists_cons_of_ne_nil (tagged_ne_nil hlater)
          have hlength : 2 ≤ (tagged tag offers).length := by
            rw [tagged_eq_cons hi hgroup hfirst, hrest]
            simp
          cases hshown
          exact .several tag a.kind hlength
        · have hsingle : tagged tag offers = [a] := by
            rw [tagged_eq_cons hi hgroup hfirst, tagged_eq_nil hlater]
          cases hshown
          rw [hsingle]
          exact .one a

end EditorBridge
