import EditorBridge.Proofs.CodeActions.Origins

/-!
# What is accepted of a list of items

An item is judged on its own (`Offer.Verdict`): what is no object is refused for that, an object
without a title for that, and only then its other members count.  A list is accepted if every item
is, and otherwise refused for the first item that is not (`Offer.decodeItems_eq_error_iff`).

Main statement: what the answer to a request for code actions decodes to, in every case
(`Offer.decodeResult_verdict`).
-/

namespace EditorBridge.Offer

/-! ### Items -/

/-- What an item is decoded to at an index: a violation that names the index or the item's title, or
an offer with the members of the item.  A member that is `null` counts as none. -/
inductive Verdict (index : Nat) : Json → Except Violation Offer → Prop
  | notAnObject {item : Json} (hitem : ∀ members, item ≠ .obj members) :
    Verdict index item (.error (.notAnObject index))
  | missingTitle {members : List (String × Json)}
    (htitle : ∀ title, members.lookup "title" ≠ some (.str title)) :
    Verdict index (.obj members) (.error (.missingTitle index))
  | malformed {members : List (String × Json)} {title : String} {error : DecodeError}
    (htitle : members.lookup "title" = some (.str title)) :
    Verdict index (.obj members) (.error (.malformed index error))
  | commandInAction {members : List (String × Json)} {title : String}
    (htitle : members.lookup "title" = some (.str title))
    (hcommand : hasMember "command" (.obj members) = true)
    (hstring : hasString "command" (.obj members) = false) :
    Verdict index (.obj members) (.error (.commandInAction title))
  | command {members : List (String × Json)} {c : Command}
    (htitle : members.lookup "title" = some (.str c.title))
    (hcommand : members.lookup "command" = some (.str c.command)) :
    Verdict index (.obj members) (.ok (.command c))
  | action {members : List (String × Json)} {a : CodeAction} {edit : WorkspaceEdit}
    (htitle : members.lookup "title" = some (.str a.title))
    (hedit : hasMember "edit" (.obj members) = true)
    (hread : WorkspaceEdit.decode .inPlace ((members.lookup "edit").getD .null) = .ok edit)
    (hkept : a.edit = some edit)
    (hcommand : hasMember "command" (.obj members) = false) (hnone : a.command = none) :
    Verdict index (.obj members) (.ok (.action a))
  | deferred {members : List (String × Json)} {a : DeferredAction}
    (htitle : members.lookup "title" = some (.str a.title))
    (hedit : hasMember "edit" (.obj members) = false)
    (hcommand : hasMember "command" (.obj members) = false)
    (hgroup : (members.lookup "group").getD .null = (a.group.map .str).getD .null)
    (hid : (members.lookup "id").getD .null = a.id) :
    Verdict index (.obj members) (.ok (.deferred a))

/-- An accepted item is of the form of its offer, and has what the offer holds. -/
theorem IsOf.verdict (index : Nat) {item : Json} {offer : Offer} (h : IsOf item offer) :
    Verdict index item (.ok offer) := by
  cases h with
  | command _ hdecode =>
    obtain ⟨htitle, hcommand, -⟩ := Command.decode_obj_eq_ok_iff.mp hdecode
    exact .command htitle hcommand
  | action _ hmember hdecode hnone =>
    obtain ⟨htitle, hedit, hread⟩ := CodeAction.members_of_decode hdecode
    have hcommand := isSome_eq_hasMember hread
    rw [hnone, Option.isSome_none] at hcommand
    -- Without a command it is the edit that makes the item an action.
    rw [← hcommand, Bool.or_false] at hmember
    rcases Decoder.nullable_eq_ok_iff.mp hedit with ⟨hnull, -⟩ | ⟨-, edit, hdecodeEdit, hkept⟩
    · exact absurd hnull (hasMember_eq_true_iff.mp hmember)
    · exact .action htitle hmember hdecodeEdit hkept hcommand.symm hnone
  | deferred _ hmember hdecode =>
    obtain ⟨htitle, hgroup, hid⟩ := DeferredAction.members_of_decode hdecode
    obtain ⟨hedit, hcommand⟩ := Bool.or_eq_false_iff.mp hmember
    exact .deferred htitle hedit hcommand hgroup hid

theorem eq_malformed_of_located {α β : Type} {index : Nat} {result : Except DecodeError α}
    {f : α → β} {violation : Violation} (h : (located index result).map f = .error violation) :
    ∃ error, violation = .malformed index error := by
  cases result with
  | error error =>
    cases h
    exact ⟨error, rfl⟩
  | ok x => cases h

/-- With a title, an item is refused for its form only. -/
theorem verdict_of_title (index : Nat) {members : List (String × Json)} {title : String}
    (htitle : members.lookup "title" = some (.str title)) {violation : Violation}
    (h : decodeTitled index (.obj members) = .error violation) :
    Verdict index (.obj members) (.error violation) := by
  rw [decodeTitled] at h
  split_ifs at h with hstring hmember
  · obtain ⟨error, rfl⟩ := eq_malformed_of_located h
    exact .malformed htitle
  · cases hdecode : CodeAction.decode .inPlace (.obj members) with
    | error error =>
      rw [hdecode] at h
      cases h
      exact .malformed htitle
    | ok a =>
      obtain ⟨hsent, -, hread⟩ := CodeAction.members_of_decode hdecode
      have hcommand := isSome_eq_hasMember hread
      cases hsome : a.command with
      | none => simp [hdecode, located, Except.mapError, hsome] at h
      | some c =>
        simp only [hdecode, located, Except.mapError, hsome, Except.error.injEq] at h
        rw [hsome, Option.isSome_some] at hcommand
        exact h ▸ .commandInAction hsent hcommand.symm (by simpa using hstring)
  · obtain ⟨error, rfl⟩ := eq_malformed_of_located h
    exact .malformed htitle

/-- Every item is accepted or refused for what it is itself. -/
theorem verdict_decode (index : Nat) (item : Json) : Verdict index item (decode index item) := by
  cases hdecode : decode index item with
  | ok offer => exact (isOf_of_decode hdecode).verdict index
  | error violation =>
    cases item with
    | obj members =>
      by_cases htitle : ∃ title, members.lookup "title" = some (.str title)
      · obtain ⟨title, htitle⟩ := htitle
        rw [decode_of_title htitle] at hdecode
        exact verdict_of_title index htitle hdecode
      · rw [decode, if_neg (mt hasString_eq_true_iff.mp htitle)] at hdecode
        cases hdecode
        exact .missingTitle fun title h => htitle ⟨title, h⟩
    | _ =>
      cases hdecode
      exact .notAnObject fun members => Json.noConfusion

/-! ### Lists -/

theorem decodeItems_cons_eq_error_iff {start : Nat} {item : Json} {rest : List Json}
    {violation : Violation} :
    decodeItems start (item :: rest) = .error violation ↔
      decode start item = .error violation ∨
        (∃ offer, decode start item = .ok offer) ∧
          decodeItems (start + 1) rest = .error violation := by
  rw [decodeItems]
  cases decode start item with
  | error v => simp
  | ok offer => cases decodeItems (start + 1) rest <;> simp [Except.map]

/-- A first element for which `Q` holds, where `P` holds for those before it, is the head or such an
element of the tail. -/
theorem exists_first_cons_iff {α : Type} {P Q : α → Prop} {x : α} {xs : List α} :
    (∃ before y after, x :: xs = before ++ y :: after ∧ (∀ z ∈ before, P z) ∧ Q y) ↔
      Q x ∨ P x ∧ ∃ before y after, xs = before ++ y :: after ∧ (∀ z ∈ before, P z) ∧ Q y := by
  constructor
  · rintro ⟨before, y, after, hsplit, hbefore, hy⟩
    cases before with
    | nil =>
      obtain ⟨rfl, -⟩ := List.cons.inj hsplit
      exact .inl hy
    | cons z before =>
      obtain ⟨rfl, htail⟩ := List.cons.inj hsplit
      obtain ⟨hx, hmore⟩ := List.forall_mem_cons.mp hbefore
      exact .inr ⟨hx, before, y, after, htail, hmore, hy⟩
  · rintro (hx | ⟨hx, before, y, after, htail, hbefore, hy⟩)
    · exact ⟨[], x, xs, rfl, by simp, hx⟩
    · exact ⟨x :: before, y, after, congrArg _ htail, List.forall_mem_cons.mpr ⟨hx, hbefore⟩, hy⟩

/-- Items are refused for the first that is refused, with its violation. -/
theorem decodeItems_eq_error_iff {start : Nat} {items : List Json} {violation : Violation} :
    decodeItems start items = .error violation ↔
      ∃ before item index after, items.zipIdx start = before ++ (item, index) :: after ∧
        (∀ x ∈ before, ∃ offer, decode x.2 x.1 = .ok offer) ∧
        decode index item = .error violation := by
  -- An item and its index are taken as one element.
  suffices decodeItems start items = .error violation ↔
      ∃ before x after, items.zipIdx start = before ++ x :: after ∧
        (∀ x ∈ before, ∃ offer, decode x.2 x.1 = .ok offer) ∧
        decode x.2 x.1 = .error violation by
    simpa only [Prod.exists] using this
  induction items generalizing start with
  | nil => simp [decodeItems]
  | cons item rest ih =>
    rw [decodeItems_cons_eq_error_iff, List.zipIdx_cons, exists_first_cons_iff, ih]

theorem decode_ne_notAList {index : Nat} {item : Json} (kind : String) :
    decode index item ≠ .error (.notAList kind) := by
  intro h
  have hverdict := verdict_decode index item
  rw [h] at hverdict
  cases hverdict

theorem decodeItems_ne_notAList {start : Nat} {items : List Json} (kind : String) :
    decodeItems start items ≠ .error (.notAList kind) := by
  intro h
  obtain ⟨before, item, index, after, -, -, hrefused⟩ := decodeItems_eq_error_iff.mp h
  exact decode_ne_notAList kind hrefused

/-- **What is accepted.**  No answer and `null` give no list, and what is no list is refused with
its kind.  A list is accepted exactly if each item is at its index, and then gives the offers of the
items, in their order; otherwise it is refused for the first item that is refused, with the
violation of that item.  The items that are accepted are those of one of the forms, and each item is
decoded by its own members. -/
theorem decodeResult_verdict :
    (∀ answer, decodeResult answer = .ok none ↔ answer = none ∨ answer = some .null) ∧
    (∀ answer kind, decodeResult answer = .error (.notAList kind) ↔
      ∃ j, answer = some j ∧ j ≠ .null ∧ (∀ items, j ≠ .arr items) ∧ j.kind = kind) ∧
    (∀ items offers, decodeResult (some (.arr items)) = .ok (some offers) ↔
      items.zipIdx.Forall₂ (fun x offer => decode x.2 x.1 = .ok offer) offers) ∧
    (∀ items violation, decodeResult (some (.arr items)) = .error violation ↔
      ∃ before item index after, items.zipIdx = before ++ (item, index) :: after ∧
        (∀ x ∈ before, ∃ offer, decode x.2 x.1 = .ok offer) ∧
        decode index item = .error violation) ∧
    (∀ index item offer, decode index item = .ok offer ↔ IsOf item offer) ∧
    ∀ index item, Verdict index item (decode index item) := by
  have hlist (items : List Json) :
      decodeResult (some (.arr items)) = (decodeItems 0 items).map some := rfl
  refine ⟨fun answer => ?_, fun answer kind => ?_, fun items offers => ?_,
    fun items violation => ?_, fun index item offer => decode_eq_ok_iff, verdict_decode⟩
  · rcases answer with _ | j
    · simp [decodeResult]
    · cases j with
      | arr items =>
        rw [hlist]
        cases decodeItems 0 items <;> simp [Except.map]
      | _ => simp [decodeResult]
  · rcases answer with _ | j
    · simp [decodeResult]
    · cases j with
      | arr items =>
        have hno : decodeItems 0 items ≠ .error (.notAList kind) := decodeItems_ne_notAList kind
        rw [hlist]
        cases hitems : decodeItems 0 items with
        | ok offers => simp [Except.map]
        | error violation =>
          rw [hitems] at hno
          simpa [Except.map] using hno
      | _ => simp [decodeResult]
  · rw [hlist, ← decodeItems_eq_ok_iff]
    cases decodeItems 0 items <;> simp [Except.map]
  · rw [hlist, ← decodeItems_eq_error_iff]
    cases decodeItems 0 items <;> simp [Except.map]

example : decodeResult (some (.arr [.obj [("title", .str "A")], .str "B", .obj []])) =
    .error (.notAnObject 1) := rfl

end EditorBridge.Offer
