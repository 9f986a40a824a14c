import EditorBridge.Proofs.Protocol.Members
import EditorBridge.Proofs.Protocol.RoundTrip
import EditorBridge.Protocol.Hover

/-!
# Hovers that are read again

Links and groups of links invert what is written for them.  The contents of a hover do not: a list
of two texts would be read as one code block (`HoverContents.decode_toJson_iff`).  But such a list
is never what was read, for the same reason (`HoverContents.ne_two_texts`), so contents that were
read are read again.

Main statement: of the messages beside the plain protocol, each that was read is read again from
what is written for it (`extensions_reread`).
-/

namespace EditorBridge

open Fields (Reads)

/-- What was read is read again, as the same, from what is written for it. -/
def Decoder.Rereads {α : Type} (decode : Decoder α) (toJson : α → Json) : Prop :=
  ∀ source j x, decode source j = .ok x → decode source (toJson x) = .ok x

theorem Decoder.Inverts.rereads {α : Type} {decode : Decoder α} {toJson : α → Json}
    (h : decode.Inverts toJson) : decode.Rereads toJson :=
  fun source _ x _ => h.decode_toJson source x

/-! ### Command links -/

theorem CommandLink.inverts : CommandLink.decode.Inverts CommandLink.toJson := by
  refine Reads.inverts (fun ⟨title, command, tooltip, arguments⟩ => ?_) fun _ => by simp
  refine .seq (.seq (.seq (.map ?_) ?_) ?_) ?_
  · exact .required Decoder.inverts_string (by simp)
  · exact .required Decoder.inverts_string (by simp)
  · exact .omissible Decoder.inverts_string (by simp)
  · exact .withDefault Decoder.inverts_values (by simp)

theorem CommandLinkGroup.inverts : CommandLinkGroup.decode.Inverts CommandLinkGroup.toJson := by
  refine Reads.inverts (fun ⟨title, commands⟩ => ?_) fun _ => by simp
  refine .seq (.map ?_) ?_
  · exact .omissible Decoder.inverts_string (by simp)
  · exact .withDefault CommandLink.inverts.list (by simp)

/-! ### Marked strings -/

namespace MarkedString

/-- The JSON values that a piece of hover text is written as: a string, or an object with a language
and a value. -/
inductive Writes : Json → MarkedString → Prop
  | text (value : String) : Writes (.str value) (.text value)
  | code {ms : List (String × Json)} {language value : String}
    (hlanguage : ms.lookup "language" = some (.str language))
    (hvalue : ms.lookup "value" = some (.str value)) : Writes (.obj ms) (.code language value)

theorem decode_of_writes {j : Json} {m : MarkedString} (h : Writes j m) (source : Source) :
    decode source j = .ok m := by
  cases h with
  | text value => rfl
  | @code ms language value hlanguage hvalue =>
    have hread : codeFields.ofMembers .gathered ms = .ok (.code language value) := by
      simp only [codeFields, Fields.ofMembers_eq_ok_iff, Fields.fromMembers_seq_eq_ok_iff,
        Fields.fromMembers_map_eq_ok_iff, Fields.fromMembers_required_string]
      exact ⟨_, _, ⟨_, hlanguage, rfl⟩, hvalue, rfl⟩
    rw [decode, Decoder.firstOf_cons_error rfl]
    exact Decoder.firstOf_cons_ok hread source

theorem writes_toJson (m : MarkedString) : Writes m.toJson m := by
  cases m with
  | text value => exact .text value
  | code language value =>
    exact .code (Json.lookup_members (by simp) (by simp)) (Json.lookup_members (by simp) (by simp))

theorem inverts : decode.Inverts toJson where
  decode_toJson source m := decode_of_writes (writes_toJson m) source
  toJson_ne_null m := by cases m <;> exact Json.noConfusion

/-- An array is a piece of hover text only if it holds the two texts of a code block. -/
theorem decode_arr_ok {source : Source} {js : List Json} {m : MarkedString}
    (h : decode source (.arr js) = .ok m) : ∃ a b, js = [.str a, .str b] := by
  rcases Decoder.firstOf_cons_eq_ok h with htext | ⟨-, hcode⟩
  · cases htext
  · rcases Decoder.firstOf_cons_eq_ok hcode with hrecord | ⟨-, hnone⟩
    · obtain ⟨short, hitems⟩ := Fields.fromItems_of_ofItems hrecord
      obtain ⟨withLanguage, value, more, hlanguages, hvalue, -⟩ := Fields.fromItems_seq_ok hitems
      obtain ⟨language, hlanguage, -⟩ := Fields.fromItems_map_ok hlanguages
      obtain ⟨j, hjs, hj⟩ := Fields.fromItems_required_ok hlanguage
      obtain ⟨k, hmore, hk⟩ := Fields.fromItems_required_ok hvalue
      rw [Decoder.string_ok hj, hmore, Decoder.string_ok hk] at hjs
      exact ⟨language, value, hjs⟩
    · cases hnone

/-- An object is a piece of hover text only if it names a language. -/
theorem decode_obj_error {ms : List (String × Json)} (h : ms.lookup "language" = none)
    (source : Source) : ∃ e, decode source (.obj ms) = .error e := by
  cases hread : decode source (.obj ms) with
  | error e => exact ⟨e, rfl⟩
  | ok m =>
    rcases Decoder.firstOf_cons_eq_ok hread with htext | ⟨-, hcode⟩
    · cases htext
    · rcases Decoder.firstOf_cons_eq_ok hcode with hrecord | ⟨-, hnone⟩
      · obtain ⟨withLanguage, value, hlanguages, -, -⟩ :=
          Fields.fromMembers_seq_ok (Fields.fromMembers_of_ofMembers hrecord)
        obtain ⟨language, hlanguage, -⟩ := Fields.fromMembers_map_ok hlanguages
        obtain ⟨j, hlookup, -⟩ := Fields.fromMembers_required_ok hlanguage
        exact absurd (hlookup.symm.trans h) (Option.some_ne_none j)
      · cases hnone

/-- A piece of hover text that is no code was read from a string. -/
theorem eq_str_of_decode {source : Source} {j : Json} {value : String}
    (h : decode source j = .ok (text value)) : j = .str value := by
  rcases Decoder.firstOf_cons_eq_ok h with htext | ⟨-, hcode⟩
  · cases j with
    | str s => cases htext; rfl
    | _ => cases htext
  · rcases Decoder.firstOf_cons_eq_ok hcode with hrecord | ⟨-, hnone⟩
    · obtain ⟨language, value, hvalue⟩ := Fields.record_seq_ok hrecord
      cases hvalue
    · cases hnone

end MarkedString

/-! ### Contents of hovers -/

namespace HoverContents

theorem markup_reads (kind : MarkupKind) (value : String) :
    markupFields.Reads [("kind", some kind.toJson), ("value", some (.str value))]
      (markup kind value) := by
  have hkind (source : Source) : MarkupKind.decode source kind.toJson = .ok kind := by
    cases kind <;> rfl
  refine .seq (.map ?_) ?_
  · exact .field_of_decode hkind (by simp)
  · exact .required Decoder.inverts_string (by simp)

theorem decode_scalar (source : Source) (marked : MarkedString) :
    decode source (scalar marked).toJson = .ok (scalar marked) := by
  refine Decoder.firstOf_cons_ok ?_ source
  simp only [toJson, MarkedString.inverts.decode_toJson, Except.map]

/-- A list of pieces of hover text is read as that, unless it holds two texts and nothing else. -/
theorem decode_arr {items : List Json} {marked : List MarkedString}
    (h : items.Forall₂ MarkedString.Writes marked) (hne : ∀ a b, items ≠ [.str a, .str b])
    (source : Source) : decode source (.arr items) = .ok (.list marked) := by
  have hitems : Decoder.items MarkedString.decode .gathered items = .ok marked :=
    Decoder.items_ok_iff.mpr (h.imp fun _ _ hwrites => MarkedString.decode_of_writes hwrites _)
  obtain ⟨e, he⟩ : ∃ e, MarkedString.decode .gathered (.arr items) = .error e := by
    cases hread : MarkedString.decode .gathered (.arr items) with
    | error e => exact ⟨e, rfl⟩
    | ok m =>
      obtain ⟨a, b, htexts⟩ := MarkedString.decode_arr_ok hread
      exact absurd htexts (hne a b)
  rw [decode, Decoder.firstOf_cons_error (by rw [he]; rfl)]
  refine Decoder.firstOf_cons_ok ?_ source
  rw [Decoder.list, hitems]
  rfl

theorem decode_list (source : Source) {marked : List MarkedString}
    (h : ∀ a b, marked ≠ [.text a, .text b]) :
    decode source (list marked).toJson = .ok (list marked) := by
  have hwrites : (marked.map MarkedString.toJson).Forall₂ MarkedString.Writes marked := by
    rw [List.forall₂_map_left_iff, List.forall₂_same]
    exact fun m _ => MarkedString.writes_toJson m
  refine decode_arr hwrites (fun a b htexts => ?_) source
  -- Only texts are written as strings.
  match marked, htexts with
  | [.text c, .text d], _ => exact absurd rfl (h c d)

theorem decode_markup (source : Source) (kind : MarkupKind) (value : String) :
    decode source (markup kind value).toJson = .ok (markup kind value) := by
  -- The members name no language, and no object is a list.
  have hmembers : (Json.members [("kind", some kind.toJson), ("value", some (.str value))]).lookup
      "language" = none := Json.lookup_members_of_notMem (by simp)
  obtain ⟨e, he⟩ := MarkedString.decode_obj_error hmembers .gathered
  have hread := (markup_reads kind value).ofMembers (by simp) .gathered
  change decode source (.obj (Json.members _)) = _
  rw [decode, Decoder.firstOf_cons_error (by rw [he]; rfl), Decoder.firstOf_cons_error rfl]
  exact Decoder.firstOf_cons_ok hread source

/-- Contents are read from what is written for them, unless they are a list of two texts. -/
theorem decode_toJson_iff (source : Source) (contents : HoverContents) :
    decode source contents.toJson = .ok contents ↔
      ∀ a b, contents ≠ .list [.text a, .text b] := by
  constructor
  · rintro h a b rfl
    cases h
  · intro h
    cases contents with
    | scalar marked => exact decode_scalar source marked
    | list marked => exact decode_list source fun a b heq => h a b (congrArg list heq)
    | markup kind value => exact decode_markup source kind value

/-- A list of two texts is not what was read: it would have been read as one code block. -/
theorem ne_two_texts {source : Source} {j : Json} {contents : HoverContents}
    (h : decode source j = .ok contents) (a b : String) : contents ≠ .list [.text a, .text b] := by
  rintro rfl
  rcases Decoder.firstOf_cons_eq_ok h with hscalar | ⟨⟨e, hscalar⟩, hrest⟩
  · obtain ⟨marked, -, hmarked⟩ := exists_of_map_ok hscalar
    cases hmarked
  · rcases Decoder.firstOf_cons_eq_ok hrest with hlist | ⟨-, hmarkup⟩
    · obtain ⟨marked, hmarked, heq⟩ := exists_of_map_ok hlist
      cases heq
      obtain ⟨js, rfl, hitems⟩ := Decoder.list_ok hmarked
      -- Both items are strings, so the first form would have done.
      match js, Decoder.items_ok_iff.mp hitems with
      | [j, k], .cons hj (.cons hk .nil) =>
        rw [MarkedString.eq_str_of_decode hj, MarkedString.eq_str_of_decode hk] at hscalar
        cases hscalar
    · rcases Decoder.firstOf_cons_eq_ok hmarkup with hrecord | ⟨-, hnone⟩
      · obtain ⟨kind, value, hvalue⟩ := Fields.record_seq_ok hrecord
        cases hvalue
      · cases hnone

end HoverContents

/-! ### Hovers -/

namespace HoverResult

/-- What is written for the fields of a hover. -/
def written (h : HoverResult) : List (String × Option Json) :=
  [("contents", some h.contents.toJson), ("range", h.range.map Range.toJson),
    ("actions", h.actions.map (.ofList CommandLinkGroup.toJson))]

/-- A hover is read from what is written for it if its contents are. -/
theorem decode_toJson {h : HoverResult}
    (hcontents : ∀ source, HoverContents.decode source h.contents.toJson = .ok h.contents)
    (source : Source) : decode source h.toJson = .ok h := by
  have hnames : (h.written.map Prod.fst).Nodup := by simp [written]
  have hactions : ownFields.Reads h.written h.actions :=
    .omissible CommandLinkGroup.inverts.list (by simp [written])
  -- The plain hover is taken from the members of the same object.
  have hhover : hoverFields.Reads h.written (h.contents, h.range) := by
    refine .seq (.map ?_) ?_
    · exact .field_of_decode hcontents (by simp [written])
    · exact .optional Range.inverts (by simp [written])
  change decode source (.obj (Json.members h.written)) = _
  rw [decode, Fields.flattened]
  simp only [hactions.ofMembers hnames, hhover.ofMembers hnames]
  rfl

/-- The range and the links of a hover are read from the members of its object. -/
def RestReads (source : Source) (ms : List (String × Json)) (range : Option Range)
    (actions : Option (List CommandLinkGroup)) : Prop :=
  Decoder.nullable Range.decode .gathered ((ms.lookup "range").getD .null) = .ok range ∧
    Decoder.nullable (.list CommandLinkGroup.decode) source ((ms.lookup "actions").getD .null) =
      .ok actions

/-- A hover is read from an object exactly if its contents, its range and its links are. -/
theorem decode_obj_eq_ok_iff {source : Source} {ms : List (String × Json)} {h : HoverResult} :
    decode source (.obj ms) = .ok h ↔
      ∃ j, ms.lookup "contents" = some j ∧ HoverContents.decode .gathered j = .ok h.contents ∧
        RestReads source ms h.range h.actions := by
  obtain ⟨contents, range, actions⟩ := h
  have hown : ownFields.ofMembers source ms = .ok actions ↔ Decoder.nullable
      (.list CommandLinkGroup.decode) source ((ms.lookup "actions").getD .null) = .ok actions := by
    rw [Fields.ofMembers_eq_ok_iff, ownFields, Fields.omissible, Fields.fromMembers_nullable]
  have hhover : hoverFields.ofMembers .gathered ms = .ok (contents, range) ↔
      (∃ j, ms.lookup "contents" = some j ∧ HoverContents.decode .gathered j = .ok contents) ∧
        Decoder.nullable Range.decode .gathered ((ms.lookup "range").getD .null) = .ok range := by
    simp only [hoverFields, Fields.optional, Fields.ofMembers_eq_ok_iff,
      Fields.fromMembers_seq_eq_ok_iff, Fields.fromMembers_map_eq_ok_iff,
      Fields.fromMembers_required_eq_ok_iff, Fields.fromMembers_nullable]
    constructor
    · rintro ⟨_, range, ⟨contents, hcontents, rfl⟩, hrange, ⟨⟩⟩
      exact ⟨hcontents, hrange⟩
    · rintro ⟨hcontents, hrange⟩
      exact ⟨_, _, ⟨_, hcontents, rfl⟩, hrange, rfl⟩
  rw [decode, Fields.flattened_obj_eq_ok_iff]
  constructor
  · rintro ⟨own, hactions, hparts⟩
    cases hpair : hoverFields.ofMembers .gathered ms with
    | error e => simp [hpair, bind, Except.bind] at hparts
    | ok pair =>
      simp only [hpair, bind, Except.bind, pure, Except.pure, Except.ok.injEq, mk.injEq] at hparts
      obtain ⟨rfl, rfl, rfl⟩ := hparts
      obtain ⟨⟨j, hj, hcontents⟩, hrange⟩ := hhover.mp hpair
      exact ⟨j, hj, hcontents, hrange, hown.mp hactions⟩
  · rintro ⟨j, hj, hcontents, hrange, hactions⟩
    refine ⟨actions, hown.mpr hactions, ?_⟩
    rw [hhover.mpr ⟨⟨j, hj, hcontents⟩, hrange⟩]
    rfl

theorem exists_contents {source : Source} {j : Json} {h : HoverResult}
    (hread : decode source j = .ok h) :
    ∃ k, HoverContents.decode .gathered k = .ok h.contents := by
  cases j with
  | obj ms =>
    obtain ⟨k, -, hk, -⟩ := decode_obj_eq_ok_iff.mp hread
    exact ⟨k, hk⟩
  | _ => cases hread

theorem rereads : decode.Rereads toJson := by
  intro source j h hread
  obtain ⟨k, hk⟩ := exists_contents hread
  refine decode_toJson (fun source => ?_) source
  exact (HoverContents.decode_toJson_iff source h.contents).mpr fun a b =>
    HoverContents.ne_two_texts hk a b

end HoverResult

/-- **Rereading**: hovers with links, links, groups of links, requests for an edit and entries of a
group of actions are read again, as the same, from what is written for them once they were read. -/
theorem extensions_reread :
    HoverResult.decode.Rereads HoverResult.toJson ∧
    CommandLink.decode.Rereads CommandLink.toJson ∧
    CommandLinkGroup.decode.Rereads CommandLinkGroup.toJson ∧
    ResolveParams.decode.Rereads ResolveParams.toJson ∧
    GroupEntry.decode.Rereads GroupEntry.toJson :=
  ⟨HoverResult.rereads, CommandLink.inverts.rereads, CommandLinkGroup.inverts.rereads,
    ResolveParams.inverts.rereads, GroupEntry.inverts.rereads⟩

/-- A hover with one code block, written as an array of two texts, and a group with one link, both
written as arrays. -/
def positionalHover : Json :=
  .obj [
    ("actions", .arr [.arr [.null, .arr [.arr [.str "Run", .str "x.run"]]]]),
    ("contents", .arr [.str "rust", .str "fn main()"]),
    ("kind", .str "markdown"),
    ("range", .null)]

theorem extensions_reread_sample : ∃ h, HoverResult.decode .inPlace positionalHover = .ok h ∧
    h.toJson ≠ positionalHover ∧ HoverResult.decode .inPlace h.toJson = .ok h := by
  refine ⟨_, rfl, by decide, ?_⟩
  exact extensions_reread.1 .inPlace positionalHover _ rfl

end EditorBridge
