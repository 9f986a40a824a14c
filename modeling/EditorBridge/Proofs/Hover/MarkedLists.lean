import EditorBridge.Proofs.Hover.Enrichment
import EditorBridge.Proofs.Protocol.Hover

/-!
# Lists of hover text

A hover whose contents are a list of pieces of text should be shown with one block for each of them,
the block that the piece would get on its own (`HoverEnricher.BlockPerItem`).  It is, unless the
list holds two strings and nothing else: a code block may be written as an array of its language
and its value, and that is what such a list is read as.

Main statement: `HoverEnricher.blockPerItem_iff`.  A list of two strings changes what is shown and
can change what is trusted (`HoverEnricher.two_strings_one_block`).
-/

namespace EditorBridge

namespace HoverResult

variable {source : Source} {members : List (String × Json)} {range : Option Range}
  {actions : Option (List CommandLinkGroup)}

/-- Other contents leave the range and the links as they are. -/
theorem RestReads.insert_contents (h : RestReads source members range actions) (contents : Json) :
    RestReads source (Json.insertMember "contents" contents members) range actions := by
  have hrange : (Json.insertMember "contents" contents members).lookup "range" =
      members.lookup "range" := Json.lookup_insertMember_of_ne (by decide) _ _
  have hactions : (Json.insertMember "contents" contents members).lookup "actions" =
      members.lookup "actions" := Json.lookup_insertMember_of_ne (by decide) _ _
  rwa [RestReads, hrange, hactions]

/-- A piece of text is read as the only contents of a hover. -/
theorem decode_insert_contents {item : Json} {marked : MarkedString}
    (hitem : MarkedString.Writes item marked) (hrest : RestReads source members range actions) :
    decode source (.obj (Json.insertMember "contents" item members)) =
      .ok ⟨.scalar marked, range, actions⟩ := by
  have hread : HoverContents.decode .gathered item = .ok (.scalar marked) := by
    refine Decoder.firstOf_cons_ok ?_ _
    rw [MarkedString.decode_of_writes hitem]
    rfl
  have hlookup := Json.lookup_insertMember_self "contents" item members
  exact decode_obj_eq_ok_iff.mpr ⟨item, hlookup, hread, hrest.insert_contents item⟩

end HoverResult

namespace HoverEnricher

open HoverResult

variable (enricher : HoverEnricher) {source : Source} {members : List (String × Json)}
  {items : List Json}

/-- A hover whose contents are a list of items is read, and shown with the blocks that the items get
as its only contents, in their order, before the action bar if there is one. -/
def BlockPerItem (source : Source) (members : List (String × Json)) (items : List Json) : Prop :=
  ∃ hover blocks, HoverResult.decode source (.obj members) = .ok hover ∧
    (enricher.enrich hover).contents = blocks ++ (enricher.bar? hover).toList ∧
    items.Forall₂ (fun item block => ∃ alone,
      HoverResult.decode source (.obj (Json.insertMember "contents" item members)) = .ok alone ∧
        (enricher.enrich alone).contents = block :: (enricher.bar? alone).toList) blocks

/-- Two strings are read as one piece of text: code in the language that the first one names. -/
theorem contents_of_two_strings {a b : String} {hover : HoverResult}
    (hcontents : members.lookup "contents" = some (.arr [.str a, .str b]))
    (h : HoverResult.decode source (.obj members) = .ok hover) :
    hover.contents = .scalar (.code a b) := by
  obtain ⟨j, hj, hread, -⟩ := decode_obj_eq_ok_iff.mp h
  obtain rfl := Option.some.inj (hcontents.symm.trans hj)
  exact (Except.ok.inj hread).symm

theorem not_blockPerItem_of_two_strings {a b : String}
    (hcontents : members.lookup "contents" = some (.arr [.str a, .str b])) :
    ¬ enricher.BlockPerItem source members [.str a, .str b] := by
  rintro ⟨hover, blocks, hread, hshown, hblocks⟩
  have hone : (hover.contents.blocks.map enricher.mark).length = 1 := by
    rw [contents_of_two_strings hcontents hread]
    rfl
  -- There is one block before the bar, and there should be two.
  have hsame : hover.contents.blocks.map enricher.mark = blocks :=
    List.append_cancel_right hshown
  have htwo := hblocks.length_eq
  rw [← hsame, hone] at htwo
  cases htwo

theorem blockPerItem_of_ne {marked : List MarkedString} {range : Option Range}
    {actions : Option (List CommandLinkGroup)}
    (hcontents : members.lookup "contents" = some (.arr items))
    (hitems : items.Forall₂ MarkedString.Writes marked)
    (hrest : RestReads source members range actions) (hne : ∀ a b, items ≠ [.str a, .str b]) :
    enricher.BlockPerItem source members items := by
  have hlist := HoverContents.decode_arr hitems hne .gathered
  have hread : HoverResult.decode source (.obj members) = .ok ⟨.list marked, range, actions⟩ :=
    decode_obj_eq_ok_iff.mpr ⟨.arr items, hcontents, hlist, hrest⟩
  refine ⟨_, _, hread, rfl, ?_⟩
  rw [HoverContents.blocks, List.map_map, List.forall₂_map_right_iff]
  exact hitems.imp fun item m hitem => ⟨_, decode_insert_contents hitem hrest, rfl⟩

/-- **One block per item.**  A hover whose contents are a list of pieces of text, and whose other
members can be read, is shown with the block of each piece, exactly if the list is not one of two
strings.  Two strings are shown as one block of code. -/
theorem blockPerItem_iff {marked : List MarkedString} {range : Option Range}
    {actions : Option (List CommandLinkGroup)}
    (hcontents : members.lookup "contents" = some (.arr items))
    (hitems : items.Forall₂ MarkedString.Writes marked)
    (hrest : RestReads source members range actions) :
    (enricher.BlockPerItem source members items ↔ ∀ a b, items ≠ [.str a, .str b]) ∧
    ∀ a b, items = [.str a, .str b] →
      HoverResult.decode source (.obj members) = .ok ⟨.scalar (.code a b), range, actions⟩ := by
  refine ⟨⟨?_, enricher.blockPerItem_of_ne hcontents hitems hrest⟩, ?_⟩
  · rintro hblocks a b rfl
    exact enricher.not_blockPerItem_of_two_strings hcontents hblocks
  · rintro a b rfl
    exact decode_obj_eq_ok_iff.mpr ⟨_, hcontents, rfl, hrest⟩

/-- Two strings and a piece of code, in a hover with a link. -/
def mixedMembers : List (String × Json) :=
  [("actions", .arr [.arr [.null, .arr [.arr [.str "Run", .str "x.run"]]]]),
    ("contents", .arr [.str "rust", .obj [("language", .str "rust"), ("value", .str "fn main()")],
      .str "fn main()"])]

theorem blockPerItem_iff_sample : BlockPerItem ⟨"rust", true⟩ .inPlace mixedMembers
    [.str "rust", .obj [("language", .str "rust"), ("value", .str "fn main()")],
      .str "fn main()"] := by
  have hitems : List.Forall₂ MarkedString.Writes
      [.str "rust", .obj [("language", .str "rust"), ("value", .str "fn main()")],
        .str "fn main()"]
      [.text "rust", .code "rust" "fn main()", .text "fn main()"] :=
    .cons (.text _) (.cons (.code rfl rfl) (.cons (.text _) .nil))
  have hrest : RestReads .inPlace mixedMembers none
      (some [⟨none, [⟨"Run", "x.run", none, []⟩]⟩]) := ⟨rfl, rfl⟩
  exact ((blockPerItem_iff ⟨"rust", true⟩ rfl hitems hrest).1).mpr fun a b => by simp

/-- A hover with two strings is shown as one block of code, which is trusted.  Two blocks that are not
trusted would be shown for them. -/
theorem two_strings_one_block :
    (∃ hover, HoverResult.decode .inPlace
        (.obj [("contents", .arr [.str "rust", .str "fn main()"])]) = .ok hover ∧
      (enrich ⟨"rust", true⟩ hover).contents = [⟨.markdown, "```rust\nfn main()\n```", true⟩]) ∧
    (enrich ⟨"rust", true⟩ ⟨.list [.text "rust", .text "fn main()"], none, none⟩).contents =
      [⟨.markdown, "rust", false⟩, ⟨.markdown, "fn main()", false⟩] ∧
    ¬ BlockPerItem ⟨"rust", true⟩ .inPlace [("contents", .arr [.str "rust", .str "fn main()"])]
      [.str "rust", .str "fn main()"] := by
  refine ⟨⟨_, rfl, by decide +kernel⟩, by decide +kernel, ?_⟩
  exact not_blockPerItem_of_two_strings _ rfl

end HoverEnricher

end EditorBridge
