import EditorBridge.Proofs.Hover.Trust
import Mathlib.Data.List.Forall2

/-!
# What a prepared hover shows

The blocks of a prepared hover are those of its contents, with nothing changed but their trust
(`HoverEnricher.ShowsContents`), and behind them the action bar if there is one
(`HoverEnricher.bar?_eq_some_iff`).

Main statement: what the editor is given, whatever links come with the hover
(`HoverEnricher.enrich_eq_content_append_bar`).  So the links of a hover have no part in what is
shown of its contents, nor in what is trusted of it.
-/

namespace EditorBridge

/-! ### The action bar -/

/-- The rows of the groups that have links, with a separator between them. -/
def barText (groups : List CommandLinkGroup) : List Char :=
  groupSeparator.toList.intercalate
    ((groups.filter fun group => !group.commands.isEmpty).map CommandLinkGroup.render)

/-- There is a bar exactly if some group has a link. -/
theorem actionBar?_eq_some_iff {groups : List CommandLinkGroup} {text : List Char} :
    actionBar? groups = some text ↔
      (∃ group ∈ groups, group.commands ≠ []) ∧ text = barText groups := by
  have hshown : (groups.filter fun group => !group.commands.isEmpty) = [] ↔
      ¬ ∃ group ∈ groups, group.commands ≠ [] := by
    simp [List.filter_eq_nil_iff]
  rw [actionBar?, barText]
  cases hgroups : groups.filter fun group => !group.commands.isEmpty with
  | nil => simp [hshown.mp hgroups]
  | cons group rest =>
    have hsome : ∃ group ∈ groups, group.commands ≠ [] := by
      by_contra hnone
      cases hgroups.symm.trans (hshown.mpr hnone)
    simp [hsome, eq_comm]

namespace HoverEnricher

variable (enricher : HoverEnricher)

/-- The bar is shown if actions are and some group of the hover has a link. -/
theorem bar?_eq_some_iff {hover : HoverResult} {bar : MarkupBlock} :
    enricher.bar? hover = some bar ↔
      enricher.showActions = true ∧ ∃ groups, hover.actions = some groups ∧
        (∃ group ∈ groups, group.commands ≠ []) ∧
        bar = ⟨.markdown, String.ofList (barText groups), true⟩ := by
  rw [bar?]
  split
  · next hshow =>
    simp only [hshow, true_and, Option.map_eq_some_iff, Option.bind_eq_some_iff,
      actionBar?_eq_some_iff]
    constructor
    · rintro ⟨_, ⟨groups, hgroups, hsome, rfl⟩, rfl⟩
      exact ⟨groups, hgroups, hsome, rfl⟩
    · rintro ⟨groups, hgroups, hsome, rfl⟩
      exact ⟨_, ⟨groups, hgroups, hsome, rfl⟩, rfl⟩
  · next hhide => simp [hhide]

/-! ### The contents -/

/-- A block has the kind and the text that are to be shown, and is trusted exactly if it is markdown
with three backticks and the trusted language somewhere in it. -/
structure Shows (kind : MarkupKind) (text : String) (block : MarkupBlock) : Prop where
  kind_eq : block.kind = kind
  value_eq : block.value = text
  isTrusted_iff : block.isTrusted = true ↔
    kind = .markdown ∧ ("```".toList ++ enricher.trustedLanguage.toList) <:+: text.toList

/-- The block of a piece of hover text: the text itself, or the code in a fence of its language. -/
inductive ShowsMarked : MarkedString → MarkupBlock → Prop
  | text {value : String} {block : MarkupBlock} (h : enricher.Shows .markdown value block) :
    ShowsMarked (.text value) block
  | code {language value : String} {block : MarkupBlock}
    (h : enricher.Shows .markdown ("```" ++ language ++ "\n" ++ value ++ "\n```") block) :
    ShowsMarked (.code language value) block

/-- The blocks of a hover's contents, one for each piece of text, in their order. -/
inductive ShowsContents : HoverContents → List MarkupBlock → Prop
  | scalar {marked : MarkedString} {block : MarkupBlock} (h : enricher.ShowsMarked marked block) :
    ShowsContents (.scalar marked) [block]
  | list {marked : List MarkedString} {blocks : List MarkupBlock}
    (h : marked.Forall₂ enricher.ShowsMarked blocks) : ShowsContents (.list marked) blocks
  | markup {kind : MarkupKind} {value : String} {block : MarkupBlock}
    (h : enricher.Shows kind value block) : ShowsContents (.markup kind value) [block]

theorem shows_mark (kind : MarkupKind) (text : String) :
    enricher.Shows kind text (enricher.mark ⟨kind, text, false⟩) := by
  rw [mark_eq]
  refine ⟨rfl, rfl, ?_⟩
  rw [Bool.false_or, trusts_iff]

theorem showsMarked_mark_block (marked : MarkedString) :
    enricher.ShowsMarked marked (enricher.mark marked.block) := by
  cases marked with
  | text value => exact .text (enricher.shows_mark _ _)
  | code language value => exact .code (enricher.shows_mark _ _)

theorem showsContents_map_mark (contents : HoverContents) :
    enricher.ShowsContents contents (contents.blocks.map enricher.mark) := by
  cases contents with
  | scalar marked => exact .scalar (enricher.showsMarked_mark_block marked)
  | list marked =>
    refine .list ?_
    rw [HoverContents.blocks, List.map_map, List.forall₂_map_right_iff, List.forall₂_same]
    exact fun m _ => enricher.showsMarked_mark_block m
  | markup kind value => exact .markup (enricher.shows_mark _ _)

/-- **Enrichment.**  What is shown of a hover's contents is the same whatever links come with it, and
so is the range.  Behind it the action bar is shown, as one trusted block, exactly if actions are
shown and some group has a link; if actions are not shown, the links make no difference. -/
theorem enrich_eq_content_append_bar (contents : HoverContents) (range : Option Range) :
    ∃ content, enricher.ShowsContents contents content ∧
      (∀ actions, ∃ bar : Option MarkupBlock,
        enricher.enrich ⟨contents, range, actions⟩ = ⟨content ++ bar.toList, range⟩ ∧
        ∀ block, bar = some block ↔ enricher.showActions = true ∧ ∃ groups,
          actions = some groups ∧ (∃ group ∈ groups, group.commands ≠ []) ∧
          block = ⟨.markdown, String.ofList (barText groups), true⟩) ∧
      (enricher.showActions = false → ∀ actions others,
        enricher.enrich ⟨contents, range, actions⟩ =
          enricher.enrich ⟨contents, range, others⟩) := by
  refine ⟨contents.blocks.map enricher.mark, enricher.showsContents_map_mark contents,
    fun actions => ?_, fun hhide actions others => ?_⟩
  · exact ⟨enricher.bar? ⟨contents, range, actions⟩, rfl, fun block => enricher.bar?_eq_some_iff⟩
  · have hnone (actions : Option (List CommandLinkGroup)) :
        enricher.bar? ⟨contents, range, actions⟩ = none := by
      rw [bar?, hhide]
      rfl
    rw [enrich, enrich, hnone, hnone]

end HoverEnricher

end EditorBridge
