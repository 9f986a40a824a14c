import EditorBridge.Hover.Enricher
import EditorBridge.Text.Alphanumeric

/-!
# What earns trust

A line opens a code fence of a language if nothing but spaces stands before the fence, the fence has
three backticks or more, and the language stands behind it as a whole tag (`Text.OpensFence`).

Main statement: of the blocks of a hover's contents those are trusted that are markdown and in which
a line opens a fence of the trusted language, but also those in which three backticks and the
language stand anywhere else (`HoverEnricher.content_trust_iff`): behind other text in their line,
or as the start of a longer tag.  So a fence of another language can earn trust
(`HoverEnricher.trusts_longer_tag`).
-/

namespace EditorBridge

namespace Text

/-! ### Lines and fences -/

/-- A line of a text stands between line feeds or the ends of the text. -/
def IsLine (line s : List Char) : Prop :=
  ∃ front back, s = front ++ line ++ back ∧ '\n' ∉ line ∧
    (front = [] ∨ front.getLast? = some '\n') ∧ (back = [] ∨ back.head? = some '\n')

/-- Whether a language tag goes on with a character. -/
def inTag (c : Char) : Bool :=
  isAlphanumeric c || ['_', '-', '+', '#'].contains c

/-- No language tag goes on with a text. -/
def EndsTag (s : List Char) : Prop :=
  ∀ c ∈ s.head?, inTag c = false

/-- A line opens a code fence of a language. -/
def OpensFence (language line : List Char) : Prop :=
  ∃ spaces ticks rest,
    line = List.replicate spaces ' ' ++ List.replicate ticks '`' ++ language ++ rest ∧
      3 ≤ ticks ∧ EndsTag rest

/-- A fence can begin behind a text: nothing stands in its last line but spaces and the first
backticks of the fence. -/
def LeadsToFence (s : List Char) : Prop :=
  ∃ front spaces ticks, s = front ++ List.replicate spaces ' ' ++ List.replicate ticks '`' ∧
    (front = [] ∨ front.getLast? = some '\n')

theorem EndsTag.append {s t : List Char} (hs : EndsTag s) (ht : t = [] ∨ t.head? = some '\n') :
    EndsTag (s ++ t) := by
  cases s with
  | nil =>
    rcases ht with rfl | ht
    · exact hs
    · intro c hc
      obtain rfl : '\n' = c := Option.some.inj (ht.symm.trans hc)
      decide
  | cons c s => exact hs

theorem EndsTag.of_append {s t : List Char} (h : EndsTag (s ++ t)) : EndsTag s := by
  cases s with
  | nil => exact fun c hc => absurd hc (by simp)
  | cons c s => exact h

/-- A text begins with the rest of a line. -/
theorem exists_rest_of_line (s : List Char) :
    ∃ rest back, s = rest ++ back ∧ '\n' ∉ rest ∧ (back = [] ∨ back.head? = some '\n') := by
  induction s with
  | nil => exact ⟨[], [], rfl, List.not_mem_nil, .inl rfl⟩
  | cons c s ih =>
    by_cases hc : c = '\n'
    · exact ⟨[], c :: s, rfl, List.not_mem_nil, .inr (congrArg some hc)⟩
    · obtain ⟨rest, back, rfl, hrest, hback⟩ := ih
      refine ⟨c :: rest, back, rfl, ?_, hback⟩
      rw [List.mem_cons, not_or]
      exact ⟨Ne.symm hc, hrest⟩

theorem replicate_add_three (n : Nat) :
    List.replicate (n + 3) '`' = List.replicate n '`' ++ "```".toList :=
  List.replicate_append_replicate.symm

/-- **Where a fence is opened.**  A line opens a fence of a language exactly where three backticks
and the language, which has no line feed, stand behind nothing but spaces and backticks, and no
longer tag goes on behind them. -/
theorem exists_opensFence_iff {language s : List Char} :
    (∃ line, IsLine line s ∧ OpensFence language line) ↔
      '\n' ∉ language ∧ ∃ before after, s = before ++ ("```".toList ++ language) ++ after ∧
        LeadsToFence before ∧ EndsTag after := by
  constructor
  · rintro ⟨line, ⟨front, back, rfl, hline, hfront, hback⟩, spaces, ticks, rest, rfl, hticks, hrest⟩
    obtain ⟨n, rfl⟩ : ∃ n, ticks = n + 3 := ⟨ticks - 3, by omega⟩
    constructor
    · intro h
      exact hline (by simp [h])
    · refine ⟨front ++ List.replicate spaces ' ' ++ List.replicate n '`', rest ++ back, ?_,
        ⟨front, spaces, n, rfl, hfront⟩, hrest.append hback⟩
      rw [replicate_add_three]
      simp only [List.append_assoc]
  · rintro ⟨hlanguage, before, after, rfl, ⟨front, spaces, n, rfl, hfront⟩, hafter⟩
    obtain ⟨rest, back, rfl, hrest, hback⟩ := exists_rest_of_line after
    refine ⟨List.replicate spaces ' ' ++ List.replicate (n + 3) '`' ++ language ++ rest,
      ⟨front, back, ?_, ?_, hfront, hback⟩,
      spaces, n + 3, rest, rfl, by omega, hafter.of_append⟩
    · rw [replicate_add_three]
      simp only [List.append_assoc]
    · simp [hlanguage, hrest]

end Text

namespace HoverEnricher

open Text

/-! ### The blocks of the contents -/

/-- Three backticks and the language stand in a text where they open no fence of it. -/
def StrayFence (language s : List Char) : Prop :=
  ∃ before after, s = before ++ ("```".toList ++ language) ++ after ∧
    (¬ LeadsToFence before ∨ ¬ EndsTag after ∨ '\n' ∈ language)

/-- Where three backticks and the language stand, they open a fence or they are astray. -/
theorem infix_iff {language s : List Char} :
    ("```".toList ++ language) <:+: s ↔
      (∃ line, IsLine line s ∧ OpensFence language line) ∨ StrayFence language s := by
  rw [exists_opensFence_iff]
  constructor
  · rintro ⟨before, after, rfl⟩
    by_cases hopens : LeadsToFence before ∧ EndsTag after ∧ '\n' ∉ language
    · obtain ⟨hbefore, hafter, hlanguage⟩ := hopens
      exact .inl ⟨hlanguage, before, after, rfl, hbefore, hafter⟩
    · refine .inr ⟨before, after, rfl, ?_⟩
      rwa [Classical.not_and_iff_not_or_not, Classical.not_and_iff_not_or_not,
        Classical.not_not] at hopens
  · rintro (⟨-, before, after, rfl, -⟩ | ⟨before, after, rfl, -⟩)
    · exact ⟨before, after, rfl⟩
    · exact ⟨before, after, rfl⟩

/-- Nothing but the trust of a block is changed. -/
theorem mark_eq (enricher : HoverEnricher) (block : MarkupBlock) :
    enricher.mark block = { block with isTrusted := block.isTrusted || enricher.trusts block } := by
  unfold mark
  split
  · next h => rw [h, Bool.or_true, MarkupBlock.trusted]
  · next h => rw [Bool.eq_false_iff.mpr h, Bool.or_false]

theorem trusts_iff (enricher : HoverEnricher) (block : MarkupBlock) :
    enricher.trusts block = true ↔ block.kind = .markdown ∧
      ("```".toList ++ enricher.trustedLanguage.toList) <:+: block.value.toList := by
  rw [trusts, Bool.and_eq_true, beq_iff_eq, occursIn_iff, fence]

/-- Of itself no block of the contents is trusted. -/
theorem isTrusted_of_mem_blocks {contents : HoverContents} {block : MarkupBlock}
    (h : block ∈ contents.blocks) : block.isTrusted = false := by
  have hmarked (marked : MarkedString) : marked.block.isTrusted = false := by
    cases marked <;> rfl
  cases contents with
  | scalar marked =>
    rw [List.mem_singleton.mp h]
    exact hmarked marked
  | list items =>
    obtain ⟨marked, -, rfl⟩ := List.mem_map.mp h
    exact hmarked marked
  | markup kind value => rw [List.mem_singleton.mp h]

/-- **What earns trust.**  Before the action bar, if there is one, those blocks are trusted that are
markdown and in which a line opens a fence of the trusted language or three backticks and the
language stand anywhere else. -/
theorem content_trust_iff (enricher : HoverEnricher) (hover : HoverResult) :
    ∃ content, (enricher.enrich hover).contents = content ++ (enricher.bar? hover).toList ∧
      ∀ block ∈ content, block.isTrusted = true ↔ block.kind = .markdown ∧
        ((∃ line, IsLine line block.value.toList ∧
            OpensFence enricher.trustedLanguage.toList line) ∨
          StrayFence enricher.trustedLanguage.toList block.value.toList) := by
  refine ⟨hover.contents.blocks.map enricher.mark, rfl, ?_⟩
  intro marked hmarked
  obtain ⟨block, hblock, rfl⟩ := List.mem_map.mp hmarked
  rw [mark_eq, isTrusted_of_mem_blocks hblock, Bool.false_or, trusts_iff, infix_iff]

/-- A hover with a fence of a language whose name begins like that of the trusted one. -/
def longerTagHover : HoverResult where
  contents := .markup .markdown "```rusty\nx\n```"
  range := none
  actions := none

/-- A fence of another language earns trust though no line opens one of the trusted language. -/
theorem trusts_longer_tag :
    (enrich ⟨"rust", true⟩ longerTagHover).contents =
        [⟨.markdown, "```rusty\nx\n```", true⟩] ∧
      ¬ ∃ line, IsLine line "```rusty\nx\n```".toList ∧ OpensFence "rust".toList line := by
  -- The tag goes on behind the only place where the fence stands.
  have hend : "```rust".toList.isSuffixOf "```rusty\nx\n```".toList = false := by
    decide +kernel
  have hnext : ("```rusty\nx\n```".toList.all fun c =>
      inTag c || !occursIn ("```rust".toList ++ [c]) "```rusty\nx\n```".toList) = true := by
    decide +kernel
  constructor
  · decide +kernel
  · rw [exists_opensFence_iff]
    rintro ⟨-, before, after, htext, -, hafter⟩
    have hfence : "```".toList ++ "rust".toList = "```rust".toList := by
      decide
    rw [hfence] at htext
    cases after with
    | nil =>
      rw [List.append_nil] at htext
      exact absurd (List.isSuffixOf_iff_suffix.mpr ⟨before, htext.symm⟩) (by rw [hend]; decide)
    | cons c after =>
      have hmem : c ∈ "```rusty\nx\n```".toList := by
        rw [htext]
        simp
      have hoccurs : occursIn ("```rust".toList ++ [c]) "```rusty\nx\n```".toList = true :=
        (occursIn_iff _ _).mpr ⟨before, after, by rw [htext]; simp⟩
      have hno := List.all_eq_true.mp hnext c hmem
      rw [hafter c rfl, hoccurs] at hno
      exact Bool.false_ne_true hno

end HoverEnricher

end EditorBridge
