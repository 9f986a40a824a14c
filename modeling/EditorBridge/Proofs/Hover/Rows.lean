import EditorBridge.Proofs.Hover.LinkIdentity
import Mathlib.Data.List.Forall2

/-!
# Rows of links as markdown

A reader of markdown takes a row of links one by one (`MarkdownLink.readRow?`): the label of a link
goes on up to the first closing bracket that is not escaped, its destination up to the first space
or closing parenthesis, its tooltip up to the first quote that is not escaped; then the row ends or
a separator stands before the next link.

Main statement: the row of a group without a title is read as its links, one by one, exactly if no
command holds a space or a closing parenthesis (`CommandLinkGroup.row_shows_iff`).  Titles, tooltips
and arguments never break a link.  A command does: it stands in the row as it is, and one can be
written such that another link is read from it (`CommandLinkGroup.row_of_forgedLink`).
-/

namespace EditorBridge

/-- A markdown link as it is written, its label and its tooltip with their backslashes. -/
structure MarkdownLink where
  label : List Char
  destination : List Char
  tooltip : List Char
deriving DecidableEq, Repr

namespace MarkdownLink

/-! ### Reading one link -/

/-- Whether a destination goes on with a character. -/
def inDestination (c : Char) : Bool :=
  c != ' ' && c != ')'

theorem inDestination_iff {c : Char} : inDestination c = true ↔ c ≠ ' ' ∧ c ≠ ')' := by
  simp [inDestination]

/-- The link that a text starts with, and the text behind it. -/
def read? (s : List Char) : Option (MarkdownLink × List Char) := do
  let s ← s.dropPrefix? ['[']
  let (label, s) ← cutAt? ']' s
  let s ← s.dropPrefix? ['(']
  let destination := s.takeWhile inDestination
  let s ← (s.dropWhile inDestination).dropPrefix? [' ', '\'']
  let (tooltip, s) ← cutAt? '\'' s
  let rest ← s.dropPrefix? [')']
  return (⟨label, destination, tooltip⟩, rest)

/-- The text of a link, before `rest`. -/
def text (link : MarkdownLink) (rest : List Char) : List Char :=
  ['['] ++ (link.label ++ ']' :: (['('] ++ (link.destination ++ ([' ', '\''] ++
    (link.tooltip ++ '\'' :: ([')'] ++ rest))))))

theorem eq_append_of_dropPrefix? {p s rest : List Char} (h : s.dropPrefix? p = some rest) :
    s = p ++ rest := by
  obtain ⟨p', hs, hp⟩ := List.dropPrefix?_eq_some_iff.mp h
  rw [hs, eq_of_beq hp]

/-- What was read stands in the text, and no destination goes past its end. -/
theorem of_read? {s rest : List Char} {link : MarkdownLink} (h : read? s = some (link, rest)) :
    s = link.text rest ∧ ∀ c ∈ link.destination, inDestination c = true := by
  simp only [read?, Option.bind_eq_bind, Option.bind_eq_some_iff, Option.pure_def,
    Option.some.injEq, Prod.mk.injEq] at h
  obtain ⟨s₁, hopen, ⟨label, s₂⟩, hlabel, s₃, hparen, s₄, hspace, ⟨tooltip, s₅⟩, htooltip, s₆,
    hclose, rfl, rfl⟩ := h
  have hdestination : s₃.takeWhile inDestination ++ s₃.dropWhile inDestination = s₃ :=
    List.takeWhile_append_dropWhile
  constructor
  · -- The text is put together from its end, part by part.
    simp only [text]
    rw [← eq_append_of_dropPrefix? hclose, ← eq_of_cutAt? htooltip,
      ← eq_append_of_dropPrefix? hspace, hdestination, ← eq_append_of_dropPrefix? hparen,
      ← eq_of_cutAt? hlabel, ← eq_append_of_dropPrefix? hopen]
  · intro c hc
    exact List.all_eq_true.mp List.all_takeWhile c hc

theorem read?_length {s rest : List Char} {link : MarkdownLink} (h : read? s = some (link, rest)) :
    rest.length < s.length := by
  rw [(of_read? h).1]
  simp only [text, List.length_append, List.length_cons]
  omega

theorem dropPrefix?_append (p s : List Char) : (p ++ s).dropPrefix? p = some s :=
  List.dropPrefix?_append_of_beq s (beq_self_eq_true p)

/-- Where label and tooltip end at their marks and the destination goes on to the space behind it,
the link is read. -/
theorem read?_text {link : MarkdownLink} {rest : List Char}
    (hlabel : ∀ s, cutAt? ']' (link.label ++ ']' :: s) = some (link.label, s))
    (hdestination : ∀ c ∈ link.destination, inDestination c = true)
    (htooltip : ∀ s, cutAt? '\'' (link.tooltip ++ '\'' :: s) = some (link.tooltip, s)) :
    read? (link.text rest) = some (link, rest) := by
  have htake (s : List Char) : (link.destination ++ ([' ', '\''] ++ s)).takeWhile inDestination =
      link.destination := by
    rw [List.takeWhile_append_of_pos hdestination]
    exact List.append_nil _
  have hdrop (s : List Char) : (link.destination ++ ([' ', '\''] ++ s)).dropWhile inDestination =
      [' ', '\''] ++ s :=
    List.dropWhile_append_of_pos hdestination
  simp only [read?, text, dropPrefix?_append, hlabel, htake, hdrop, htooltip, Option.bind_eq_bind,
    Option.bind_some, Option.pure_def]

/-! ### Reading a row -/

/-- The links of a text that is nothing but links with separators between them; none if it is
anything else. -/
def readLinks? (s : List Char) : Option (List MarkdownLink) :=
  match _h : read? s with
  | some (link, []) => some [link]
  -- The characters of `linkSeparator`.
  | some (link, ' ' :: '|' :: ' ' :: rest) => (readLinks? rest).map (link :: ·)
  | _ => none
termination_by s.length
decreasing_by
  have hlength := read?_length _h
  simp only [List.length_cons] at hlength
  omega

/-- The links of a row; the empty row has none. -/
def readRow? : List Char → Option (List MarkdownLink)
  | [] => some []
  | s => readLinks? s

theorem readLinks?_last {s : List Char} {link : MarkdownLink} (h : read? s = some (link, [])) :
    readLinks? s = some [link] := by
  fun_cases readLinks? s with
  | case1 link' h' =>
    rw [h] at h'
    obtain ⟨rfl, -⟩ := Prod.mk.inj (Option.some.inj h')
    rfl
  | case2 link' rest h' =>
    rw [h] at h'
    exact absurd (Prod.mk.inj (Option.some.inj h')).2 (List.cons_ne_nil _ _).symm
  | case3 hlast hmore => exact absurd h (hlast link)

theorem readLinks?_more {s rest : List Char} {link : MarkdownLink}
    (h : read? s = some (link, linkSeparator.toList ++ rest)) :
    readLinks? s = (readLinks? rest).map (link :: ·) := by
  fun_cases readLinks? s with
  | case1 link' h' =>
    rw [h] at h'
    exact absurd (Prod.mk.inj (Option.some.inj h')).2 (List.cons_ne_nil _ _)
  | case2 link' rest' h' =>
    rw [h] at h'
    obtain ⟨rfl, hrest⟩ := Prod.mk.inj (Option.some.inj h')
    have hbehind : linkSeparator.toList ++ rest = linkSeparator.toList ++ rest' := hrest
    obtain rfl := List.append_cancel_left hbehind
    rfl
  | case3 hlast hmore => exact absurd h (hmore link rest)

/-- No destination in a row goes past its end. -/
theorem inDestination_of_readLinks? {s : List Char} {links : List MarkdownLink}
    (h : readLinks? s = some links) :
    ∀ link ∈ links, ∀ c ∈ link.destination, inDestination c = true := by
  fun_induction readLinks? s generalizing links with
  | case1 s link hread =>
    obtain rfl := Option.some.inj h
    intro link' hlink
    rw [List.mem_singleton.mp hlink]
    exact (of_read? hread).2
  | case2 s link rest hread ih =>
    obtain ⟨more, hmore, rfl⟩ := Option.map_eq_some_iff.mp h
    intro link' hlink
    rcases List.mem_cons.mp hlink with rfl | hlink
    · exact (of_read? hread).2
    · exact ih hmore link' hlink
  | case3 => exact absurd h (by simp)

/-- A markdown link shows a command link: its label and its tooltip stand for the title and the
shown tooltip, and its destination is the command with the arguments. -/
structure Shows (read : MarkdownLink) (link : CommandLink) : Prop where
  label : unescape read.label = link.title.toList
  destination : read.destination =
    "command:".toList ++ link.command.toList ++ '?' :: CommandLink.encodedArguments link.arguments
  tooltip : unescape read.tooltip = link.shownTooltip.toList

end MarkdownLink

/-! ### The row of a group -/

namespace CommandLink

open MarkdownLink

/-- The command link as a markdown link. -/
def asMarkdown (link : CommandLink) : MarkdownLink where
  label := escapeMarkdown labelSpecials link.title.toList
  destination := "command:".toList ++ link.command.toList ++ '?' :: encodedArguments link.arguments
  tooltip := escapeMarkdown tooltipSpecials link.shownTooltip.toList

theorem render_append (link : CommandLink) (rest : List Char) :
    link.render ++ rest = link.asMarkdown.text rest := by
  simp [render, text, asMarkdown]

theorem asMarkdown_shows (link : CommandLink) : link.asMarkdown.Shows link where
  label := unescape_escapeMarkdown (by decide) _
  destination := rfl
  tooltip := unescape_escapeMarkdown (by decide) _

/-- Arguments never end a destination. -/
theorem inDestination_of_mem_encodedArguments {arguments : List Json} {c : Char}
    (h : c ∈ encodedArguments arguments) : inDestination c = true := by
  have hspace := notMem_encodedArguments (c := ' ') (by decide) (by decide) arguments
  have hparen := notMem_encodedArguments (c := ')') (by decide) (by decide) arguments
  apply inDestination_iff.mpr
  constructor
  · rintro rfl
    exact hspace h
  · rintro rfl
    exact hparen h

/-- Only the command can end the destination of a link. -/
theorem inDestination_asMarkdown_iff (link : CommandLink) :
    (∀ c ∈ link.asMarkdown.destination, inDestination c = true) ↔
      ∀ c ∈ link.command.toList, inDestination c = true := by
  have hscheme : "command:".toList.all inDestination = true := by
    decide
  have hmark : inDestination '?' = true := by
    decide
  constructor
  · intro h c hc
    exact h c (by simp [asMarkdown, hc])
  · intro h c hc
    simp only [asMarkdown, List.mem_append, List.mem_cons] at hc
    rcases hc with (hc | hc) | rfl | hc
    · exact List.all_eq_true.mp hscheme c hc
    · exact h c hc
    · exact hmark
    · exact inDestination_of_mem_encodedArguments hc

/-- A link whose command ends no destination is read as it is. -/
theorem read?_render_append {link : CommandLink}
    (h : ∀ c ∈ link.command.toList, inDestination c = true) (rest : List Char) :
    read? (link.render ++ rest) = some (link.asMarkdown, rest) := by
  rw [render_append]
  exact read?_text (cutAt?_escapeMarkdown (by decide) (by decide) (by decide) _)
    (link.inDestination_asMarkdown_iff.mpr h)
    (cutAt?_escapeMarkdown (by decide) (by decide) (by decide) _)

end CommandLink

namespace CommandLinkGroup

open MarkdownLink

theorem render_singleton (link : CommandLink) : render ⟨none, [link]⟩ = link.render := by
  simp [render]

theorem render_cons_cons (link next : CommandLink) (links : List CommandLink) :
    render ⟨none, link :: next :: links⟩ =
      link.render ++ (linkSeparator.toList ++ render ⟨none, next :: links⟩) := by
  simp [render, List.intercalate_cons_cons]

theorem readRow?_render (link : CommandLink) (links : List CommandLink) :
    readRow? (render ⟨none, link :: links⟩) = readLinks? (render ⟨none, link :: links⟩) := by
  have hne : render ⟨none, link :: links⟩ ≠ [] := by
    cases links with
    | nil => simp [render_singleton, CommandLink.render]
    | cons next links => simp [render_cons_cons, CommandLink.render]
  cases h : render ⟨none, link :: links⟩ with
  | nil => exact absurd h hne
  | cons c s => rfl

/-- Links with separators between them are read one by one. -/
theorem readLinks?_render (link : CommandLink) (links : List CommandLink)
    (h : ∀ l ∈ link :: links, ∀ c ∈ l.command.toList, inDestination c = true) :
    readLinks? (render ⟨none, link :: links⟩) =
      some ((link :: links).map CommandLink.asMarkdown) := by
  have hlink := h link List.mem_cons_self
  -- The first link stays apart: the empty row has no link to be read.
  induction links generalizing link with
  | nil =>
    have hread := CommandLink.read?_render_append hlink []
    rw [List.append_nil] at hread
    rw [render_singleton, readLinks?_last hread]
    rfl
  | cons next links ih =>
    have hread := CommandLink.read?_render_append hlink
      (linkSeparator.toList ++ render ⟨none, next :: links⟩)
    have hmore := ih next (fun l hl => h l (List.mem_cons_of_mem _ hl))
      (h next (List.mem_cons_of_mem _ List.mem_cons_self))
    rw [render_cons_cons, readLinks?_more hread, hmore]
    rfl

/-- What is shown by links that were read has no command that ends a destination. -/
theorem inDestination_of_shows {read : List MarkdownLink} {links : List CommandLink}
    (h : List.Forall₂ Shows read links)
    (hread : ∀ r ∈ read, ∀ c ∈ r.destination, inDestination c = true) :
    ∀ link ∈ links, ∀ c ∈ link.command.toList, inDestination c = true := by
  induction h with
  | nil => exact fun link hlink => absurd hlink List.not_mem_nil
  | cons hshows _ ih =>
    have hfirst := hread _ List.mem_cons_self
    rw [hshows.destination] at hfirst
    intro link hlink
    rcases List.mem_cons.mp hlink with rfl | hlink
    · exact link.inDestination_asMarkdown_iff.mp hfirst
    · exact ih (fun r hr => hread r (List.mem_cons_of_mem _ hr)) link hlink

/-- **A row is read as its links**, in order and to its end, exactly if no command of the group
holds a space or a closing parenthesis; titles, tooltips and arguments may be anything. -/
theorem row_shows_iff (links : List CommandLink) :
    (∃ read, readRow? (render ⟨none, links⟩) = some read ∧ List.Forall₂ Shows read links) ↔
      ∀ link ∈ links, ∀ c ∈ link.command.toList, c ≠ ' ' ∧ c ≠ ')' := by
  simp only [← inDestination_iff]
  cases links with
  | nil => exact ⟨fun _ link hlink => absurd hlink List.not_mem_nil, fun _ => ⟨[], rfl, .nil⟩⟩
  | cons link links =>
    constructor
    · rintro ⟨read, hrow, hshows⟩
      rw [readRow?_render] at hrow
      exact inDestination_of_shows hshows (inDestination_of_readLinks? hrow)
    · intro h
      refine ⟨(link :: links).map CommandLink.asMarkdown, ?_, ?_⟩
      · rw [readRow?_render, readLinks?_render link links h]
      · apply List.forall₂_map_left_iff.mpr
        exact List.forall₂_same.mpr fun l _ => l.asMarkdown_shows

/-- A command can be written like the end of a link and the start of another: two links are read. -/
theorem row_of_forgedLink :
    readRow? (render ⟨none, [CommandLink.forgedLink]⟩) =
        some [⟨"it's \\[x\\]".toList, "command:x?1".toList, "a".toList⟩,
          ⟨"b".toList, "command:y?%5B1.5%2C%22%3F%22%5D".toList, "it\\'s [x]".toList⟩] ∧
      ¬ ∃ read, readRow? (render ⟨none, [CommandLink.forgedLink]⟩) = some read ∧
        List.Forall₂ Shows read [CommandLink.forgedLink] := by
  have hrender : render ⟨none, [CommandLink.forgedLink]⟩ =
      "[it's \\[x\\]](command:x?1 'a') | ".toList ++
        "[b](command:y?%5B1.5%2C%22%3F%22%5D 'it\\'s [x]')".toList := by
    decide +kernel
  have hfirst : read? (render ⟨none, [CommandLink.forgedLink]⟩) =
      some (⟨"it's \\[x\\]".toList, "command:x?1".toList, "a".toList⟩, linkSeparator.toList ++
        "[b](command:y?%5B1.5%2C%22%3F%22%5D 'it\\'s [x]')".toList) := by
    rw [hrender]
    decide +kernel
  have hsecond : read? "[b](command:y?%5B1.5%2C%22%3F%22%5D 'it\\'s [x]')".toList =
      some (⟨"b".toList, "command:y?%5B1.5%2C%22%3F%22%5D".toList, "it\\'s [x]".toList⟩, []) := by
    decide +kernel
  have hrow := readRow?_render CommandLink.forgedLink []
  rw [readLinks?_more hfirst, readLinks?_last hsecond] at hrow
  refine ⟨hrow, ?_⟩
  rintro ⟨read, hread, hshows⟩
  obtain rfl := Option.some.inj (hrow.symm.trans hread)
  exact absurd hshows.length_eq (by decide)

end CommandLinkGroup

end EditorBridge
