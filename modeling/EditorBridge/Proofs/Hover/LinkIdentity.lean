import EditorBridge.Proofs.Hover.CommandUri
import EditorBridge.Proofs.Hover.Escaping
import EditorBridge.Proofs.Json.Unambiguous

/-!
# What the text of a link tells

The text of a link tells the link (`CommandLink.eq_of_render_eq`): its title, its command, its
arguments and the tooltip that is shown.  Of doubles among the arguments it is assumed that their
texts tell them.

The command stands in the text as it is and may hold anything, also what looks like the end of a
link and the start of another.  So only the title is read from the left.  The tooltip is read from
the right, up to the last quote that no backslash stands before, and the arguments from there on, up
to the last question mark; the command is what is left.
-/

namespace EditorBridge

/-- **The last mark splits a text in one way.**  `Real` tells which marks count, by the text before
them; the text behind the mark has none that counts. -/
theorem eq_of_last_mark {α : Type} {c : α} (Real : List α → Prop) {s t u v : List α}
    (hs : Real s) (ht : Real t)
    (hu : ∀ before after, u = before ++ c :: after → ¬ Real (s ++ c :: before))
    (hv : ∀ before after, v = before ++ c :: after → ¬ Real (t ++ c :: before))
    (h : s ++ c :: u = t ++ c :: v) : s = t ∧ u = v := by
  rcases List.append_eq_append_iff.mp h with ⟨between, hbetween, htail⟩ | ⟨between, hbetween, htail⟩
  · cases between with
    | nil =>
      rw [List.append_nil] at hbetween
      exact ⟨hbetween.symm, (List.cons.inj htail).2⟩
    | cons d between =>
      obtain ⟨rfl, hmark⟩ := List.cons.inj htail
      -- The second mark would be a later one that counts.
      exact absurd (hbetween ▸ ht) (hu between v hmark)
  · cases between with
    | nil =>
      rw [List.append_nil] at hbetween
      exact ⟨hbetween, (List.cons.inj htail).2.symm⟩
    | cons d between =>
      obtain ⟨rfl, hmark⟩ := List.cons.inj htail
      exact absurd (hbetween ▸ hs) (hv between u hmark)

namespace CommandLink

open Json CommandUri

/-- Arguments are told by the text that carries them. -/
theorem eq_of_encodedArguments_eq {S : Set Double} (hS : S.InjOn Double.text)
    {xs ys : List Json} (hx : ∀ j ∈ xs, j.Everywhere (DoubleIn S))
    (hy : ∀ j ∈ ys, j.Everywhere (DoubleIn S)) (h : encodedArguments xs = encodedArguments ys) :
    xs = ys := by
  have htext := congrArg text? h
  simp only [encodedArguments] at htext
  rw [text?_percentEncode (by decide), text?_percentEncode (by decide)] at htext
  have hchars : (payload xs).chars = (payload ys).chars := by
    have hlists := congrArg String.toList (Option.some.inj htext)
    rwa [String.toList_ofList, String.toList_ofList] at hlists
  have hpayload : payload xs = payload ys :=
    eq_of_chars_eq hS (everywhere_payload (fun _ => trivial) hx)
      (everywhere_payload (fun _ => trivial) hy) hchars
  have hspread := congrArg spread hpayload
  rwa [spread_payload, spread_payload] at hspread

/-- Nothing that marks the parts of a link stands in its arguments. -/
theorem notMem_encodedArguments {c : Char} (halnum : c.isAlphanum = false)
    (hmark : c ∉ ['-', '_', '.', '!', '~', '*', '%']) (arguments : List Json) :
    c ∉ encodedArguments arguments := by
  intro h
  rcases mem_encodedArguments h with hyes | hyes
  · exact absurd hyes (by simp [halnum])
  · exact hmark hyes

/-- Behind the label the text of a link tells the command, the arguments and the tooltip. -/
theorem eq_of_rest_eq {c c' u u' p p' : List Char} (hu : '?' ∉ u) (hu' : '?' ∉ u')
    (h : c ++ '?' :: u ++ " '".toList ++ escapeMarkdown tooltipSpecials p =
      c' ++ '?' :: u' ++ " '".toList ++ escapeMarkdown tooltipSpecials p') :
    c = c' ∧ u = u' ∧ p = p' := by
  have hquote : ∀ {q before after : List Char},
      escapeMarkdown tooltipSpecials q = before ++ '\'' :: after →
      ∀ s : List Char, ¬ (s ++ '\'' :: before).getLast? ≠ some '\\' := by
    intro q before after hq s hlast
    have hbefore := getLast?_of_escapeMarkdown_eq (by decide) (by decide) (by decide) hq
    apply hlast
    rw [List.getLast?_append, List.getLast?_cons, hbefore]
    rfl
  have hspace : ∀ s : List Char, (s ++ [' ']).getLast? ≠ some '\\' := by
    intro s
    rw [List.getLast?_concat]
    decide
  have hsplit : c ++ '?' :: u ++ [' '] ++ '\'' :: escapeMarkdown tooltipSpecials p =
      c' ++ '?' :: u' ++ [' '] ++ '\'' :: escapeMarkdown tooltipSpecials p' := by
    simpa using h
  obtain ⟨hfront, htooltip⟩ := eq_of_last_mark
    (fun before => before.getLast? ≠ some '\\') (hspace _) (hspace _)
    (fun _ _ hq => hquote hq _) (fun _ _ hq => hquote hq _) hsplit
  have hdestination := List.append_cancel_right hfront
  obtain ⟨hcommand, harguments⟩ := eq_of_last_mark (fun _ => True) trivial trivial
    (fun _ _ hq => absurd (by simp [hq]) hu) (fun _ _ hq => absurd (by simp [hq]) hu') hdestination
  exact ⟨hcommand, harguments, escapeMarkdown_inj (by decide) htooltip⟩

/-- **The text of a link tells the link**: links with one text have the same title, command,
arguments and shown tooltip, whatever characters they hold.  `S` is any set of doubles that are told
by their texts. -/
theorem eq_of_render_eq {S : Set Double} (hS : S.InjOn Double.text) {a b : CommandLink}
    (ha : ∀ j ∈ a.arguments, j.Everywhere (DoubleIn S))
    (hb : ∀ j ∈ b.arguments, j.Everywhere (DoubleIn S)) (h : a.render = b.render) :
    a.title = b.title ∧ a.command = b.command ∧ a.arguments = b.arguments ∧
      a.shownTooltip = b.shownTooltip := by
  have hrest (link : CommandLink) : link.render.tail =
      escapeMarkdown labelSpecials link.title.toList ++ ']' :: ("(command:".toList ++
        (link.command.toList ++ '?' :: encodedArguments link.arguments ++ " '".toList ++
          escapeMarkdown tooltipSpecials link.shownTooltip.toList) ++ "')".toList) := by
    simp [render]
  have hcut := congrArg (fun text => cutAt? ']' text.tail) h
  simp only [hrest] at hcut
  rw [cutAt?_escapeMarkdown (by decide) (by decide) (by decide),
    cutAt?_escapeMarkdown (by decide) (by decide) (by decide), Option.some.injEq,
    Prod.mk.injEq] at hcut
  obtain ⟨htitle, hbehind⟩ := hcut
  have hquestion := notMem_encodedArguments (c := '?') (by decide) (by decide)
  obtain ⟨hcommand, harguments, htooltip⟩ := eq_of_rest_eq (hquestion a.arguments)
    (hquestion b.arguments) (List.append_cancel_left (List.append_cancel_right hbehind))
  exact ⟨String.toList_inj.mp (escapeMarkdown_inj (by decide) htitle),
    String.toList_inj.mp hcommand, eq_of_encodedArguments_eq hS ha hb harguments,
    String.toList_inj.mp htooltip⟩

/-- A link whose command is written like the end of a link and the start of another. -/
def forgedLink : CommandLink where
  title := "it's [x]"
  command := "x?1 'a') | [b](command:y"
  tooltip := none
  arguments := [.float ⟨false, 6755399441055744, -52⟩, .str "?"]

/-- A tooltip that is the title is shown as if there were none, and that is all that can differ. -/
theorem eq_of_render_eq_sample :
    forgedLink.render = { forgedLink with tooltip := some "it's [x]" }.render ∧
    forgedLink.shownTooltip = { forgedLink with tooltip := some "it's [x]" }.shownTooltip := by
  have hS : ({⟨false, 6755399441055744, -52⟩, ⟨false, 4503599627370496, -53⟩} : Set Double).InjOn
      Double.text := by
    have hne : Double.text ⟨false, 6755399441055744, -52⟩ ≠
        Double.text ⟨false, 4503599627370496, -53⟩ := by
      decide +kernel
    rintro x (rfl | rfl) y (rfl | rfl) htext
    · rfl
    · exact absurd htext hne
    · exact absurd htext.symm hne
    · rfl
  have hdoubles : ∀ j ∈ forgedLink.arguments,
      j.Everywhere (DoubleIn {⟨false, 6755399441055744, -52⟩, ⟨false, 4503599627370496, -53⟩}) := by
    simp [forgedLink, Everywhere, DoubleIn]
  have hrender : forgedLink.render = { forgedLink with tooltip := some "it's [x]" }.render := rfl
  obtain ⟨-, -, -, htooltip⟩ := eq_of_render_eq hS hdoubles hdoubles hrender
  exact ⟨hrender, htooltip⟩

end CommandLink

end EditorBridge
