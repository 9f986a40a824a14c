import EditorBridge.Hover.Link
import EditorBridge.Text.Occurrence
import EditorBridge.Settings.Basic

/-!
# Hovers as the editor shows them

A hover is shown as blocks of markup.  A markdown block that opens a code fence of the configured
language is trusted: the command links in it may run.  The action bar, if there is one and it is
to be shown, is one more trusted block at the end.
-/

namespace EditorBridge

/-- A block of markup.  Command links in a trusted block may run. -/
structure MarkupBlock where
  kind : MarkupKind
  value : String
  isTrusted : Bool
deriving DecidableEq, Repr

namespace MarkupBlock

/-- A markdown block that is not trusted. -/
def markdown (value : String) : MarkupBlock :=
  ⟨.markdown, value, false⟩

/-- The block, trusted. -/
def trusted (block : MarkupBlock) : MarkupBlock :=
  { block with isTrusted := true }

/-- The JSON of a block. -/
def toJson (block : MarkupBlock) : Json :=
  .record [("kind", some block.kind.toJson), ("value", some (.str block.value)),
    ("isTrusted", some (.bool block.isTrusted))]

end MarkupBlock

/-- A hover as the editor shows it. -/
structure EditorHover where
  contents : List MarkupBlock
  range : Option Range
deriving DecidableEq, Repr

/-- The JSON of a hover. -/
def EditorHover.toJson (hover : EditorHover) : Json :=
  .record [("contents", some (.ofList MarkupBlock.toJson hover.contents)),
    ("range", hover.range.map Range.toJson)]

/-- The block of a piece of hover text; code stands in a fence. -/
def MarkedString.block : MarkedString → MarkupBlock
  | .text value => .markdown value
  | .code language value => .markdown ("```" ++ language ++ "\n" ++ value ++ "\n```")

/-- The blocks of a hover's contents. -/
def HoverContents.blocks : HoverContents → List MarkupBlock
  | .scalar marked => [marked.block]
  | .list marked => marked.map MarkedString.block
  | .markup kind value => [⟨kind, value, false⟩]

/-- How hovers are prepared for the editor. -/
structure HoverEnricher where
  trustedLanguage : String
  showActions : Bool
deriving DecidableEq, Repr

namespace HoverEnricher

/-- The preparation that the settings ask for. -/
def ofSettings (settings : Settings) : HoverEnricher :=
  ⟨settings.hover.trustedLanguage, settings.isEnabled .hoverActions⟩

/-- What opens a code block of the trusted language. -/
def fence (enricher : HoverEnricher) : List Char :=
  "```".toList ++ enricher.trustedLanguage.toList

/-- Whether a block is markdown with the trusted fence somewhere in it. -/
def trusts (enricher : HoverEnricher) (block : MarkupBlock) : Bool :=
  block.kind == .markdown && Text.occursIn enricher.fence block.value.toList

/-- The block, trusted if it is to be. -/
def mark (enricher : HoverEnricher) (block : MarkupBlock) : MarkupBlock :=
  if enricher.trusts block then block.trusted else block

/-- The action bar that is to be shown, if any. -/
def bar? (enricher : HoverEnricher) (hover : HoverResult) : Option MarkupBlock :=
  if enricher.showActions then
    (hover.actions.bind actionBar?).map fun bar => (MarkupBlock.markdown (String.ofList bar)).trusted
  else none

/-- The hover as the editor shows it. -/
def enrich (enricher : HoverEnricher) (hover : HoverResult) : EditorHover where
  contents := hover.contents.blocks.map enricher.mark ++ (enricher.bar? hover).toList
  range := hover.range

end HoverEnricher

end EditorBridge
