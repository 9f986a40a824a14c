import EditorBridge.Protocol.Request

/-!
# Hovers

What a server answers to a hover request: contents in one of three forms, the range they are
about, and groups of command links that the user may follow.

A list of two strings is one code block, for a record may be written as an array, and the forms
are tried in order: one marked string, a list of them, markup.
-/

namespace EditorBridge

/-- How markup is to be read. -/
inductive MarkupKind where
  | plainText
  | markdown
deriving DecidableEq, Repr

namespace MarkupKind

/-- The kinds by their names. -/
def names : List (String × MarkupKind) :=
  [("plaintext", plainText), ("markdown", markdown)]

/-- Decodes a kind of markup. -/
def decode : Decoder MarkupKind :=
  .variant names

/-- The name of a kind. -/
def name : MarkupKind → String
  | plainText => "plaintext"
  | markdown => "markdown"

/-- The JSON of a kind of markup. -/
def toJson (k : MarkupKind) : Json :=
  .str k.name

end MarkupKind

/-- A piece of hover text: markdown, or code in a language. -/
inductive MarkedString where
  | text (value : String)
  | code (language value : String)
deriving DecidableEq, Repr

namespace MarkedString

/-- The fields of code in a language. -/
def codeFields : Fields MarkedString :=
  code <$> .required "language" .string <*> .required "value" .string

/-- Decodes a piece of hover text. -/
def decode : Decoder MarkedString :=
  .firstOf "MarkedString" [
    fun source j => (Decoder.string source j).map text,
    codeFields.record "LanguageString"]

/-- The JSON of a piece of hover text. -/
def toJson : MarkedString → Json
  | text value => .str value
  | code language value =>
    .record [("language", some (.str language)), ("value", some (.str value))]

end MarkedString

/-- The contents of a hover. -/
inductive HoverContents where
  | scalar (marked : MarkedString)
  | list (marked : List MarkedString)
  | markup (kind : MarkupKind) (value : String)
deriving DecidableEq, Repr

namespace HoverContents

/-- The fields of markup. -/
def markupFields : Fields HoverContents :=
  markup <$> .required "kind" MarkupKind.decode <*> .required "value" .string

/-- Decodes the contents of a hover. -/
def decode : Decoder HoverContents :=
  .firstOf "HoverContents" [
    fun source j => (MarkedString.decode source j).map scalar,
    fun source j => (Decoder.list MarkedString.decode source j).map list,
    markupFields.record "MarkupContent"]

/-- The JSON of the contents of a hover. -/
def toJson : HoverContents → Json
  | scalar marked => marked.toJson
  | list marked => .ofList MarkedString.toJson marked
  | markup kind value => .record [("kind", some kind.toJson), ("value", some (.str value))]

end HoverContents

/-- A link that runs a command when the user follows it. -/
structure CommandLink where
  title : String
  command : String
  tooltip : Option String
  arguments : List Json
deriving DecidableEq

namespace CommandLink

/-- The fields of a command link. -/
def fields : Fields CommandLink :=
  CommandLink.mk <$> .required "title" .string <*> .required "command" .string
    <*> .omissible "tooltip" .string
    <*> .withDefault "arguments" (.list .any) []

/-- Decodes a command link. -/
def decode : Decoder CommandLink :=
  fields.record "CommandLink"

/-- The JSON of a command link. -/
def toJson (l : CommandLink) : Json :=
  .record [("title", some (.str l.title)), ("command", some (.str l.command)),
    ("tooltip", l.tooltip.map .str), ("arguments", some (.arr l.arguments))]

end CommandLink

/-- Links that stand in one row, behind a title if there is one. -/
structure CommandLinkGroup where
  title : Option String
  commands : List CommandLink
deriving DecidableEq

namespace CommandLinkGroup

/-- The fields of a group of links. -/
def fields : Fields CommandLinkGroup :=
  CommandLinkGroup.mk <$> .omissible "title" .string
    <*> .withDefault "commands" (.list CommandLink.decode) []

/-- Decodes a group of links. -/
def decode : Decoder CommandLinkGroup :=
  fields.record "CommandLinkGroup"

/-- The JSON of a group of links. -/
def toJson (g : CommandLinkGroup) : Json :=
  .record [("title", g.title.map .str), ("commands", some (.ofList CommandLink.toJson g.commands))]

end CommandLinkGroup

/-- The answer to a hover request. -/
structure HoverResult where
  contents : HoverContents
  range : Option Range
  actions : Option (List CommandLinkGroup)
deriving DecidableEq

namespace HoverResult

/-- The fields of a hover without its links. -/
def hoverFields : Fields (HoverContents × Option Range) :=
  Prod.mk <$> .required "contents" HoverContents.decode <*> .optional "range" Range.decode

/-- The field of the links. -/
def ownFields : Fields (Option (List CommandLinkGroup)) :=
  .omissible "actions" (.list CommandLinkGroup.decode)

/-- Decodes the answer to a hover request. -/
def decode : Decoder HoverResult :=
  ownFields.flattened (fun actions ms => do
    let (contents, range) ← hoverFields.ofMembers .gathered ms
    return ⟨contents, range, actions⟩) "HoverWithActions"

/-- The JSON of the answer to a hover request. -/
def toJson (h : HoverResult) : Json :=
  .record [("contents", some h.contents.toJson), ("range", h.range.map Range.toJson),
    ("actions", h.actions.map (.ofList CommandLinkGroup.toJson))]

end HoverResult

end EditorBridge
