import EditorBridge.Protocol.Hover
import EditorBridge.Text.Percent

/-!
# Command links in markdown

A command link is written as a markdown link whose destination names the command and carries its
arguments, and whose title is the tooltip: `[Fix 1](command:x.fix?1 'Fix 1')`.  The links of a
group stand in one row, and the rows of the groups that have links make the action bar.
-/

namespace EditorBridge

/-- A backslash before each special character. -/
def escapeMarkdown (special : List Char) (s : List Char) : List Char :=
  s.flatMap fun c => if special.contains c then ['\\', c] else [c]

namespace CommandLink

/-- The special characters of a label. -/
def labelSpecials : List Char := ['\\', '[', ']']

/-- The special characters of a tooltip. -/
def tooltipSpecials : List Char := ['\\', '\'']

/-- The tooltip that is shown: the title if there is none. -/
def shownTooltip (link : CommandLink) : String :=
  link.tooltip.getD link.title

/-- The JSON that carries the arguments: an array of them, but a single one that is no array is
written bare. -/
def payload : List Json → Json
  | [single] => if single.isArray then .arr [single] else single
  | arguments => .arr arguments

/-- The arguments as the destination of a link carries them. -/
def encodedArguments (arguments : List Json) : List Char :=
  Text.percentEncode Text.isPlainInArgument (payload arguments).chars

/-- The markdown of a link. -/
def render (link : CommandLink) : List Char :=
  '[' :: escapeMarkdown labelSpecials link.title.toList ++ "](command:".toList ++
    link.command.toList ++ '?' :: encodedArguments link.arguments ++ " '".toList ++
    escapeMarkdown tooltipSpecials link.shownTooltip.toList ++ "')".toList

end CommandLink

/-- What stands between two links. -/
def linkSeparator : String := " | "

/-- What stands between two rows. -/
def groupSeparator : String := "___"

namespace CommandLinkGroup

/-- The links of a group in one row, behind its title. -/
def render (group : CommandLinkGroup) : List Char :=
  let links := linkSeparator.toList.intercalate (group.commands.map CommandLink.render)
  match group.title with
  | some title => title.toList ++ ' ' :: links
  | none => links

end CommandLinkGroup

/-- The rows of the groups that have links; none if no group has. -/
def actionBar? (groups : List CommandLinkGroup) : Option (List Char) :=
  match groups.filter fun group => !group.commands.isEmpty with
  | [] => none
  | shown => some (groupSeparator.toList.intercalate (shown.map CommandLinkGroup.render))

end EditorBridge
