import EditorBridge.Settings.Feature
import EditorBridge.Text.Alphanumeric
import EditorBridge.Text.Blank

/-!
# Log filters

A filter is a list of directives with commas between them: a verbosity, `warn`; a target, whose
records are all let through, `tether_client`; or both, `tether_client=debug`.  A directive speaks
for the targets that begin with its own; the one with the longest target decides, and of two with
the same target the later.  A filter without directives lets nothing through.
-/

namespace EditorBridge

/-- How grave a record is. -/
inductive Level where
  | error
  | warn
  | info
  | debug
deriving DecidableEq, Repr

/-- The name of a level in records. -/
def Level.name : Level → String
  | .error => "ERROR"
  | .warn => "WARN"
  | .info => "INFO"
  | .debug => "DEBUG"

/-- Down to which level records are let through. -/
inductive Verbosity where
  | off
  | error
  | warn
  | info
  | debug
  | trace
deriving DecidableEq, Repr

namespace Verbosity

/-- The verbosities by their names and in their order, from which their numbers count. -/
def names : List (String × Verbosity) :=
  [("off", off), ("error", error), ("warn", warn), ("info", info), ("debug", debug),
    ("trace", trace)]

/-- Whether records of a level are let through. -/
def admits (v : Verbosity) : Level → Bool
  | .error => v != off
  | .warn => v != off && v != error
  | .info => v != off && v != error && v != warn
  | .debug => v == debug || v == trace

/-- The number that digits write, after a plus sign if there is one. -/
def number? (s : List Char) : Option Nat :=
  let digits := if s.head? = some '+' then s.tail else s
  if !digits.isEmpty && digits.all Char.isDigit then
    some (digits.foldl (fun n c => n * 10 + (c.toNat - '0'.toNat)) 0)
  else none

/-- The verbosity with a number or a name, in any case. -/
def ofName? (s : List Char) : Option Verbosity :=
  match (number? s).bind fun n => names[n]? with
  | some entry => some entry.2
  | none => lookupIgnoringCase names (String.ofList s)

end Verbosity

/-- Why a directive is none. -/
inductive FilterFault where
  | badDirective
  | badLevel
deriving DecidableEq, Repr

/-- The words for what is wrong with a directive. -/
def FilterFault.message : FilterFault → String
  | .badDirective => "invalid filter directive"
  | .badLevel =>
    "error parsing level filter: expected one of \"off\", \"error\", \"warn\", " ++
      "\"info\", \"debug\", \"trace\", or a number 0-5"

/-- What a filter says of the records of some targets: of all targets if it names none. -/
structure Directive where
  target : Option (List Char)
  verbosity : Verbosity
deriving DecidableEq, Repr

namespace Directive

/-- Whether a directive may begin with a character. -/
def canStart (c : Char) : Bool :=
  c = '-' || c = ':' || c = '_' || Text.isAlphanumeric c

/-- Reads a directive that is not empty.  Its form is judged without the blanks around it, but its
parts are taken from the text with them, by their places in the text without. -/
def parse (s : List Char) : Except FilterFault Directive :=
  let bare := Text.trimBlank s
  let name := bare.takeWhile (· ≠ '=')
  if !(bare.head?.any canStart) || name.contains '[' then .error .badDirective
  else if bare.contains '=' then
    -- The level is what stands behind the place of the equals sign.
    let level := s.drop (name.length + 1)
    if level.isEmpty then .ok ⟨some (s.take name.length), .trace⟩
    else
      match Verbosity.ofName? level with
      | some v => .ok ⟨some (s.take name.length), v⟩
      | none => .error .badLevel
  else
    match Verbosity.ofName? s with
    | some v => .ok ⟨none, v⟩
    | none => .ok ⟨some s, .trace⟩

/-- How much a directive says of a target: nothing, or more the longer its own target is. -/
def weight? (d : Directive) (target : List Char) : Option Nat :=
  match d.target with
  | none => some 0
  | some t => if t.isPrefixOf target then some (t.length + 1) else none

end Directive

/-- The directives of a filter, in the order in which they are written. -/
structure LogFilter where
  directives : List Directive
deriving DecidableEq, Repr

namespace LogFilter

/-- The pieces of a text between commas, without the empty ones. -/
def pieces (s : List Char) : List (List Char) :=
  let rec go (current : List Char) : List Char → List (List Char)
    | [] => [current.reverse]
    | c :: rest => if c = ',' then current.reverse :: go [] rest else go (c :: current) rest
  (go [] s).filter fun piece => !piece.isEmpty

/-- Reads directives one by one, up to the first that is none. -/
def parseAll : List (List Char) → Except FilterFault (List Directive)
  | [] => .ok []
  | piece :: rest =>
    match Directive.parse piece with
    | .error fault => .error fault
    | .ok d => (parseAll rest).map (d :: ·)

/-- Reads a filter. -/
def parse (text : String) : Except FilterFault LogFilter :=
  (parseAll (pieces text.toList)).map LogFilter.mk

/-- The directive that decides about a target, with its weight. -/
def decisive (f : LogFilter) (target : List Char) : Option (Nat × Verbosity) :=
  f.directives.foldl (fun best d =>
    match d.weight? target, best with
    | none, _ => best
    | some w, none => some (w, d.verbosity)
    | some w, some (b, _) => if b ≤ w then some (w, d.verbosity) else best) none

/-- Whether the filter lets a record of a target and level through. -/
def admits (f : LogFilter) (target : String) (level : Level) : Bool :=
  match f.decisive target.toList with
  | some (_, v) => v.admits level
  | none => false

end LogFilter

end EditorBridge
