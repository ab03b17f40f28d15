import ApiStencil.Text.Split
import ApiStencil.Trace

/-!
# Log filters

Which events a run shows. A filter is a list of directives, each of which allows some levels for the
targets that start with a text; of those that fit an event the one with the longest text decides.

## Main definitions

* `Directive` - the levels allowed for some targets.
* `LogFilter` - a list of directives.
* `LogFilter.passes` - whether a filter shows an event.
* `LogFilter.parse?` - reads a filter.
* `LogFilter.forRun` - the filter of a run, from a setting or from how verbose it is to be.
-/

namespace ApiStencil

/-- The levels allowed for some targets. -/
structure Directive where
  /-- What the targets start with. -/
  target : List Char := []
  /-- Whether the directive is for marked stretches of a run only, in which no event lies. -/
  isNarrow : Bool := false
  /-- The most verbose level allowed; none if all are off. -/
  level : Option Level
  deriving DecidableEq, Repr

/-- Whether a directive is about an event. -/
def Directive.fits (directive : Directive) (event : Event) : Bool :=
  !directive.isNarrow && directive.target.isPrefixOf event.target.toList

/-- Whether a directive allows an event that it is about. -/
def Directive.allows (directive : Directive) (event : Event) : Bool :=
  directive.level.any fun level => event.level.rank ≤ level.rank

/-- A list of directives. -/
structure LogFilter where
  directives : List Directive
  deriving DecidableEq, Repr

namespace LogFilter

/-- The directive with the longer target, or the second one of two alike. -/
def sharper (best : Option Directive) (directive : Directive) : Option Directive :=
  match best with
  | some other => if directive.target.length < other.target.length then best else some directive
  | none => some directive

/-- The directive that decides about an event. -/
def deciding? (filter : LogFilter) (event : Event) : Option Directive :=
  (filter.directives.filter (·.fits event)).foldl sharper none

/-- Whether a filter shows an event. What no directive is about is not shown. -/
def passes (filter : LogFilter) (event : Event) : Bool :=
  (filter.deciding? event).any (·.allows event)

/-! ## Reading -/

/-- The levels in the order of their numbers, from the one that allows nothing. -/
def numberedLevels : List (Option Level) := none :: Level.all.map some

/-- The name of a level, or of the absence of all. -/
def levelName (level : Option Level) : String := (level.map Level.name).getD "off"

/-- The number that some digits stand for, which may have a sign of addition. -/
def number? (s : List Char) : Option Nat :=
  let digits := if s.head? = some '+' then s.tail else s
  if digits.isEmpty || !digits.all Char.isDigit then none
  else some (digits.foldl (fun n c => 10 * n + (c.toNat - 0x30)) 0)

/-- The level that a word or a number stands for. -/
def level? (s : List Char) : Option (Option Level) :=
  match number? s with
  | some n => numberedLevels[n]?
  | none => numberedLevels.find? fun level => (levelName level).toList = s.map Char.toLower

/-- Whether a directive may start with a character. -/
def canStart (c : Char) : Bool :=
  c.isAlphanum || c == '-' || c == ':' || c == '_' || 0x80 ≤ c.toNat

/-- The level after the target of a directive. Without one every level is allowed. -/
def levelPart? (s : List Char) : Option (Option Level) :=
  match s with
  | [] | ['='] => some (some .trace)
  | '=' :: level => level? level
  | _ => none

/-- Reads a directive: a level, a target, or a target with its level. A target may name a stretch of
a run in brackets. -/
def directive? (s : List Char) : Option Directive := do
  let target := s.takeWhile fun c => c != '=' && c != '['
  match s.drop target.length with
  | [] =>
    match level? target with
    | some level => return { level }
    | none => return { target, level := some .trace }
  | '[' :: rest =>
    let stretch := rest.takeWhile (· != ']')
    match rest.drop stretch.length with
    | ']' :: level => return { target, isNarrow := true, level := ← levelPart? level }
    | _ => none
  | level => return { target, level := ← levelPart? level }

/-- Reads one part of a filter. -/
def part? (s : List Char) : Option Directive :=
  if s.head?.any fun c => c == '[' || canStart c then directive? s else none

/-- Reads a filter: directives with commas between them. Without a directive only errors are
shown. -/
def parse? (text : String) : Option LogFilter :=
  match (text.toList.splitOn ',').filter (· ≠ []) with
  | [] => some ⟨[{ level := some .error }]⟩
  | parts => (parts.mapM part?).map LogFilter.mk

/-- The filter for how verbose a run is to be. -/
def ofVerbosity : Nat → LogFilter
  | 0 => ⟨[{ level := some .warn }]⟩
  | 1 => ⟨[{ level := some .info }]⟩
  | 2 => ⟨[{ level := some .info }, { target := "tamplier_core".toList, level := some .debug },
      { target := "tamplier".toList, level := some .debug }]⟩
  | _ => ⟨[{ level := some .debug }, { target := "tamplier_core".toList, level := some .trace },
      { target := "tamplier".toList, level := some .trace }]⟩

/-- The filter of a run. A setting comes before the verbosity; one that cannot be read is taken for
the least verbosity. -/
def forRun (setting : Option String) (verbosity : Nat) : LogFilter :=
  match setting with
  | some text => (parse? text).getD (ofVerbosity 0)
  | none => ofVerbosity verbosity

end LogFilter

end ApiStencil
