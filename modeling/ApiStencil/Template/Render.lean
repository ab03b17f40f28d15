import ApiStencil.Template.Value

/-!
# Rendering

The text of a template in a scope. A variable is looked up in the repetitions around it, the inner
ones first, and then in the context. What has no value stops the rendering, except in a condition,
where it counts as false.

## Main definitions

* `Scope` - the context and the repetitions around a part.
* `Scope.value?` - the value of an expression.
* `Scope.holds?` - whether a condition holds.
* `render?` - the text of some parts.
-/

namespace ApiStencil.Template

/-- One round of a repetition. -/
structure Round where
  names : LoopNames
  key : String := ""
  value : Json
  /-- How many rounds come before this one. -/
  index : Nat
  /-- How many rounds there are. -/
  count : Nat

/-- The context and the repetitions around a part, the inner ones first. -/
structure Scope where
  context : List (String × Json)
  rounds : List Round := []

/-- The position in an array that a segment stands for. -/
def position? (segment : String) : Option Nat :=
  let digits := segment.toList
  if digits.isEmpty || !digits.all Char.isDigit || (digits.length > 1 && digits.head? = some '0')
  then none
  else some (digits.foldl (fun n c => 10 * n + (c.toNat - 0x30)) 0)

/-- The member of a value that a segment stands for. -/
def member? (value : Json) (segment : String) : Option Json :=
  match value with
  | .object members => members.lookup segment
  | .array items => (position? segment).bind (items[·]?)
  | _ => none

/-- The value that some segments lead to. -/
def follow? (value : Json) (segments : List String) : Option Json :=
  segments.foldlM member? value

/-- What a round says about itself. -/
def Round.about? (round : Round) : List String → Option Json
  | ["loop", what] =>
    if what = "index" then some (.ofNat (round.index + 1))
    else if what = "index0" then some (.ofNat round.index)
    else if what = "first" then some (.flag (round.index = 0))
    else if what = "last" then some (.flag (round.index + 1 = round.count))
    else none
  | _ => none

/-- The value that a round gives to a variable. -/
def Round.lookup? (round : Round) (path : List String) : Option Json :=
  (round.about? path).or <|
    match path with
    | [] => none
    | first :: rest =>
      if first = round.names.value then follow? round.value rest
      else if rest.isEmpty && round.names.key = some first then some (.text round.key)
      else none

/-- The value of a variable. -/
def Scope.lookup? (scope : Scope) (path : List String) : Option Json :=
  (scope.rounds.findSome? (·.lookup? path)).or (follow? (.object scope.context) path)

/-- Whether an expression is a variable without a value. -/
def Scope.isMissing (scope : Scope) (e : Expr) : Bool :=
  match e.base with
  | .path segments => (scope.lookup? segments).isNone
  | _ => false

/-- Whether a literal counts as true, whatever filters it has. -/
def literalHolds? (e : Expr) : Option Bool :=
  match e.base with
  | .text value => some (isTrue (.text value))
  | .number value => some (isTrue (.number value))
  | .flag value => some value
  | _ => none

mutual

/-- The value of an expression. -/
def Scope.value? (scope : Scope) : Expr → Option Json
  | .text value => some (.text value)
  | .number value => some (.number value)
  | .flag value => some (.flag value)
  | .path segments => scope.lookup? segments
  | .filtered operand filter arguments => do
    let value ← scope.value? operand
    applyFilter filter (← scope.values? arguments) value
  | .negated e =>
    if scope.isMissing e then some (.flag true)
    else (scope.value? e).map fun value => .flag (!isTrue value)
  | .compare how left right => do
    let a ← scope.value? left
    let b ← scope.value? right
    (how.holds? a b).map .flag
  | .both left right => do
    if ← scope.holds? left then return .flag (← scope.holds? right) else return .flag false
  | .either left right => do
    if ← scope.holds? left then return .flag true else return .flag (← scope.holds? right)

/-- The values of named arguments. -/
def Scope.values? (scope : Scope) : List (String × Expr) → Option (List (String × Json))
  | [] => some []
  | (name, e) :: more => do
    let value ← scope.value? e
    let values ← scope.values? more
    return (name, value) :: values

/-- Whether a condition holds. A variable without a value does not, nor one whose filters fail. -/
def Scope.holds? (scope : Scope) : Expr → Option Bool
  | .negated e =>
    if scope.isMissing e then some true
    else if e.isVariable then some ((scope.value? e).any fun value => !isTrue value)
    else (scope.holds? e).map (!·)
  | .compare how left right => do
    let a ← scope.value? left
    let b ← scope.value? right
    how.holds? a b
  | .both left right => do
    if ← scope.holds? left then scope.holds? right else return false
  | .either left right => do
    if ← scope.holds? left then return true else scope.holds? right
  | e => if e.isVariable then some ((scope.value? e).any isTrue) else literalHolds? e

end

/-- A member to repeat over, with its key if it has one. -/
abbrev Member := String × Json

/-- The members of a container. Only those of an object have keys, and there both names are
needed. -/
def members? (names : LoopNames) : Json → Option (List Member)
  | .array items => if names.key.isSome then none else some (items.map fun item => ("", item))
  | .text s =>
    if names.key.isSome then none
    else some (s.toList.map fun c => ("", .text (String.singleton c)))
  | .object members => if names.key.isSome then some members else none
  | _ => none

/-- The scope of one round of a repetition. -/
def Scope.enter (scope : Scope) (names : LoopNames) (count : Nat) (member : Member)
    (index : Nat) : Scope :=
  let round : Round := { names, key := member.1, value := member.2, index, count }
  { scope with rounds := round :: scope.rounds }

mutual

/-- The text of a part. -/
def renderPart (scope : Scope) : Part → Option String
  | .text value => some (String.ofList value)
  | .output e => (scope.value? e).map display
  | .choice alternatives default =>
    -- The default counts only if every condition could be decided.
    match renderChoice scope alternatives with
    | none => none
    | some (some text) => some text
    | some none => renderParts scope default
  | .loop names container body default => do
    let members ← members? names (← scope.value? container)
    if members.isEmpty then renderParts scope default
    else
      let texts ← members.zipIdx.mapM fun (member, index) =>
        renderParts (scope.enter names members.length member index) body
      return String.join texts

/-- The text of some parts. -/
def renderParts (scope : Scope) : List Part → Option String
  | [] => some ""
  | part :: parts => do
    let text ← renderPart scope part
    let rest ← renderParts scope parts
    return text ++ rest

/-- The text of the first alternative whose condition holds, if there is one. -/
def renderChoice (scope : Scope) : List (Expr × List Part) → Option (Option String)
  | [] => some none
  | (condition, body) :: more => do
    if ← scope.holds? condition then return some (← renderParts scope body)
    else renderChoice scope more

end

/-- The text of some parts in a context, which is an object. -/
def render? (parts : List Part) (context : Json) : Option String :=
  match context with
  | .object members => renderParts { context := members } parts
  | _ => none

end ApiStencil.Template
