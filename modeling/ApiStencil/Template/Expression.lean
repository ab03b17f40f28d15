import ApiStencil.Template.Basic

/-!
# Reading expressions

An expression is a disjunction of conjunctions. Their units are comparisons, which may be negated,
and disjunctions in parentheses; what is compared are variables and literals with filters.

## Main definitions

* `Expression.read` - reads the expression at the start of a text.
* `Expression.readContainer` - reads what can be repeated over.
-/

namespace ApiStencil.Template.Expression

/-- Whether a character may stand between the words of a tag. -/
def isSpace (c : Char) : Bool := c == ' ' || c == '\t' || c == '\r' || c == '\n'

/-- A text without the space at its start. -/
def skipSpace (s : List Char) : List Char := s.dropWhile isSpace

/-- Whether a character may stand in a name. -/
def isNameChar (c : Char) : Bool := c.isAlphanum || c == '_'

/-- Whether a name can start with a character. -/
def startsName (c : Char) : Bool := c.isAlpha || c == '_'

/-- The text after a mark and the space before it. -/
def mark (m : String) (s : List Char) : Option (List Char) :=
  m.toList.isPrefixOf? (skipSpace s)

/-- The text after a word that stands for itself. -/
def word (w : String) (s : List Char) : Option (List Char) := do
  let rest ← mark w s
  if rest.head?.any isSpace then some rest else none

/-- A name. -/
def name (s : List Char) : Option (String × List Char) :=
  let s := skipSpace s
  if s.head?.any startsName then
    some (String.ofList (s.takeWhile isNameChar), s.dropWhile isNameChar)
  else none

/-- The segments that lead on from a variable, after `skip` more characters of a segment. -/
def segments : Nat → List Char → List String × List Char
  | _, [] => ([], [])
  | skip + 1, _ :: rest => segments skip rest
  | 0, c :: rest =>
    let segment := rest.takeWhile isNameChar
    if c == '.' && !segment.isEmpty then
      let (more, rest) := segments segment.length rest
      (String.ofList segment :: more, rest)
    else ([], c :: rest)

/-- A variable with the members that lead on from it. -/
def path (s : List Char) : Option (Expr × List Char) := do
  let (first, rest) ← name s
  let (more, rest) := segments 0 rest
  return (.path (first :: more), rest)

/-- A text between quotes of one kind. There are no escapes. -/
def quotedText (s : List Char) : Option (Expr × List Char) :=
  match skipSpace s with
  | q :: rest =>
    if q == '"' || q == '\'' || q == '\x60' then
      match rest.dropWhile (· ≠ q) with
      | _ :: after => some (.text (String.ofList (rest.takeWhile (· ≠ q))), after)
      | [] => none
    else none
  | [] => none

/-- A truth value. -/
def truthValue (s : List Char) : Option (Expr × List Char) :=
  match mark "true" s, mark "True" s, mark "false" s, mark "False" s with
  | some rest, _, _, _ | none, some rest, _, _ => some (.flag true, rest)
  | none, none, some rest, _ | none, none, none, some rest => some (.flag false, rest)
  | none, none, none, none => none

/-- The number of some decimal digits. -/
def natOfDigits (digits : List Char) : Nat :=
  digits.foldl (fun n c => 10 * n + (c.toNat - 0x30)) 0

/-- The digits of a whole number. Nothing follows a zero. -/
def wholeDigits (s : List Char) : Option (List Char × List Char) :=
  match s with
  | '0' :: rest => some (['0'], rest)
  | _ =>
    let digits := s.takeWhile Char.isDigit
    if digits.isEmpty then none else some (digits, s.dropWhile Char.isDigit)

/-- A number with a sign: a whole one of 64 bits, or a double if a point follows. -/
def numberOf (negative : Bool) (digits fraction : List Char) : Option Json.Number :=
  if fraction.isEmpty then
    let value : Int := if negative then -(natOfDigits digits : Int) else natOfDigits digits
    if -0x8000000000000000 ≤ value ∧ value < 0x8000000000000000 then some (.whole value) else none
  else
    (Double.ofDecimal? (natOfDigits (digits ++ fraction)) (-(fraction.length : Int))).map
      fun x => .double { x with negative }

/-- A number. -/
def number (s : List Char) : Option (Expr × List Char) := do
  let s := skipSpace s
  let (negative, s) := match s with
    | '-' :: rest => (true, rest)
    | _ => (false, s)
  let (digits, s) ← wholeDigits s
  let fraction := match s with
    | '.' :: rest => rest.takeWhile Char.isDigit
    | _ => []
  let value ← numberOf negative digits fraction
  return (.number value, if fraction.isEmpty then s else s.drop (fraction.length + 1))

/-- A literal other than a text, or a variable. -/
def atom (s : List Char) : Option (Expr × List Char) :=
  (truthValue s).or ((path s).or (number s))

/-- The comparison that a mark stands for. Longer marks come before shorter ones. -/
def comparison (s : List Char) : Option (Comparison × List Char) :=
  [("<=", .atMost), (">=", .atLeast), ("<", .less), (">", .greater), ("==", .equal),
    ("!=", .unequal)].findSome? fun (m, how) => (mark m s).map fun rest => (how, rest)

/-- A literal other than a text, or a variable, in any number of parentheses. -/
def enclosedAtom : Nat → List Char → Option (Expr × List Char)
  | 0, _ => none
  | steps + 1, s =>
    match mark "(" s with
    | some rest => do
      let (e, rest) ← enclosedAtom steps rest
      return (e, ← mark ")" rest)
    | none => atom s

mutual

/-- A disjunction, read in at most so many nested steps. -/
def disjunction : Nat → List Char → Option (Expr × List Char)
  | 0, _ => none
  | steps + 1, s => do
    let (left, rest) ← conjunction steps s
    moreAlternatives steps left rest

/-- What follows an alternative. -/
def moreAlternatives : Nat → Expr → List Char → Option (Expr × List Char)
  | 0, _, _ => none
  | steps + 1, left, s =>
    match word "or" s with
    | some rest =>
      match conjunction steps rest with
      | some (right, rest) => moreAlternatives steps (.either left right) rest
      -- A word without an operand stays unread, so that the tag around it is at fault.
      | none => some (left, s)
    | none => some (left, s)

/-- A conjunction. -/
def conjunction : Nat → List Char → Option (Expr × List Char)
  | 0, _ => none
  | steps + 1, s => do
    let (left, rest) ← unit steps s
    moreConditions steps left rest

/-- What follows a condition. -/
def moreConditions : Nat → Expr → List Char → Option (Expr × List Char)
  | 0, _, _ => none
  | steps + 1, left, s =>
    match word "and" s with
    | some rest =>
      match unit steps rest with
      | some (right, rest) => moreConditions steps (.both left right) rest
      | none => some (left, s)
    | none => some (left, s)

/-- A comparison, which may be negated, or a disjunction in parentheses. -/
def unit : Nat → List Char → Option (Expr × List Char)
  | 0, _ => none
  | steps + 1, s =>
    match word "not" s with
    | some rest => (compared steps rest).map fun (e, rest) => (.negated e, rest)
    | none =>
      (compared steps s).or do
        let rest ← mark "(" s
        let (e, rest) ← disjunction steps rest
        return (e, ← mark ")" rest)

/-- An operand, or two with a comparison between them. -/
def compared : Nat → List Char → Option (Expr × List Char)
  | 0, _ => none
  | steps + 1, s => do
    let (left, rest) ← operand steps s
    match comparison rest with
    | some (how, after) =>
      match operand steps after with
      | some (right, rest) => return (.compare how left right, rest)
      | none => return (left, rest)
    | none => return (left, rest)

/-- A literal or a variable with its filters. -/
def operand : Nat → List Char → Option (Expr × List Char)
  | 0, _ => none
  | steps + 1, s => do
    let (e, rest) ← (quotedText s).or (enclosedAtom steps s)
    filters steps e rest

/-- The filters after an operand. -/
def filters : Nat → Expr → List Char → Option (Expr × List Char)
  | 0, _, _ => none
  | steps + 1, e, s =>
    match (mark "|" s).bind name with
    | some (filter, rest) =>
      match (mark "(" rest).bind (arguments steps) with
      | some (arguments, rest) => filters steps (.filtered e filter arguments) rest
      | none => filters steps (.filtered e filter []) rest
    | none => some (e, s)

/-- Named arguments up to the closing parenthesis. -/
def arguments : Nat → List Char → Option (List (String × Expr) × List Char)
  | 0, _ => none
  | steps + 1, s =>
    match mark ")" s with
    | some rest => some ([], rest)
    | none => do
      let (key, rest) ← name s
      let (value, rest) ← disjunction steps (← mark "=" rest)
      match mark "," rest with
      | some rest =>
        let (more, rest) ← arguments steps rest
        return ((key, value) :: more, rest)
      | none => return ([(key, value)], ← mark ")" rest)

end

/-- How many nested steps reading a text can take. -/
def stepsFor (s : List Char) : Nat := 8 * s.length + 8

/-- The expression at the start of a text. -/
def read (s : List Char) : Option (Expr × List Char) := disjunction (stepsFor s) s

/-- What can be repeated over: a variable with its filters. -/
def readContainer (s : List Char) : Option (Expr × List Char) := do
  let (e, rest) ← enclosedAtom (stepsFor s) s
  filters (stepsFor s) e rest

end ApiStencil.Template.Expression
