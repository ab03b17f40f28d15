import ApiStencil.Json.Basic

/-!
# Templates

A template is text with tags: outputs of expressions, choices between parts, and repetitions over
lists.

## Main definitions

* `Expr` - an expression.
* `Tag`, `Piece` - a template as the sequence of its texts and tags.
* `Part` - a template as a tree.
-/

namespace ApiStencil.Template

/-- How two values are compared. -/
inductive Comparison where
  | equal
  | unequal
  | less
  | atMost
  | greater
  | atLeast
  deriving DecidableEq, Repr

/-- An expression. -/
inductive Expr where
  | text (value : String)
  | number (value : Json.Number)
  | flag (value : Bool)
  /-- A variable and the members that lead on from it. -/
  | path (segments : List String)
  /-- An operand with a filter and its named arguments. -/
  | filtered (operand : Expr) (filter : String) (arguments : List (String × Expr))
  | negated (operand : Expr)
  | compare (how : Comparison) (left right : Expr)
  | both (left right : Expr)
  | either (left right : Expr)

/-- The operand below all filters. -/
def Expr.base : Expr → Expr
  | filtered operand _ _ => operand.base
  | e => e

/-- Whether an expression is a variable, with filters or without. -/
def Expr.isVariable (e : Expr) : Bool :=
  match e.base with
  | path _ => true
  | _ => false

/-- The names that a repetition gives to the key and the value of each member. -/
structure LoopNames where
  key : Option String := none
  value : String
  deriving DecidableEq, Repr

/-- A tag. -/
inductive Tag where
  | comment
  | output (e : Expr)
  | choice (condition : Expr)
  | nextChoice (condition : Expr)
  | otherwise
  | endChoice
  | loop (names : LoopNames) (container : Expr)
  | endLoop

/-- A text or a tag. A dash on either side of a tag trims the text there. -/
inductive Piece where
  | text (value : List Char)
  | tag (trimsLeft trimsRight : Bool) (tag : Tag)

/-- A part of a template. -/
inductive Part where
  | text (value : List Char)
  | output (e : Expr)
  /-- The first alternative whose condition holds, or else the default. -/
  | choice (alternatives : List (Expr × List Part)) (default : List Part)
  /-- A body for every member of a container, or else the default. -/
  | loop (names : LoopNames) (container : Expr) (body default : List Part)

end ApiStencil.Template
