import ApiStencil.Template.Pieces

/-!
# Parts of templates

The pieces of a template become a tree: every choice and every repetition ends where its end tag
stands.

## Main definitions

* `parts?` - the parts of a template, if its tags match.
-/

namespace ApiStencil.Template

mutual

/-- The parts up to a tag that ends or continues what is around them, built in at most so many
nested steps. -/
def partsUntil : Nat → List Piece → Option (List Part × List Piece)
  | 0, _ => none
  | steps + 1, pieces =>
    match pieces with
    | [] => some ([], [])
    | .text t :: more => do
      let (parts, rest) ← partsUntil steps more
      return (.text t :: parts, rest)
    | .tag _ _ .comment :: more => partsUntil steps more
    | .tag _ _ (.output e) :: more => do
      let (parts, rest) ← partsUntil steps more
      return (.output e :: parts, rest)
    | .tag _ _ (.choice condition) :: more => do
      let (alternatives, default, more) ← alternatives steps condition more
      let (parts, rest) ← partsUntil steps more
      return (.choice alternatives default :: parts, rest)
    | .tag _ _ (.loop names container) :: more => do
      let (body, more) ← partsUntil steps more
      let (default, more) ← ending steps .endLoop more
      let (parts, rest) ← partsUntil steps more
      return (.loop names container body default :: parts, rest)
    | .tag _ _ _ :: _ => some ([], pieces)

/-- The alternatives of a choice from a condition on, its default, and what follows its end. -/
def alternatives : Nat → Expr → List Piece →
    Option (List (Expr × List Part) × List Part × List Piece)
  | 0, _, _ => none
  | steps + 1, condition, pieces => do
    let (body, rest) ← partsUntil steps pieces
    match rest with
    | .tag _ _ (.nextChoice next) :: more => do
      let (others, default, rest) ← alternatives steps next more
      return ((condition, body) :: others, default, rest)
    | _ => do
      let (default, rest) ← ending steps .endChoice rest
      return ([(condition, body)], default, rest)

/-- The default before an end tag, and what follows that tag. -/
def ending : Nat → Tag → List Piece → Option (List Part × List Piece)
  | 0, _, _ => none
  | steps + 1, close, pieces =>
    match pieces, close with
    | .tag _ _ .otherwise :: more, close => do
      let (default, rest) ← partsUntil steps more
      match rest, close with
      | .tag _ _ .endChoice :: more, .endChoice => return (default, more)
      | .tag _ _ .endLoop :: more, .endLoop => return (default, more)
      | _, _ => none
    | .tag _ _ .endChoice :: more, .endChoice => some ([], more)
    | .tag _ _ .endLoop :: more, .endLoop => some ([], more)
    | _, _ => none

end

/-- The parts of a template, if its tags are well formed and match. -/
def parts? (source : String) : Option (List Part) := do
  let pieces := trim (← pieces? source)
  let (parts, rest) ← partsUntil (4 * pieces.length + 4) pieces
  if rest.isEmpty then some parts else none

end ApiStencil.Template
