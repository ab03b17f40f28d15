import ApiStencil.Fault.Read

/-!
# Node trees

The tree of a text in a data notation: scalars, sequences and mappings, and aliases of other nodes.
A text that is not well formed has a tree too, which is cut where the text stops making sense. A
reader that works from the root onwards and in document order meets the faults of the values before
the cut.

## Main definitions

* `Node` - a tree over scalars of some notation.
* `Node.isWhole` - no part of the tree is cut.
* `Presence`, `FreeScalar` - what a scalar is where it may be absent, and where it may be anything.
* `ScalarForm` - how the scalars of a notation are read.
-/

namespace ApiStencil

/-- A tree over scalars of type `σ`. -/
inductive Node (σ : Type) where
  | scalar (value : σ)
  /-- A node that stands elsewhere in the text. -/
  | link (anchor : Nat)
  | sequence (tag : Option String) (items : List (Node σ))
  | mapping (tag : Option String) (entries : List (Node σ × Node σ))
  /-- The place at which the text stops making sense. -/
  | cut

namespace Node

variable {σ : Type}

instance : Inhabited (Node σ) := ⟨cut⟩

mutual

/-- Whether no part of a tree is cut. -/
def isWhole : Node σ → Bool
  | scalar _ | link _ => true
  | sequence _ items => areWhole items
  | mapping _ entries => entriesAreWhole entries
  | cut => false

/-- Whether no part of some trees is cut. -/
def areWhole : List (Node σ) → Bool
  | [] => true
  | item :: items => item.isWhole && areWhole items

/-- Whether no part of some entries is cut. -/
def entriesAreWhole : List (Node σ × Node σ) → Bool
  | [] => true
  | (key, value) :: entries => key.isWhole && value.isWhole && entriesAreWhole entries

end

end Node

/-- Whether a scalar stands for an absent value. -/
inductive Presence where
  | absent
  | present
  /-- The scalar claims to be absent but has a value. -/
  | contradictory (complaint : Complaint)
  deriving DecidableEq, Repr

/-- What a scalar is where it may be anything. -/
inductive FreeScalar where
  | text (value : String)
  /-- A number without sign and fraction. -/
  | natural (value : Nat)
  /-- Something that no place takes. -/
  | refused (complaint : Complaint)
  /-- Any other value. -/
  | other
  /-- No value at all. -/
  | flawed
  deriving DecidableEq, Repr

/-- How the scalars of a notation are read. -/
class ScalarForm (σ : Type) where
  /-- The text that a text field takes. -/
  text? : σ → Option String
  /-- The flag that a flag field takes. -/
  flag? : σ → Option Bool
  /-- Whether an optional field is absent. -/
  presence : σ → Presence
  /-- Whether the scalar stands for a sequence or mapping without members. -/
  standsForEmpty : σ → Bool
  /-- The complaint about a scalar where something else is expected. A scalar that is no value at
  all gives none. -/
  reject : σ → String → Option Complaint
  /-- What the scalar is where it may be anything. -/
  free : σ → FreeScalar
  /-- Whether a collection with this tag is none of the known kinds. -/
  isForeignTag : String → Bool
  /-- The text of a key in a place. -/
  keyText : σ → String
  /-- Whether a record may be written as the sequence of its fields. -/
  recordsAsSequences : Bool

end ApiStencil
