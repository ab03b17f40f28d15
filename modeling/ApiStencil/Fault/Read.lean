import ApiStencil.Text.Quoted

/-!
# Faults of reading

Why a document or a configuration cannot be read into its types: either the text is not well formed,
or a well-formed value is not what its place asks for.

## Main definitions

* `Found` - what stands at a place, as a message names it.
* `Complaint` - what is wrong with a well-formed value.
* `Place` - where a value stands in a document.
* `ReadFault` - a fault of reading.
-/

namespace ApiStencil

/-- What stands at a place, as a message names it. -/
inductive Found where
  /-- Nothing, with the word of the notation for it. -/
  | nothing (word : String)
  | flag (value : Bool)
  | integer (value : Int)
  /-- An integer of more than 64 bits, with the name of its width. -/
  | wideInteger (value : Int) (width : String)
  /-- A number with a fraction or an exponent, in the notation's own text. -/
  | decimal (text : String)
  | text (value : String)
  | sequence
  | mapping
  deriving DecidableEq, Repr

/-- The name of what was found. -/
def Found.describe : Found → String
  | nothing word => word
  | flag value => "boolean `" ++ (if value then "true" else "false") ++ "`"
  | integer value => "integer `" ++ toString value ++ "`"
  | wideInteger value width => "integer `" ++ toString value ++ "` as " ++ width
  | decimal digits => "floating point `" ++ digits ++ "`"
  | text value => "string " ++ Text.quoted value
  | sequence => "sequence"
  | mapping => "map"

/-- What is wrong with a well-formed value. -/
inductive Complaint where
  /-- The value has not the type that its place asks for. -/
  | wrongType (found : Found) (expected : String)
  /-- The value does not have the form that its tag announces. -/
  | wrongValue (found : Found) (expected : String)
  | missingField (name : String)
  | duplicateField (name : String)
  /-- The value fits none of the forms of a type with several. -/
  | noVariant (type : String)
  deriving DecidableEq, Repr

/-- The wording of a complaint. -/
def Complaint.describe : Complaint → String
  | wrongType found expected =>
    "invalid type: " ++ found.describe ++ ", expected " ++ expected
  | wrongValue found expected =>
    "invalid value: " ++ found.describe ++ ", expected " ++ expected
  | missingField name => "missing field `" ++ name ++ "`"
  | duplicateField name => "duplicate field `" ++ name ++ "`"
  | noVariant type => "data did not match any variant of untagged enum " ++ type

/-- One step from a collection to a member. -/
inductive Step where
  /-- The value of a key that is a scalar. -/
  | key (name : String)
  /-- The value of any other key. -/
  | unnamed
  /-- An item of a sequence. -/
  | item (index : Nat)
  deriving DecidableEq, Repr

/-- Where a value stands: the steps that lead to it, the last one first. -/
abbrev Place := List Step

/-- The text of a place. The root is a single point. -/
def Place.describe : Place → String
  | [] => "."
  | .item index :: rest => describe rest ++ "[" ++ toString index ++ "]"
  | .key name :: [] => name
  | .key name :: rest => describe rest ++ "." ++ name
  | .unnamed :: [] => "?"
  | .unnamed :: rest => describe rest ++ ".?"

/-- Why a text cannot be read. -/
inductive ReadFault where
  /-- The text is not well formed, or it asks for more repetition or depth than is allowed. -/
  | malformed
  /-- A well-formed value is not what its place asks for. -/
  | mismatch (place : Place) (complaint : Complaint)
  deriving DecidableEq, Repr

/-- The wording of a fault that a value causes. A malformed text has no wording of its own. -/
def ReadFault.describe? : ReadFault → Option String
  | malformed => none
  | mismatch place complaint =>
    let whereabouts := place.describe
    some (if whereabouts = "." then complaint.describe
      else whereabouts ++ ": " ++ complaint.describe)

end ApiStencil
