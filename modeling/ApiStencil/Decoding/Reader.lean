import ApiStencil.Decoding.Node
import ApiStencil.Dict

/-!
# Typed reading

Readers turn the nodes of a tree into typed values, in document order, so that the first fault of
the document is the one reported. The shape of a type is declared once and read from any notation.

## Main definitions

* `Reader` - reads a node at a site.
* `readText`, `readFlag`, `readOptional`, `readList`, `readDict` - the readers of the basic shapes.
* `Field`, `readRecord` - records, by their fields.
-/

namespace ApiStencil

/-- Where a node is read, and what the aliases in it stand for. -/
structure Site (σ : Type) where
  place : Place := []
  /-- The node that an alias stands for. -/
  resolve : Nat → Option (Node σ) := fun _ => none
  /-- How many aliases may be followed in all. -/
  aliasLimit : Nat := 0

/-- A reading, which counts the aliases that it has followed. -/
abbrev Reading (α : Type) := StateT Nat (Except ReadFault) α

/-- Reads a node at a site. -/
abbrev Reader (σ α : Type) := Site σ → Node σ → Reading α

variable {σ α β κ ρ : Type}

/-- Stops a reading with a complaint at a site. -/
def complain (site : Site σ) (complaint : Complaint) : Reading α :=
  throw (.mismatch site.place complaint)

/-- The site of a member. -/
def Site.step (site : Site σ) (step : Step) : Site σ :=
  { site with place := step :: site.place }

/-- The node itself, or the node that an alias stands for. -/
def follow (site : Site σ) : Node σ → Reading (Node σ)
  | .link anchor => do
    let followed := (← get) + 1
    set followed
    -- The count is over the whole document, so that aliases cannot multiply without end.
    if followed > site.aliasLimit then throw .malformed
    match site.resolve anchor with
    | some node => return node
    | none => throw .malformed
  | node => return node

variable [ScalarForm σ]

/-- Refuses a node where something else is expected. -/
def refuse (site : Site σ) (expected : String) : Node σ → Reading α
  | .scalar s =>
    match ScalarForm.reject s expected with
    | some complaint => complain site complaint
    | none => throw .malformed
  | .sequence _ _ => complain site (.wrongType .sequence expected)
  | .mapping _ _ => complain site (.wrongType .mapping expected)
  | .link _ | .cut => throw .malformed

/-- Reads a text, named `expected` where there is none. -/
def readTextAs (expected : String) : Reader σ String := fun site node => do
  let node ← follow site node
  match node with
  | .scalar s =>
    match ScalarForm.text? s with
    | some text => return text
    | none => refuse site expected node
  | _ => refuse site expected node

/-- Reads a text. -/
def readText : Reader σ String := readTextAs "a string"

/-- Reads a flag. -/
def readFlag : Reader σ Bool := fun site node => do
  let node ← follow site node
  match node with
  | .scalar s =>
    match ScalarForm.flag? s with
    | some flag => return flag
    | none => refuse site "a boolean" node
  | _ => refuse site "a boolean" node

/-- Reads a value that may be absent. A scalar that contradicts itself is a fault of the collection
around it. -/
def readOptional (read : Reader σ α) : Reader σ (Option α) := fun site node => do
  let node ← follow site node
  match node with
  | .scalar s =>
    match ScalarForm.presence s with
    | .absent => return none
    | .present => some <$> read site node
    | .contradictory complaint => throw (.mismatch site.place.tail complaint)
  | _ => some <$> read site node

/-- Reads the items of a sequence from the one at `index` on. -/
def readItems (read : Reader σ α) (site : Site σ) : Nat → List (Node σ) → Reading (List α)
  | _, [] => return []
  | _, .cut :: _ => throw .malformed
  | index, item :: items => do
    let value ← read (site.step (.item index)) item
    let values ← readItems read site (index + 1) items
    return value :: values

/-- Reads a sequence. -/
def readList (read : Reader σ α) : Reader σ (List α) := fun site node => do
  let node ← follow site node
  match node with
  | .sequence _ items => readItems read site 0 items
  | .scalar s => if ScalarForm.standsForEmpty s then return [] else refuse site "a sequence" node
  | _ => refuse site "a sequence" node

/-- The step to the value of a key. -/
def keyStep : Node σ → Step
  | .scalar s => .key (ScalarForm.keyText s)
  | _ => .unnamed

/-- Reads the entries of a mapping one after the other, each into the value built so far. -/
def foldEntries (absorb : Site σ → α → Node σ → Node σ → Reading α) (site : Site σ) :
    α → List (Node σ × Node σ) → Reading α
  | built, [] => return built
  | _, (.cut, _) :: _ => throw .malformed
  | built, (key, value) :: entries => do
    let built ← absorb site built key value
    foldEntries absorb site built entries

/-- Reads a mapping, named `expected` where there is none, by its entries. -/
def readMapping (expected : String) (absorb : Site σ → α → Node σ → Node σ → Reading α)
    (start : α) : Reader σ α := fun site node => do
  let node ← follow site node
  match node with
  | .mapping _ entries => foldEntries absorb site start entries
  | .scalar s => if ScalarForm.standsForEmpty s then return start else refuse site expected node
  | _ => refuse site expected node

/-- Reads a mapping with free keys. -/
def readDict [DecidableEq κ] (readKey : Reader σ κ) (read : Reader σ α) : Reader σ (Dict κ α) :=
  readMapping "a map" (fun site dict key value => do
    let k ← readKey site key
    let v ← read (site.step (keyStep key)) value
    return dict.insert k v) Dict.empty

/-- Passes over a value that nothing asks for. -/
def ignoreValue (node : Node σ) : Reading Unit :=
  if node.isWhole then return () else throw .malformed

/-- Passes over a scalar that may be anything, as long as it does not contradict itself. -/
def checkFreeScalar (site : Site σ) (s : σ) : Reading Unit :=
  match ScalarForm.free s with
  | .refused complaint => complain site complaint
  | .flawed => throw .malformed
  | .text _ | .natural _ | .other => return ()

/-- Passes over a value that may be anything, as long as it is a value. No more than `room`
collections may lie in one another. -/
def checkFree : (room : Nat) → Site σ → Node σ → Reading Unit
  | 0, site, node => do
    match ← follow site node with
    | .scalar s => checkFreeScalar site s
    | _ => throw .malformed
  | room + 1, site, node => do
    match ← follow site node with
    | .scalar s => checkFreeScalar site s
    | .sequence tag items =>
      if tag.any (ScalarForm.isForeignTag σ) then throw .malformed
      items.zipIdx.forM fun (item, index) => checkFree room (site.step (.item index)) item
    | .mapping tag entries =>
      if tag.any (ScalarForm.isForeignTag σ) then throw .malformed
      entries.forM fun (key, value) => do
        checkFree room site key
        checkFree room (site.step (keyStep key)) value
    | .link _ | .cut => throw .malformed

/-- How many collections of a document may lie in one another. -/
def nestingLimit : Nat := 128

/-- How many more collections a key at a site may lie around. -/
def Site.roomForKey (site : Site σ) : Nat := nestingLimit - (site.place.length + 1)

/-- A field of a record `ρ`. -/
structure Field (σ ρ : Type) where
  name : String
  /-- Another name that the field goes by. -/
  otherName : Option String := none
  required : Bool := false
  /-- Reads the value of the field into the record. -/
  read : Site σ → ρ → Node σ → Reading ρ

/-- A field that the record may lack. -/
def Field.optional (name : String) (read : Reader σ α) (set : ρ → α → ρ) : Field σ ρ where
  name := name
  read site record node := set record <$> read site node

/-- A field that the record must have. -/
def Field.mandatory (name : String) (read : Reader σ α) (set : ρ → α → ρ) : Field σ ρ where
  name := name
  required := true
  read site record node := set record <$> read site node

/-- Whether a field goes by a name. -/
def Field.goesBy (field : Field σ ρ) (name : String) : Bool :=
  field.name = name || field.otherName = some name

/-- Reads one entry of a record. The names seen so far come with the record, since no field may be
given twice; other keys are passed over. -/
def absorbField (fields : List (Field σ ρ)) (site : Site σ) (seen : List String × ρ)
    (key value : Node σ) : Reading (List String × ρ) := do
  -- The key is read before the name is looked up: it must be text even if nothing asks for it.
  let name ← readTextAs "field identifier" site key
  match fields.find? (·.goesBy name) with
  | none =>
    ignoreValue value
    return seen
  | some field =>
    if seen.1.contains field.name then complain site (.duplicateField field.name)
    else
      let record ← field.read (site.step (keyStep key)) seen.2 value
      return (field.name :: seen.1, record)

/-- Checks that every mandatory field has been given. -/
def checkGiven (fields : List (Field σ ρ)) (site : Site σ) (seen : List String) : Reading Unit :=
  match fields.find? fun field => field.required && !seen.contains field.name with
  | some field => complain site (.missingField field.name)
  | none => return ()

/-- Reads a record from the sequence of its fields. Fields at the end may be left out unless they
are mandatory. -/
def readPositional (site : Site σ) : Nat → List (Field σ ρ) → ρ → List (Node σ) → Reading ρ
  | _, _, _, .cut :: _ => throw .malformed
  | _, fields, record, [] => if fields.any (·.required) then throw .malformed else return record
  | _, [], _, _ :: _ => throw .malformed
  | index, field :: fields, record, item :: items => do
    let record ← field.read (site.step (.item index)) record item
    readPositional site (index + 1) fields record items

/-- Reads a record of the type named `type`, starting from its default values. -/
def readRecord (type : String) (fields : List (Field σ ρ)) (start : ρ) : Reader σ ρ :=
  fun site node => do
    let node ← follow site node
    match ScalarForm.recordsAsSequences σ, node with
    | true, .sequence _ items => readPositional site 0 fields start items
    | _, _ =>
      let (seen, record) ←
        readMapping ("struct " ++ type) (absorbField fields) (([] : List String), start) site node
      checkGiven fields site seen
      return record

end ApiStencil
