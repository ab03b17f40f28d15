import ApiStencil.Decoding.Node
import ApiStencil.Dict
import ApiStencil.Yaml.Scalar
import ApiStencil.Yaml.Tokens

/-!
# Trees of documents

The tokens of a document become a tree. Where they end too early, or another token stands than may
stand there, the tree is cut.

## Main definitions

* `Builder` - the tokens that are left, the tags and anchors known so far.
* `Builder.node` - the node at the start of the tokens.
* `Source` - a document together with its anchors.
* `Source.ofText` - the document of a text.
-/

namespace ApiStencil.Yaml

/-- The tree of a document. -/
abbrev Tree := Node Scalar

/-- The state of building a tree. -/
structure Builder where
  /-- The tokens that are left; none after a fault. -/
  tokens : List Token
  /-- The starts of tags by their handles. -/
  handles : Dict String String := Dict.empty
  /-- The numbers of the anchors that are in force. -/
  anchors : Dict String Nat := Dict.empty
  /-- The positions of the nodes that the numbers of anchors stand for. -/
  positions : Dict Nat Nat := Dict.empty
  /-- How many positions there are so far: one for each scalar and alias, and two for each
  collection. -/
  position : Nat := 0

/-- A step of building a tree. -/
abbrev Build (α : Type) := StateM Builder α

namespace Builder

/-- The next token. -/
def peek : Build (Option Token) := return (← get).tokens.head?

/-- Passes over the next token. -/
def drop : Build Unit := modify fun b => { b with tokens := b.tokens.drop 1 }

/-- Ends the tokens at a fault. -/
def fail : Build Tree := do
  modify fun b => { b with tokens := [] }
  return .cut

/-- Takes the next position. -/
def advance : Build Unit := modify fun b => { b with position := b.position + 1 }

/-- What stands before a node. -/
structure Properties where
  anchor : Option String := none
  tag : Option (String × String) := none

/-- Whether there are neither anchor nor tag. -/
def Properties.isEmpty (p : Properties) : Bool := p.anchor.isNone && p.tag.isNone

/-- The anchor and the tag of a node, at most one each and in either order. -/
def properties : Build Properties := do
  match (← get).tokens with
  | .anchor name :: .tag handle rest :: tokens | .tag handle rest :: .anchor name :: tokens =>
    modify fun b => { b with tokens }
    return { anchor := some name, tag := some (handle, rest) }
  | .anchor name :: tokens =>
    modify fun b => { b with tokens }
    return { anchor := some name }
  | .tag handle rest :: tokens =>
    modify fun b => { b with tokens }
    return { tag := some (handle, rest) }
  | _ => return {}

/-- The handles that every document knows. -/
def standardHandle? (handle : String) : Option String :=
  if handle = "!" then some "!" else if handle = "!!" then some "tag:yaml.org,2002:" else none

/-- The text of a tag, if its handle is known. -/
def tagText? (handles : Dict String String) (tag : String × String) : Option String :=
  if tag.1.isEmpty then some tag.2
  else ((handles.get? tag.1).or (standardHandle? tag.1)).map (· ++ tag.2)

/-- Notes that an anchor stands for the node at the next position. A repeated anchor takes a number
that the next new one takes too. -/
def noteAnchor : Option String → Build Unit
  | none => return ()
  | some name => modify fun b =>
    let number := b.anchors.size
    { b with
      anchors := b.anchors.insert name number
      positions := b.positions.insert number b.position }

/-- A scalar without text, where a node is missing. -/
def emptyScalar : Build Tree := do
  advance
  return .scalar { text := "", style := .plain }

/-- The tag of a scalar. A tag of nothing but an exclamation mark does not count. -/
def scalarTag (tag : Option String) : Option String :=
  if tag = some "!" then none else tag

/-- The alias of a node. -/
def aliasNode (name : String) : Build Tree := do
  match (← get).anchors.get? name with
  | some number =>
    drop
    advance
    return .link number
  | none => fail

/-- Whether the next token ends an item or a member of a block. -/
def endsMember : Option Token → Bool
  | some .key | some .value | some .blockEnd => true
  | _ => false

/-- Whether the next token ends an item of a sequence whose dashes are not indented. -/
def endsDash : Option Token → Bool
  | some .blockEntry => true
  | token => endsMember token

/-- Whether the next token ends an item of an indented sequence. -/
def endsItem : Option Token → Bool
  | some .blockEntry | some .blockEnd => true
  | _ => false

/-- Whether the next token ends a key of a flow collection that ends with `close`. -/
def endsFlowKey (close : Token) (token : Option Token) : Bool :=
  token = some .value || token = some .flowEntry || token = some close

/-- Whether the next token ends a value of a flow collection that ends with `close`. -/
def endsFlowValue (close : Token) (token : Option Token) : Bool :=
  token = some .flowEntry || token = some close

/-- The node unless it is missing. -/
def nodeUnless (missing : Bool) (node : Build Tree) : Build Tree :=
  if missing then emptyScalar else node

mutual

/-- The node at the start of the tokens, built in at most so many nested steps. In a block
collection it may be one itself, and as a value also a sequence whose dashes are not indented. -/
def node : Nat → (inBlock asValue : Bool) → Build Tree
  | 0, _, _ => fail
  | steps + 1, inBlock, asValue => do
    if let some (.aliasOf name) ← peek then aliasNode name
    else
      let p ← properties
      let handles := (← get).handles
      match p.tag.map (tagText? handles) with
      | some none => fail
      | tag =>
        let tag := tag.join
        match ← peek, inBlock, asValue with
        | some (.scalar text style), _, _ =>
          drop
          noteAnchor p.anchor
          advance
          return .scalar { text, style, tag := scalarTag tag }
        | some .flowSequenceStart, _, _ =>
          noteAnchor p.anchor
          advance
          drop
          return .sequence tag (← flowItems steps true)
        | some .flowMappingStart, _, _ =>
          noteAnchor p.anchor
          advance
          drop
          return .mapping tag (← flowMembers steps true)
        | some .blockSequenceStart, true, _ =>
          noteAnchor p.anchor
          advance
          drop
          return .sequence tag (← blockItems steps)
        | some .blockMappingStart, true, _ =>
          noteAnchor p.anchor
          advance
          drop
          return .mapping tag (← blockMembers steps)
        -- Dashes in the column of the key around them: no token opens or closes this sequence.
        | some .blockEntry, _, true =>
          noteAnchor p.anchor
          advance
          return .sequence tag (← dashItems steps)
        | none, _, _ => fail
        | _, _, _ =>
          if p.isEmpty then fail
          else
            noteAnchor p.anchor
            advance
            return .scalar { text := "", style := .plain, tag }

/-- The items of an indented block sequence. -/
def blockItems : Nat → Build (List Tree)
  | 0 => return [← fail]
  | steps + 1 => do
    match ← peek with
    | some .blockEntry =>
      drop
      let item ← nodeUnless (endsItem (← peek)) (node steps true false)
      return item :: (← blockItems steps)
    | some .blockEnd =>
      drop
      advance
      return []
    | _ => return [← fail]

/-- The items of a block sequence whose dashes are not indented. -/
def dashItems : Nat → Build (List Tree)
  | 0 => return [← fail]
  | steps + 1 => do
    match ← peek with
    | some .blockEntry =>
      drop
      let item ← nodeUnless (endsDash (← peek)) (node steps true false)
      return item :: (← dashItems steps)
    | some _ =>
      advance
      return []
    | none => return [← fail]

/-- The members of a block mapping. -/
def blockMembers : Nat → Build (List (Tree × Tree))
  | 0 => return [(← fail, .cut)]
  | steps + 1 => do
    match ← peek with
    | some .key =>
      drop
      let key ← nodeUnless (endsMember (← peek)) (node steps true true)
      let value ← blockValue steps
      return (key, value) :: (← blockMembers steps)
    | some .blockEnd =>
      drop
      advance
      return []
    | _ => return [(← fail, .cut)]

/-- The value of a member of a block mapping. -/
def blockValue : Nat → Build Tree
  | 0 => fail
  | steps + 1 => do
    match ← peek with
    | some .value =>
      drop
      nodeUnless (endsMember (← peek)) (node steps true true)
    | some _ => emptyScalar
    | none => fail

/-- The items of a flow sequence. An item with a colon is a mapping of its own. -/
def flowItems : Nat → (first : Bool) → Build (List Tree)
  | 0, _ => return [← fail]
  | steps + 1, first => do
    match ← peek, first with
    | some .flowSequenceEnd, _ =>
      drop
      advance
      return []
    | some .flowEntry, false =>
      drop
      if (← peek) = some .flowSequenceEnd then flowItems steps true
      else
        let item ← flowItem steps
        return item :: (← flowItems steps false)
    | some _, true =>
      let item ← flowItem steps
      return item :: (← flowItems steps false)
    | _, _ => return [← fail]

/-- An item of a flow sequence. -/
def flowItem : Nat → Build Tree
  | 0 => fail
  | steps + 1 => do
    match ← peek with
    | some .key =>
      advance
      drop
      let next ← peek
      let key ←
        if endsFlowKey .flowSequenceEnd next then do
          drop
          emptyScalar
        else node steps false false
      let value ← flowValue steps .flowSequenceEnd
      advance
      return .mapping none [(key, value)]
    | _ => node steps false false

/-- The value after the key of a flow collection that ends with `close`. -/
def flowValue : Nat → (close : Token) → Build Tree
  | 0, _ => fail
  | steps + 1, close => do
    match ← peek with
    | some .value =>
      drop
      nodeUnless (endsFlowValue close (← peek)) (node steps false false)
    | some _ => emptyScalar
    | none => fail

/-- The members of a flow mapping. A member without a question mark or colon has no value. -/
def flowMembers : Nat → (first : Bool) → Build (List (Tree × Tree))
  | 0, _ => return [(← fail, .cut)]
  | steps + 1, first => do
    match ← peek, first with
    | some .flowMappingEnd, _ =>
      drop
      advance
      return []
    | some .flowEntry, false =>
      drop
      if (← peek) = some .flowMappingEnd then flowMembers steps true
      else
        let member ← flowMember steps
        return member :: (← flowMembers steps false)
    | some _, true =>
      let member ← flowMember steps
      return member :: (← flowMembers steps false)
    | _, _ => return [(← fail, .cut)]

/-- A member of a flow mapping. -/
def flowMember : Nat → Build (Tree × Tree)
  | 0 => return (← fail, .cut)
  | steps + 1 => do
    match ← peek with
    | some .key =>
      drop
      let key ← nodeUnless (endsFlowKey .flowMappingEnd (← peek)) (node steps false false)
      return (key, ← flowValue steps .flowMappingEnd)
    | _ =>
      let key ← node steps false false
      match ← peek with
      | some _ => return (key, ← emptyScalar)
      | none => return (key, ← fail)

end

/-- The directives before a document, of which there is at most one version and one of each
handle. -/
def directives (steps : Nat) (versioned : Bool) : Build Bool := do
  match steps, (← get).tokens with
  | steps + 1, .version major minor :: tokens =>
    if versioned || major ≠ 1 || (minor ≠ 1 && minor ≠ 2) then return false
    else
      modify fun b => { b with tokens }
      directives steps true
  | steps + 1, .tagHandle handle start :: tokens =>
    if (← get).handles.contains handle then return false
    else
      modify fun b => { b with tokens, handles := b.handles.insert handle start }
      directives steps versioned
  | _, _ => return true

/-- Whether the next token means that an announced document has no root. -/
def lacksRoot : Option Token → Bool
  | some (.version _ _) | some (.tagHandle _ _) | some .documentStart | some .documentEnd
  | some .streamEnd => true
  | _ => false

/-- The root of the first document. A text without documents has an empty mapping for its root. -/
def root (steps : Nat) : Build Tree := do
  match ← peek with
  | some .streamEnd =>
    advance
    return .mapping none []
  | some (.version _ _) | some (.tagHandle _ _) | some .documentStart =>
    if !(← directives steps false) then fail
    else if (← peek) = some .documentStart then do
      drop
      let next ← peek
      if next.isNone then fail else nodeUnless (lacksRoot next) (node steps true false)
    else fail
  | _ => node steps true false

end Builder

/-- A document together with what its aliases stand for. -/
structure Source where
  root : Tree
  /-- The positions of the nodes that the numbers of anchors stand for. -/
  positions : Dict Nat Nat
  /-- How many positions the document has. -/
  size : Nat
  /-- Whether the text holds this document and nothing else. -/
  isComplete : Bool

mutual

/-- The node at a position of a tree, or what is left of the position after the tree. -/
def nodeAt (position : Nat) : Tree → Tree ⊕ Nat
  | tree@(.scalar _) | tree@(.link _) => if position = 0 then .inl tree else .inr (position - 1)
  | tree@(.sequence _ items) =>
    if position = 0 then .inl tree else (itemAt (position - 1) items).map id (· - 1)
  | tree@(.mapping _ entries) =>
    if position = 0 then .inl tree else (entryAt (position - 1) entries).map id (· - 1)
  | .cut => .inr position

/-- The node at a position of some trees. -/
def itemAt (position : Nat) : List Tree → Tree ⊕ Nat
  | [] => .inr position
  | item :: items =>
    match nodeAt position item with
    | .inl tree => .inl tree
    | .inr position => itemAt position items

/-- The node at a position of some entries. -/
def entryAt (position : Nat) : List (Tree × Tree) → Tree ⊕ Nat
  | [] => .inr position
  | (key, value) :: entries =>
    match nodeAt position key with
    | .inl tree => .inl tree
    | .inr position =>
      match nodeAt position value with
      | .inl tree => .inl tree
      | .inr position => entryAt position entries

end

/-- The node that an alias stands for. -/
def Source.resolve (source : Source) (anchor : Nat) : Option Tree := do
  let position ← source.positions.get? anchor
  (nodeAt position source.root).getLeft?

/-- Whether nothing follows the root of a document but the end of the text. -/
def endsText (rest : List Token) : Bool :=
  rest.dropWhile (· == .documentEnd) == [.streamEnd]

/-- The document of a text. -/
def Source.ofText (text : String) : Source :=
  let tokens := (tokens text).drop 1
  -- A token leads to four nested steps at most.
  let (root, b) := (Builder.root (4 * tokens.length + 4)).run { tokens }
  { root, positions := b.positions, size := b.position, isComplete := endsText b.tokens }

end ApiStencil.Yaml
