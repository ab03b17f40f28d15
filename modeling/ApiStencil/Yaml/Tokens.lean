import ApiStencil.Yaml.Block
import ApiStencil.Yaml.Plain
import ApiStencil.Yaml.Quoted
import ApiStencil.Yaml.Tag

/-!
# Tokens of a text

A text becomes tokens from the left. That a node is a key shows only when its colon comes, so tokens
wait in a queue as long as a key may have to be announced before them. Where the text is at fault
the tokens end, and those that still wait are lost.

## Main definitions

* `Cursor` - a place in a text.
* `Lexer` - a place together with open blocks, possible keys and waiting tokens.
* `Lexer.fetch` - reads one more token.
* `tokens` - the tokens of a text up to its end or its first fault.
-/

namespace ApiStencil.Yaml

/-- A place in a text and what follows it. -/
structure Cursor where
  rest : List Char
  index : Nat := 0
  line : Nat := 0
  column : Nat := 0

namespace Cursor

/-- Moves over some characters. -/
def advance : Nat → Cursor → Cursor
  | 0, c => c
  | n + 1, c =>
    match c.rest with
    | [] => c
    | '\r' :: '\n' :: rest =>
      advance n { c with rest := '\n' :: rest, index := c.index + 1, column := c.column + 1 }
    | d :: rest =>
      if isBreak d then advance n { rest, index := c.index + 1, line := c.line + 1, column := 0 }
      else advance n { c with rest, index := c.index + 1, column := c.column + 1 }

/-- Moves to a rest of the text. -/
def moveTo (c : Cursor) (rest : List Char) : Cursor :=
  c.advance (c.rest.length - rest.length)

end Cursor

/-- A token that may turn out to start a key. -/
structure KeyCandidate where
  /-- The number of the token. -/
  number : Nat
  /-- Whether nothing but a key can stand there. -/
  required : Bool
  index : Nat
  line : Nat
  column : Nat

/-- The state of reading tokens. -/
structure Lexer where
  cursor : Cursor
  /-- The tokens that wait, in order. -/
  queue : List Token := []
  /-- How many tokens have left the queue. -/
  delivered : Nat := 0
  /-- The possible key of the innermost flow collection, or of the block around all of them. -/
  candidate : Option KeyCandidate := none
  /-- The possible keys of the collections around it, the inner ones first. -/
  outerCandidates : List (Option KeyCandidate) := []
  /-- The column of the innermost block, `-1` outside all blocks. -/
  indent : Int := -1
  outerIndents : List Int := []
  /-- Whether a key may start here. -/
  keyAllowed : Bool := true

namespace Lexer

/-- Whether the place is in a flow collection. -/
def inFlow (lx : Lexer) : Bool := !lx.outerCandidates.isEmpty

/-- The number that the next token gets. -/
def nextNumber (lx : Lexer) : Nat := lx.delivered + lx.queue.length

/-- Adds a token to the queue. -/
def push (lx : Lexer) (token : Token) : Lexer :=
  { lx with queue := lx.queue ++ [token] }

/-- Adds a token to the queue before the one with a number. -/
def pushAt (lx : Lexer) (number : Nat) (token : Token) : Lexer :=
  let place := number - lx.delivered
  { lx with queue := lx.queue.take place ++ token :: lx.queue.drop place }

/-- Moves the cursor. -/
def moveTo (lx : Lexer) (rest : List Char) : Lexer :=
  { lx with cursor := lx.cursor.moveTo rest }

/-- Moves the cursor over some characters. -/
def skip (lx : Lexer) (count : Nat) : Lexer :=
  { lx with cursor := lx.cursor.advance count }

/-! ## Possible keys -/

/-- How far the colon of a key may be away from its start. -/
def keyReach : Nat := 1024

/-- Whether a token cannot start a key any more: its line has ended or is too long. -/
def KeyCandidate.isStale (k : KeyCandidate) (c : Cursor) : Bool :=
  k.line < c.line || k.index + keyReach < c.index

/-- A possible key, unless it is stale. -/
def freshen (c : Cursor) : Option KeyCandidate → Except Unit (Option KeyCandidate)
  | none => .ok none
  | some k =>
    if KeyCandidate.isStale k c then (if k.required then .error () else .ok none) else .ok (some k)

/-- Gives up stale keys. -/
def dropStale (lx : Lexer) : Except Unit Lexer := do
  let candidate ← freshen lx.cursor lx.candidate
  let outerCandidates ← lx.outerCandidates.mapM (freshen lx.cursor)
  return { lx with candidate, outerCandidates }

/-- Gives up the possible key at hand. -/
def removeKey (lx : Lexer) : Except Unit Lexer :=
  if lx.candidate.any (·.required) then .error () else .ok { lx with candidate := none }

/-- Notes that the next token may start a key. -/
def saveKey (lx : Lexer) : Except Unit Lexer :=
  if lx.keyAllowed then do
    let lx ← lx.removeKey
    return { lx with
      candidate := some
        { number := lx.nextNumber
          required := !lx.inFlow && lx.indent = lx.cursor.column
          index := lx.cursor.index, line := lx.cursor.line, column := lx.cursor.column } }
  else .ok lx

/-- Enters a flow collection. -/
def enterFlow (lx : Lexer) : Lexer :=
  { lx with candidate := none, outerCandidates := lx.candidate :: lx.outerCandidates }

/-- Leaves a flow collection. -/
def leaveFlow (lx : Lexer) : Lexer :=
  match lx.outerCandidates with
  | [] => lx
  | candidate :: outerCandidates => { lx with candidate, outerCandidates }

/-! ## Blocks -/

/-- Opens a block at a column, unless it is open already. -/
def openBlock (lx : Lexer) (column : Nat) (number : Nat) (token : Token) : Lexer :=
  if lx.inFlow || column ≤ lx.indent then lx
  else
    { lx.pushAt number token with indent := column, outerIndents := lx.indent :: lx.outerIndents }

/-- The indentation after closing the blocks that are indented more than a column, what is around
it, and how many have been closed. -/
def closing (column : Int) (indent : Int) : List Int → Int × List Int × Nat
  | [] => (indent, [], 0)
  | outer :: outers =>
    if column < indent then
      let (indent, outers, count) := closing column outer outers
      (indent, outers, count + 1)
    else (indent, outer :: outers, 0)

/-- Closes the blocks that are indented more than a column. -/
def closeBlocks (lx : Lexer) (column : Int) : Lexer :=
  if lx.inFlow then lx
  else
    let (indent, outerIndents, count) := closing column lx.indent lx.outerIndents
    { lx with indent, outerIndents, queue := lx.queue ++ List.replicate count .blockEnd }

/-! ## Single tokens -/

/-- A token of some characters that cannot start a key and before which no key is open. -/
def fetchMark (lx : Lexer) (count : Nat) (token : Token) (keyAllowed : Bool) :
    Except Unit Lexer := do
  let lx ← lx.removeKey
  return { (lx.push token).skip count with keyAllowed }

/-- The end of the text. -/
def fetchEnd (lx : Lexer) : Except Unit Lexer :=
  (lx.closeBlocks (-1)).fetchMark 0 .streamEnd false

/-- A marker between documents. -/
def fetchBoundary (lx : Lexer) (token : Token) : Except Unit Lexer :=
  (lx.closeBlocks (-1)).fetchMark 3 token false

/-- A directive. -/
def fetchDirective (lx : Lexer) : Except Unit Lexer := do
  let lx ← (lx.closeBlocks (-1)).removeKey
  let (token, rest) ← Tag.scanDirective (lx.cursor.rest.drop 1)
  return { (lx.push token).moveTo rest with keyAllowed := false }

/-- The start of a flow collection. -/
def fetchFlowStart (lx : Lexer) (token : Token) : Except Unit Lexer := do
  let lx ← lx.saveKey
  return { (lx.enterFlow.push token).skip 1 with keyAllowed := true }

/-- The end of a flow collection. -/
def fetchFlowEnd (lx : Lexer) (token : Token) : Except Unit Lexer := do
  let lx ← lx.removeKey
  return { (lx.leaveFlow.push token).skip 1 with keyAllowed := false }

/-- Opens a block for an indicator, which may stand only where a key may. -/
def openFor (lx : Lexer) (token : Token) : Except Unit Lexer :=
  if lx.inFlow then .ok lx
  else if lx.keyAllowed then .ok (lx.openBlock lx.cursor.column lx.nextNumber token)
  else .error ()

/-- The dash before an item of a block sequence. -/
def fetchEntry (lx : Lexer) : Except Unit Lexer := do
  (← lx.openFor .blockSequenceStart).fetchMark 1 .blockEntry true

/-- The question mark before a key. -/
def fetchKey (lx : Lexer) : Except Unit Lexer := do
  (← lx.openFor .blockMappingStart).fetchMark 1 .key (!lx.inFlow)

/-- The colon before a value. If it ends a possible key, the key is announced where it starts. -/
def fetchValue (lx : Lexer) : Except Unit Lexer :=
  match lx.candidate with
  | some k =>
    -- The announcement stands before the first token of the key, and a block that the key opens
    -- stands before the announcement.
    let lx := (lx.pushAt k.number .key).openBlock k.column k.number .blockMappingStart
    .ok { (lx.push .value).skip 1 with candidate := none, keyAllowed := false }
  | none => do
    let lx ← lx.openFor .blockMappingStart
    return { (lx.push .value).skip 1 with keyAllowed := !lx.inFlow }

/-- A token that may start a key, made from the text after some characters. -/
def fetchNode (lx : Lexer) (skipped : Nat)
    (scan : List Char → Except Unit (Token × List Char)) : Except Unit Lexer := do
  let lx ← lx.saveKey
  let (token, rest) ← scan (lx.cursor.rest.drop skipped)
  return { (lx.push token).moveTo rest with keyAllowed := false }

/-- A name with a token made from it. -/
def scanNamed (token : String → Token) (s : List Char) : Except Unit (Token × List Char) := do
  let (name, rest) ← Tag.scanName s
  return (token name, rest)

/-- A quoted scalar. -/
def scanQuoted (style : Style) (scan : List Char → Quoted.Outcome) (s : List Char) :
    Except Unit (Token × List Char) := do
  let (text, rest) ← scan s
  return (.scalar (String.ofList text) style, rest)

/-- A block scalar. -/
def fetchBlockScalar (lx : Lexer) (style : Style) : Except Unit Lexer := do
  let lx ← lx.removeKey
  let (text, rest) ← Block.scan (style = .literal) lx.indent (lx.cursor.rest.drop 1)
  return { (lx.push (.scalar (String.ofList text) style)).moveTo rest with keyAllowed := true }

/-- A plain scalar. After it a key may start if its last line has ended. -/
def fetchPlain (lx : Lexer) : Except Unit Lexer := do
  let lx ← lx.saveKey
  let setting : Plain.Setting := { inFlow := lx.inFlow, indent := (lx.indent + 1).toNat }
  let (text, rest, broken) ← Plain.scan setting lx.cursor.column lx.cursor.rest
  return { (lx.push (.scalar (String.ofList text) .plain)).moveTo rest with keyAllowed := broken }

/-! ## Reading on -/

/-- The rest of a text after blanks, breaks and comments, and whether a key may start there. A tab
counts as a blank only where no key may start. -/
def skipBlanks (inFlow : Bool) (inComment keyAllowed : Bool) : List Char → List Char × Bool
  | [] => ([], keyAllowed)
  | c :: rest =>
    if isBreak c then skipBlanks inFlow false (keyAllowed || !inFlow) rest
    else if inComment then skipBlanks inFlow true keyAllowed rest
    else if c == ' ' || (c == '\t' && (inFlow || !keyAllowed)) then
      skipBlanks inFlow false keyAllowed rest
    else if c == '#' then skipBlanks inFlow true keyAllowed rest
    else (c :: rest, keyAllowed)

/-- Moves to the next token. -/
def toNextToken (lx : Lexer) : Lexer :=
  let (rest, keyAllowed) := skipBlanks lx.inFlow false lx.keyAllowed lx.cursor.rest
  { lx.moveTo rest with keyAllowed }

/-- Whether a character can start plain text. Some indicators can, if no blank follows. -/
def startsPlain (inFlow : Bool) (c : Char) (rest : List Char) : Bool :=
  !(isWhite c || isIndicator c) || (c == '-' && !endsWord rest) ||
    (!inFlow && (c == '?' || c == ':') && !endsWord rest)

/-- Reads the token that a character starts. -/
def fetchFrom (lx : Lexer) (c : Char) (rest : List Char) : Except Unit Lexer :=
  let atMargin := lx.cursor.column = 0
  if atMargin ∧ c = '%' then lx.fetchDirective
  else if atMargin ∧ startsWithMarker '-' (c :: rest) then lx.fetchBoundary .documentStart
  else if atMargin ∧ startsWithMarker '.' (c :: rest) then lx.fetchBoundary .documentEnd
  else if c = '[' then lx.fetchFlowStart .flowSequenceStart
  else if c = '\x7b' then lx.fetchFlowStart .flowMappingStart
  else if c = ']' then lx.fetchFlowEnd .flowSequenceEnd
  else if c = '\x7d' then lx.fetchFlowEnd .flowMappingEnd
  else if c = ',' then lx.fetchMark 1 .flowEntry true
  else if c = '-' ∧ endsWord rest then lx.fetchEntry
  else if c = '?' ∧ (lx.inFlow ∨ endsWord rest) then lx.fetchKey
  else if c = ':' ∧ (lx.inFlow ∨ endsWord rest) then lx.fetchValue
  else if c = '*' then lx.fetchNode 1 (scanNamed .aliasOf)
  else if c = '&' then lx.fetchNode 1 (scanNamed .anchor)
  else if c = '!' then lx.fetchNode 1 (Tag.scan lx.inFlow)
  else if c = '|' ∧ !lx.inFlow then lx.fetchBlockScalar .literal
  else if c = '>' ∧ !lx.inFlow then lx.fetchBlockScalar .folded
  else if c = '\'' then
    lx.fetchNode 1 (scanQuoted .singleQuoted (Quoted.scanSingle {} false))
  else if c = '"' then
    lx.fetchNode 1 (scanQuoted .doubleQuoted (Quoted.scanDouble {} false 0))
  else if startsPlain lx.inFlow c rest then lx.fetchPlain
  else .error ()

/-- Reads one more token. -/
def fetch (lx : Lexer) : Except Unit Lexer := do
  -- A block ends where a line starts to the left of it, so the blocks are closed first.
  let lx ← lx.toNextToken.dropStale
  let lx := lx.closeBlocks lx.cursor.column
  match lx.cursor.rest with
  | [] => lx.fetchEnd
  | c :: rest => lx.fetchFrom c rest

/-- Whether the first token of the queue may still have to be announced as a key. -/
def isWaiting (lx : Lexer) : Bool :=
  lx.queue.isEmpty ||
    (lx.candidate :: lx.outerCandidates).any fun k => k.any (·.number = lx.delivered)

/-- The state before the next token leaves the queue. -/
def settle (lx : Lexer) : Except Unit Lexer :=
  if lx.queue.isEmpty then .ok lx else lx.dropStale

/-- The tokens that leave the queue in a number of steps. -/
def deliver : Nat → Lexer → List Token
  | 0, _ => []
  | steps + 1, lx =>
    match lx.settle with
    | .error () => []
    | .ok lx =>
      if lx.isWaiting then
        match lx.fetch with
        | .ok lx => deliver steps lx
        | .error () => []
      else
        match lx.queue with
        | [] => []
        | .streamEnd :: _ => [.streamEnd]
        | token :: queue =>
          token :: deliver steps { lx with queue, delivered := lx.delivered + 1 }

end Lexer

/-- The place at the start of a text. A byte order mark counts as a column. -/
def Cursor.start (s : List Char) : Cursor :=
  match s with
  | c :: rest => if c == byteOrderMark then { rest, index := 1, column := 1 } else { rest := s }
  | [] => { rest := [] }

/-- The tokens of a text up to its end or its first fault. A character that no text may hold is a
fault of the whole text. -/
def tokens (text : String) : List Token :=
  let s := text.toList
  -- Every step reads a token or delivers one, and a character gives at most four tokens.
  if s.all isAllowed then
    Lexer.deliver (8 * s.length + 16)
      { cursor := Cursor.start s, queue := [.streamStart] }
  else []

end ApiStencil.Yaml
