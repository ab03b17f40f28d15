import ApiStencil.Text.Hex
import ApiStencil.Yaml.Folding

/-!
# Quoted scalars

Between single quotes a doubled quote stands for one, and nothing else is special. Between double
quotes a backslash starts an escape.

## Main definitions

* `Quoted.scanSingle`, `Quoted.scanDouble` - the text of a quoted scalar, after its opening quote.
-/

namespace ApiStencil.Yaml.Quoted

/-- The text of a scalar and what follows its closing quote. -/
abbrev Outcome := Except Unit (List Char × List Char)

/-- Adds text in front of a scalar. -/
def prepend (text : List Char) : Outcome → Outcome
  | .ok (rest, after) => .ok (text ++ rest, after)
  | .error () => .error ()

/-- Whether a document marker interrupts a scalar. -/
def isInterrupted (gap : Gap) (lineStart : Bool) (s : List Char) : Bool :=
  gap.folded && lineStart && startsWithBoundary s

/-- The rest of a scalar between single quotes after a gap. -/
def scanSingle (gap : Gap) (lineStart : Bool) : List Char → Outcome
  | [] => .error ()
  | '\r' :: '\n' :: rest => scanSingle (gap.addBreak '\n') true rest
  | '\'' :: '\'' :: rest => prepend (gap.text ++ ['\'']) (scanSingle {} false rest)
  | c :: rest =>
    if isSpacing c then scanSingle (gap.addBlank c) false rest
    else if isBreak c then scanSingle (gap.addBreak c) true rest
    else if isInterrupted gap lineStart (c :: rest) then .error ()
    else if c == '\'' then .ok (gap.text, rest)
    else prepend (gap.text ++ [c]) (scanSingle {} false rest)

/-- The character that a short escape stands for. -/
def shortEscape? (c : Char) : Option Char :=
  [('0', '\x00'), ('a', '\x07'), ('b', '\x08'), ('t', '\t'), ('\t', '\t'), ('n', '\n'),
    ('v', '\x0b'), ('f', '\x0c'), ('r', '\r'), ('e', '\x1b'), (' ', ' '), ('"', '"'), ('/', '/'),
    ('\\', '\\'), ('N', '\u0085'), ('_', '\u00a0'), ('L', '\u2028'), ('P', '\u2029')].lookup c

/-- How many hexadecimal digits follow the letter of a numeric escape. -/
def escapeWidth? (c : Char) : Option Nat :=
  [('x', 2), ('u', 4), ('U', 8)].lookup c

/-- The character whose code some hexadecimal digits give. Halves of surrogate pairs are none. -/
def charOfDigits? (digits : List Char) : Option Char := do
  let code ← Text.hexNumber? digits
  if h : code.isValidChar then some (Char.ofNatAux code h) else none

/-- The character of the escape after a backslash, and how many characters it takes. -/
def escape? : List Char → Option (Char × Nat)
  | [] => none
  | c :: rest =>
    match escapeWidth? c with
    | some width =>
      if rest.length < width then none
      else (charOfDigits? (rest.take width)).map fun value => (value, width + 1)
    | none => (shortEscape? c).map fun value => (value, 1)

/-- The rest of a scalar between double quotes after a gap and after `skip` more characters of an
escape. -/
def scanDouble (gap : Gap) (lineStart : Bool) : Nat → List Char → Outcome
  | _, [] => .error ()
  | skip + 1, _ :: rest => scanDouble gap lineStart skip rest
  | 0, '\r' :: '\n' :: rest => scanDouble (gap.addBreak '\n') true 0 rest
  | 0, '\\' :: '\r' :: '\n' :: rest =>
    prepend gap.text (scanDouble { folded := true } true 0 rest)
  | 0, c :: rest =>
    if isSpacing c then scanDouble (gap.addBlank c) false 0 rest
    else if isBreak c then scanDouble (gap.addBreak c) true 0 rest
    else if isInterrupted gap lineStart (c :: rest) then .error ()
    else if c == '"' then .ok (gap.text, rest)
    else if c == '\\' then
      if rest.head?.any isBreak then
        prepend gap.text (scanDouble { folded := true } true 1 rest)
      else
        match escape? rest with
        | some (value, width) => prepend (gap.text ++ [value]) (scanDouble {} false width rest)
        | none => .error ()
    else prepend (gap.text ++ [c]) (scanDouble {} false 0 rest)

end ApiStencil.Yaml.Quoted
