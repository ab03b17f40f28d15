import ApiStencil.Text.CaseTable

/-!
# Upper and lower case

The full Unicode case mappings of characters and texts. The upper case of one character can be a
longer text (`ß` becomes `SS`), and a capital sigma that ends a word has a lower case of its own.

## Main definitions

* `upperChar`, `lowerChar` - the case mappings of one character.
* `upperText`, `lowerText` - the case mappings of a text.
* `capitalizeFirst` - a text with its first character in upper case.
-/

namespace ApiStencil.Text

/-- The character `shift` places after the one with code `n`. -/
def shiftChar (n : Nat) (shift : Int) : Char :=
  Char.ofNat (n + shift).toNat

/-- The image of a character under a table of spans, itself if no span maps it. -/
def mapChar (spans : List CaseSpan) (c : Char) : Char :=
  match spans.find? (·.covers c.toNat) with
  | some span => shiftChar c.toNat span.shift
  | none => c

/-- The upper case of a character. -/
def upperChar (c : Char) : List Char :=
  match upperExpansions.lookup c.toNat with
  | some codes => codes.map Char.ofNat
  | none => [mapChar upperSpans c]

/-- The lower case of a character by itself. Only the dotted capital `İ` gives two characters. -/
def lowerChar (c : Char) : List Char :=
  if c.toNat == 0x130 then ['i', Char.ofNat 0x307] else [mapChar lowerSpans c]

/-- Whether the code of a character lies in one of the ranges. -/
def inRanges (ranges : List (Nat × Nat)) (c : Char) : Bool :=
  ranges.any fun (first, last) => first ≤ c.toNat && c.toNat ≤ last

/-- Whether the first character that the final sigma rule does not look through has a case. -/
def casedNext (s : List Char) : Bool :=
  match s.dropWhile (inRanges caseIgnorableRanges) with
  | c :: _ => inRanges casedRanges c
  | [] => false

/-- The upper case of a text, character by character. -/
def upperText (s : List Char) : List Char :=
  s.flatMap upperChar

/-- `lowerText` of what follows the reversed text `before`. -/
def lowerTextAfter (before : List Char) : List Char → List Char
  | [] => []
  | c :: s =>
    let lowered :=
      if c == 'Σ' then [if casedNext before && !casedNext s then 'ς' else 'σ'] else lowerChar c
    lowered ++ lowerTextAfter (c :: before) s

/-- The lower case of a text. A capital sigma that ends a word becomes a final sigma. -/
def lowerText (s : List Char) : List Char :=
  lowerTextAfter [] s

/-- The text with its first character in upper case and the rest untouched. -/
def capitalizeFirst : List Char → List Char
  | [] => []
  | c :: s => upperChar c ++ s

end ApiStencil.Text
