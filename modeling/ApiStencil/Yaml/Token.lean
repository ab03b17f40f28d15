/-!
# Tokens of YAML

The words that YAML text consists of once indentation has become brackets.

## Main definitions

* `Style` - how a scalar is written.
* `Token` - a word.
-/

namespace ApiStencil.Yaml

/-- How a scalar is written. -/
inductive Style where
  | plain
  | singleQuoted
  | doubleQuoted
  | literal
  | folded
  deriving DecidableEq, Repr

/-- A word of YAML text. -/
inductive Token where
  | streamStart
  | streamEnd
  | version (major minor : Nat)
  /-- A handle for the tags that start with some text. -/
  | tagHandle (handle start : String)
  | documentStart
  | documentEnd
  | blockSequenceStart
  | blockMappingStart
  | blockEnd
  | flowSequenceStart
  | flowSequenceEnd
  | flowMappingStart
  | flowMappingEnd
  | blockEntry
  | flowEntry
  | key
  | value
  | aliasOf (name : String)
  | anchor (name : String)
  | tag (handle rest : String)
  | scalar (text : String) (style : Style)
  deriving DecidableEq, Repr

end ApiStencil.Yaml
