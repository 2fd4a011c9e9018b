/-!
# Tokens of YAML
-/

namespace ObjectConstraints.Yaml

/-- How a scalar is written. -/
inductive ScalarStyle where
  | plain
  | quoted
  | literal
  | folded
  deriving DecidableEq, Repr

inductive Token where
  | versionDirective (major minor : Nat)
  | tagDirective (handle tagPrefix : List Char)
  | documentStart
  | documentEnd
  | blockSequenceStart
  | blockMappingStart
  | blockEnd
  | flowSequenceStart
  | flowSequenceEnd
  | flowMappingStart
  | flowMappingEnd
  | blockEntry
  | flowEntry
  | key
  | value
  | alias (name : List Char)
  | anchor (name : List Char)
  | tag (handle suffix : List Char)
  | scalar (style : ScalarStyle) (text : List Char)
  deriving DecidableEq, Repr

end ObjectConstraints.Yaml
