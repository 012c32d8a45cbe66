import ClusterReconciliation.Yaml.Scalar

/-! The tokens of a YAML stream. Structure that the text shows by indentation has tokens too. -/
namespace ClusterReconciliation.Yaml

inductive Token
  | version (major minor : Nat)
  | tagHandle (handle expansion : List Char)
  | documentStart
  | documentEnd
  | streamEnd
  | blockSequenceStart
  | blockMappingStart
  | blockEnd
  | flowSequenceStart
  | flowSequenceEnd
  | flowMappingStart
  | flowMappingEnd
  | blockEntry
  | flowEntry
  | key
  | value
  | reference (name : List Char)
  | anchor (name : List Char)
  | tag (handle ending : List Char)
  | scalar (text : List Char) (style : ScalarStyle)
  /-- The text cannot be taken apart any further. -/
  | fault
  deriving DecidableEq, Repr

end ClusterReconciliation.Yaml
