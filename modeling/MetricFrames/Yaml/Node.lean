/-!
# YAML nodes

A document is a tree of nodes: scalars, sequences and mappings whose keys are scalars. A scalar is
plain if it stands without quotes; only a plain scalar may mean something else than its text.
-/

namespace MetricFrames.Yaml

/-- A text and whether it stands without quotes. -/
structure Scalar where
  text : List Char
  plain : Bool
  deriving DecidableEq

/-- A node of a document. -/
inductive Node where
  | scalar (s : Scalar)
  | sequence (items : List Node)
  | mapping (entries : List (Scalar × Node))

/-- The node that stands for nothing. -/
def Node.empty : Node := .scalar ⟨[], true⟩

instance : Inhabited Node := ⟨.empty⟩

end MetricFrames.Yaml
