import ClusterReconciliation.Cluster.Layout
import ClusterReconciliation.Held
import ClusterReconciliation.Library.Wire

/-! The desired state: the shape of a cluster and the libraries that must be on it. As data both
stand side by side in one table. -/
namespace ClusterReconciliation

structure Desired where
  cluster : Cluster.Spec
  libraries : List Library := []
  deriving DecidableEq, Repr

namespace Desired

/-- The cluster is judged before the libraries, and these in order. -/
def validate (d : Desired) : Except ValidationError Unit := do
  d.cluster.validate
  for l in d.libraries do
    l.validate

def toJson (d : Desired) : Json :=
  .object (d.cluster.toFields ++ Json.field? "libraries"
    (if d.libraries.isEmpty then none else some (.array (d.libraries.map Library.toJson))))

def nesting : Origin → Nat
  | .json => 126
  | _ => 127

/-- Libraries are decoded where they stand. All other entries are held, and what belongs to the
cluster is taken from them in the end. -/
def collect (o : Origin) : List (Datum × Datum) → List (Datum × Datum) → Option (List Library) →
    Except DecodeError Desired
  | [], held, libraries => do
    let cluster ← Cluster.Spec.readLayout (← Cluster.Layout.fields.ofEntries .held held)
    return ⟨cluster, libraries.getD []⟩
  | (key, value) :: rest, held, libraries => do
    let k ← Decoder.text o key
    if k = "libraries" then
      if libraries.isSome then throw (.duplicateField k)
      let ls ← Decoder.listOf Library.decoder o value
      collect o rest held (some ls)
    else
      let v ← value.hold (nesting o)
      collect o rest (held ++ [(.text k, v)]) libraries

def decoder : Decoder Desired := fun o d =>
  match d.untagged with
  | .table entries => collect o entries [] none
  | .scalar s => if s.isVoid then collect o [] [] none else .error .wrongValue
  | d => .error d.mismatch

end Desired
end ClusterReconciliation
