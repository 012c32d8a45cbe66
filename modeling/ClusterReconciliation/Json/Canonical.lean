import ClusterReconciliation.Dict
import ClusterReconciliation.Json

/-! The form of a value that does not depend on how its fields were listed. -/
namespace ClusterReconciliation.Json

mutual
/-- Fields in the order of their names, of fields with one name the last, and null for numbers
without a value. -/
def canonical : Json → Json
  | array items => array (canonicalItems items)
  | object fields => object (Dict.ofList (canonicalFields fields)).entries
  | float x => ofDouble x
  | v => v

def canonicalItems : List Json → List Json
  | [] => []
  | v :: rest => v.canonical :: canonicalItems rest

def canonicalFields : List (String × Json) → List (String × Json)
  | [] => []
  | (k, v) :: rest => (k, v.canonical) :: canonicalFields rest
end

end ClusterReconciliation.Json
