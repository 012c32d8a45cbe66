import ClusterReconciliation.Decimal.Double

/-! JSON values. An object keeps its fields in the order they were given. -/
namespace ClusterReconciliation

inductive Json
  | null
  | bool (b : Bool)
  | integer (n : Int)
  | float (x : Decimal.Double)
  | text (s : String)
  | array (items : List Json)
  | object (fields : List (String × Json))
  deriving Repr, Inhabited

namespace Json

def ofNat (n : Nat) : Json := integer n

def ofOption : Option Json → Json
  | none => null
  | some v => v

def texts (l : List String) : Json := array (l.map text)

def field? (name : String) : Option Json → List (String × Json)
  | none => []
  | some v => [(name, v)]

/-- A number with a value; NaN and the infinities have none. -/
def ofDouble (x : Decimal.Double) : Json := if x.isFinite then float x else null

/-- The value of a field; of fields with one name the last counts. -/
def get? : Json → String → Option Json
  | object fields, name => fields.reverse.lookup name
  | _, _ => none

end Json
end ClusterReconciliation
