import ClusterReconciliation.Json
import ClusterReconciliation.Yaml.Scalar

/-! Data as read from a text, before a type is asked of it. A fault of the text stands in the data
at the place where reading stopped, so what comes before it can still be judged first. -/
namespace ClusterReconciliation
open Decimal

/-- How data came to be: read straight from a text, or held in memory with its types settled. -/
inductive Origin
  | json
  | yaml
  | held
  deriving DecidableEq, Repr

inductive Datum
  | null
  | bool (b : Bool)
  | integer (n : Int)
  | float (x : Double)
  | text (s : String)
  /-- A scalar whose type waits for what is asked of it. -/
  | scalar (s : Yaml.Scalar)
  | list (items : List Datum)
  | table (entries : List (Datum × Datum))
  /-- A collection with a tag of an application. -/
  | tagged (content : Datum)
  /-- Well formed, and without a value: it may be passed over but not taken. -/
  | unusable
  /-- The text cannot be read any further. -/
  | fault
  deriving Repr, Inhabited

namespace Datum

mutual
def isBroken : Datum → Bool
  | fault => true
  | list items => anyBroken items
  | table entries => anyBrokenEntry entries
  | tagged content => content.isBroken
  | _ => false

def anyBroken : List Datum → Bool
  | [] => false
  | d :: rest => d.isBroken || anyBroken rest

def anyBrokenEntry : List (Datum × Datum) → Bool
  | [] => false
  | (k, v) :: rest => k.isBroken || v.isBroken || anyBrokenEntry rest
end

def untagged : Datum → Datum
  | tagged content => content.untagged
  | d => d

mutual
def beq : Datum → Datum → Bool
  | null, null => true
  | bool a, bool b => a == b
  | integer m, integer n => m == n
  | float x, float y => x = y
  | text s, text t => s == t
  | scalar s, scalar t => s = t
  | list a, list b => beqItems a b
  | table a, table b => beqEntries a b
  | tagged a, tagged b => beq a b
  | unusable, unusable => true
  | fault, fault => true
  | _, _ => false

def beqItems : List Datum → List Datum → Bool
  | [], [] => true
  | a :: as, b :: bs => beq a b && beqItems as bs
  | _, _ => false

def beqEntries : List (Datum × Datum) → List (Datum × Datum) → Bool
  | [], [] => true
  | (a, c) :: as, (b, d) :: bs => beq a b && beq c d && beqEntries as bs
  | _, _ => false
end

mutual
theorem beq_iff : (a b : Datum) → (beq a b = true ↔ a = b)
  | null, b => by cases b <;> simp [beq]
  | bool a, b => by cases b <;> simp [beq]
  | integer m, b => by cases b <;> simp [beq]
  | float x, b => by cases b <;> simp [beq]
  | text s, b => by cases b <;> simp [beq]
  | scalar s, b => by cases b <;> simp [beq]
  | list a, b => by cases b <;> simp [beq, beqItems_iff a]
  | table a, b => by cases b <;> simp [beq, beqEntries_iff a]
  | tagged a, b => by cases b <;> simp [beq, beq_iff a]
  | unusable, b => by cases b <;> simp [beq]
  | fault, b => by cases b <;> simp [beq]

theorem beqItems_iff : (a b : List Datum) → (beqItems a b = true ↔ a = b)
  | [], b => by cases b <;> simp [beqItems]
  | d :: rest, b => by cases b <;> simp [beqItems, beq_iff d, beqItems_iff rest]

theorem beqEntries_iff : (a b : List (Datum × Datum)) → (beqEntries a b = true ↔ a = b)
  | [], b => by cases b <;> simp [beqEntries]
  | (k, d) :: rest, b => by
    cases b <;> simp [beqEntries, beq_iff k, beq_iff d, beqEntries_iff rest, Prod.ext_iff]
end

instance : DecidableEq Datum := fun a b => decidable_of_iff _ (beq_iff a b)

end Datum

namespace Json

mutual
def toDatum : Json → Datum
  | null => .null
  | bool b => .bool b
  | integer n => .integer n
  | float x => .float x
  | text s => .text s
  | array items => .list (itemsToData items)
  | object fields => .table (fieldsToData fields)

def itemsToData : List Json → List Datum
  | [] => []
  | v :: rest => v.toDatum :: itemsToData rest

def fieldsToData : List (String × Json) → List (Datum × Datum)
  | [] => []
  | (k, v) :: rest => (.text k, v.toDatum) :: fieldsToData rest
end

theorem fieldsToData_eq (l : List (String × Json)) :
    fieldsToData l = l.map fun f => (Datum.text f.1, f.2.toDatum) := by
  induction l with
  | nil => rfl
  | cons f rest ih => obtain ⟨k, v⟩ := f; rw [fieldsToData, ih, List.map_cons]

end Json
end ClusterReconciliation
