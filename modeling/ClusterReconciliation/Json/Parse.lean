import ClusterReconciliation.Json.Reader

/-! JSON texts as values: a text has one only if all of it can be read. -/
namespace ClusterReconciliation

namespace Json

mutual
def ofDatum : Datum → Option Json
  | .null => some .null
  | .bool b => some (.bool b)
  | .integer n => some (.integer n)
  | .float x => some (.float x)
  | .text s => some (.text s)
  | .list items => .array <$> ofItems items
  | .table entries => .object <$> ofEntries entries
  | _ => none

def ofItems : List Datum → Option (List Json)
  | [] => some []
  | d :: rest => do
    let v ← ofDatum d
    return v :: (← ofItems rest)

def ofEntries : List (Datum × Datum) → Option (List (String × Json))
  | [] => some []
  | (.text k, d) :: rest => do
    let v ← ofDatum d
    return (k, v) :: (← ofEntries rest)
  | _ => none
end

def parse (s : String) : Option Json :=
  let reading := read s
  if reading.complete then ofDatum reading.datum else none

end Json
end ClusterReconciliation
