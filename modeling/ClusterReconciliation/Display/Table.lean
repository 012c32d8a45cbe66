import ClusterReconciliation.Text.Blank
import ClusterReconciliation.Text.Uppercase

/-! Tables in plain text. -/
namespace ClusterReconciliation

/-- A column is as wide as its header takes octets and its widest cell takes characters. -/
def columnWidths (headers : List String) (rows : List (List String)) : List Nat :=
  headers.zipIdx.map fun (h, i) =>
    rows.foldl (fun w row => max w ((row[i]?.map String.length).getD 0)) h.utf8ByteSize

def padTo (width : Nat) (cell : String) : String :=
  cell ++ String.ofList (List.replicate (width - cell.length) ' ')

/-- Cells beyond the last column are not padded. -/
def tableLine (widths : List Nat) (cells : List String) : String :=
  let padded := cells.zipIdx.map fun (cell, i) => padTo (widths[i]?.getD 0) cell
  Text.trimEnd ("   ".intercalate padded) ++ "\n"

def renderTable (headers : List String) (rows : List (List String)) : String :=
  if rows.isEmpty then "No resources found.\n"
  else
    let widths := columnWidths headers rows
    String.join (tableLine widths (headers.map Text.uppercase) :: rows.map (tableLine widths))

end ClusterReconciliation
