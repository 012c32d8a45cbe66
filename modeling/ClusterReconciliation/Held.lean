import ClusterReconciliation.Decode

/-! Data taken into memory before it is known what they are for: every scalar gets the type of its
spelling or tag. -/
namespace ClusterReconciliation

namespace Yaml.Scalar

def spelled (s : String) : Except DecodeError Datum :=
  match Plain.ofText s with
  | some .null => .ok .null
  | some (.bool b) => .ok (.bool b)
  | some (.integer n) => .ok (.integer n)
  | some (.float x) => .ok (.float x)
  | some .text => .ok (.text s)
  | none => .error .wrongValue

def orWrong : Option Datum → Except DecodeError Datum
  | some d => .ok d
  | none => .error .wrongValue

/-- A tag of the core schema decides, and the spelling must fit it. -/
def held (s : Scalar) : Except DecodeError Datum :=
  match s.tag with
  | some .application => .error .unreadable
  | some .bool => orWrong ((readBool s.text).map .bool)
  | some .integer => orWrong ((readInteger s.text).bind fun n =>
      if n.2 then some (.integer n.1) else none)
  | some .float => orWrong ((readFloat s.text).map .float)
  | some .null => orWrong (if isNull s.text then some .null else none)
  | some .other => .ok (.text s.text)
  | none => if s.style = .plain then spelled s.text else .ok (.text s.text)

end Yaml.Scalar

namespace Datum

mutual
/-- The data with all types settled, nested no deeper than `depth`. -/
def hold (depth : Nat) : Datum → Except DecodeError Datum
  | scalar s => s.held
  | list items =>
    match depth with
    | 0 => .error .unreadable
    | depth + 1 => list <$> holdItems depth items
  | table entries =>
    match depth with
    | 0 => .error .unreadable
    | depth + 1 => table <$> holdEntries depth entries
  | tagged _ => .error .unreadable
  | unusable => .error .unreadable
  | fault => .error .unreadable
  | null => .ok null
  | bool b => .ok (bool b)
  | integer n => .ok (integer n)
  | float x => .ok (float x)
  | text s => .ok (text s)

def holdItems (depth : Nat) : List Datum → Except DecodeError (List Datum)
  | [] => .ok []
  | d :: rest => do
    let d ← hold depth d
    return d :: (← holdItems depth rest)

def holdEntries (depth : Nat) :
    List (Datum × Datum) → Except DecodeError (List (Datum × Datum))
  | [] => .ok []
  | (k, v) :: rest => do
    let k ← hold depth k
    let v ← hold depth v
    return (k, v) :: (← holdEntries depth rest)
end

end Datum
end ClusterReconciliation
