import ClusterReconciliation.Decimal.Double

/-! What the text of a YAML scalar stands for. -/
namespace ClusterReconciliation.Yaml
open Decimal

inductive ScalarStyle
  | plain
  | literal
  | folded
  | quoted
  deriving DecidableEq, Repr

/-- The tag of a node, as far as it bears on meaning: the core schema's scalar types, tags that an
application gives a meaning to (they begin with one exclamation mark), and all others. -/
inductive Tag
  | null
  | bool
  | integer
  | float
  | application
  | other
  deriving DecidableEq, Repr

structure Scalar where
  text : String
  style : ScalarStyle
  tag : Option Tag
  deriving DecidableEq, Repr

/-- The type a plain scalar has by its spelling alone. -/
inductive Plain
  | null
  | bool (b : Bool)
  | integer (n : Int)
  | float (x : Double)
  | text
  deriving DecidableEq, Repr

def isNull (s : String) : Bool := s == "~" || s == "null" || s == "Null" || s == "NULL"

def readBool (s : String) : Option Bool :=
  if s == "true" || s == "True" || s == "TRUE" then some true
  else if s == "false" || s == "False" || s == "FALSE" then some false
  else none

def isDigit (c : Char) : Bool := '0' ≤ c && c ≤ '9'

def digitValue (c : Char) : Option Nat :=
  if isDigit c then some (c.toNat - '0'.toNat)
  else if 'a' ≤ c && c ≤ 'f' then some (c.toNat - 'a'.toNat + 10)
  else if 'A' ≤ c && c ≤ 'F' then some (c.toNat - 'A'.toNat + 10)
  else none

/-- All of a text as digits of one base, at least one. -/
def digitsIn (base : Nat) : List Char → Option Nat
  | [] => none
  | cs => cs.foldl (fun acc c => do
      let n ← acc
      let d ← digitValue c
      if d < base then some (n * base + d) else none) (some 0)

/-- Leading zeros make a text, not a number. -/
def isZeroPadded (cs : List Char) : Bool :=
  match (match cs with
    | '-' :: r => r
    | '+' :: r => r
    | r => r) with
  | '0' :: d :: r => (d :: r).all isDigit
  | _ => false

def withBase : List Char → Option (Option Nat)
  | '0' :: 'x' :: r => some (digitsIn 16 r)
  | '0' :: 'o' :: r => some (digitsIn 8 r)
  | '0' :: 'b' :: r => some (digitsIn 2 r)
  | _ => none

/-- A number without a minus sign below `bound`. -/
def readUnsigned (bound : Nat) (cs : List Char) : Option Nat :=
  let body := match cs with
    | '+' :: r => r
    | r => r
  match withBase body with
  | some n? => n?.filter (· < bound)
  | none => if isZeroPadded cs then none else (digitsIn 10 body).filter (· < bound)

/-- A number with a minus sign down to `-bound`. -/
def readNegative (bound : Nat) : List Char → Option Int
  | '-' :: body =>
    let n? := match withBase body with
      | some n? => n?
      | none => if isZeroPadded body then none else digitsIn 10 body
    (n?.filter (· ≤ bound)).map fun n => -(n : Int)
  | _ => none

/-- A decimal: digits around at most one point, then an exponent. -/
def readDecimal (negative : Bool) (cs : List Char) : Option Double :=
  let whole := cs.takeWhile isDigit
  let rest := cs.dropWhile isDigit
  let (fraction, rest) := match rest with
    | '.' :: r => (r.takeWhile isDigit, r.dropWhile isDigit)
    | r => ([], r)
  if whole.isEmpty && fraction.isEmpty then none else do
    let digits ← digitsIn 10 (whole ++ fraction)
    let e ← match rest with
      | [] => some (0 : Int)
      | c :: r =>
        if c == 'e' || c == 'E' then
          match r with
          | '-' :: r => (digitsIn 10 r).map fun n => -(n : Int)
          | '+' :: r => (digitsIn 10 r).map fun n => (n : Int)
          | r => (digitsIn 10 r).map fun n => (n : Int)
        else none
    let x := Double.ofDecimal negative digits (e - fraction.length)
    if x.isFinite then some x else none

def readFloat (s : String) : Option Double :=
  if s == ".inf" || s == ".Inf" || s == ".INF" || s == "+.inf" || s == "+.Inf" || s == "+.INF" then
    some (Double.infinity false)
  else if s == "-.inf" || s == "-.Inf" || s == "-.INF" then some (Double.infinity true)
  else if s == ".nan" || s == ".NaN" || s == ".NAN" then some Double.nan
  else match s.toList with
    | '-' :: r => readDecimal true r
    | '+' :: r => readDecimal false r
    | r => readDecimal false r

/-- Any integer of 128 bits, and whether it fits 64. -/
def readInteger (s : String) : Option (Int × Bool) :=
  let cs := s.toList
  match readUnsigned (Nat.pow 2 128) cs with
  | some n => some (n, n < UInt64.size)
  | none => (readNegative (Nat.pow 2 127) cs).map fun n => (n, -0x8000000000000000 ≤ n)

/-- The reading of a plain scalar; `none` for an integer of more than 64 bits. -/
def Plain.ofText (s : String) : Option Plain :=
  if s.isEmpty || isNull s then some .null
  else match readBool s with
    | some b => some (.bool b)
    | none =>
      match readInteger s with
      | some (n, true) => some (.integer n)
      | some (_, false) => none
      | none =>
        if isZeroPadded s.toList then some .text
        else match readFloat s with
          | some x => some (.float x)
          | none => some .text

namespace Scalar

def ofText (s : String) : Scalar := ⟨s, .quoted, none⟩

/-- A plain scalar without any text stands for nothing at all. -/
def isVoid (s : Scalar) : Bool := s.text.isEmpty && s.style == .plain

/-- The scalar may be read as a value of the core type `tag`: it is plain, or it is a literal
block that says so. -/
def mayRead (tag : Tag) (s : Scalar) : Bool :=
  match s.style with
  | .plain => true
  | .literal => s.tag == some tag
  | _ => false

end Scalar
end ClusterReconciliation.Yaml
