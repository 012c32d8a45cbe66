import ClusterReconciliation.Decimal.Shortest
import ClusterReconciliation.Json

/-! Writing JSON texts, on one line or with one value to a line. -/
namespace ClusterReconciliation.Json
open Decimal

def hexDigit (n : Nat) : Char :=
  if n < 10 then Char.ofNat ('0'.toNat + n) else Char.ofNat ('a'.toNat + n - 10)

/-- Quotes, backslashes and control characters are escaped, and nothing else. -/
def escape (c : Char) : List Char :=
  match c with
  | '"' => ['\\', '"']
  | '\\' => ['\\', '\\']
  | '\n' => ['\\', 'n']
  | '\r' => ['\\', 'r']
  | '\t' => ['\\', 't']
  | '\x08' => ['\\', 'b']
  | '\x0c' => ['\\', 'f']
  | c =>
    if c.toNat < 0x20 then
      ['\\', 'u', '0', '0', hexDigit (c.toNat / 16), hexDigit (c.toNat % 16)]
    else [c]

def writeText (s : String) : List Char := '"' :: s.toList.flatMap escape ++ ['"']

def writeFloat (x : Double) : List Char :=
  if x.isFinite then (NumberStyle.signed.render x).toList else "null".toList

structure Style where
  lineBreak : Nat → List Char
  colon : List Char

def Style.compact : Style := ⟨fun _ => [], [':']⟩

def Style.indented : Style := ⟨fun depth => '\n' :: List.replicate (2 * depth) ' ', [':', ' ']⟩

mutual
def write (style : Style) (depth : Nat) : Json → List Char
  | null => "null".toList
  | bool true => "true".toList
  | bool false => "false".toList
  | integer n => (toString n).toList
  | float x => writeFloat x
  | text s => writeText s
  | array [] => ['[', ']']
  | array (v :: rest) =>
    '[' :: style.lineBreak (depth + 1) ++ write style (depth + 1) v ++
      writeItems style (depth + 1) rest ++ style.lineBreak depth ++ [']']
  | object [] => ['\x7b', '\x7d']
  | object ((k, v) :: rest) =>
    '\x7b' :: style.lineBreak (depth + 1) ++ writeText k ++ style.colon ++
      write style (depth + 1) v ++ writeFields style (depth + 1) rest ++
      style.lineBreak depth ++ ['\x7d']

def writeItems (style : Style) (depth : Nat) : List Json → List Char
  | [] => []
  | v :: rest =>
    ',' :: style.lineBreak depth ++ write style depth v ++ writeItems style depth rest

def writeFields (style : Style) (depth : Nat) : List (String × Json) → List Char
  | [] => []
  | (k, v) :: rest =>
    ',' :: style.lineBreak depth ++ writeText k ++ style.colon ++ write style depth v ++
      writeFields style depth rest
end

def render (v : Json) : String := String.ofList (v.write .compact 0)

def renderIndented (v : Json) : String := String.ofList (v.write .indented 0)

end ClusterReconciliation.Json
