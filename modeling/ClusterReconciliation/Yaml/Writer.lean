import ClusterReconciliation.Decimal.Shortest
import ClusterReconciliation.Json
import ClusterReconciliation.Yaml.Style

/-! Writing values as YAML texts, one entry or item to a line. -/
namespace ClusterReconciliation.Yaml
open Decimal

def writeFloat (x : Double) : List Char :=
  if x.isNaN then ".nan".toList
  else if x.isInfinite then (if x.isNegative then "-.inf" else ".inf").toList
  else (NumberStyle.bare.render x).toList

/-- Ends the line unless the text has done so. -/
def endLine (cs : List Char) : List Char := if cs.getLast?.any isBreak then cs else cs ++ ['\n']

/-- A key on one line with its value is no longer than 128 octets. -/
def isSimpleKey (k : String) : Bool := !isMultiline k.toList && k.utf8ByteSize ≤ 128

/-- An item without the indentation of its first line, given what follows its sign. -/
def item (value : List Char) : List Char := '-' :: endLine value

/-- An entry without the indentation of its first line, given what follows its colon. -/
def entry (indent : Nat) (k : String) (value : List Char) : List Char :=
  if isSimpleKey k then writeText (indent + 2) true k ++ ':' :: endLine value
  else
    '?' :: ' ' :: endLine (writeText (indent + 2) false k) ++ spaces indent ++
      ':' :: endLine value

/-- How a collection begins, indented to `indent`: on a line of its own under a key. -/
def opening (indent : Nat) (underKey : Bool) : List Char :=
  if underKey then '\n' :: spaces indent else [' ']

mutual
/-- A value after a key or another sign at column `indent`. Items under a key are not indented
any further. -/
def write (indent : Nat) (underKey : Bool) : Json → List Char
  | .null => " null".toList
  | .bool b => (if b then " true" else " false").toList
  | .integer n => ' ' :: (toString n).toList
  | .float x => ' ' :: writeFloat x
  | .text s => ' ' :: writeText (indent + 2) false s
  | .array [] => " []".toList
  | .array (v :: rest) =>
    let column := if underKey then indent else indent + 2
    opening column underKey ++ item (write column false v) ++ writeItems column rest
  | .object [] => " \x7b\x7d".toList
  | .object ((k, v) :: rest) =>
    opening (indent + 2) underKey ++
      entry (indent + 2) k (write (indent + 2) (isSimpleKey k) v) ++
      writeEntries (indent + 2) rest

def writeItems (indent : Nat) : List Json → List Char
  | [] => []
  | v :: rest => spaces indent ++ item (write indent false v) ++ writeItems indent rest

def writeEntries (indent : Nat) : List (String × Json) → List Char
  | [] => []
  | (k, v) :: rest =>
    spaces indent ++ entry indent k (write indent (isSimpleKey k) v) ++
      writeEntries indent rest
end

def render : Json → String
  | .object [] => "\x7b\x7d\n"
  | .object entries => String.ofList (writeEntries 0 entries)
  | .array [] => "[]\n"
  | .array items => String.ofList (writeItems 0 items)
  | v => String.ofList (endLine ((write 0 false v).drop 1))

end ClusterReconciliation.Yaml
