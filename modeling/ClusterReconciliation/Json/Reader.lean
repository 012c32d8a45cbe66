import ClusterReconciliation.Decode

/-! Reading JSON texts. Where a text goes wrong the data end in a fault. Each reader returns the
rest of the text, or nothing once reading has stopped. -/
namespace ClusterReconciliation.Json
open Decimal

def isSpace (c : Char) : Bool := c == ' ' || c == '\n' || c == '\t' || c == '\r'

def isDigit (c : Char) : Bool := '0' ≤ c && c ≤ '9'

def skipSpace (cs : List Char) : List Char := cs.dropWhile isSpace

def hexValue (c : Char) : Option Nat :=
  if isDigit c then some (c.toNat - '0'.toNat)
  else if 'a' ≤ c && c ≤ 'f' then some (c.toNat - 'a'.toNat + 10)
  else if 'A' ≤ c && c ≤ 'F' then some (c.toNat - 'A'.toNat + 10)
  else none

def readUnit : List Char → Option (Nat × List Char)
  | a :: b :: c :: d :: rest => do
    let n := (← hexValue a) * 4096 + (← hexValue b) * 256 + (← hexValue c) * 16 + (← hexValue d)
    return (n, rest)
  | _ => none

/-- A character of a string that is written with a backslash: the character, or nothing for half
of a surrogate pair, and the rest. -/
def readEscape : List Char → Option (Option Char × List Char)
  | 'u' :: rest => do
    let (high, rest) ← readUnit rest
    if 0xDC00 ≤ high ∧ high ≤ 0xDFFF then return (none, rest)
    else if 0xD800 ≤ high ∧ high < 0xDC00 then
      match rest with
      | '\\' :: 'u' :: rest' =>
        let (low, after) ← readUnit rest'
        if 0xDC00 ≤ low ∧ low ≤ 0xDFFF then
          return (some (Char.ofNat (0x10000 + (high - 0xD800) * 0x400 + (low - 0xDC00))), after)
        else return (none, rest)
      | _ => return (none, rest)
    else return (some (Char.ofNat high), rest)
  | '"' :: rest => some (some '"', rest)
  | '\\' :: rest => some (some '\\', rest)
  | '/' :: rest => some (some '/', rest)
  | 'b' :: rest => some (some '\x08', rest)
  | 'f' :: rest => some (some '\x0c', rest)
  | 'n' :: rest => some (some '\n', rest)
  | 'r' :: rest => some (some '\r', rest)
  | 't' :: rest => some (some '\t', rest)
  | _ => none

/-- The characters up to the closing quote. They have no value when half a surrogate pair stands
among them. -/
def readChars : Nat → List Char → List Char → Bool → Option (Option String × List Char)
  | 0, _, _, _ => none
  | _ + 1, [], _, _ => none
  | fuel + 1, c :: rest, found, whole =>
    if c == '"' then some (if whole then some (String.ofList found.reverse) else none, rest)
    else if c == '\\' then
      match readEscape rest with
      | none => none
      | some (some c, rest) => readChars fuel rest (c :: found) whole
      | some (none, rest) => readChars fuel rest found false
    else if c.toNat < 0x20 then none
    else readChars fuel rest (c :: found) whole

def readText (cs : List Char) : Option (Option String × List Char) :=
  readChars (cs.length + 1) cs [] true

def digitsValue (cs : List Char) : Nat :=
  cs.foldl (fun n c => n * 10 + (c.toNat - '0'.toNat)) 0

/-- A number by its parts: the sign, the digits before and after the point, and the exponent. -/
structure Numeral where
  negative : Bool
  whole : List Char
  fraction : Option (List Char)
  exponent : Option Int
  deriving DecidableEq, Repr

def readExponent : List Char → Option (Option Int × List Char)
  | c :: rest =>
    if c == 'e' || c == 'E' then
      let (negative, rest) := match rest with
        | '-' :: r => (true, r)
        | '+' :: r => (false, r)
        | r => (false, r)
      let digits := rest.takeWhile isDigit
      if digits.isEmpty then none
      else
        let n : Int := digitsValue digits
        some (some (if negative then -n else n), rest.dropWhile isDigit)
    else some (none, c :: rest)
  | [] => some (none, [])

def readMagnitude (negative : Bool) (cs : List Char) : Option (Numeral × List Char) :=
  let whole := cs.takeWhile isDigit
  if whole.isEmpty || (whole.head? == some '0' && 1 < whole.length) then none
  else
    match cs.dropWhile isDigit with
    | '.' :: rest =>
      let fraction := rest.takeWhile isDigit
      if fraction.isEmpty then none
      else (readExponent (rest.dropWhile isDigit)).map fun (e, rest) =>
        (⟨negative, whole, some fraction, e⟩, rest)
    | rest => (readExponent rest).map fun (e, rest) => (⟨negative, whole, none, e⟩, rest)

def readNumeral : List Char → Option (Numeral × List Char)
  | '-' :: rest => readMagnitude true rest
  | cs => readMagnitude false cs

/-- The digits taken into a significand of 64 bits, and those that no longer fit. -/
def significandOf : List Char → Nat → Nat × List Char
  | [], n => (n, [])
  | c :: rest, n =>
    let n' := n * 10 + (c.toNat - '0'.toNat)
    if n' < UInt64.size then significandOf rest n' else (n, c :: rest)

/-- A significand is turned into a binary value first and then scaled by powers of ten, so there
may be two roundings. Nothing comes of a value out of range. -/
def scale : Nat → Double → Int → Option Double
  | 0, x, _ => some x
  | fuel + 1, x, e =>
    if e.natAbs ≤ 308 then
      let power := Double.ofDecimal false 1 e.natAbs
      if 0 ≤ e then
        let y := x.mul power
        if y.isInfinite then none else some y
      else some (x.div power)
    else if x.isZero then some x
    else if 0 ≤ e then none
    else scale fuel (x.div (Double.ofDecimal false 1 308)) (e + 308)

def Numeral.double (n : Numeral) : Option Double :=
  let (significand, spare) := significandOf n.whole 0
  let fraction := n.fraction.getD []
  let (significand, dropped) := significandOf fraction significand
  let taken : Int := fraction.length - dropped.length
  let e := (spare.length : Int) - taken
  let exponent := n.exponent.getD 0
  let limit : Int := 0x7FFFFFFF
  if limit < exponent && significand != 0 then none
  else if exponent < -limit || limit < exponent then some (Double.ofMagnitude n.negative 0)
  else
    (scale 8 (.ofNat significand) (e + exponent)).map fun x => if n.negative then x.neg else x

/-- Integers of 64 bits stay integers, but minus nought is a float. -/
def Numeral.datum (n : Numeral) : Datum :=
  let value := digitsValue n.whole
  if n.fraction.isNone && n.exponent.isNone && value < UInt64.size &&
      (!n.negative || (value != 0 && value ≤ 0x8000000000000000)) then
    .integer (if n.negative then -(value : Int) else value)
  else
    match n.double with
    | some x => .float x
    | none => .unusable

/-- The rest of a word of which the first letter has been read. -/
def readWord (rest : List Char) (ending : String) (d : Datum) : Datum × Option (List Char) :=
  if ending.toList.isPrefixOf rest then (d, some (rest.drop ending.length)) else (.fault, none)

section
variable (number : Numeral → Datum)

mutual
def readValue : Nat → List Char → Datum × Option (List Char)
  | 0, _ => (.fault, none)
  | fuel + 1, cs =>
    match skipSpace cs with
    | '"' :: rest =>
      match readText rest with
      | some (some s, rest) => (.text s, some rest)
      | some (none, rest) => (.unusable, some rest)
      | none => (.fault, none)
    | '[' :: rest =>
      match skipSpace rest with
      | ']' :: rest => (.list [], some rest)
      | rest =>
        let (items, rest) := readItems fuel rest
        (.list items, rest)
    | '\x7b' :: rest =>
      match skipSpace rest with
      | '\x7d' :: rest => (.table [], some rest)
      | rest =>
        let (entries, rest) := readEntries fuel rest
        (.table entries, rest)
    | 'n' :: rest => readWord rest "ull" .null
    | 't' :: rest => readWord rest "rue" (.bool true)
    | 'f' :: rest => readWord rest "alse" (.bool false)
    | cs =>
      match readNumeral cs with
      | some (n, rest) => (number n, some rest)
      | none => (.fault, none)

def readItems : Nat → List Char → List Datum × Option (List Char)
  | 0, _ => ([.fault], none)
  | fuel + 1, cs =>
    match readValue fuel cs with
    | (d, none) => ([d], none)
    | (d, some rest) =>
      match skipSpace rest with
      | ',' :: rest =>
        let (items, rest) := readItems fuel rest
        (d :: items, rest)
      | ']' :: rest => ([d], some rest)
      | _ => ([d, .fault], none)

def readEntries : Nat → List Char → List (Datum × Datum) × Option (List Char)
  | 0, _ => ([(.fault, .fault)], none)
  | fuel + 1, cs =>
    match skipSpace cs with
    | '"' :: rest =>
      match readText rest with
      | none => ([(.fault, .fault)], none)
      | some (key?, rest) =>
        let key := match key? with
          | some s => Datum.text s
          | none => .unusable
        match skipSpace rest with
        | ':' :: rest =>
          match readValue fuel rest with
          | (v, none) => ([(key, v)], none)
          | (v, some rest) =>
            match skipSpace rest with
            | ',' :: rest =>
              let (entries, rest) := readEntries fuel rest
              ((key, v) :: entries, rest)
            | '\x7d' :: rest => ([(key, v)], some rest)
            | _ => ([(key, v), (.fault, .fault)], none)
        | _ => ([(key, .fault)], none)
    | _ => ([(.fault, .fault)], none)
end

/-- A text as data, with its numbers as `number` takes them. -/
def readWith (s : String) : Reading :=
  let cs := s.toList
  match readValue number (cs.length + 1) cs with
  | (d, none) => ⟨.json, d, false⟩
  | (d, some rest) => ⟨.json, d, (skipSpace rest).isEmpty⟩

end

def read (s : String) : Reading := readWith Numeral.datum s

end ClusterReconciliation.Json
