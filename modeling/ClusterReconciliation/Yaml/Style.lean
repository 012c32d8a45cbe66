import ClusterReconciliation.Yaml.Cursor
import ClusterReconciliation.Yaml.Scalar

/-! How a text is written as a scalar: plain where that cannot be taken for anything else, then in
quotes or as a block of lines. -/
namespace ClusterReconciliation.Yaml

/-- Characters that may be written as they are. -/
def isPrintable (c : Char) : Bool :=
  let n := c.toNat
  n == 10 || (0x20 ≤ n && n ≤ 0x7E) || (0xA0 ≤ n && n ≤ 0xD7FF) ||
    (0xE000 ≤ n && n ≤ 0xFFFD && n != 0xFEFF) || 0x10000 ≤ n

def isGap (c : Char) : Bool := isBlank c || isBreak c

/-- A pair of neighbours with the given properties, in this order. -/
def hasPair (p q : Char → Bool) (cs : List Char) : Bool :=
  (cs.zip (cs.drop 1)).any fun (a, b) => p a && q b

/-- The text begins as something else than plain text does. -/
def beginsSpecial (cs : List Char) : Bool :=
  ['-', '-', '-'].isPrefixOf cs || ['.', '.', '.'].isPrefixOf cs ||
    match cs with
    | [] => false
    | c :: rest =>
      "#,[]\x7b\x7d&*!|>'\"%@\x60".toList.contains c ||
        ((c == '?' || c == ':' || c == '-') && rest.head?.all isGap)

/-- A colon before a gap or a number sign after one. -/
def containsSpecial (cs : List Char) : Bool :=
  hasPair (· == ':') isGap cs || hasPair isGap (· == '#') cs || cs.getLast? == some ':'

def isMultiline (cs : List Char) : Bool := cs.any isBreak

def isEdged (cs : List Char) : Bool :=
  cs.head?.any (fun c => c == ' ' || isBreak c) || cs.getLast?.any (fun c => c == ' ' || isBreak c)

def isUnquotable (cs : List Char) : Bool :=
  !cs.all isPrintable || hasPair (· == ' ') isBreak cs

def allowsPlain (cs : List Char) : Bool :=
  !isEdged cs && !isMultiline cs && !isUnquotable cs && !beginsSpecial cs && !containsSpecial cs

def allowsSingle (cs : List Char) : Bool := !isUnquotable cs && !hasPair isBreak (· == ' ') cs

def allowsBlock (cs : List Char) : Bool :=
  !cs.isEmpty && !isUnquotable cs && cs.getLast? != some ' '

inductive Form
  | plain
  | single
  | double
  | literal
  deriving DecidableEq, Repr

/-- A text that would be read as something else, were it plain. -/
def isAmbiguous (s : String) : Bool :=
  match Plain.ofText s with
  | some .text => isZeroPadded s.toList
  | _ => true

/-- The form of a text; a key on one line with its value cannot be a block. -/
def formOf (s : String) (isKey : Bool) : Form :=
  let cs := s.toList
  let quoted := if allowsSingle cs then Form.single else .double
  if cs.contains '\n' then
    if allowsBlock cs && !isKey then .literal else .double
  else if isKey && isMultiline cs then .double
  else if isAmbiguous s then quoted
  else if allowsPlain cs then .plain
  else quoted

def spaces (n : Nat) : List Char := List.replicate n ' '

/-- Quotes are doubled, and a line after a break is indented. -/
def singleQuoted (indent : Nat) : List Char → Bool → List Char
  | [], afterBreak => if afterBreak then spaces indent else []
  | c :: rest, afterBreak =>
    if isBreak c then c :: singleQuoted indent rest true
    else if c == ' ' then c :: singleQuoted indent rest afterBreak
    else
      (if afterBreak then spaces indent else []) ++
        (if c == '\'' then ['\'', '\''] else [c]) ++ singleQuoted indent rest false

def upperHex (width n : Nat) : List Char :=
  let digits := (Nat.toDigits 16 n).map Char.toUpper
  List.replicate (width - digits.length) '0' ++ digits

def escaped (c : Char) : List Char :=
  '\\' :: match c with
    | '\x00' => ['0']
    | '\x07' => ['a']
    | '\x08' => ['b']
    | '\t' => ['t']
    | '\n' => ['n']
    | '\x0b' => ['v']
    | '\x0c' => ['f']
    | '\r' => ['r']
    | '\x1b' => ['e']
    | '"' => ['"']
    | '\\' => ['\\']
    | '\u0085' => ['N']
    | '\u00a0' => ['_']
    | '\u2028' => ['L']
    | '\u2029' => ['P']
    | c =>
      let n := c.toNat
      if n ≤ 0xFF then 'x' :: upperHex 2 n
      else if n ≤ 0xFFFF then 'u' :: upperHex 4 n
      else 'U' :: upperHex 8 n

def doubleQuoted (cs : List Char) : List Char :=
  cs.flatMap fun c =>
    if !isPrintable c || isBreak c || c == '"' || c == '\\' then escaped c else [c]

/-- The indentation if the first line does not show it, and what becomes of the last break. -/
def literalHints (cs : List Char) : List Char :=
  (if cs.head?.any (fun c => c == ' ' || isBreak c) then ['2'] else []) ++
    match cs.reverse with
    | [] => ['-']
    | [c] => if isBreak c then ['+'] else ['-']
    | c :: d :: _ => if !isBreak c then ['-'] else if isBreak d then ['+'] else []

def literalLines (indent : Nat) : List Char → Bool → List Char
  | [], _ => []
  | c :: rest, afterBreak =>
    if isBreak c then c :: literalLines indent rest true
    else (if afterBreak then spaces indent else []) ++ c :: literalLines indent rest false

def writeText (indent : Nat) (isKey : Bool) (s : String) : List Char :=
  let cs := s.toList
  match formOf s isKey with
  | .plain => cs
  | .single => '\'' :: singleQuoted indent cs false ++ ['\'']
  | .double => '"' :: doubleQuoted cs ++ ['"']
  | .literal => '|' :: literalHints cs ++ '\n' :: literalLines indent cs true

end ClusterReconciliation.Yaml
