import ClusterReconciliation.Dict
import ClusterReconciliation.Text.Blank

/-! Variables of the environment, and files that add to them. A line of such a file is a name, an
equals sign and a value, which may be quoted and may name variables. A variable that is set already
stays as it is. -/
namespace ClusterReconciliation.Variables

/-- A line that cannot be read, and the place in it where that shows. -/
structure BadLine where
  line : String
  place : Nat
  deriving DecidableEq, Repr

def BadLine.message (b : BadLine) : String :=
  "Error parsing line: '" ++ b.line ++ "', error at line index: " ++ toString b.place

/-! Lines, which end within quotes only together with them -/

inductive Quoting
  | plain
  | blank
  | escape
  | weak
  | weakEscape
  | strong
  | strongEscape
  deriving DecidableEq, Repr

def openQuote : Char → Quoting
  | '\\' => .escape
  | '"' => .weak
  | '\'' => .strong
  | _ => .plain

def Quoting.next : Quoting → Char → Quoting
  | plain, c => if Text.isBlank c && c != '\n' && c != '\r' then blank else openQuote c
  | blank, c => openQuote c
  | escape, _ => plain
  | weak, c => if c = '\\' then weakEscape else if c = '"' then plain else weak
  | weakEscape, _ => weak
  | strong, c => if c = '\\' then strongEscape else if c = '\'' then plain else strong
  | strongEscape, _ => strong

/-- How a line ends, or its part before a comment. -/
def scan : Quoting → List Char → Quoting ⊕ List Char
  | q, [] => .inl q
  | q, c :: rest =>
    if q = .blank ∧ c = '#' then .inr []
    else
      match scan (q.next c) rest with
      | .inl q => .inl q
      | .inr cs => .inr (c :: cs)

def physicalLines : List Char → List (List Char)
  | [] => []
  | c :: rest =>
    match c == '\n', physicalLines rest with
    | true, ls => ['\n'] :: ls
    | false, [] => [[c]]
    | false, l :: ls => (c :: l) :: ls

def dropBreak (cs : List Char) : List Char :=
  match cs.reverse with
  | '\n' :: '\r' :: rest => rest.reverse
  | '\n' :: rest => rest.reverse
  | _ => cs

/-- Lines of text; the last one is bad if it ends within quotes or in a blank. -/
def logicalLines : List Char → Quoting → List (List Char) → List (Except BadLine (List Char))
  | held, q, [] =>
    if q = .plain then []
    else [.error ⟨String.ofList held, (String.ofList held).utf8ByteSize⟩]
  | held, q, l :: rest =>
    let line := held ++ l
    if (line.dropWhile Text.isBlank).head? = some '#' then logicalLines [] .plain rest
    else
      match scan q l with
      | .inr before => .ok (held ++ before) :: logicalLines [] .plain rest
      | .inl .plain => .ok (dropBreak line) :: logicalLines [] .plain rest
      | .inl q => logicalLines line q rest

/-! Values -/

inductive Substitution
  | none
  /-- Behind a dollar sign. -/
  | bare
  /-- Between braces. -/
  | braced
  deriving DecidableEq, Repr

structure Reading where
  strong : Bool := false
  weak : Bool := false
  escaped : Bool := false
  /-- Behind a blank nothing but a comment may follow. -/
  ended : Bool := false
  substitution : Substitution := .none
  name : List Char := []
  output : List Char := []

def Reading.substitute (environment : Dict String) (r : Reading) : Reading :=
  { r with name := []
           output := r.output ++ ((environment.get? (String.ofList r.name)).getD "").toList }

/-- Behind a dollar sign a name holds letters and digits of ASCII only. -/
def isNameChar (c : Char) : Bool := c.isAlphanum

def Reading.put (r : Reading) (c : Char) : Reading := { r with output := r.output ++ [c] }

def unescape (c : Char) : Option Char :=
  if c = 'n' then some '\n'
  else if ['\\', '\'', '"', '$', ' '].contains c then some c else none

def Reading.inName (environment : Dict String) (r : Reading) (c : Char) : Reading :=
  if isNameChar c then { r with name := r.name ++ [c] }
  else if r.substitution = .braced then
    if c = '\x7d' then { r.substitute environment with substitution := .none }
    else { r with name := r.name ++ [c] }
  else if c = '\x7b' ∧ r.name = [] then { r with substitution := .braced }
  else if c = '$' then { r.substitute environment with substitution := .bare }
  else { (r.substitute environment).put c with substitution := .none }

def Reading.unquoted (r : Reading) (c : Char) : Reading :=
  if c = '\'' then { r with strong := true }
  else if c = '"' then { r with weak := true }
  else if c = '\\' then { r with escaped := true }
  else if c = ' ' ∨ c = '\t' then { r with ended := true }
  else r.put c

def Reading.next (environment : Dict String) (r : Reading) (c : Char) : Option Reading :=
  if r.ended then if c = ' ' ∨ c = '\t' then some r else none
  else if r.escaped then (unescape c).map fun c => { r.put c with escaped := false }
  else if r.strong then some (if c = '\'' then { r with strong := false } else r.put c)
  else if r.substitution ≠ .none then some (r.inName environment c)
  else if c = '$' then some { r with substitution := .bare }
  else if r.weak then
    some (if c = '"' then { r with weak := false }
      else if c = '\\' then { r with escaped := true } else r.put c)
  else some (r.unquoted c)

/-- The value that some text gives, with the place of a fault. -/
def readValue (environment : Dict String) : Nat → Reading → List Char → Except Nat (List Char)
  | place, r, [] =>
    if r.substitution = .braced ∨ r.strong ∨ r.weak then .error place
    else .ok (r.substitute environment).output
  | place, r, c :: rest =>
    if r.ended ∧ c = '#' then .ok (r.substitute environment).output
    else
      match r.next environment c with
      | none => .error place
      | some r => readValue environment (place + 1) r rest

def valueOf (environment : Dict String) (cs : List Char) : Except BadLine String :=
  let line := String.ofList cs
  match readValue environment 0 {} cs with
  | .ok v => .ok (String.ofList v)
  | .error place => .error ⟨line, if place = cs.length then line.utf8ByteSize - 1 else place⟩

/-! Assignments -/

def isFirstOfName (c : Char) : Bool := c.isAlpha || c == '_'

def isInName (c : Char) : Bool := c.isAlphanum || c == '_' || c == '.'

/-- A name at the start of some text, and what follows it after blanks. -/
def readName : List Char → Option (String × List Char)
  | [] => none
  | c :: rest =>
    if isFirstOfName c then
      some (String.ofList (c :: rest.takeWhile isInName),
        (rest.dropWhile isInName).dropWhile Text.isBlank)
    else none

def afterEquals : List Char → Option (List Char)
  | '=' :: rest => some (rest.dropWhile Text.isBlank)
  | _ => none

/-- The name and the text of the value, or what is left at a fault. The word `export` before a name
does not count, but it can be a name itself. -/
def readAssignment (cs : List Char) : Except (List Char) (String × List Char) :=
  match readName cs with
  | none => .error cs
  | some (name, rest) =>
    match afterEquals rest with
    | some value => .ok (name, value)
    | none =>
      if name != "export" then .error rest
      else
        match readName rest with
        | none => .error rest
        | some (name, rest) =>
          match afterEquals rest with
          | some value => .ok (name, value)
          | none => .error rest

def octetsOf (cs : List Char) : Nat := (String.ofList cs).utf8ByteSize

/-- The assignment in a line, if it is not blank and not a comment. -/
def readLine (environment : Dict String) (line : List Char) :
    Except BadLine (Option (String × String)) :=
  let cs := (line.reverse.dropWhile Text.isBlank).reverse
  let start := cs.dropWhile Text.isBlank
  if start.isEmpty || start.head? = some '#' then .ok none
  else
    match readAssignment start with
    | .error rest => .error ⟨String.ofList line, octetsOf cs - octetsOf rest⟩
    | .ok (name, value) =>
      if value.isEmpty || value.head? = some '#' then .ok (some (name, ""))
      else do return some (name, ← valueOf environment value)

def addLine (environment : Dict String) (line : Except BadLine (List Char)) :
    Except BadLine (Dict String) := do
  match ← readLine environment (← line) with
  | none => return environment
  | some (name, value) =>
    return if environment.contains name then environment else environment.insert name value

def dropMark : List Char → List Char
  | '\ufeff' :: rest => rest
  | cs => cs

def load (environment : Dict String) (text : String) : Except BadLine (Dict String) :=
  (logicalLines [] .plain (physicalLines (dropMark text.toList))).foldlM addLine environment

end ClusterReconciliation.Variables
