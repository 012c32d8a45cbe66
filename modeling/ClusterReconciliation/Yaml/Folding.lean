import ClusterReconciliation.Yaml.Cursor
import ClusterReconciliation.Yaml.Scalar

/-! The texts of scalars: quoted, plain, and blocks of lines. A break between two lines of a text
is folded to a blank, and further breaks stand for themselves. -/
namespace ClusterReconciliation.Yaml

/-- What stands between two words of a text: blanks, or else a first break and further ones. -/
structure Gap where
  blanks : List Char := []
  first : Option (List Char) := none
  further : List Char := []
  deriving DecidableEq, Repr

def Gap.text (g : Gap) : List Char :=
  match g.first with
  | none => g.blanks
  | some b =>
    if b == ['\n'] then if g.further.isEmpty then [' '] else g.further else b ++ g.further

/-- Reads blanks and breaks. A tab may not stand in the first `indent` columns of a line. -/
def readGap (indent : Nat) : Nat → Cursor → Gap → Option (Gap × Cursor)
  | 0, c, g => some (g, c)
  | fuel + 1, c, g =>
    match c.peek with
    | none => some (g, c)
    | some x =>
      if isBlank x then
        if g.first.isSome && c.column < indent && x == '\t' then none
        else
          let g := if g.first.isSome then g else { g with blanks := g.blanks ++ [x] }
          readGap indent fuel (c.skip 1) g
      else if isBreak x then
        let (b, c) := c.readBreak
        let g := match g.first with
          | none => { blanks := [], first := some b, further := g.further }
          | some _ => { g with further := g.further ++ b }
        readGap indent fuel c g
      else some (g, c)

def hexDigitsValue (cs : List Char) : Option Nat := digitsIn 16 cs

def simpleEscape : Char → Option Char
  | '0' => some '\x00'
  | 'a' => some '\x07'
  | 'b' => some '\x08'
  | 't' => some '\t'
  | '\t' => some '\t'
  | 'n' => some '\n'
  | 'v' => some '\x0b'
  | 'f' => some '\x0c'
  | 'r' => some '\r'
  | 'e' => some '\x1b'
  | ' ' => some ' '
  | '"' => some '"'
  | '/' => some '/'
  | '\\' => some '\\'
  | 'N' => some '\u0085'
  | '_' => some '\u00a0'
  | 'L' => some '\u2028'
  | 'P' => some '\u2029'
  | _ => none

/-- How many hexadecimal digits follow an escape for a character by number. -/
def numberEscape : Char → Option Nat
  | 'x' => some 2
  | 'u' => some 4
  | 'U' => some 8
  | _ => none

def readEscape (c : Cursor) : Option (Char × Cursor) := do
  let kind ← c.peekAt 1
  match numberEscape kind with
  | some width =>
    let digits := (c.rest.drop 2).take width
    let n ← hexDigitsValue digits
    if digits.length = width ∧ ¬(0xD800 ≤ n ∧ n ≤ 0xDFFF) ∧ n ≤ 0x10FFFF then
      return (Char.ofNat n, c.skip (2 + width))
    else none
  | none => return (← simpleEscape kind, c.skip 2)

/-- A run of quoted characters up to a blank, a break or the closing quote, and whether an escaped
break ended it. -/
def quotedRun (single : Bool) : Nat → Cursor → List Char → Option (List Char × Cursor × Bool)
  | 0, c, found => some (found.reverse, c, false)
  | fuel + 1, c, found =>
    match c.peek with
    | none => some (found.reverse, c, false)
    | some x =>
      if isBlank x || isBreak x then some (found.reverse, c, false)
      else if single && x == '\'' && c.peekAt 1 == some '\'' then
        quotedRun single fuel (c.skip 2) ('\'' :: found)
      else if x == (if single then '\'' else '"') then some (found.reverse, c, false)
      else if !single && x == '\\' then
        if (c.peekAt 1).any isBreak then some (found.reverse, (c.skip 1).skipBreak, true)
        else
          match readEscape c with
          | some (y, c) => quotedRun single fuel c (y :: found)
          | none => none
      else quotedRun single fuel (c.skip 1) (x :: found)

def readQuoted (single : Bool) : Nat → Cursor → List Char → Option (List Char × Cursor)
  | 0, _, _ => none
  | fuel + 1, c, text =>
    if c.isAtDocumentMark || c.rest.isEmpty then none
    else
      match quotedRun single (c.rest.length + 1) c [] with
      | none => none
      | some (run, c, escapedBreak) =>
        if c.peek == some (if single then '\'' else '"') then some (text ++ run, c.skip 1)
        else
          match readGap 0 (c.rest.length + 1) c { first := if escapedBreak then some [] else none }
          with
          | none => none
          | some (gap, c) => readQuoted single fuel c (text ++ run ++ gap.text)

def Cursor.readQuotedScalar (c : Cursor) (single : Bool) : Option (List Char × Cursor) :=
  readQuoted single (c.rest.length + 1) (c.skip 1) []

def isFlowIndicator (x : Char) : Bool :=
  x == ',' || x == '[' || x == ']' || x == '\x7b' || x == '\x7d'

/-- A run of plain characters up to a gap or an indicator. -/
def plainRun (inFlow : Bool) : Nat → Cursor → List Char → Option (List Char × Cursor)
  | 0, c, found => some (found.reverse, c)
  | fuel + 1, c, found =>
    match c.peek with
    | none => some (found.reverse, c)
    | some x =>
      if isBlank x || isBreak x then some (found.reverse, c)
      else if inFlow && x == ':' &&
          (c.peekAt 1).any (fun y => isFlowIndicator y || y == '?') then none
      else if (x == ':' && c.isGapAt 1) || (inFlow && isFlowIndicator x) then
        some (found.reverse, c)
      else plainRun inFlow fuel (c.skip 1) (x :: found)

/-- A plain text, and whether breaks follow it. In block context its lines are indented by
`indent` columns at least. -/
def readPlain (inFlow : Bool) (indent : Nat) :
    Nat → Cursor → List Char → Gap → Option (List Char × Cursor × Bool)
  | 0, c, text, gap => some (text, c, gap.first.isSome)
  | fuel + 1, c, text, gap =>
    if c.isAtDocumentMark || c.peek == some '#' then some (text, c, gap.first.isSome)
    else
      match plainRun inFlow (c.rest.length + 1) c [] with
      | none => none
      | some (run, c) =>
        let text := if run.isEmpty then text else text ++ gap.text ++ run
        let gap := if run.isEmpty then gap else {}
        if c.rest.isEmpty || !c.isGapAt 0 then some (text, c, gap.first.isSome)
        else
          match readGap indent (c.rest.length + 1) c gap with
          | none => none
          | some (gap, c) =>
            if !inFlow && c.column < indent then some (text, c, gap.first.isSome)
            else readPlain inFlow indent fuel c text gap

def Cursor.readPlainScalar (c : Cursor) (inFlow : Bool) (indent : Nat) :
    Option (List Char × Cursor × Bool) :=
  readPlain inFlow indent (c.rest.length + 1) c [] {}

/-- What becomes of the breaks at the end of a block. -/
inductive Chomping
  | strip
  | clip
  | keep
  deriving DecidableEq, Repr

/-- The header of a block: chomping and the indentation, in either order. -/
def readBlockHeader (c : Cursor) : Option (Chomping × Nat × Cursor) :=
  let chomping : Char → Option Chomping := fun x =>
    if x == '+' then some .keep else if x == '-' then some .strip else none
  let digit : Char → Option Nat := fun x =>
    if isDigit x then some (x.toNat - '0'.toNat) else none
  match c.peek.bind chomping, c.peek.bind digit with
  | some ch, _ =>
    match (c.peekAt 1).bind digit with
    | some 0 => none
    | some n => some (ch, n, c.skip 2)
    | none => some (ch, 0, c.skip 1)
  | none, some 0 => none
  | none, some n =>
    match (c.peekAt 1).bind chomping with
    | some ch => some (ch, n, c.skip 2)
    | none => some (.clip, n, c.skip 1)
  | none, none => some (.clip, 0, c)

/-- Blank lines and indentation before a line of a block: the breaks, the widest column reached
and the cursor at the line. While the indentation is not known it is `0`. -/
def readBlockBreaks (indent : Nat) :
    Nat → Cursor → List Char → Nat → Option (List Char × Nat × Cursor)
  | 0, c, breaks, widest => some (breaks, widest, c)
  | fuel + 1, c, breaks, widest =>
    let blanks := (c.taken (· == ' ')).length
    let width := if indent = 0 then blanks else min blanks (indent - c.column)
    let c := c.skip width
    let widest := max widest c.column
    if (indent = 0 || c.column < indent) && c.peek == some '\t' then none
    else if (c.peek.any isBreak) then
      let (b, c) := c.readBreak
      readBlockBreaks indent fuel c (breaks ++ b) widest
    else some (breaks, widest, c)

structure BlockText where
  text : List Char := []
  /-- The break after the last line, and the blank lines that follow it. -/
  lineEnd : List Char := []
  breaks : List Char := []
  /-- The last line begins with a blank. -/
  afterBlank : Bool := false

/-- Lines are folded unless one of them begins with a blank. -/
def readBlockLines (literal : Bool) (indent : Nat) :
    Nat → Cursor → BlockText → Option (BlockText × Cursor)
  | 0, c, b => some (b, c)
  | fuel + 1, c, b =>
    if c.column = indent && !c.rest.isEmpty then
      let blank := c.peek.any isBlank
      let joint :=
        if !literal && b.lineEnd == ['\n'] && !b.afterBlank && !blank then
          if b.breaks.isEmpty then [' '] else []
        else b.lineEnd
      let line := c.taken (!isBreak ·)
      let (lineEnd, c) := (c.skip line.length).readBreak
      match readBlockBreaks indent (c.rest.length + 1) c [] 0 with
      | none => none
      | some (breaks, _, c) =>
        readBlockLines literal indent fuel c
          ⟨b.text ++ joint ++ b.breaks ++ line, lineEnd, breaks, blank⟩
    else some (b, c)

/-- A block of lines, with the cursor at its indicator, inside a block indented to `parent`. -/
def Cursor.readBlockScalar (c : Cursor) (literal : Bool) (parent : Int) :
    Option (List Char × Cursor) := do
  let (chomping, increment, c) ← readBlockHeader (c.skip 1)
  let c ← c.skipLineEnd
  let given := if increment = 0 then 0
    else if 0 ≤ parent then parent.toNat + increment else increment
  let (breaks, widest, c) ← readBlockBreaks given (c.rest.length + 1) c [] 0
  let indent := if given = 0 then max (max widest (parent + 1).toNat) 1 else given
  let (b, c) ← readBlockLines literal indent (c.rest.length + 1) c { breaks := breaks }
  return (b.text ++ (if chomping = .strip then [] else b.lineEnd) ++
    (if chomping = .keep then b.breaks else []), c)

end ClusterReconciliation.Yaml
