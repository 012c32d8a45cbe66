import ClusterReconciliation.Yaml.Token.Tag

/-! Taking a YAML text apart. A token that may turn out to be the key of a mapping is not handed
out before that is decided: when the text goes wrong first, it is lost with all that follows. -/
namespace ClusterReconciliation.Yaml

/-- A token at which a key may begin, counted from the first token. A required one stands where
the block it is in can only go on with a key. -/
structure KeyStart where
  token : Nat
  required : Bool
  index : Nat
  line : Nat
  column : Nat
  deriving DecidableEq, Repr

structure Lexer where
  cursor : Cursor
  /-- All tokens so far, the last one first. -/
  tokens : List Token := []
  indent : Int := -1
  outerIndents : List Int := []
  keyAllowed : Bool := true
  /-- The candidate for a key at this level, and those of the levels around it. -/
  candidate : Option KeyStart := none
  outerCandidates : List (Option KeyStart) := []
  deriving Repr

namespace Lexer

def count (s : Lexer) : Nat := s.tokens.length

def inFlow (s : Lexer) : Bool := !s.outerCandidates.isEmpty

def push (s : Lexer) (t : Token) : Lexer := { s with tokens := t :: s.tokens }

/-- Puts tokens in front of the token with number `n`. -/
def insertAt (s : Lexer) (n : Nat) (ts : List Token) : Lexer :=
  let later := s.count - n
  { s with tokens := s.tokens.take later ++ ts.reverse ++ s.tokens.drop later }

/-- A key ends on the line on which it begins, within 1024 characters. -/
def isStale (c : Cursor) (k : KeyStart) : Bool := k.line < c.line || k.index + 1024 < c.index

def freshen (c : Cursor) : Option KeyStart → Option (Option KeyStart)
  | none => some none
  | some k => if isStale c k then if k.required then none else some none else some (some k)

/-- Gives up candidates that have become stale; a required one is missed. -/
def dropStale (s : Lexer) : Option Lexer := do
  let candidate ← freshen s.cursor s.candidate
  let outer ← s.outerCandidates.mapM (freshen s.cursor)
  return { s with candidate := candidate, outerCandidates := outer }

def dropCandidate (s : Lexer) : Option Lexer :=
  if s.candidate.any (·.required) then none else some { s with candidate := none }

def saveCandidate (s : Lexer) : Option Lexer :=
  if s.keyAllowed then do
    let c := s.cursor
    let k : KeyStart := ⟨s.count, !s.inFlow && s.indent == c.column, c.index, c.line, c.column⟩
    return { (← s.dropCandidate) with candidate := some k }
  else some s

/-- Opens a block at a column to the right of the one around it. -/
def rollIndent (s : Lexer) (column : Nat) (at? : Option Nat) (t : Token) : Lexer :=
  if s.inFlow then s
  else if s.indent < column then
    let s := match at? with
      | some n => s.insertAt n [t]
      | none => s.push t
    { s with indent := column, outerIndents := s.indent :: s.outerIndents }
  else s

def unrollIndent (s : Lexer) (column : Int) : Lexer :=
  if s.inFlow then s else go s s.outerIndents
where
  go (s : Lexer) : List Int → Lexer
    | [] => s
    | i :: rest =>
      if column < s.indent then
        go { (s.push .blockEnd) with indent := i, outerIndents := rest } rest
      else s

/-- Blanks, comments and breaks before the next token. -/
def skipToToken : Nat → Lexer → Lexer
  | 0, s => s
  | fuel + 1, s =>
    let c := s.cursor
    let c := if c.index = 0 && c.peek == some '\ufeff' then c.skip 1 else c
    let c := c.skipWhile fun x => x == ' ' || ((s.inFlow || !s.keyAllowed) && x == '\t')
    let c := if c.peek == some '#' then c.skipWhile (!isBreak ·) else c
    if c.peek.any isBreak then
      skipToToken fuel { s with cursor := c.skipBreak, keyAllowed := s.keyAllowed || !s.inFlow }
    else { s with cursor := c }

/-- Hands out a token that a reader found at the cursor. -/
def take (s : Lexer) (read : Option (Token × Cursor)) : Option Lexer :=
  read.map fun (t, c) => { (s.push t) with cursor := c }

def indicator (s : Lexer) (width : Nat) (t : Token) : Lexer :=
  { (s.push t) with cursor := s.cursor.skip width }

def endStream (s : Lexer) : Option Lexer := do
  let s := { s with cursor :=
    if s.cursor.column = 0 then s.cursor
    else { s.cursor with line := s.cursor.line + 1, column := 0 } }
  let s ← (s.unrollIndent (-1)).dropCandidate
  return { (s.push .streamEnd) with keyAllowed := false }

def directive (s : Lexer) : Option Lexer := do
  let s ← (s.unrollIndent (-1)).dropCandidate
  { s with keyAllowed := false }.take s.cursor.readDirective

def documentMark (s : Lexer) (t : Token) : Option Lexer := do
  let s ← (s.unrollIndent (-1)).dropCandidate
  return { s with keyAllowed := false }.indicator 3 t

def openFlow (s : Lexer) (t : Token) : Option Lexer := do
  let s ← s.saveCandidate
  let s := { s with candidate := none, outerCandidates := s.candidate :: s.outerCandidates }
  return { s with keyAllowed := true }.indicator 1 t

def closeFlow (s : Lexer) (t : Token) : Option Lexer := do
  let s ← s.dropCandidate
  let s := match s.outerCandidates with
    | k :: rest => { s with candidate := k, outerCandidates := rest }
    | [] => s
  return { s with keyAllowed := false }.indicator 1 t

def flowEntry (s : Lexer) : Option Lexer := do
  let s ← s.dropCandidate
  return { s with keyAllowed := true }.indicator 1 .flowEntry

def blockEntry (s : Lexer) : Option Lexer := do
  if !s.inFlow && !s.keyAllowed then none
  else
    let s ← (s.rollIndent s.cursor.column none .blockSequenceStart).dropCandidate
    return { s with keyAllowed := true }.indicator 1 .blockEntry

def explicitKey (s : Lexer) : Option Lexer := do
  if !s.inFlow && !s.keyAllowed then none
  else
    let s ← (s.rollIndent s.cursor.column none .blockMappingStart).dropCandidate
    return { s with keyAllowed := !s.inFlow }.indicator 1 .key

/-- A colon makes the candidate a key after the fact. -/
def value (s : Lexer) : Option Lexer :=
  match s.candidate with
  | some k =>
    let s := (s.insertAt k.token [.key]).rollIndent k.column (some k.token) .blockMappingStart
    some ({ s with candidate := none, keyAllowed := false }.indicator 1 .value)
  | none =>
    if !s.inFlow && !s.keyAllowed then none
    else
      let s := s.rollIndent s.cursor.column none .blockMappingStart
      some ({ s with keyAllowed := !s.inFlow }.indicator 1 .value)

def property (s : Lexer) (read : Cursor → Option (Token × Cursor)) : Option Lexer := do
  let s ← s.saveCandidate
  { s with keyAllowed := false }.take (read s.cursor)

def blockScalar (s : Lexer) (literal : Bool) : Option Lexer := do
  let s ← s.dropCandidate
  { s with keyAllowed := true }.take <|
    (s.cursor.readBlockScalar literal s.indent).map fun (text, c) =>
      (.scalar text (if literal then .literal else .folded), c)

def quotedScalar (s : Lexer) (single : Bool) : Option Lexer :=
  s.property fun c => (c.readQuotedScalar single).map fun (text, c) => (.scalar text .quoted, c)

def plainScalar (s : Lexer) : Option Lexer := do
  let s ← s.saveCandidate
  let (text, c, broken) ← s.cursor.readPlainScalar s.inFlow (s.indent + 1).toNat
  return { (s.push (.scalar text .plain)) with cursor := c, keyAllowed := broken }

/-- The character at the cursor can begin a plain text. -/
def beginsPlain (s : Lexer) : Bool :=
  let c := s.cursor
  match c.peek with
  | none => false
  | some x =>
    !(isBlank x || isBreak x || "-?:,[]\x7b\x7d#&*!|>'\"%@\x60".toList.contains x) ||
      (x == '-' && !(c.peekAt 1).any isBlank) ||
      (!s.inFlow && (x == '?' || x == ':') && !c.isGapAt 1)

def fetch (s : Lexer) : Option Lexer := do
  let s := skipToToken (s.cursor.rest.length + 1) s
  let s ← s.dropStale
  let s := s.unrollIndent s.cursor.column
  let c := s.cursor
  match c.peek with
  | none => s.endStream
  | some x =>
    if c.column = 0 && x == '%' then s.directive
    else if c.isAtDocumentMark then
      s.documentMark (if x == '-' then .documentStart else .documentEnd)
    else if x == '[' then s.openFlow .flowSequenceStart
    else if x == '\x7b' then s.openFlow .flowMappingStart
    else if x == ']' then s.closeFlow .flowSequenceEnd
    else if x == '\x7d' then s.closeFlow .flowMappingEnd
    else if x == ',' then s.flowEntry
    else if x == '-' && c.isGapAt 1 then s.blockEntry
    else if x == '?' && (s.inFlow || c.isGapAt 1) then s.explicitKey
    else if x == ':' && (s.inFlow || c.isGapAt 1) then s.value
    else if x == '*' then
      s.property fun c => c.readAnchorName.map fun (name, c) => (.reference name, c)
    else if x == '&' then
      s.property fun c => c.readAnchorName.map fun (name, c) => (.anchor name, c)
    else if x == '!' then s.property (·.readTag s.inFlow)
    else if x == '|' && !s.inFlow then s.blockScalar true
    else if x == '>' && !s.inFlow then s.blockScalar false
    else if x == '\'' then s.quotedScalar true
    else if x == '"' then s.quotedScalar false
    else if s.beginsPlain then s.plainScalar
    else none

/-- The first token that is not yet handed out. -/
def held (s : Lexer) : Nat :=
  (s.candidate :: s.outerCandidates).foldl (fun n k => (k.map (·.token)).elim n (min n)) s.count

/-- The tokens before number `n`, and then the fault. -/
def faultAt (s : Lexer) (n : Nat) : List Token := s.tokens.reverse.take n ++ [.fault]

/-- All tokens; `bound` counts those that are out of reach of a fault found right now. -/
def run : Nat → Lexer → Nat → List Token
  | 0, s, bound => s.faultAt bound
  | fuel + 1, s, bound =>
    match s.dropStale with
    | none => s.faultAt bound
    | some s =>
      match s.fetch with
      | none => s.faultAt s.held
      | some s' =>
        if s'.tokens.head? == some .streamEnd then s'.tokens.reverse
        else run fuel s' s.held

end Lexer

def tokenize (text : String) : List Token :=
  let cs := text.toList
  if cs.all isAllowed then Lexer.run (2 * cs.length + 4) { cursor := .ofText cs } 0 else [.fault]

end ClusterReconciliation.Yaml
