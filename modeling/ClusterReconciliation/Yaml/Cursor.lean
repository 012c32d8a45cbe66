/-! A place in a YAML text, and the classes of characters that its grammar rests on. -/
namespace ClusterReconciliation.Yaml

structure Cursor where
  rest : List Char
  index : Nat := 0
  line : Nat := 0
  column : Nat := 0
  deriving DecidableEq, Repr

def isBreak (c : Char) : Bool :=
  c == '\n' || c == '\r' || c == '\u0085' || c == '\u2028' || c == '\u2029'

def isBlank (c : Char) : Bool := c == ' ' || c == '\t'

/-- Letters, digits, the low line and the hyphen. -/
def isWordChar (c : Char) : Bool :=
  ('0' ≤ c && c ≤ '9') || ('A' ≤ c && c ≤ 'Z') || ('a' ≤ c && c ≤ 'z') || c == '_' || c == '-'

/-- Characters that may stand in a text at all. -/
def isAllowed (c : Char) : Bool :=
  let n := c.toNat
  n == 9 || n == 10 || n == 13 || (0x20 ≤ n && n ≤ 0x7E) || n == 0x85 ||
    (0xA0 ≤ n && n ≤ 0xD7FF) || (0xE000 ≤ n && n ≤ 0xFFFD) || 0x10000 ≤ n

namespace Cursor

def ofText (cs : List Char) : Cursor := { rest := cs }

def peek (c : Cursor) : Option Char := c.rest.head?

def peekAt (c : Cursor) (n : Nat) : Option Char := c.rest[n]?

def looksAt (c : Cursor) (word : List Char) : Bool := word.isPrefixOf c.rest

/-- A break or the end of the text. -/
def isBreakAt (c : Cursor) (n : Nat) : Bool := (c.peekAt n).all isBreak

/-- A blank, a break or the end of the text. -/
def isGapAt (c : Cursor) (n : Nat) : Bool := (c.peekAt n).all fun x => isBlank x || isBreak x

def skip (c : Cursor) (n : Nat) : Cursor :=
  { c with rest := c.rest.drop n, index := c.index + n, column := c.column + n }

def taken (c : Cursor) (p : Char → Bool) : List Char := c.rest.takeWhile p

/-- Passes over characters with a property that no break has. -/
def skipWhile (c : Cursor) (p : Char → Bool) : Cursor := c.skip (c.taken p).length

/-- The break at the cursor as it counts in a text, and what follows it. Only the line and
paragraph separators count as themselves. -/
def readBreak (c : Cursor) : List Char × Cursor :=
  match c.rest with
  | '\r' :: '\n' :: rest => (['\n'], ⟨rest, c.index + 2, c.line + 1, 0⟩)
  | x :: rest =>
    if isBreak x then
      ([if x == '\u2028' || x == '\u2029' then x else '\n'], ⟨rest, c.index + 1, c.line + 1, 0⟩)
    else ([], c)
  | [] => ([], c)

def skipBreak (c : Cursor) : Cursor := c.readBreak.2

/-- Blanks and a comment, up to the end of the line. Nothing else may stand there. -/
def skipLineEnd (c : Cursor) : Option Cursor :=
  let c := c.skipWhile isBlank
  let c := if c.peek == some '#' then c.skipWhile (!isBreak ·) else c
  if c.isBreakAt 0 then some c.skipBreak else none

/-- The cursor stands at a line that begins or ends a document. -/
def isAtDocumentMark (c : Cursor) : Bool :=
  c.column == 0 && (c.looksAt ['-', '-', '-'] || c.looksAt ['.', '.', '.']) && c.isGapAt 3

end Cursor
end ClusterReconciliation.Yaml
