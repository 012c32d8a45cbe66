import ClusterReconciliation.Yaml.Cursor
import ClusterReconciliation.Yaml.Folding
import ClusterReconciliation.Yaml.Token

/-! Tokens that begin with a percent sign, an exclamation mark, an ampersand or an asterisk:
directives, tags, anchors and aliases. -/
namespace ClusterReconciliation.Yaml
namespace Cursor

def isUriChar (inAngles : Bool) (x : Char) : Bool :=
  isWordChar x || ";/?:@&=+$.%!~*'()".toList.contains x ||
    (inAngles && (x == ',' || x == '[' || x == ']'))

/-- One octet written as a percent sign and two digits. -/
def readOctet (cs : List Char) : Option Nat :=
  match cs with
  | '%' :: a :: b :: _ => digitsIn 16 [a, b]
  | _ => none

/-- A character written as the octets of its encoding. -/
def readEscapedOctets (c : Cursor) : Option (Char × Cursor) := do
  let lead ← readOctet c.rest
  let width ←
    if lead < 0x80 then some 1
    else if lead / 0x20 = 6 then some 2
    else if lead / 0x10 = 14 then some 3
    else if lead / 0x08 = 30 then some 4
    else none
  let following := (List.range (width - 1)).map fun i => readOctet (c.rest.drop (3 * (i + 1)))
  if following.all fun o => o.any fun n => n / 0x40 == 2 then
    let n := following.foldl (fun n o => n * 0x40 + o.getD 0 % 0x40)
      (if width = 1 then lead else lead % Nat.pow 2 (7 - width))
    return (Char.ofNat n, c.skip (3 * width))
  else none

def readUri (inAngles : Bool) : Nat → Cursor → List Char → Option (List Char × Cursor)
  | 0, c, found => some (found.reverse, c)
  | fuel + 1, c, found =>
    match c.peek with
    | some '%' =>
      match c.readEscapedOctets with
      | some (x, c) => readUri inAngles fuel c (x :: found)
      | none => none
    | some x =>
      if isUriChar inAngles x then readUri inAngles fuel (c.skip 1) (x :: found)
      else some (found.reverse, c)
    | none => some (found.reverse, c)

/-- The rest of a tag, after a handle that turned out to be its beginning. -/
def readTagEnding (c : Cursor) (inAngles : Bool) (head : List Char) :
    Option (List Char × Cursor) := do
  let (found, after) ← readUri inAngles (c.rest.length + 1) c []
  if head.isEmpty && found.isEmpty then none else return (head.drop 1 ++ found, after)

/-- An exclamation mark, word characters and perhaps another exclamation mark. -/
def readHandle (c : Cursor) (inDirective : Bool) : Option (List Char × Cursor) :=
  if c.peek != some '!' then none
  else
    let word := (c.skip 1).taken isWordChar
    let after := c.skip (1 + word.length)
    if after.peek == some '!' then some ('!' :: word ++ ['!'], after.skip 1)
    else if inDirective && !word.isEmpty then none
    else some ('!' :: word, after)

def isFullHandle (h : List Char) : Bool := 1 < h.length && h.getLast? == some '!'

def readTag (c : Cursor) (inFlow : Bool) : Option (Token × Cursor) := do
  let (token, c) ←
    if c.peekAt 1 == some '<' then do
      let (uri, c) ← (c.skip 2).readTagEnding true []
      if c.peek == some '>' then some (Token.tag [] uri, c.skip 1) else none
    else do
      let (handle, after) ← c.readHandle false
      if isFullHandle handle then do
        let (ending, after) ← after.readTagEnding false []
        some (Token.tag handle ending, after)
      else do
        let (ending, after) ← after.readTagEnding false handle
        some (if ending.isEmpty then Token.tag [] ['!'] else Token.tag ['!'] ending, after)
  if c.isGapAt 0 || (inFlow && c.peek == some ',') then return (token, c) else none

/-- The name of an anchor or an alias, with the cursor at its sign. -/
def readAnchorName (c : Cursor) : Option (List Char × Cursor) :=
  let name := (c.skip 1).taken isWordChar
  let after := c.skip (1 + name.length)
  if name.isEmpty then none
  else if after.isGapAt 0 || after.peek.any ("?:,]\x7d%@\x60".toList.contains ·) then
    some (name, after)
  else none

def readVersionNumber (c : Cursor) : Option (Nat × Cursor) := do
  let digits := c.taken isDigit
  if digits.length ≤ 9 then return (← digitsIn 10 digits, c.skip digits.length) else none

def readDirective (c : Cursor) : Option (Token × Cursor) := do
  let name := (c.skip 1).taken isWordChar
  let c := c.skip (1 + name.length)
  if name.isEmpty || !c.isGapAt 0 then none
  else do
    let (token, c) ←
      if name = "YAML".toList then do
        let (major, c) ← (c.skipWhile isBlank).readVersionNumber
        if c.peek != some '.' then none
        else do
          let (minor, c) ← (c.skip 1).readVersionNumber
          some (Token.version major minor, c)
      else if name = "TAG".toList then do
        let (handle, c) ← (c.skipWhile isBlank).readHandle true
        if !c.peek.any isBlank then none
        else do
          let (expansion, c) ← (c.skipWhile isBlank).readTagEnding true []
          if c.isGapAt 0 then some (Token.tagHandle handle expansion, c) else none
      else none
    return (token, ← c.skipLineEnd)

end Cursor
end ClusterReconciliation.Yaml
