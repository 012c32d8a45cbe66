import ClusterReconciliation.Decode
import ClusterReconciliation.Yaml.Node
import ClusterReconciliation.Yaml.Token.Lexer

/-! Reading YAML texts. Aliases are replaced by what they stand for, and scalars keep their texts
until a type is asked of them. -/
namespace ClusterReconciliation.Yaml

def coreTag (name : String) : List Char := ("tag:yaml.org,2002:" ++ name).toList

/-- What the tag of a scalar says. A lone exclamation mark says nothing. -/
def Tag.ofText (t : List Char) : Option Tag :=
  if t = ['!'] then none
  else if t = coreTag "null" then some .null
  else if t = coreTag "bool" then some .bool
  else if t = coreTag "int" then some .integer
  else if t = coreTag "float" then some .float
  else if t.head? = some '!' then some .application
  else some .other

/-- The nodes that have an anchor: data with the number of aliases in it, or nothing while the
node is still being read. -/
structure Anchors where
  known : List (List Char × Option (Datum × Nat)) := []
  /-- The aliases met so far, those inside of what they stand for included. -/
  aliases : Nat := 0

namespace Anchors

def openNode (a : Anchors) (p : Properties) : Anchors :=
  match p.anchor with
  | some name => { a with known := (name, none) :: a.known }
  | none => a

def closeNode (a : Anchors) (p : Properties) (before : Nat) (d : Datum) : Anchors :=
  match p.anchor with
  | some name => { a with known := (name, some (d, a.aliases - before)) :: a.known }
  | none => a

end Anchors

namespace Node

mutual
/-- How many steps it takes to go through a node. -/
def size : Node → Nat
  | reference _ => 1
  | scalar .. => 1
  | sequence _ items => 2 + sizeOfItems items
  | mapping _ entries => 2 + sizeOfEntries entries
  | fault => 0

def sizeOfItems : List Node → Nat
  | [] => 0
  | n :: rest => n.size + sizeOfItems rest

def sizeOfEntries : List (Node × Node) → Nat
  | [] => 0
  | (k, v) :: rest => k.size + v.size + sizeOfEntries rest
end

/-- A collection with a tag of an application is marked as such. -/
def mark (p : Properties) (d : Datum) : Datum :=
  if p.tag.any (·.head? == some '!') then .tagged d else d

mutual
/-- The data that a node stands for. A node inside of itself, and any reference beyond `limit`, has
no value. -/
def resolve (limit : Nat) : Node → Anchors → Datum × Anchors
  | fault, a => (.fault, a)
  | reference name, a =>
    match a.known.lookup name with
    | none => (.fault, a)
    | some none => (.unusable, a)
    | some (some (d, n)) =>
      let a := { a with aliases := a.aliases + n + 1 }
      (if limit < a.aliases then .unusable else d, a)
  | scalar p text style, a =>
    let d := Datum.scalar ⟨String.ofList text, style, p.tag.bind Tag.ofText⟩
    (d, (a.openNode p).closeNode p a.aliases d)
  | sequence p items, a =>
    let (ds, b) := resolveItems limit items (a.openNode p)
    let d := mark p (.list ds)
    (d, b.closeNode p a.aliases d)
  | mapping p entries, a =>
    let (es, b) := resolveEntries limit entries (a.openNode p)
    let d := mark p (.table es)
    (d, b.closeNode p a.aliases d)

def resolveItems (limit : Nat) : List Node → Anchors → List Datum × Anchors
  | [], a => ([], a)
  | n :: rest, a =>
    let (d, a) := n.resolve limit a
    let (ds, a) := resolveItems limit rest a
    (d :: ds, a)

def resolveEntries (limit : Nat) : List (Node × Node) → Anchors → List (Datum × Datum) × Anchors
  | [], a => ([], a)
  | (k, v) :: rest, a =>
    let (k, a) := k.resolve limit a
    let (v, a) := v.resolve limit a
    let (es, a) := resolveEntries limit rest a
    ((k, v) :: es, a)
end

end Node

def read (text : String) : Reading :=
  let (root, rest) := readDocument (tokenize text)
  ⟨.yaml, (root.resolve (100 * root.size) {}).1,
    rest.any fun ts => ts.dropWhile (· == .documentEnd) == [.streamEnd]⟩

end ClusterReconciliation.Yaml
