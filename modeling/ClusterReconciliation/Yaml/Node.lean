import ClusterReconciliation.Yaml.Token

/-! The nodes of a document, put together from its tokens. As with data, a fault of the text is the
last thing in a node that is cut short. Readers return the tokens that remain, or nothing once
reading has stopped. -/
namespace ClusterReconciliation.Yaml

structure Properties where
  anchor : Option (List Char) := none
  tag : Option (List Char) := none
  deriving DecidableEq, Repr

inductive Node
  | reference (name : List Char)
  | scalar (properties : Properties) (text : List Char) (style : ScalarStyle)
  | sequence (properties : Properties) (items : List Node)
  | mapping (properties : Properties) (entries : List (Node × Node))
  | fault
  deriving Repr, Inhabited

/-- What a tag handle stands for. -/
abbrev Handles := List (List Char × List Char)

def defaultHandles : Handles :=
  [(['!'], ['!']), (['!', '!'], "tag:yaml.org,2002:".toList)]

namespace Node

/-- A node of which nothing is written. -/
def void : Node := scalar {} [] .plain

abbrev Rest := Option (List Token)

/-- The anchor and the tag in front of a node, in either order; the tag as handle and ending. -/
def takeProperties : List Token →
    Option (List Char) × Option (List Char × List Char) × List Token
  | .anchor a :: .tag h e :: rest => (some a, some (h, e), rest)
  | .tag h e :: .anchor a :: rest => (some a, some (h, e), rest)
  | .anchor a :: rest => (some a, none, rest)
  | .tag h e :: rest => (none, some (h, e), rest)
  | rest => (none, none, rest)

/-- The full tag; a handle has to be known. -/
def resolveTag (handles : Handles) : List Char × List Char → Option (List Char)
  | ([], ending) => some ending
  | (handle, ending) => (handles.lookup handle).map (· ++ ending)

def endsBlockItem : List Token → Bool
  | .blockEntry :: _ => true
  | .blockEnd :: _ => true
  | _ => false

def endsBlockValue : List Token → Bool
  | .key :: _ => true
  | .value :: _ => true
  | .blockEnd :: _ => true
  | _ => false

def endsFlowItem : List Token → Bool
  | .flowEntry :: _ => true
  | .flowSequenceEnd :: _ => true
  | _ => false

def endsFlowValue : List Token → Bool
  | .flowEntry :: _ => true
  | .flowMappingEnd :: _ => true
  | _ => false

mutual
/-- A node, in block context or in flow. Under a key a sequence need not be indented. -/
def read (handles : Handles) (block indentless : Bool) : Nat → List Token → Node × Rest
  | 0, _ => (fault, none)
  | _ + 1, .reference name :: rest => (reference name, some rest)
  | fuel + 1, ts =>
    let (anchor, written, rest) := takeProperties ts
    match written.map (resolveTag handles) with
    | some none => (fault, none)
    | tag? =>
      let p : Properties := ⟨anchor, tag?.join⟩
      match rest with
      | .blockEntry :: _ =>
        if indentless then
          let (items, rest) := readIndentless handles fuel rest
          (sequence p items, rest)
        else orVoid p rest
      | .scalar text style :: rest => (scalar p text style, some rest)
      | .flowSequenceStart :: rest =>
        let (items, rest) := readFlowItems handles true fuel rest
        (sequence p items, rest)
      | .flowMappingStart :: rest =>
        let (entries, rest) := readFlowEntries handles true fuel rest
        (mapping p entries, rest)
      | .blockSequenceStart :: rest' =>
        if block then
          let (items, rest) := readBlockItems handles fuel rest'
          (sequence p items, rest)
        else orVoid p rest
      | .blockMappingStart :: rest' =>
        if block then
          let (entries, rest) := readBlockEntries handles fuel rest'
          (mapping p entries, rest)
        else orVoid p rest
      | .fault :: _ => (fault, none)
      | rest => orVoid p rest

/-- Properties alone make a node of which nothing else is written. -/
def orVoid (p : Properties) (rest : List Token) : Node × Rest :=
  if p.anchor.isSome || p.tag.isSome then (scalar p [] .plain, some rest) else (fault, none)

def readIndentless (handles : Handles) : Nat → List Token → List Node × Rest
  | 0, _ => ([fault], none)
  | fuel + 1, .blockEntry :: rest =>
    if endsBlockItem rest || endsBlockValue rest then
      let (items, rest) := readIndentless handles fuel rest
      (void :: items, rest)
    else
      match read handles true false fuel rest with
      | (n, none) => ([n], none)
      | (n, some rest) =>
        let (items, rest) := readIndentless handles fuel rest
        (n :: items, rest)
  | _ + 1, .fault :: _ => ([fault], none)
  | _ + 1, rest => ([], some rest)

def readBlockItems (handles : Handles) : Nat → List Token → List Node × Rest
  | 0, _ => ([fault], none)
  | fuel + 1, .blockEntry :: rest =>
    if endsBlockItem rest then
      let (items, rest) := readBlockItems handles fuel rest
      (void :: items, rest)
    else
      match read handles true false fuel rest with
      | (n, none) => ([n], none)
      | (n, some rest) =>
        let (items, rest) := readBlockItems handles fuel rest
        (n :: items, rest)
  | _ + 1, .blockEnd :: rest => ([], some rest)
  | _ + 1, _ => ([fault], none)

def readBlockEntries (handles : Handles) : Nat → List Token → List (Node × Node) × Rest
  | 0, _ => ([(fault, fault)], none)
  | fuel + 1, .key :: rest =>
    match if endsBlockValue rest then (void, some rest) else read handles true true fuel rest with
    | (k, none) => ([(k, fault)], none)
    | (k, some rest) =>
      match readBlockValue handles fuel rest with
      | (v, none) => ([(k, v)], none)
      | (v, some rest) =>
        let (entries, rest) := readBlockEntries handles fuel rest
        ((k, v) :: entries, rest)
  | _ + 1, .blockEnd :: rest => ([], some rest)
  | _ + 1, _ => ([(fault, fault)], none)

def readBlockValue (handles : Handles) : Nat → List Token → Node × Rest
  | 0, _ => (fault, none)
  | fuel + 1, .value :: rest =>
    if endsBlockValue rest then (void, some rest) else read handles true true fuel rest
  | _ + 1, .fault :: _ => (fault, none)
  | _ + 1, rest => (void, some rest)

def readFlowItems (handles : Handles) (first : Bool) : Nat → List Token → List Node × Rest
  | 0, _ => ([fault], none)
  | _ + 1, .flowSequenceEnd :: rest => ([], some rest)
  | fuel + 1, ts =>
    match first, ts with
    | false, .flowEntry :: rest => readFlowItem handles fuel rest
    | true, rest => readFlowItem handles fuel rest
    | false, _ => ([fault], none)

/-- An item, which may be a single entry of a mapping, and the items after it. -/
def readFlowItem (handles : Handles) : Nat → List Token → List Node × Rest
  | 0, _ => ([fault], none)
  | _ + 1, .flowSequenceEnd :: rest => ([], some rest)
  | fuel + 1, .key :: rest =>
    match readPair handles fuel rest with
    | (k, v, none) => ([mapping {} [(k, v)]], none)
    | (k, v, some rest) =>
      let (items, rest) := readFlowItems handles false fuel rest
      (mapping {} [(k, v)] :: items, rest)
  | fuel + 1, rest =>
    match read handles false false fuel rest with
    | (n, none) => ([n], none)
    | (n, some rest) =>
      let (items, rest) := readFlowItems handles false fuel rest
      (n :: items, rest)

/-- A single entry. When its key is not written, the token in its place is passed over. -/
def readPair (handles : Handles) : Nat → List Token → Node × Node × Rest
  | 0, _ => (fault, fault, none)
  | fuel + 1, ts =>
    let isVoid := endsFlowItem ts || ts.head? == some .value
    match if isVoid then (void, some (ts.drop 1)) else read handles false false fuel ts with
    | (k, none) => (k, fault, none)
    | (k, some (.value :: rest)) =>
      if endsFlowItem rest then (k, void, some rest)
      else
        let (v, rest) := read handles false false fuel rest
        (k, v, rest)
    | (k, some (.fault :: _)) => (k, fault, none)
    | (k, some rest) => (k, void, some rest)

def readFlowEntries (handles : Handles) (first : Bool) :
    Nat → List Token → List (Node × Node) × Rest
  | 0, _ => ([(fault, fault)], none)
  | _ + 1, .flowMappingEnd :: rest => ([], some rest)
  | fuel + 1, ts =>
    match first, ts with
    | false, .flowEntry :: rest => readFlowMember handles fuel rest
    | true, rest => readFlowMember handles fuel rest
    | false, _ => ([(fault, fault)], none)

def readFlowMember (handles : Handles) : Nat → List Token → List (Node × Node) × Rest
  | 0, _ => ([(fault, fault)], none)
  | _ + 1, .flowMappingEnd :: rest => ([], some rest)
  | fuel + 1, .key :: rest =>
    let isVoid := endsFlowValue rest || rest.head? == some .value
    match if isVoid then (void, some rest) else read handles false false fuel rest with
    | (k, none) => ([(k, fault)], none)
    | (k, some (.value :: rest)) =>
      match if endsFlowValue rest then (void, some rest)
          else read handles false false fuel rest with
      | (v, none) => ([(k, v)], none)
      | (v, some rest) =>
        let (entries, rest) := readFlowEntries handles false fuel rest
        ((k, v) :: entries, rest)
    | (k, some (.fault :: _)) => ([(k, fault)], none)
    | (k, some rest) =>
      let (entries, rest) := readFlowEntries handles false fuel rest
      ((k, void) :: entries, rest)
  | fuel + 1, rest =>
    match read handles false false fuel rest with
    | (k, none) => ([(k, fault)], none)
    | (k, some rest) =>
      let (entries, rest) := readFlowEntries handles false fuel rest
      ((k, void) :: entries, rest)
end

end Node

/-- The handles declared in front of a document. One version may be given, of the first major one,
and each handle once. -/
def readDirectives : List Token → Bool → Handles → Option (Handles × List Token)
  | .version major minor :: rest, versioned, handles =>
    if versioned || major ≠ 1 || (minor ≠ 1 && minor ≠ 2) then none
    else readDirectives rest true handles
  | .tagHandle h e :: rest, versioned, handles =>
    if (handles.lookup h).isSome then none
    else readDirectives rest versioned (handles ++ [(h, e)])
  | rest, _, handles => some (handles ++ defaultHandles, rest)

def endsContent : List Token → Bool
  | .version .. :: _ => true
  | .tagHandle .. :: _ => true
  | .documentStart :: _ => true
  | .documentEnd :: _ => true
  | .streamEnd :: _ => true
  | _ => false

/-- The root of the first document and the tokens after it. An empty stream has a void root. -/
def readDocument (ts : List Token) : Node × Node.Rest :=
  let fuel := 4 * ts.length + 8
  match ts with
  | .streamEnd :: _ => (.void, some ts)
  | _ =>
    if endsContent ts && ts.head? != some .documentEnd then
      match readDirectives ts false [] with
      | some (handles, .documentStart :: rest) =>
        if endsContent rest then (.void, some rest)
        else Node.read handles true false fuel rest
      | _ => (.fault, none)
    else Node.read defaultHandles true false fuel ts

end ClusterReconciliation.Yaml
