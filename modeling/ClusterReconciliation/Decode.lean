import ClusterReconciliation.Datum
import ClusterReconciliation.Dict
import ClusterReconciliation.ValidationError

/-! Reading typed values out of data. A record is described by its fields; the entries of a table
are judged in the order in which they stand, and only then are absent fields noticed. -/
namespace ClusterReconciliation

inductive DecodeError
  | invalid (error : ValidationError)
  | missingField (name : String)
  | duplicateField (name : String)
  | wrongValue
  | unreadable
  deriving DecidableEq, Repr

def DecodeError.message : DecodeError → String
  | invalid e => e.message
  | missingField name => "the field " ++ name ++ " is missing"
  | duplicateField name => "the field " ++ name ++ " is given twice"
  | wrongValue => "a value is of the wrong type or out of range"
  | unreadable => "the text cannot be read"

abbrev Decoder (α : Type) := Origin → Datum → Except DecodeError α

def Datum.mismatch : Datum → DecodeError
  | .fault => .unreadable
  | .unusable => .unreadable
  | _ => .wrongValue

namespace Decoder
variable {α β : Type}

def text : Decoder String
  | _, .text s => .ok s
  | _, .scalar s => .ok s.text
  | _, d => .error d.mismatch

def bool : Decoder Bool
  | _, .bool b => .ok b
  | _, .scalar s =>
    match if s.mayRead .bool then Yaml.readBool s.text else none with
    | some b => .ok b
    | none => .error .wrongValue
  | _, d => .error d.mismatch

def uint32 : Decoder UInt32
  | _, .integer n =>
    if 0 ≤ n ∧ n < UInt32.size then .ok (UInt32.ofNat n.toNat) else .error .wrongValue
  | _, .scalar s =>
    match if s.mayRead .integer then Yaml.readUnsigned UInt32.size s.text.toList else none with
    | some n => .ok (UInt32.ofNat n)
    | none => .error .wrongValue
  | _, d => .error d.mismatch

def int64 : Decoder Int64
  | _, .integer n =>
    if -0x8000000000000000 ≤ n ∧ n < 0x8000000000000000 then .ok (Int64.ofInt n)
    else .error .wrongValue
  | _, d => .error d.mismatch

def double : Decoder Decimal.Double
  | _, .float x => .ok x
  | _, .integer n => .ok (.ofInt n)
  | _, .scalar s =>
    match if s.mayRead .float then Yaml.readFloat s.text else none with
    | some x => .ok x
    | none => .error .wrongValue
  | _, d => .error d.mismatch

/-- A scalar is null when it is plain and spelt so; a null tag on any other spelling is wrong. -/
def isNullScalar (s : Yaml.Scalar) : Except DecodeError Bool :=
  if s.style != .plain then .ok false
  else match s.tag with
    | some .null => if Yaml.isNull s.text then .ok true else .error .wrongValue
    | some _ => .ok false
    | none => .ok (s.isVoid || Yaml.isNull s.text)

def orNull (dec : Decoder α) : Decoder (Option α)
  | _, .null => .ok none
  | o, .scalar s => do
    if ← isNullScalar s then return none else return some (← dec o (.scalar s))
  | o, d => some <$> dec o d

def refine (dec : Decoder α) (f : α → Except DecodeError β) : Decoder β :=
  fun o d => dec o d >>= f

def map (f : α → β) (dec : Decoder α) : Decoder β := fun o d => f <$> dec o d

def listOf (dec : Decoder α) : Decoder (List α) := fun o d =>
  match d.untagged with
  | .list items => items.mapM (dec o)
  | .scalar s => if s.isVoid then .ok [] else .error .wrongValue
  | d => .error d.mismatch

/-- Of entries with one key the last stays. -/
def dictOf (dec : Decoder α) : Decoder (Dict α) := fun o d =>
  match d.untagged with
  | .table entries => Dict.ofList <$> entries.mapM fun e => do
      let k ← text o e.1
      return (k, ← dec o e.2)
  | .scalar s => if s.isVoid then .ok ∅ else .error .wrongValue
  | d => .error d.mismatch

end Decoder

structure Field where
  name : String
  check : Origin → Datum → Except DecodeError Unit

/-- What is known of a record: the origin, whether the values came as a list in the order of the
fields, and the values by field name. -/
structure Record where
  origin : Origin
  positional : Bool
  values : List (String × Datum)

structure Fields (α : Type) where
  fields : List Field
  build : Record → Except DecodeError α

namespace Fields
variable {α β : Type}

protected def pure (a : α) : Fields α := ⟨[], fun _ => .ok a⟩

protected def map (f : α → β) (x : Fields α) : Fields β := ⟨x.fields, fun r => f <$> x.build r⟩

protected def seq (f : Fields (α → β)) (x : Fields α) : Fields β :=
  ⟨f.fields ++ x.fields, fun r => do
    let g ← f.build r
    return g (← x.build r)⟩

instance : Functor Fields := ⟨Fields.map, fun a => Fields.map fun _ => a⟩

instance : Applicative Fields where
  pure := Fields.pure
  seq f x := f.seq (x ())

/-- A field whose absence `absent` answers, given whether the values came as a list. -/
def field (name : String) (dec : Decoder α) (absent : Bool → Except DecodeError α) : Fields α where
  fields := [⟨name, fun o d => (dec o d).map fun _ => ()⟩]
  build r :=
    match r.values.lookup name with
    | some d => dec r.origin d
    | none => absent r.positional

def required (name : String) (dec : Decoder α) : Fields α :=
  field name dec fun positional => .error (if positional then .wrongValue else .missingField name)

def defaulted (name : String) (default : α) (dec : Decoder α) : Fields α :=
  field name dec fun _ => .ok default

/-- A field that need not be set, and that a list of values cannot leave out. -/
def optional (name : String) (dec : Decoder α) : Fields (Option α) :=
  field name dec.orNull fun positional => if positional then .error .wrongValue else .ok none

def omissible (name : String) (dec : Decoder α) : Fields (Option α) :=
  defaulted name none dec.orNull

def names (f : Fields α) : List String := f.fields.map (·.name)

/-- The name that the key of an entry stands for. Held keys may also count the fields. -/
def keyName (names : List String) : Origin → Datum → Except DecodeError (Option String)
  | .held, .integer n => if 0 ≤ n then .ok names[n.toNat]? else .error .wrongValue
  | o, d => do
    let k ← Decoder.text o d
    return if names.contains k then some k else none

/-- The entries that belong to fields, each judged where it stands. -/
def collect (fields : List Field) (o : Origin) :
    List (Datum × Datum) → List (String × Datum) → Except DecodeError (List (String × Datum))
  | [], found => .ok found
  | (key, value) :: rest, found => do
    match ← keyName (fields.map (·.name)) o key with
    | none => if value.isBroken then .error .unreadable else collect fields o rest found
    | some name =>
      if (found.lookup name).isSome then .error (.duplicateField name)
      else
        match fields.find? (·.name == name) with
        | some field => field.check o value
        | none => pure ()
        collect fields o rest (found ++ [(name, value)])

def ofEntries (f : Fields α) (o : Origin) (entries : List (Datum × Datum)) :
    Except DecodeError α := do
  f.build ⟨o, false, ← collect f.fields o entries []⟩

/-- Values in the order of the fields. Too many of them are a fault of a JSON text, and a wrong
value where data are held. -/
def ofItems (f : Fields α) (o : Origin) (items : List Datum) : Except DecodeError α := do
  let a ← f.build ⟨o, true, f.names.zip items⟩
  if f.fields.length < items.length then
    .error (if o = .json then .unreadable else .wrongValue)
  else return a

def decoder (f : Fields α) : Decoder α := fun o d =>
  match d.untagged with
  | .table entries => f.ofEntries o entries
  | .list items => if o = .yaml then .error .wrongValue else f.ofItems o items
  | .scalar s => if s.isVoid then f.ofEntries o [] else .error .wrongValue
  | d => .error d.mismatch

end Fields

structure Reading where
  origin : Origin
  datum : Datum
  complete : Bool

def Reading.decode {α : Type} (r : Reading) (dec : Decoder α) : Except DecodeError α := do
  let a ← dec r.origin r.datum
  if r.complete then return a else .error .unreadable

end ClusterReconciliation
