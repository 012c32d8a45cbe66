/-! Command lines. A grammar says which options, operands and subcommands there are; arguments are
matched against it from the left, and what is missing or does not go together is noticed in the
end. -/
namespace ClusterReconciliation.Arguments

/-- Why arguments do not make a command. Asking for help or for the version
ends the matching too. -/
inductive Fault
  | help
  | version
  | helpForNothing
  | missingCommand
  | unknownCommand
  | unknownArgument
  | missingArgument
  | invalidValue
  /-- A value cannot be read, or is out of range. -/
  | badValue
  | unwantedValue
  | conflict
  deriving DecidableEq, Repr

inductive Form
  | switch
  | counter
  | help
  | version
  | text
  | path
  | choice (names : List String)
  /-- A number; `signed` ones may be written with a minus even where it must be zero. -/
  | number (least greatest : Nat) (signed : Bool)
  deriving DecidableEq, Repr

inductive Value
  | set
  | count (n : Nat)
  | text (s : String)
  | number (n : Nat)
  deriving DecidableEq, Repr

structure Parameter where
  name : String
  short : Option Char := none
  form : Form := .text
  /-- The variable of the environment that stands in for the option. -/
  standIn : Option String := none
  required : Bool := false
  excludes : List String := []
  needs : List String := []
  deriving DecidableEq, Repr

structure Grammar where
  name : String
  options : List Parameter
  operands : List Parameter := []
  commands : List Grammar := []

inductive Source
  | environment
  | arguments
  deriving DecidableEq, Repr

structure Found where
  source : Source
  value : Value
  deriving DecidableEq, Repr

structure Level where
  command : String
  found : List (String × Found)
  deriving DecidableEq, Repr

def readDigits : List Char → Option Nat
  | [] => none
  | cs =>
    if cs.all Char.isDigit then some (cs.foldl (fun n c => 10 * n + (c.toNat - '0'.toNat)) 0)
    else none

def readNumber (signed : Bool) : List Char → Option Int
  | '+' :: cs => (readDigits cs).map Int.ofNat
  | '-' :: cs => if signed then (readDigits cs).map fun n => -(n : Int) else none
  | cs => (readDigits cs).map Int.ofNat

namespace Form

def takesValue : Form → Bool
  | switch => false
  | counter => false
  | help => false
  | version => false
  | _ => true

def judge : Form → String → Except Fault Value
  | path, s => if s.isEmpty then .error .invalidValue else .ok (.text s)
  | choice names, s => if names.contains s then .ok (.text s) else .error .invalidValue
  | number least greatest signed, s =>
    match readNumber signed s.toList with
    | some n =>
      if least ≤ n ∧ n ≤ greatest then .ok (.number n.toNat) else .error .badValue
    | none => .error .badValue
  | _, s => .ok (.text s)

end Form

structure State where
  found : List (String × Found) := []
  /-- The parameter that was met last, whose value is judged when the next one is met. -/
  pending : Option (Parameter × Option String) := none
  awaiting : Bool := false
  operands : Nat := 0
  /-- Only operands follow. -/
  trailing : Bool := false

namespace State

/-- No parameter but a counter may be given twice. -/
def record (s : State) (p : Parameter) (v : Value) : Except Fault State :=
  if (s.found.lookup p.name).isSome then .error .conflict
  else .ok { s with found := s.found ++ [(p.name, ⟨.arguments, v⟩)] }

def countUp (s : State) (p : Parameter) : State :=
  let n := match s.found.lookup p.name with
    | some ⟨_, .count n⟩ => n
    | _ => 0
  { s with found := s.found.filter (·.1 != p.name) ++
      [(p.name, ⟨.arguments, .count (min (n + 1) 255)⟩)] }

def store (s : State) (p : Parameter) : Option String → Except Fault State
  | none => .error .invalidValue
  | some v =>
    if (s.found.lookup p.name).isSome then .error .conflict
    else do s.record p (← p.form.judge v)

def settle (s : State) : Except Fault State :=
  match s.pending with
  | none => .ok s
  | some (p, v) => { s with pending := none, awaiting := false }.store p v

def mark (s : State) (p : Parameter) : Except Fault State := do
  let s ← s.settle
  match p.form with
  | .help => throw .help
  | .version => throw .version
  | .counter => return s.countUp p
  | _ => s.record p .set

def attach (s : State) (p : Parameter) (v : String) : Except Fault State := do
  (← s.settle).store p (some v)

def await (s : State) (p : Parameter) : Except Fault State := do
  return { (← s.settle) with pending := some (p, none), awaiting := true }

end State

namespace Grammar

def command? (g : Grammar) (name : String) : Option Grammar := g.commands.find? (·.name == name)

def isCommand (g : Grammar) (name : String) : Bool :=
  (g.command? name).isSome || (!g.commands.isEmpty && name == "help")

def long (g : Grammar) (s : State) (cs : List Char) : Except Fault State :=
  let name := String.ofList (cs.takeWhile (· != '='))
  match g.options.find? (·.name == name), cs.dropWhile (· != '=') with
  | none, _ => .error .unknownArgument
  | some p, [] => if p.form.takesValue then s.await p else s.mark p
  | some p, _ :: v =>
    if p.form.takesValue then s.attach p (String.ofList v) else .error .unwantedValue

/-- Short options in one argument; the first that takes a value takes all of the rest. -/
def shorts (g : Grammar) : List Char → State → Except Fault State
  | [], s => .ok s
  | c :: rest, s =>
    match g.options.find? (·.short == some c) with
    | none => .error .unknownArgument
    | some p =>
      if p.form.takesValue then
        match rest with
        | [] => s.await p
        | '=' :: v => s.attach p (String.ofList v)
        | v => s.attach p (String.ofList v)
      else do g.shorts rest (← s.mark p)

def operand (g : Grammar) (s : State) (a : String) : Except Fault State :=
  match g.operands[s.operands]? with
  | some p => do
    return { (← s.settle) with pending := some (p, some a), operands := s.operands + 1 }
  | none =>
    .error (if g.commands.isEmpty || (s.trailing && g.isCommand a) then .unknownArgument
      else .unknownCommand)

def take (g : Grammar) (s : State) (a : String) : Except Fault State :=
  if s.trailing then g.operand s a
  else
    match a.toList with
    | ['-', '-'] => .ok { s with trailing := true }
    | '-' :: '-' :: cs => g.long s cs
    | '-' :: c :: cs => g.shorts (c :: cs) s
    | _ =>
      match s.awaiting, s.pending with
      | true, some (p, _) => .ok { s with pending := some (p, some a), awaiting := false }
      | _, _ => g.operand s a

/-- What the variables of the environment add. -/
def fill (environment : String → Option String) (found : List (String × Found)) (p : Parameter) :
    Except Fault (List (String × Found)) :=
  match found.lookup p.name, p.standIn.bind environment with
  | none, some v => do return found ++ [(p.name, ⟨.environment, ← p.form.judge v⟩)]
  | _, _ => .ok found

def excludesGiven (found : List (String × Found)) (p : Parameter) : Bool :=
  (found.lookup p.name).isSome && p.excludes.any fun n => (found.lookup n).isSome

def lacks (found : List (String × Found)) (p : Parameter) : Bool :=
  match found.lookup p.name with
  | none => p.required
  | some _ => p.needs.any fun n => (found.lookup n).isNone

def validate (g : Grammar) (found : List (String × Found)) (descends : Bool) :
    Except Fault Unit :=
  let parameters := g.options ++ g.operands
  if !g.commands.isEmpty && !descends then
    .error (if found.isEmpty then .helpForNothing else .missingCommand)
  else if parameters.any (excludesGiven found) then .error .conflict
  else if parameters.any (lacks found) then .error .missingArgument
  else .ok ()

def finish (g : Grammar) (environment : String → Option String) (s : State)
    (inner : List Level) : Except Fault (List Level) := do
  let found ← g.options.foldlM (fill environment) (← s.settle).found
  g.validate found !inner.isEmpty
  return ⟨g.name, found⟩ :: inner

def helpOn : Grammar → List String → Fault
  | _, [] => .help
  | g, name :: rest =>
    match g.command? name with
    | some c => c.helpOn rest
    | none => if rest.isEmpty && g.isCommand name then .help else .unknownCommand

/-- The subcommand that an argument enters, unless it is a value or an operand. -/
def entered (g : Grammar) (s : State) (a : String) : Option Grammar :=
  if s.trailing || s.awaiting then none else g.command? a

/-- Levels from the outermost command inwards. What follows a subcommand belongs to it, and its
faults come first. -/
def parse (environment : String → Option String) : Grammar → State → List String →
    Except Fault (List Level)
  | g, s, [] => g.finish environment s []
  | g, s, a :: rest =>
    match g.entered s a with
    | some c => do
      let inner ← parse environment c {} rest
      g.finish environment s inner
    | none =>
      if !s.trailing && !s.awaiting && g.isCommand a then .error (g.helpOn rest)
      else do parse environment g (← g.take s a) rest

end Grammar

/-- A parameter that several levels know: the innermost of them decides, but the environment gives
way to arguments. -/
def innermost (levels : List Level) (name : String) : Option Value :=
  (levels.foldl (fun best l =>
    match best, l.found.lookup name with
    | some b, some f => if b.source = .arguments ∧ f.source = .environment then some b else some f
    | some b, none => some b
    | none, f => f) (none : Option Found)).map (·.value)

end ClusterReconciliation.Arguments
