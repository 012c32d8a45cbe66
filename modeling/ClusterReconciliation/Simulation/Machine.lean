import ClusterReconciliation.Program
import ClusterReconciliation.Simulation.Server

/-! A machine to run the program on: variables, files and a server. The home directory is the
working directory too. -/
namespace ClusterReconciliation

structure Disk where
  home : List String
  files : Dict String

namespace Disk

/-- One step along a path. Places are the parts of absolute paths, the last part first. -/
def step (place : List String) (p : String) : List String :=
  if p = "" ∨ p = "." then place
  else if p = ".." then place.drop 1
  else p :: place

def absolute (place : List String) : String := String.join (place.reverse.map ("/" ++ ·))

def resolve (start : List String) (parts : List String) : List String := parts.foldl step start

/-- A place to start from, and the steps of a path from there. -/
def route (d : Disk) (path : String) : List String × List String :=
  let parts := path.splitOn "/"
  (if parts.head? = some "" then [] else d.home.reverse, parts)

def isFile (d : Disk) (place : List String) : Bool := d.files.contains (absolute place)

def isDirectory (d : Disk) (place : List String) : Bool :=
  let inside := (absolute place ++ "/").toList
  inside.isPrefixOf (absolute d.home.reverse ++ "/").toList ||
    d.files.keys.any fun k => inside.isPrefixOf k.toList

/-- Takes the steps of a path, each of them from a directory. -/
def follow (d : Disk) (place : List String) : List String → Except FileFault (List String)
  | [] => .ok place
  | p :: rest =>
    if d.isDirectory place then d.follow (step place p) rest
    else .error (if d.isFile place then .notDirectory else .missing)

/-- Whether some directory of a place would have to be a file. -/
def isInsideFile (d : Disk) : List String → Bool
  | [] => false
  | _ :: above => d.isFile above || d.isInsideFile above

def directoryFault : FileFault := .unreadable "Is a directory (os error 21)"

/-- There is nothing at the empty path. -/
def read (d : Disk) : Files := fun path =>
  if path.isEmpty then .error .missing
  else do
    let (start, parts) := d.route path
    let place ← d.follow start parts
    match d.files.get? (absolute place) with
    | some text => .ok text
    | none => .error (if d.isDirectory place then directoryFault else .missing)

/-- The disk with a file written, and directories made for it, or why that fails. -/
def write (d : Disk) (path text : String) : Except FileFault Disk :=
  let (start, parts) := d.route path
  let place := resolve start parts
  let above := place.drop 1
  if path.isEmpty then .error .missing
  else if d.isFile above then .error (.unreadable "File exists (os error 17)")
  else if d.isInsideFile above then .error .notDirectory
  else if parts.getLast? = some "" ∨ d.isDirectory place then .error directoryFault
  else .ok { d with files := d.files.insert (absolute place) text }

end Disk

structure Machine where
  environment : Dict String
  disk : Disk
  server : Scene Server

structure Exit where
  code : Nat
  output : String
  deriving DecidableEq, Repr

namespace Machine

def conclude (m : Machine) (o : Outcome (Scene Server)) : Exit × Machine :=
  let code := if o.success then 0 else 1
  let m := { m with server := o.world }
  match o.saved with
  | none => (⟨code, o.output⟩, m)
  | some (path, text) =>
    match m.disk.write path text with
    | .ok disk => (⟨code, o.output⟩, { m with disk := disk })
    | .error f => (⟨1, o.output ++ (ProgramError.unsaved path f.message).logLine⟩, m)

def run (fuel : Nat) (m : Machine) (arguments : List String) : Exit × Machine :=
  let u : Surroundings (Scene Server) := ⟨m.environment, m.disk.read, Server.connection, fuel⟩
  match u.run arguments m.server with
  | .error r => (⟨r.exit, r.output⟩, m)
  | .ok o => m.conclude o

def runAll (fuel : Nat) : Machine → List (List String) → List Exit × Machine
  | m, [] => ([], m)
  | m, arguments :: rest =>
    let (exit, m) := m.run fuel arguments
    let (exits, m) := runAll fuel m rest
    (exit :: exits, m)

end Machine
end ClusterReconciliation
