import ClusterReconciliation.Program
import ClusterReconciliation.Simulation.Scene

/-! The program on the machine that it runs on. The files that a run may need are read before it,
and a file to save is written behind it. No network is within reach, so every request fails. -/
namespace ClusterReconciliation.Main

def silence : Http.Connection (Scene Unit) :=
  ⟨Scene.clock, fun _ s => (.error "error sending request", s)⟩

def fuel : Nat := 1000000000

/-- The fault with a number, which some calls negate. -/
def numbered (code : UInt32) (details : String) : FileFault :=
  let code := min code (0 - code)
  if code = 20 then .notDirectory
  else .unreadable (details.capitalize ++ " (os error " ++ toString code ++ ")")

def faultOf : IO.Error → FileFault
  | .noFileOrDirectory .. => .missing
  | .permissionDenied _ code details => numbered code details
  | .inappropriateType _ code details => numbered code details
  | .alreadyExists _ code details => numbered code details
  | e => .unreadable (toString e)

def readFile (path : String) : IO (Except FileFault String) := do
  match ← (IO.FS.readBinFile path).toBaseIO with
  | .error e => return .error (faultOf e)
  | .ok bytes =>
    return (String.fromUTF8? bytes).elim
      (.error (.unreadable "stream did not contain valid UTF-8")) .ok

abbrev Readings := List (String × Except FileFault String)

def readFiles (paths : List String) : IO Readings :=
  paths.mapM fun path => return (path, ← readFile path)

def filesOf (l : Readings) : Files := fun path => (l.lookup path).getD (.error .missing)

/-- The words of a text, among them the names of all variables that it mentions. -/
def words (text : String) : List String :=
  (text.map fun c => if c.isAlphanum || c == '_' then c else ' ').splitOn " "

def environmentOf (names : List String) : IO (Dict String) := do
  let set ← names.filterMapM fun name => return (← IO.getEnv name).map (name, ·)
  return Dict.ofList set

def programVariables : List String :=
  ["HOME", configVariable, "DATABRICKS_HOST", "DATABRICKS_TOKEN", "DATABRICKS_USERNAME",
    "DATABRICKS_PASSWORD"]

def surroundings (i : Invocation) : IO (Surroundings (Scene Unit)) := do
  let listed ← readFiles i.variableFile.toList
  let mentioned := listed.flatMap fun (_, text) => words (text.toOption.getD "")
  let environment ← environmentOf (programVariables ++ mentioned.filter (!·.isEmpty))
  let u : Surroundings (Scene Unit) := ⟨environment, filesOf listed, silence, fuel⟩
  match u.loadVariables i with
  | .error _ => return u
  | .ok environment =>
    let read ← readFiles (Surroundings.configPath i environment :: i.command.file?.toList)
    return { u with files := filesOf (listed ++ read) }

def save (path text : String) : IO Unit := do
  if let some directory := parentPath path then IO.FS.createDirAll directory
  IO.FS.writeFile path text

def finish (o : Outcome (Scene Unit)) : IO UInt32 := do
  IO.print o.output
  let code := if o.success then 0 else 1
  match o.saved with
  | none => return code
  | some (path, text) =>
    match ← (save path text).toBaseIO with
    | .ok _ => return code
    | .error e =>
      IO.print (ProgramError.unsaved path (faultOf e).message).logLine
      return 1

end ClusterReconciliation.Main

open ClusterReconciliation in
def main (arguments : List String) : IO UInt32 := do
  let environment ← Main.environmentOf Main.programVariables
  match CommandLine.parse environment.get? arguments with
  | .error f =>
    let r := Refusal.ofFault f
    IO.print r.output
    return UInt32.ofNat r.exit
  | .ok i =>
    let u ← Main.surroundings i
    Main.finish (u.invoke i { state := () })
