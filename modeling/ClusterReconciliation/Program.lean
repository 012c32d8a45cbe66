import ClusterReconciliation.CommandLine
import ClusterReconciliation.Http.Client
import ClusterReconciliation.Manifest
import ClusterReconciliation.Paths
import ClusterReconciliation.Variables

/-! One run of the program: from its arguments, the environment, files and a connection to what it
prints, how it exits and what it saves. -/
namespace ClusterReconciliation

inductive FileFault
  | missing
  /-- Something on the way to the file is a file itself. -/
  | notDirectory
  | unreadable (reason : String)
  deriving DecidableEq, Repr

def FileFault.message : FileFault → String
  | missing => "No such file or directory (os error 2)"
  | notDirectory => "Not a directory (os error 20)"
  | unreadable reason => reason

abbrev Files := String → Except FileFault String

def ManifestError.message : ManifestError → String
  | file reason => "Failed to read file: " ++ reason
  | parse format e => "Failed to parse " ++ format.name ++ " manifest: " ++ e.message
  | invalid e => "Invalid manifest: " ++ (ReconcileError.validation e).message

def ManifestError.causes (e : ManifestError) : List String :=
  e.message :: match e with
    | file reason => [reason]
    | parse .. => []
    | invalid v => [(ReconcileError.validation v).message, v.message]

def Files.manifest (files : Files) (path : String) : Except ManifestError Desired :=
  match files path with
  | .error f => .error (.file f.message)
  | .ok text => Desired.parse text (.detect (some path) text)

def ManifestCheck.ofResult : Except ManifestError Desired → ManifestCheck
  | .ok d => .ofDesired d
  | .error e => { valid := false, error := some e.message }

inductive CommandError
  | context (error : ContextError)
  | manifest (error : ManifestError)
  | failure (failure : Failure)
  | missingCluster (id : String)
  deriving DecidableEq, Repr

namespace CommandError

def message : CommandError → String
  | context e => "Context error: " ++ e.message
  | manifest e => "Manifest error: " ++ e.message
  | failure f => f.message
  | missingCluster id => "Cluster " ++ id ++ " does not exist"

def causes (e : CommandError) : List String :=
  e.message :: match e with
    | context e => [e.message]
    | manifest e => e.causes
    | failure f => [f.message]
    | missingCluster _ => []

end CommandError

inductive ConfigFault
  | file (reason : String)
  | parse (error : DecodeError)
  deriving DecidableEq, Repr

def ConfigFault.causes : ConfigFault → List String
  | file reason => ["IO error: " ++ reason, reason]
  | parse e => ["Failed to parse config: " ++ e.message]

/-- A file that is not there is an empty configuration. -/
def Files.config (files : Files) (path : String) : Except ConfigFault Config :=
  match files path with
  | .error .missing | .error .notDirectory => .ok {}
  | .error (.unreadable reason) => .error (.file reason)
  | .ok text => (Config.parse text).mapError .parse

inductive ProgramError
  | config (path : String) (fault : ConfigFault)
  | variableFile (path reason : String)
  | context (error : ContextError)
  | auth (error : AuthError)
  | command (error : CommandError)
  | unsaved (path reason : String)
  | unfinished
  deriving DecidableEq, Repr

namespace ProgramError

/-- The error and its causes; a cause may say again what is said before. -/
def causes : ProgramError → List String
  | config path fault => ("Failed to load config " ++ path) :: fault.causes
  | variableFile path reason => ["Failed to load env file " ++ path, reason]
  | context e => [e.message]
  | auth e => [e.message]
  | command e => e.causes
  | unsaved path reason => ("Failed to save config " ++ path) :: (ConfigFault.file reason).causes
  | unfinished => ["unfinished"]

def logLine (e : ProgramError) : String :=
  "ERROR " ++ programName ++ ": " ++ ": ".intercalate e.causes ++ "\n"

end ProgramError

structure Outcome (σ : Type) where
  success : Bool
  output : String
  /-- A file to write in the end. -/
  saved : Option (String × String) := none
  world : σ

structure Refusal where
  output : String
  exit : Nat
  deriving DecidableEq, Repr

/-- Help and the version are no faults. -/
def Refusal.ofFault : Arguments.Fault → Refusal
  | .help => ⟨"", 0⟩
  | .version => ⟨programName ++ " " ++ programVersion ++ "\n", 0⟩
  | _ => ⟨"", 2⟩

structure Surroundings (σ : Type) where
  environment : Dict String
  files : Files
  connection : Http.Connection σ
  fuel : Nat

namespace Surroundings
variable {σ : Type} (u : Surroundings σ)

def home (environment : Dict String) : Option String :=
  (environment.get? "HOME").filter (!·.isEmpty)

def loadVariables (i : Invocation) : Except ProgramError (Dict String) :=
  match i.variableFile with
  | none => .ok u.environment
  | some path =>
    match u.files path with
    | .error f => .error (.variableFile path f.message)
    | .ok text => (Variables.load u.environment text).mapError fun b => .variableFile path b.message

def configPath (i : Invocation) (environment : Dict String) : String :=
  match i.config with
  | some path => expandHome (home environment) path
  | none => defaultConfigPath (home environment)

def connect (i : Invocation) (environment : Dict String) (config : Config) (options : Options) :
    Except ProgramError (Reconciler σ) := do
  let context ← config.current.mapError .context
  let auth ← (resolveAuth i.settings (.ofVariables environment.get?) context).mapError .auth
  return ⟨u.connection.world auth, options, u.fuel⟩

def report (r : Reconciliation σ) : Except ProgramError (Outcome σ) :=
  .ok ⟨r.isSuccess, r.display, none, r.session.world⟩

def said (output : String) (world : σ) : Except ProgramError (Outcome σ) :=
  .ok ⟨true, output, none, world⟩

/-- A changed configuration is saved behind the message that it was changed. -/
def changed (path : String) (config : Except ContextError Config) (output : String) (world : σ) :
    Except ProgramError (Outcome σ) := do
  let config ← config.mapError fun e => .command (.context e)
  return ⟨true, output, some (path, Yaml.render config.toJson), world⟩

def quoteName (name : String) : String := "\"" ++ name ++ "\""

/-- The error is logged, and what was called until then has been called. -/
def failed (e : ProgramError) (world : σ) : Outcome σ := ⟨false, e.logLine, none, world⟩

def get (r : Reconciler σ) (id : String) (format : OutputFormat) (world : σ) : Outcome σ :=
  match (r.read id).run.run { world := world } with
  | (.ok (some o), s) => ⟨true, o.render format, none, s.world⟩
  | (.ok none, s) => failed (.command (.missingCluster id)) s.world
  | (.error (.failed f), s) => failed (.command (.failure f)) s.world
  | (.error .unfinished, s) => failed .unfinished s.world

def execute (i : Invocation) (environment : Dict String) (config : Config) (path : String)
    (world : σ) : Except ProgramError (Outcome σ) :=
  match i.command with
  | .apply file cluster options => do
    let r ← u.connect i environment config options
    let desired ← (u.files.manifest file).mapError fun e => .command (.manifest e)
    report (r.reconcile desired cluster world)
  | .delete cluster options => do
    let r ← u.connect i environment config options
    report (r.delete cluster world)
  | .get cluster format => do
    let r ← u.connect i environment config {}
    return get r cluster format world
  | .validate file =>
    let check := ManifestCheck.ofResult (u.files.manifest file)
    .ok ⟨check.valid, check.display file, none, world⟩
  | .listContexts => said (contextTable config.entries) world
  | .currentContext => do
    let e ← config.currentEntry.mapError fun e => .command (.context e)
    said (currentContextText e) world
  | .useContext name =>
    changed path (config.use name) ("Switched to context " ++ quoteName name ++ "\n") world
  | .addContext context overwrite =>
    changed path (config.add context overwrite)
      ("Context " ++ quoteName context.name ++ " added\n") world
  | .deleteContext name =>
    changed path ((config.delete name).map (·.2)) ("Context " ++ quoteName name ++ " deleted\n")
      world

def invoke (i : Invocation) (world : σ) : Outcome σ :=
  let outcome : Except ProgramError (Outcome σ) := do
    let environment ← u.loadVariables i
    let path := configPath i environment
    let config ← (u.files.config path).mapError (.config path)
    u.execute i environment config path world
  match outcome with
  | .ok outcome => outcome
  | .error e => failed e world

def run (arguments : List String) (world : σ) : Except Refusal (Outcome σ) :=
  match CommandLine.parse u.environment.get? arguments with
  | .error f => .error (.ofFault f)
  | .ok i => .ok (u.invoke i world)

end Surroundings
end ClusterReconciliation
