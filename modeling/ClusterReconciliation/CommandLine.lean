import ClusterReconciliation.Arguments
import ClusterReconciliation.Context
import ClusterReconciliation.Credentials
import ClusterReconciliation.Display.Output
import ClusterReconciliation.Reconcile.Options

/-! The commands of the program, and how they are given as arguments. -/
namespace ClusterReconciliation

inductive Command
  | apply (file : String) (cluster : Option String) (options : Options)
  | delete (cluster : String) (options : Options)
  | get (cluster : String) (format : OutputFormat)
  | validate (file : String)
  | listContexts
  | currentContext
  | useContext (name : String)
  | addContext (context : Context) (overwrite : Bool)
  | deleteContext (name : String)
  deriving DecidableEq, Repr

def Command.file? : Command → Option String
  | apply file .. => some file
  | validate file => some file
  | _ => none

structure Invocation where
  verbosity : Nat
  config : Option String
  variableFile : Option String
  host : Option String
  token : Option String
  command : Command
  deriving DecidableEq, Repr

def Invocation.settings (i : Invocation) : AuthSettings := { host := i.host, token := i.token }

def programName : String := "clustersync"
def programVersion : String := "0.1.0"

def configVariable : String := "CLUSTERSYNC_CONFIG"

namespace CommandLine
open Arguments

def helpOption : Parameter := { name := "help", short := some 'h', form := .help }

def globalOptions : List Parameter :=
  [{ name := "verbose", short := some 'v', form := .counter },
    { name := "config", standIn := some configVariable },
    { name := "env-file", form := .path }, { name := "host" }, { name := "token" }]

def file : Parameter := { name := "file", short := some 'f', form := .path, required := true }

def seconds (name : String) : Parameter :=
  { name := name, form := .number 1 (UInt64.size - 1) false }

def patience : List Parameter :=
  [{ name := "attempt-budget", form := .number 0 (UInt32.size - 1) true }, seconds "poll-timeout",
    seconds "poll-interval"]

def cluster : Parameter := { name := "cluster-id", required := true }

def contextName : Parameter := { name := "name", required := true }

def command (name : String) (options operands : List Parameter) : Grammar :=
  { name := name, options := globalOptions ++ options ++ [helpOption], operands := operands }

def addContext : Grammar :=
  let own : List Parameter :=
    [{ name := "host", required := true },
      { name := "token", excludes := ["username", "password"] },
      { name := "username", needs := ["password"] },
      { name := "password", needs := ["username"] }, { name := "description" },
      { name := "overwrite", form := .switch }]
  let inherited := globalOptions.filter fun p => !own.any (·.name == p.name)
  { name := "add", options := inherited ++ own ++ [helpOption], operands := [contextName] }

def contexts : Grammar :=
  { command "context" [] [] with
    commands := [command "list" [] [], command "current" [] [], command "use" [] [contextName],
      addContext, command "delete" [] [contextName]] }

def formatOption : Parameter :=
  { name := "output", short := some 'o', form := .choice (OutputFormat.names.map (·.1)) }

def grammar : Grammar :=
  let program := command programName [] []
  { program with
    options := program.options ++ [{ name := "version", short := some 'V', form := .version }]
    commands := [command "apply" (file :: { name := "cluster-id" } :: patience) [],
      command "delete" patience [cluster], command "get" [formatOption] [cluster],
      command "validate" [file] [], contexts] }

def textOf (levels : List Level) (name : String) : Option String :=
  match innermost levels name with
  | some (.text s) => some s
  | _ => none

def numberOf (levels : List Level) (name : String) : Option Nat :=
  match innermost levels name with
  | some (.number n) => some n
  | some (.count n) => some n
  | _ => none

def optionsOf (levels : List Level) : Options :=
  let o : Options := {}
  let budget := (numberOf levels "attempt-budget").getD o.attemptBudget
  let timeout := (numberOf levels "poll-timeout").map Duration.ofSeconds
  let interval := (numberOf levels "poll-interval").map Duration.ofSeconds
  ((o.withAttemptBudget budget).withPollTimeout (timeout.getD o.poll.timeout)).withPollInterval
    (interval.getD o.poll.interval)

def formatOf (levels : List Level) : OutputFormat :=
  ((textOf levels "output").bind fun s => OutputFormat.names.lookup s).getD .table

def contextOf (levels : List Level) (name : String) : Context where
  name := name
  host := (textOf levels "host").getD ""
  token := textOf levels "token"
  username := textOf levels "username"
  password := textOf levels "password"
  description := textOf levels "description"

def commandOf (levels : List Level) : Option Command :=
  let text := textOf levels
  match levels.drop 1 |>.map (·.command) with
  | ["apply"] => return .apply (← text "file") (text "cluster-id") (optionsOf levels)
  | ["delete"] => return .delete (← text "cluster-id") (optionsOf levels)
  | ["get"] => return .get (← text "cluster-id") (formatOf levels)
  | ["validate"] => return .validate (← text "file")
  | ["context", "list"] => some .listContexts
  | ["context", "current"] => some .currentContext
  | ["context", "use"] => return .useContext (← text "name")
  | ["context", "add"] =>
    return .addContext (contextOf levels (← text "name")) (innermost levels "overwrite").isSome
  | ["context", "delete"] => return .deleteContext (← text "name")
  | _ => none

/-- The invocation that arguments make, the name of the program not among them. -/
def parse (environment : String → Option String) (arguments : List String) :
    Except Fault Invocation := do
  let levels ← grammar.parse environment {} arguments
  match commandOf levels with
  | none => throw .missingCommand
  | some command =>
    return ⟨(numberOf levels "verbose").getD 0, textOf levels "config", textOf levels "env-file",
      textOf levels "host", textOf levels "token", command⟩

end CommandLine
end ClusterReconciliation
