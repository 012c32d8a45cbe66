import ClusterReconciliation.Decode
import ClusterReconciliation.Text.Blank
import ClusterReconciliation.Yaml.Reader

/-! Named workspaces and the file that holds them, with the name of the current one. -/
namespace ClusterReconciliation

structure Context where
  name : String
  host : String
  token : Option String := none
  username : Option String := none
  password : Option String := none
  description : Option String := none
  deriving DecidableEq, Repr

namespace Context

def authMethod (c : Context) : String :=
  if c.token.isSome then "token" else if c.username.isSome then "basic" else "none"

def withToken (name host token : String) : Context :=
  { name := name, host := host, token := some token }

def withBasicAuth (c : Context) (username password : String) : Context :=
  { c with username := some username, password := some password }

def withDescription (c : Context) (d : String) : Context := { c with description := some d }

def decoder : Decoder Context :=
  (Context.mk <$> .required "name" .text <*> .required "host" .text <*>
    .omissible "token" .text <*> .omissible "username" .text <*> .omissible "password" .text <*>
    .omissible "description" .text : Fields Context).decoder

def toJson (c : Context) : Json :=
  .object ([("name", .text c.name), ("host", .text c.host)] ++
    Json.field? "token" (c.token.map .text) ++ Json.field? "username" (c.username.map .text) ++
    Json.field? "password" (c.password.map .text) ++
    Json.field? "description" (c.description.map .text))

end Context

inductive ContextError
  | notFound (name : String)
  | noCurrent
  | alreadyExists (name : String)
  deriving DecidableEq, Repr

def ContextError.message : ContextError → String
  | notFound name => "Context '" ++ name ++ "' not found"
  | noCurrent => "No current context set"
  | alreadyExists name => "Context '" ++ name ++ "' already exists"

/-- The current context is a name, and need not be one of the contexts. -/
structure Config where
  currentContext : Option String := none
  contexts : Dict Context := ∅
  deriving DecidableEq, Repr

namespace Config

instance : Inhabited Config := ⟨{}⟩

def decoder : Decoder Config :=
  (Config.mk <$> .optional "current-context" .text <*>
    .defaulted "contexts" ∅ (.dictOf Context.decoder) : Fields Config).decoder

def toJson (c : Config) : Json :=
  .object (Json.field? "current-context" (c.currentContext.map .text) ++
    [("contexts", .object (c.contexts.entries.map fun e => (e.1, e.2.toJson)))])

/-- A blank text is an empty configuration. -/
def parse (text : String) : Except DecodeError Config :=
  if Text.isBlankText text then .ok {} else (Yaml.read text).decode decoder

/-- A change made in place. What is done before it fails stays done. -/
abbrev Change (α : Type) := ExceptT ContextError (StateM Config) α

namespace Change

/-- Puts a context in without making it current. One of the same name gives way only to
`overwrite`. -/
def insert (x : Context) (overwrite : Bool) : Change Unit := do
  if !overwrite && (← get).contexts.contains x.name then throw (.alreadyExists x.name)
  else modify fun c => { c with contexts := c.contexts.insert x.name x }

def use (name : String) : Change Unit := do
  if (← get).contexts.contains name then modify fun c => { c with currentContext := some name }
  else throw (.notFound name)

/-- A context that is added while none is current becomes the current one. -/
def add (x : Context) (overwrite : Bool) : Change Unit := do
  insert x overwrite
  if (← get).currentContext.isNone then use x.name

/-- The context that is taken out is no longer the current one. -/
def delete (name : String) : Change Context := do
  match (← get).contexts.get? name with
  | none => throw (.notFound name)
  | some x =>
    modify fun c => { c with contexts := c.contexts.erase name }
    if (← get).currentContext = some name then modify fun c => { c with currentContext := none }
    return x

/-- How a change ends, and the configuration that it leaves. -/
def perform {α : Type} (m : Change α) (c : Config) : Except ContextError α × Config := m.run.run c

end Change

/-- The configuration after a change, if the change succeeds. -/
def after {α : Type} (c : Config) (m : Change α) : Except ContextError (α × Config) :=
  match m.perform c with
  | (.ok a, c) => .ok (a, c)
  | (.error e, _) => .error e

def insert (c : Config) (x : Context) (overwrite : Bool) : Except ContextError Config :=
  (·.2) <$> c.after (.insert x overwrite)

def use (c : Config) (name : String) : Except ContextError Config := (·.2) <$> c.after (.use name)

def add (c : Config) (x : Context) (overwrite : Bool) : Except ContextError Config :=
  (·.2) <$> c.after (.add x overwrite)

def delete (c : Config) (name : String) : Except ContextError (Context × Config) :=
  c.after (.delete name)

def current (c : Config) : Except ContextError (Option Context) :=
  match c.currentContext with
  | none => .ok none
  | some name =>
    match c.contexts.get? name with
    | some x => .ok (some x)
    | none => .error (.notFound name)

end Config

structure ContextEntry where
  name : String
  host : String
  auth : String
  isCurrent : Bool
  deriving DecidableEq, Repr

def Context.entry (c : Context) (isCurrent : Bool) : ContextEntry :=
  ⟨c.name, c.host, c.authMethod, isCurrent⟩

namespace Config

/-- All contexts; those that bear the current name are marked. -/
def entries (c : Config) : List ContextEntry :=
  c.contexts.values.map fun x => x.entry (c.currentContext = some x.name)

def currentEntry (c : Config) : Except ContextError ContextEntry := do
  match ← c.current with
  | some x => return x.entry true
  | none => throw .noCurrent

end Config
end ClusterReconciliation
