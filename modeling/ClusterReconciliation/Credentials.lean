import ClusterReconciliation.Context
import ClusterReconciliation.Text.Printable

/-! Whom to authenticate as, and where. Settings come in layers, from flags, from the environment
and from a context, and the first layer that says something counts, field by field. -/
namespace ClusterReconciliation

inductive AuthError
  | notConfigured
  | missingHost (method : String)
  | conflictingMethods
  | incompleteBasicAuth
  deriving DecidableEq, Repr

def AuthError.message : AuthError → String
  | notConfigured => "Authentication is not configured for provider"
  | missingHost method => "Host is empty, but is required by " ++ method
  | conflictingMethods => "More than one authorization method configured: password and token"
  | incompleteBasicAuth => "basic_auth requires both username and password"

inductive Credentials
  | token (token : String)
  | basic (username password : String)
  deriving DecidableEq, Repr

namespace Credentials

def method : Credentials → String
  | token _ => "token"
  | basic .. => "basic_auth"

def describe : Credentials → String
  | token _ => "Token(***)"
  | basic username _ =>
    "Basic \x7b username: " ++ Text.quoted username ++ ", password: *** \x7d"

end Credentials

structure ResolvedAuth where
  host : String
  credentials : Credentials
  deriving DecidableEq, Repr

structure AuthSettings where
  host : Option String := none
  token : Option String := none
  username : Option String := none
  password : Option String := none
  deriving DecidableEq, Repr

/-- A blank value says nothing. -/
def unlessBlank (v : Option String) : Option String := v.filter (!Text.isBlankText ·)

/-- A host without a scheme is reached securely. -/
def normalizeHost (host : String) : String :=
  let host := Text.trim host
  if Text.contains "://".toList host.toList then host else "https://" ++ host

namespace AuthSettings

def ofVariables (lookup : String → Option String) : AuthSettings where
  host := unlessBlank (lookup "DATABRICKS_HOST")
  token := unlessBlank (lookup "DATABRICKS_TOKEN")
  username := unlessBlank (lookup "DATABRICKS_USERNAME")
  password := unlessBlank (lookup "DATABRICKS_PASSWORD")

def ofContext (c : Context) : AuthSettings where
  host := unlessBlank (some c.host)
  token := unlessBlank c.token
  username := unlessBlank c.username
  password := unlessBlank c.password

def or (s fallback : AuthSettings) : AuthSettings where
  host := (unlessBlank s.host).or fallback.host
  token := (unlessBlank s.token).or fallback.token
  username := (unlessBlank s.username).or fallback.username
  password := (unlessBlank s.password).or fallback.password

/-- Exactly one way to authenticate must be given in full. -/
def credentials (s : AuthSettings) : Except AuthError Credentials :=
  match s.token, s.username, s.password with
  | some t, none, none => .ok (.token t)
  | some _, _, _ => .error .conflictingMethods
  | none, some u, some p => .ok (.basic u p)
  | none, none, none => .error .notConfigured
  | none, _, _ => .error .incompleteBasicAuth

/-- The host is looked at last. -/
def resolve (s : AuthSettings) : Except AuthError ResolvedAuth := do
  let credentials ← s.credentials
  match s.host with
  | some host => return ⟨normalizeHost host, credentials⟩
  | none => throw (.missingHost credentials.method)

end AuthSettings

def resolveAuth (explicit environment : AuthSettings) (context : Option Context) :
    Except AuthError ResolvedAuth :=
  ((explicit.or environment).or ((context.map AuthSettings.ofContext).getD {})).resolve

end ClusterReconciliation
