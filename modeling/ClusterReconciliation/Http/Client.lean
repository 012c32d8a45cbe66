import ClusterReconciliation.Http.Response
import ClusterReconciliation.Http.Url
import ClusterReconciliation.Json.Writer

/-! A control plane that is reached by requests over a connection. -/
namespace ClusterReconciliation.Http

def userAgent : String := "clustersync/0.1.0"

structure Sent where
  method : Method
  url : Url
  authorization : String
  body : Option Json

def Sent.contentType (s : Sent) : Option String := s.body.map fun _ => "application/json"

def isHeaderChar (c : Char) : Bool := c == '\t' || (0x20 ≤ c.toNat && c.toNat != 0x7F)

def authorization : Credentials → Option String
  | .token t => if t.toList.all isHeaderChar then some ("Bearer " ++ t) else none
  | .basic username password =>
    some ("Basic " ++ String.ofList (base64 (octets (username ++ ":" ++ password))))

def prepare (auth : ResolvedAuth) (r : Request) : Option Sent := do
  let url ← Url.parse (baseUrl auth.host ++ "/api/2.0/" ++ r.path)
  let header ← authorization auth.credentials
  return ⟨r.method, url.withQuery r.query, header, r.body⟩

/-- A connection that takes requests and gives responses, or says why it fails. -/
structure Connection (σ : Type) extends Clock σ where
  exchange : Sent → σ → Except String Response × σ

def Connection.world {σ : Type} (conn : Connection σ) (auth : ResolvedAuth) : World σ where
  toClock := conn.toClock
  answer c s :=
    match prepare auth (requestOf c) with
    | none => (.error (.transport "builder error"), s)
    | some sent =>
      match conn.exchange sent s with
      | (.error reason, s) => (.error (.transport reason), s)
      | (.ok response, s) => (interpret c response, s)

end ClusterReconciliation.Http
