import ClusterReconciliation.Http.Client
import ClusterReconciliation.Simulation.Scene

/-! A server that gives prepared responses and keeps the requests. -/
namespace ClusterReconciliation

structure Server where
  authority : String
  /-- The responses to come; in place of one the connection may be closed. -/
  responses : List (Option Http.Response)
  requests : List Http.Sent := []

namespace Server

def address (s : Server) : String := "http://" ++ s.authority

def spent : Http.Response := ⟨500, "no more responses"⟩

/-- Two statuses never come with a body. -/
def bodied (r : Http.Response) : Http.Response :=
  if r.status = 204 ∨ r.status = 304 then { r with body := "" } else r

def reply (s : Server) : Except String Http.Response :=
  match s.responses with
  | [] => .ok spent
  | none :: _ => .error "error sending request"
  | some r :: _ => .ok (bodied r)

/-- No other server is there to be reached. -/
def exchange (sent : Http.Sent) (s : Scene Server) :
    Except String Http.Response × Scene Server :=
  if sent.url.secure || sent.url.authority != s.state.authority.toList then
    (.error "error sending request", s)
  else
    (s.state.reply, { s with state := { s.state with
      responses := s.state.responses.drop 1
      requests := s.state.requests ++ [sent] } })

def connection : Http.Connection (Scene Server) := ⟨Scene.clock, exchange⟩

end Server
end ClusterReconciliation
