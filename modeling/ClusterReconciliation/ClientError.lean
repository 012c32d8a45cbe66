/-! Why a call to the control plane failed. -/
namespace ClusterReconciliation

def notFoundCodes : List String := ["RESOURCE_DOES_NOT_EXIST", "NOT_FOUND"]

/-- A rejection says that a resource is missing by its status or by its code. -/
def saysNotFound (status : UInt16) (code : String) : Bool :=
  status == 404 || notFoundCodes.contains code

inductive ClientError
  | transport (reason : String)
  | auth (status : UInt16) (message : String)
  | api (status : UInt16) (code message : String)
  | parse (reason : String)
  deriving DecidableEq, Repr

namespace ClientError

def notFound (message : String) : ClientError := api 404 "RESOURCE_DOES_NOT_EXIST" message

def isNotFound : ClientError → Bool
  | api status code _ => saysNotFound status code
  | _ => false

/-- The connection failed; the other side has decided nothing. -/
def isTransient : ClientError → Bool
  | transport _ => true
  | parse _ => true
  | _ => false

def message : ClientError → String
  | transport reason => "HTTP error: " ++ reason
  | auth status message => "Authentication failed (" ++ toString status ++ "): " ++ message
  | api _ _ message => message
  | parse reason => "JSON parse error: " ++ reason

end ClientError
end ClusterReconciliation
