import ClusterReconciliation.ControlPlane
import ClusterReconciliation.Http.Encoding
import ClusterReconciliation.Json.Reader

/-! How the calls to the control plane are put as requests, and how replies are read. -/
namespace ClusterReconciliation.Http

inductive Method
  | get
  | post
  deriving DecidableEq, Repr

def Method.name : Method → String
  | get => "GET"
  | post => "POST"

structure Request where
  method : Method
  path : String
  query : List (String × String) := []
  body : Option Json := none

def idField (id : String) : String × Json := ("cluster_id", .text id)

def librariesField (ls : List Library) : String × Json :=
  ("libraries", .array (ls.map Library.toJson))

def Request.about (path id : String) : Request :=
  { method := .get, path := path, query := [("cluster_id", id)] }

def Request.send (path : String) (fields : List (String × Json)) : Request :=
  { method := .post, path := path, body := some (.object fields) }

def requestOf : Call → Request
  | .createCluster spec => .send "clusters/create" spec.toFields
  | .getCluster id => .about "clusters/get" id
  | .startCluster id => .send "clusters/start" [idField id]
  | .editCluster id spec => .send "clusters/edit" (idField id :: spec.toFields)
  | .deleteCluster id => .send "clusters/delete" [idField id]
  | .permanentDeleteCluster id => .send "clusters/permanent-delete" [idField id]
  | .libraryStatuses id => .about "libraries/cluster-status" id
  | .installLibraries id ls => .send "libraries/install" [idField id, librariesField ls]
  | .uninstallLibraries id ls => .send "libraries/uninstall" [idField id, librariesField ls]

/-- Any reply that can be read to its end. -/
def anyReply : Decoder Unit := fun _ d => if d.isBroken then .error .unreadable else .ok ()

def createdId : Decoder String :=
  (Fields.required "cluster_id" .text).decoder

def reportedLibraries : Decoder (List LibraryStatus) :=
  (Fields.defaulted "library_statuses" [] (.listOf LibraryStatus.decoder)).decoder

def replyDecoder : (c : Call) → Decoder c.Reply
  | .createCluster _ => createdId
  | .getCluster _ => Cluster.Info.decoder
  | .libraryStatuses _ => reportedLibraries
  | .startCluster _ => anyReply
  | .editCluster .. => anyReply
  | .deleteCluster _ => anyReply
  | .permanentDeleteCluster _ => anyReply
  | .installLibraries .. => anyReply
  | .uninstallLibraries .. => anyReply

/-- A blank body counts as an empty object. -/
def readReply (c : Call) (body : String) : Except DecodeError c.Reply :=
  (Json.read (if Text.isBlankText body then "\x7b\x7d" else body)).decode (replyDecoder c)

end ClusterReconciliation.Http
