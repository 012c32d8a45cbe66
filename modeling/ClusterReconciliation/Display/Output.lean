import ClusterReconciliation.Display
import ClusterReconciliation.Json.Canonical
import ClusterReconciliation.Json.Writer
import ClusterReconciliation.Yaml.Writer

/-! A cluster with its libraries in each of the formats that can be asked for. -/
namespace ClusterReconciliation

inductive OutputFormat
  | table
  | json
  | yaml
  deriving DecidableEq, Repr

def OutputFormat.names : List (String × OutputFormat) :=
  [("table", table), ("json", json), ("yaml", yaml)]

namespace Observed

def toJson (o : Observed) : Json :=
  .object [("cluster", o.info.toJson), ("libraries", .array (o.libraries.map (·.toJson)))]

/-- In the structured formats the fields stand in the order of their names. -/
def render (o : Observed) : OutputFormat → String
  | .table => o.detail
  | .json => o.toJson.canonical.renderIndented ++ "\n"
  | .yaml => Yaml.render o.toJson.canonical

end Observed
end ClusterReconciliation
