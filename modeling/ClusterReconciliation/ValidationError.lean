/-! What can be wrong with a cluster or a library that was read without fault. -/
namespace ClusterReconciliation

/-- Bounds of an autotermination time that is not zero, in minutes. -/
def minAutotermination : UInt32 := 10
def maxAutotermination : UInt32 := 10000

inductive LibraryFault
  | noKind
  | severalKinds (kinds : List String)
  | blankPath (kind : String)
  | wrongEnding (kind path : String)
  | blankPackage (kind : String)
  | badCoordinates (coordinates : String)
  | badExclusion (exclusion : String)
  deriving DecidableEq, Repr

def LibraryFault.message : LibraryFault → String
  | noKind => "one of jar, egg, whl, pypi, maven or cran must be set"
  | severalKinds kinds => "exactly one library kind may be set, got " ++ ", ".intercalate kinds
  | blankPath kind => kind ++ " path must not be empty"
  | wrongEnding kind path => kind ++ " path '" ++ path ++ "' must end with ." ++ kind
  | blankPackage kind => kind ++ " package must not be empty"
  | badCoordinates c => "maven coordinates '" ++ c ++ "' must look like group:artifact:version"
  | badExclusion e => "maven exclusion '" ++ e ++ "' must look like group:artifact"

inductive ValidationError
  | missingSizing
  | conflictingSizing
  | autoscaleRange (min max : UInt32)
  | emptySparkVersion
  | missingNodeType
  | autoterminationOutOfRange (minutes : UInt32)
  | conflictingCloudAttributes
  | invalidLibrary (fault : LibraryFault)
  deriving DecidableEq, Repr

def ValidationError.message : ValidationError → String
  | missingSizing => "one of num_workers or autoscale must be set"
  | conflictingSizing => "num_workers and autoscale are mutually exclusive"
  | autoscaleRange min max =>
    s!"autoscale min_workers ({min}) must not exceed max_workers ({max})"
  | emptySparkVersion => "spark_version must not be empty"
  | missingNodeType => "either node_type_id or instance_pool_id must be set"
  | autoterminationOutOfRange minutes =>
    s!"autotermination_minutes must be 0 or between {minAutotermination} and " ++
      s!"{maxAutotermination}, got {minutes}"
  | conflictingCloudAttributes =>
    "only one of aws_attributes, azure_attributes or gcp_attributes may be set"
  | invalidLibrary fault => "invalid library: " ++ fault.message

end ClusterReconciliation
