/-! Where files are looked for. -/
namespace ClusterReconciliation

/-- A tilde that is all of a path, or its first part, stands for the home directory. -/
def expandHome (home : Option String) (path : String) : String :=
  match home, path.toList with
  | some home, ['~'] => home
  | some home, '~' :: '/' :: rest => home ++ "/" ++ String.ofList rest
  | _, _ => path

def joinPath (directory name : String) : String :=
  if "/".toList.isSuffixOf directory.toList then directory ++ name else directory ++ "/" ++ name

def parentPath (path : String) : Option String :=
  match (path.splitOn "/").dropLast with
  | [] | [""] => none
  | parts => some ("/".intercalate parts)

def defaultConfigPath (home : Option String) : String :=
  joinPath (home.getD ".") ".clustersync/config"

end ClusterReconciliation
