import ClusterReconciliation.Desired
import ClusterReconciliation.Json.Reader
import ClusterReconciliation.Text.Blank
import ClusterReconciliation.Yaml.Reader

/-! Manifests: desired states as texts in one of two formats. -/
namespace ClusterReconciliation

inductive ManifestFormat
  | yaml
  | json
  deriving DecidableEq, Repr

namespace ManifestFormat

def name : ManifestFormat → String
  | yaml => "YAML"
  | json => "JSON"

/-- The last part of a path: blank parts and single dots at the end do not count, and two dots
are no name. -/
def fileName (path : List Char) : Option (List Char) :=
  let parts := (split path).filter fun p => !p.isEmpty && p != ['.']
  match parts.getLast? with
  | some p => if p == ['.', '.'] then none else some p
  | none => none
where
  split : List Char → List (List Char)
    | [] => [[]]
    | c :: rest =>
      match c == '/', split rest with
      | true, ps => [] :: ps
      | false, p :: ps => (c :: p) :: ps
      | false, [] => [[c]]

/-- What follows the last dot of a file name, unless the name begins with that dot. -/
def extension (path : String) : Option String := do
  let name ← fileName path.toList
  let after := name.reverse.takeWhile (· != '.')
  if name.length ≤ after.length + 1 then none else some (String.ofList after.reverse)

/-- The extension decides if it is known, and else the first character that is not blank. -/
def detect (path : Option String) (content : String) : ManifestFormat :=
  match (path.bind extension).map Text.lower with
  | some "json" => json
  | some "yaml" => yaml
  | some "yml" => yaml
  | _ => if (Text.trimStart content).toList.head? == some '\x7b' then json else yaml

end ManifestFormat

inductive ManifestError
  /-- The file cannot be read, and why. -/
  | file (reason : String)
  | parse (format : ManifestFormat) (error : DecodeError)
  | invalid (error : ValidationError)
  deriving DecidableEq, Repr

def ManifestFormat.read : ManifestFormat → String → Reading
  | yaml, text => Yaml.read text
  | json, text => Json.read text

namespace Desired

def ofText (text : String) (format : ManifestFormat) : Except DecodeError Desired :=
  (format.read text).decode decoder

def parse (text : String) (format : ManifestFormat) : Except ManifestError Desired := do
  let d ← (ofText text format).mapError (.parse format)
  d.validate.mapError .invalid
  return d

end Desired
end ClusterReconciliation
