import ClusterReconciliation.Decode
import ClusterReconciliation.Text.Blank

/-! Libraries: artifacts that a cluster can have installed, of exactly one of six kinds. -/
namespace ClusterReconciliation

/-- Two libraries are the same when all their parts are. -/
inductive Library
  | jar (path : String)
  | egg (path : String)
  | whl (path : String)
  | pypi (package : String) (repo : Option String)
  | maven (coordinates : String) (repo : Option String) (exclusions : List String)
  | cran (package : String) (repo : Option String)
  deriving DecidableEq, Repr

namespace Library

def kind : Library → String
  | jar _ => "jar"
  | egg _ => "egg"
  | whl _ => "whl"
  | pypi .. => "pypi"
  | maven .. => "maven"
  | cran .. => "cran"

/-- A library of a named kind with nothing but its subject. -/
def ofKind? (kind subject : String) : Option Library :=
  match kind with
  | "jar" => some (jar subject)
  | "egg" => some (egg subject)
  | "whl" => some (whl subject)
  | "pypi" => some (pypi subject none)
  | "maven" => some (maven subject none [])
  | "cran" => some (cran subject none)
  | _ => none

def subject : Library → String
  | jar path => path
  | egg path => path
  | whl path => path
  | pypi package _ => package
  | maven coordinates _ _ => coordinates
  | cran package _ => package

def display (l : Library) : String := l.kind ++ ":" ++ l.subject

def pieces : List Char → List (List Char)
  | [] => [[]]
  | c :: rest =>
    match c == ':', pieces rest with
    | true, ps => [] :: ps
    | false, p :: ps => (c :: p) :: ps
    | false, [] => [[c]]

def isPiece (p : List Char) : Bool := !p.isEmpty && !p.any Text.isBlank

def areCoordinates (s : String) : Bool :=
  let ps := pieces s.toList
  ps.all isPiece && (ps.length == 3 || ps.length == 4)

def isExclusion (s : String) : Bool :=
  let ps := pieces s.toList
  ps.all isPiece && ps.length == 2

def faultOfPath (kind path : String) : Option LibraryFault :=
  if Text.isBlankText path then some (.blankPath kind)
  else if (Text.dropSuffix? (Text.lower path).toList ("." ++ kind).toList).isSome then none
  else some (.wrongEnding kind path)

def faultOfPackage (kind package : String) : Option LibraryFault :=
  if Text.isBlankText package then some (.blankPackage kind) else none

def fault : Library → Option LibraryFault
  | jar path => faultOfPath "jar" path
  | egg path => faultOfPath "egg" path
  | whl path => faultOfPath "whl" path
  | pypi package _ => faultOfPackage "pypi" package
  | cran package _ => faultOfPackage "cran" package
  | maven coordinates _ exclusions =>
    if areCoordinates coordinates then
      (exclusions.find? (!isExclusion ·)).map .badExclusion
    else some (.badCoordinates coordinates)

def validate (l : Library) : Except ValidationError Unit :=
  match l.fault with
  | some f => .error (.invalidLibrary f)
  | none => .ok ()

end Library
end ClusterReconciliation
