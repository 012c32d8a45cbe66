import ClusterReconciliation.Credentials
import ClusterReconciliation.Http.Encoding

/-! Addresses of a control plane. -/
namespace ClusterReconciliation.Http

def trimTrailingSlashes (s : String) : String := Text.dropTrailing '/' s

/-- The address that all paths are appended to: without slashes at its end, and with a scheme. -/
def baseUrl (host : String) : String :=
  let host := trimTrailingSlashes (Text.trim host)
  if "http://".toList.isPrefixOf host.toList || "https://".toList.isPrefixOf host.toList then host
  else "https://" ++ host

/-- An address taken apart. The path is that of a request, and the query has no question mark. -/
structure Url where
  secure : Bool
  authority : List Char
  path : List Char
  query : Option (List Char)
  deriving DecidableEq, Repr

namespace Url

def isSlash (c : Char) : Bool := c == '/' || c == '\\'

def segments : List Char → List (List Char)
  | [] => [[]]
  | c :: rest =>
    match isSlash c, segments rest with
    | true, ps => [] :: ps
    | false, p :: ps => (c :: p) :: ps
    | false, [] => [[c]]

/-- Dots may be percent encoded. -/
def undot : List Char → List Char
  | '%' :: '2' :: c :: rest =>
    if c == 'e' || c == 'E' then '.' :: undot rest else '%' :: '2' :: c :: undot rest
  | c :: rest => c :: undot rest
  | [] => []

def resolveDots : List (List Char) → List (List Char) → List (List Char)
  | [], done => done.reverse
  | s :: rest, done =>
    if undot s == ['.', '.'] then
      resolveDots rest (if rest.isEmpty then [] :: done.drop 1 else done.drop 1)
    else if undot s == ['.'] then resolveDots rest (if rest.isEmpty then [] :: done else done)
    else resolveDots rest (s :: done)

/-- The path with dots resolved; an empty one is the root. -/
def normalizePath (path : List Char) : List Char :=
  let ss := match segments path with
    | [] :: first :: rest => first :: rest
    | ss => ss
  (resolveDots ss []).flatMap fun s => '/' :: percentEncode " \"#<>?\x60\x7b\x7d".toList s

/-- Tabs and breaks do not count anywhere in an address. -/
def parse (text : String) : Option Url := do
  let cs := text.toList.filter fun c => c != '\t' && c != '\n' && c != '\r'
  let secure := "https:".toList.isPrefixOf cs
  let afterScheme ←
    if secure then some (cs.drop 6)
    else if "http:".toList.isPrefixOf cs then some (cs.drop 5)
    else none
  let rest := afterScheme.dropWhile isSlash
  let authority := rest.takeWhile fun c => !isSlash c && c != '?' && c != '#'
  let rest := rest.drop authority.length
  let beforeFragment := rest.takeWhile (· != '#')
  let path := beforeFragment.takeWhile (· != '?')
  let query := beforeFragment.drop path.length
  if authority.isEmpty then none
  else return ⟨secure, authority, normalizePath path,
    if query.isEmpty then none else some (percentEncode " \"#<>'".toList (query.drop 1))⟩

def withQuery (u : Url) (pairs : List (String × String)) : Url :=
  if pairs.isEmpty then u
  else
    match u.query with
    | none => { u with query := some (formQuery pairs) }
    | some q => { u with query := some ((if q.isEmpty then [] else q ++ ['&']) ++ formQuery pairs) }

def target (u : Url) : String :=
  String.ofList (u.path ++ match u.query with
    | some q => '?' :: q
    | none => [])

end Url
end ClusterReconciliation.Http
