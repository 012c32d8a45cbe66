import ClusterReconciliation.Library

/-! Libraries as the control plane writes them: an object with one field, named for the kind. -/
namespace ClusterReconciliation.Library

structure Wire where
  jar : Option String := none
  egg : Option String := none
  whl : Option String := none
  pypi : Option (String × Option String) := none
  maven : Option (String × Option String × List String) := none
  cran : Option (String × Option String) := none
  deriving DecidableEq, Repr

def Wire.libraries (w : Wire) : List Library :=
  (w.jar.map Library.jar).toList ++ (w.egg.map Library.egg).toList ++
    (w.whl.map Library.whl).toList ++
    (w.pypi.map fun p => Library.pypi p.1 p.2).toList ++
    (w.maven.map fun m => Library.maven m.1 m.2.1 m.2.2).toList ++
    (w.cran.map fun p => Library.cran p.1 p.2).toList

def ofWire (w : Wire) : Except ValidationError Library :=
  match w.libraries with
  | [l] => .ok l
  | [] => .error (.invalidLibrary .noKind)
  | ls => .error (.invalidLibrary (.severalKinds (ls.map kind)))

def toWire : Library → Wire
  | jar path => { jar := some path }
  | egg path => { egg := some path }
  | whl path => { whl := some path }
  | pypi package repo => { pypi := some (package, repo) }
  | maven coordinates repo exclusions => { maven := some (coordinates, repo, exclusions) }
  | cran package repo => { cran := some (package, repo) }

theorem ofWire_toWire (l : Library) : ofWire l.toWire = .ok l := by cases l <;> rfl

def package : Fields (String × Option String) :=
  Prod.mk <$> .required "package" .text <*> .omissible "repo" .text

def mavenArtifact : Fields (String × Option String × List String) :=
  (fun c r e => (c, r, e)) <$> .required "coordinates" .text <*> .omissible "repo" .text <*>
    .defaulted "exclusions" [] (.listOf .text)

def wireFields : Fields Wire :=
  Wire.mk <$> .omissible "jar" .text <*> .omissible "egg" .text <*> .omissible "whl" .text <*>
    .omissible "pypi" package.decoder <*> .omissible "maven" mavenArtifact.decoder <*>
    .omissible "cran" package.decoder

def decoder : Decoder Library :=
  wireFields.decoder.refine fun w => (ofWire w).mapError .invalid

def jsonOfPackage (p : String × Option String) : Json :=
  .object ([("package", .text p.1)] ++ Json.field? "repo" (p.2.map .text))

def jsonOfMaven (m : String × Option String × List String) : Json :=
  .object ([("coordinates", .text m.1)] ++ Json.field? "repo" (m.2.1.map .text) ++
    Json.field? "exclusions" (if m.2.2.isEmpty then none else some (Json.texts m.2.2)))

def Wire.toJson (w : Wire) : Json :=
  .object (Json.field? "jar" (w.jar.map .text) ++ Json.field? "egg" (w.egg.map .text) ++
    Json.field? "whl" (w.whl.map .text) ++ Json.field? "pypi" (w.pypi.map jsonOfPackage) ++
    Json.field? "maven" (w.maven.map jsonOfMaven) ++ Json.field? "cran" (w.cran.map jsonOfPackage))

def toJson (l : Library) : Json := l.toWire.toJson

end ClusterReconciliation.Library
