import ClusterReconciliation.Library
import ClusterReconciliation.Proofs.Layers
import Mathlib.Computability.Language

/-! The grammar of libraries. Coordinates and exclusions are given twice, by splitting them at the colons
and as regular languages, and a library is valid exactly if its parts are in the grammar. -/
namespace ClusterReconciliation

namespace Library

/-! ### What stands between the colons -/

theorem pieces_eq_splitOn (cs : List Char) : pieces cs = cs.splitOn ':' := by
  induction cs with
  | nil => rfl
  | cons c cs ih =>
    rw [List.splitOn_cons_eq_if_modifyHead, ← ih, pieces]
    have hne : pieces cs ≠ [] := ih ▸ List.splitOn_ne_nil _ _
    obtain ⟨p, ps, hps⟩ := List.exists_cons_of_ne_nil hne
    cases hc : c == ':' <;> simp [hps]

theorem colon_notMem_of_mem_pieces {cs p : List Char} (h : p ∈ pieces cs) : ':' ∉ p := by
  induction cs generalizing p with
  | nil => simp_all [pieces]
  | cons c cs ih =>
    rw [pieces] at h
    split at h
    case h_1 => grind
    case h_2 q qs hc hqs =>
      rw [hqs] at ih
      rcases List.mem_cons.1 h with rfl | hp
      · have hq := ih List.mem_cons_self
        rw [List.mem_cons, not_or]
        exact ⟨fun hcolon => by simp [← hcolon] at hc, hq⟩
      · exact ih (List.mem_cons_of_mem _ hp)
    case h_3 => grind

/-- The text splits at its colons into so many pieces, and none is empty or has white space in it. -/
def Parted (n : ℕ) (s : String) : Prop :=
  (s.toList.splitOn ':').length = n ∧
    ∀ p ∈ s.toList.splitOn ':', p ≠ [] ∧ ∀ c ∈ p, ¬Text.isBlank c

theorem isPiece_iff {p : List Char} :
    isPiece p = true ↔ p ≠ [] ∧ ∀ c ∈ p, ¬Text.isBlank c := by
  simp [isPiece]

theorem isExclusion_iff {s : String} : isExclusion s = true ↔ Parted 2 s := by
  simp [isExclusion, Parted, pieces_eq_splitOn, isPiece_iff, and_comm]

theorem areCoordinates_iff {s : String} :
    areCoordinates s = true ↔ Parted 3 s ∨ Parted 4 s := by
  simp [areCoordinates, Parted, pieces_eq_splitOn, isPiece_iff, ← or_and_right, and_comm]

example : areCoordinates "org.example:lib:1.0\n" = false := by decide

/-! ### As regular languages -/

open scoped Computability

/-- What may stand in a piece. -/
def letter : Language Char := {w | ∃ c, w = [c] ∧ c ≠ ':' ∧ ¬Text.isBlank c}

def colon : Language Char := {[':']}

def piece : Language Char := letter * letter∗

/-- A piece and two or three more, each after a colon. -/
def coordinates : Language Char := piece * ((colon * piece) ^ 2 + (colon * piece) ^ 3)

def exclusion : Language Char := piece * (colon * piece)

theorem mem_letters {w : List Char} :
    w ∈ letter∗ ↔ ∀ c ∈ w, c ≠ ':' ∧ ¬Text.isBlank c := by
  rw [Language.mem_kstar]
  constructor
  · rintro ⟨L, rfl, hL⟩ c hc
    obtain ⟨v, hv, hcv⟩ := List.mem_flatten.1 hc
    obtain ⟨d, rfl, hd⟩ := hL v hv
    rwa [List.mem_singleton.1 hcv]
  · intro h
    refine ⟨w.map ([·]), by rw [← List.flatMap_def, List.flatMap_singleton'], fun v hv => ?_⟩
    obtain ⟨c, hc, rfl⟩ := List.mem_map.1 hv
    exact ⟨c, rfl, h c hc⟩

theorem mem_piece {w : List Char} :
    w ∈ piece ↔ w ≠ [] ∧ ∀ c ∈ w, c ≠ ':' ∧ ¬Text.isBlank c := by
  rw [piece, Language.mem_mul]
  constructor
  · rintro ⟨_, ⟨c, rfl, hc⟩, v, hv, rfl⟩
    exact ⟨List.cons_ne_nil _ _, List.forall_mem_cons.2 ⟨hc, mem_letters.1 hv⟩⟩
  · rintro ⟨hne, h⟩
    obtain ⟨c, v, rfl⟩ := List.exists_cons_of_ne_nil hne
    obtain ⟨hc, hv⟩ := List.forall_mem_cons.1 h
    exact ⟨[c], ⟨c, rfl, hc⟩, v, mem_letters.2 hv, rfl⟩

/-- A piece and `n` more, each after a colon, are `n + 1` pieces with colons between them. -/
theorem mem_piece_mul_pow {n : ℕ} {w : List Char} :
    w ∈ piece * (colon * piece) ^ n ↔
      ∃ ps : List (List Char), ps.length = n + 1 ∧ (∀ p ∈ ps, p ∈ piece) ∧
        [':'].intercalate ps = w := by
  -- The exponent counts the colons, and each step takes the first piece with its colon away.
  induction n generalizing w with
  | zero =>
    rw [pow_zero, mul_one]
    constructor
    · exact fun h => ⟨[w], rfl, by simpa using h, by simp⟩
    · rintro ⟨ps, hlen, hps, rfl⟩
      obtain ⟨p, rfl⟩ := List.length_eq_one_iff.1 hlen
      simpa using hps
  | succ n ih =>
    rw [pow_succ', mul_assoc colon, Language.mem_mul]
    constructor
    · rintro ⟨p, hp, v, hv, rfl⟩
      obtain ⟨_, rfl, u, hu, rfl⟩ := Language.mem_mul.1 hv
      obtain ⟨ps, hlen, hps, rfl⟩ := ih.1 hu
      obtain ⟨q, qs, rfl⟩ := List.exists_cons_of_length_eq_add_one hlen
      exact ⟨p :: q :: qs, congrArg (· + 1) hlen, List.forall_mem_cons.2 ⟨hp, hps⟩,
        by simp [List.intercalate_cons_cons]⟩
    · rintro ⟨ps, hlen, hps, rfl⟩
      obtain ⟨p, qs, rfl⟩ := List.exists_cons_of_length_eq_add_one hlen
      have hqs : qs.length = n + 1 := Nat.succ.inj hlen
      obtain ⟨q, rs, rfl⟩ := List.exists_cons_of_length_eq_add_one hqs
      obtain ⟨hp, hrest⟩ := List.forall_mem_cons.1 hps
      refine ⟨p, hp, [':'] ++ [':'].intercalate (q :: rs), Language.append_mem_mul rfl ?_, ?_⟩
      · exact ih.2 ⟨q :: rs, hqs, hrest, rfl⟩
      · simp [List.intercalate_cons_cons]

theorem mem_piece_mul_pow_iff {n : ℕ} {s : String} :
    s.toList ∈ piece * (colon * piece) ^ n ↔ Parted (n + 1) s := by
  rw [mem_piece_mul_pow]
  constructor
  · rintro ⟨ps, hlen, hps, hs⟩
    have hcolon : ∀ p ∈ ps, ':' ∉ p := fun p hp hc => ((mem_piece.1 (hps p hp)).2 _ hc).1 rfl
    have hsplit : s.toList.splitOn ':' = ps :=
      hs ▸ List.splitOn_intercalate _ hcolon (List.ne_nil_of_length_eq_add_one hlen)
    rw [Parted, hsplit]
    exact ⟨hlen, fun p hp => (mem_piece.1 (hps p hp)).imp_right fun h c hc => (h c hc).2⟩
  · rintro ⟨hlen, hps⟩
    refine ⟨_, hlen, fun p hp => mem_piece.2 ⟨(hps p hp).1, fun c hc => ⟨?_, (hps p hp).2 c hc⟩⟩,
      List.intercalate_splitOn _⟩
    rintro rfl
    exact colon_notMem_of_mem_pieces (pieces_eq_splitOn _ ▸ hp) hc

theorem mem_exclusion {s : String} : s.toList ∈ exclusion ↔ Parted 2 s := by
  rw [← mem_piece_mul_pow_iff, pow_one, exclusion]

theorem mem_coordinates {s : String} : s.toList ∈ coordinates ↔ Parted 3 s ∨ Parted 4 s := by
  rw [← mem_piece_mul_pow_iff, ← mem_piece_mul_pow_iff, coordinates, mul_add, Language.mem_add]

end Library

/-! ### What is valid -/

/-- The text ends in `ending`, whatever the case of its letters. -/
def Text.EndsIn (ending s : String) : Prop := ∃ stem last, s = stem ++ last ∧ lower last = ending

theorem Text.dropSuffix?_isSome_iff {s ending : List Char} :
    (dropSuffix? s ending).isSome ↔ ending <:+ s := by
  simp [dropSuffix?, apply_ite]

theorem Text.endsIn_iff {ending s : String} :
    (dropSuffix? (lower s).toList ending.toList).isSome ↔ EndsIn ending s := by
  rw [dropSuffix?_isSome_iff, lower, String.toList_ofList, List.suffix_map_iff]
  constructor
  · rintro ⟨last, ⟨stem, hs⟩, hlast⟩
    refine ⟨.ofList stem, .ofList last, ?_, ?_⟩
    · rw [← String.ofList_append, hs, String.ofList_toList]
    · rw [lower, String.toList_ofList, ← hlast, String.ofList_toList]
  · rintro ⟨stem, last, rfl, rfl⟩
    exact ⟨last.toList, ⟨stem.toList, by simp⟩, by simp [lower]⟩

namespace Library

/-- The path is one of a library of this kind. -/
def PathOf (kind path : String) : Prop :=
  Text.trim path ≠ "" ∧ Text.EndsIn ("." ++ kind) path

/-- The parts of the library are as they have to be for its kind. -/
def Grammatical : Library → Prop
  | jar path => PathOf "jar" path
  | egg path => PathOf "egg" path
  | whl path => PathOf "whl" path
  | pypi package _ => Text.trim package ≠ ""
  | maven coordinates _ exclusions =>
    (Parted 3 coordinates ∨ Parted 4 coordinates) ∧ ∀ e ∈ exclusions, Parted 2 e
  | cran package _ => Text.trim package ≠ ""

def path? : Library → Option String
  | jar path => some path
  | egg path => some path
  | whl path => some path
  | _ => none

def package? : Library → Option String
  | pypi package _ => some package
  | cran package _ => some package
  | _ => none

/-- What a library is to blame for. Its coordinates come before its exclusions, and of these the first
that is not in order is the one to blame. -/
inductive Blames (l : Library) : LibraryFault → Prop
  | blankPath {path} (h : l.path? = some path) (hblank : Text.trim path = "") :
    l.Blames (.blankPath l.kind)
  | wrongEnding {path} (h : l.path? = some path) (hfilled : Text.trim path ≠ "")
    (hends : ¬Text.EndsIn ("." ++ l.kind) path) : l.Blames (.wrongEnding l.kind path)
  | blankPackage {package} (h : l.package? = some package) (hblank : Text.trim package = "") :
    l.Blames (.blankPackage l.kind)
  | badCoordinates {c repo es} (h : l = maven c repo es) (hc : ¬(Parted 3 c ∨ Parted 4 c)) :
    l.Blames (.badCoordinates c)
  | badExclusion {c repo good e rest} (h : l = maven c repo (good ++ e :: rest))
    (hc : Parted 3 c ∨ Parted 4 c) (hgood : ∀ e' ∈ good, Parted 2 e') (he : ¬Parted 2 e) :
    l.Blames (.badExclusion e)

theorem fault_of_path {l : Library} {path : String} (h : l.path? = some path) :
    l.fault = faultOfPath l.kind path := by
  cases l <;> cases h <;> rfl

theorem fault_of_package {l : Library} {package : String} (h : l.package? = some package) :
    l.fault = faultOfPackage l.kind package := by
  cases l <;> cases h <;> rfl

theorem blames_of_faultOfPath {l : Library} {path : String} {f : LibraryFault}
    (hl : l.path? = some path) (hf : faultOfPath l.kind path = some f) : l.Blames f := by
  rw [faultOfPath] at hf
  split_ifs at hf with hblank hends <;> cases hf
  · exact .blankPath hl (Text.isBlankText_iff.1 hblank)
  · exact .wrongEnding hl (mt Text.isBlankText_iff.2 hblank) (mt Text.endsIn_iff.2 hends)

theorem blames_of_faultOfPackage {l : Library} {package : String} {f : LibraryFault}
    (hl : l.package? = some package) (hf : faultOfPackage l.kind package = some f) :
    l.Blames f := by
  rw [faultOfPackage] at hf
  split_ifs at hf with hblank
  cases hf
  exact .blankPackage hl (Text.isBlankText_iff.1 hblank)

theorem find?_exclusion {es : List String} {e : String} :
    es.find? (!isExclusion ·) = some e ↔
      ¬Parted 2 e ∧ ∃ good rest, es = good ++ e :: rest ∧ ∀ e' ∈ good, Parted 2 e' := by
  simp only [List.find?_eq_some_iff_append, Bool.not_eq_true', ← Bool.not_eq_true,
    Bool.not_not, isExclusion_iff]

theorem blames_of_fault {l : Library} {f : LibraryFault} (h : l.fault = some f) : l.Blames f := by
  cases l with
  | jar | egg | whl => exact blames_of_faultOfPath rfl h
  | pypi | cran => exact blames_of_faultOfPackage rfl h
  | maven c repo es =>
    rw [fault] at h
    split_ifs at h with hc
    · obtain ⟨e, he, rfl⟩ := Option.map_eq_some_iff.1 h
      obtain ⟨hbad, good, rest, rfl, hgood⟩ := find?_exclusion.1 he
      exact .badExclusion rfl (areCoordinates_iff.1 hc) hgood hbad
    · cases h
      exact .badCoordinates rfl (mt areCoordinates_iff.2 hc)

theorem fault_eq_some {l : Library} {f : LibraryFault} : l.fault = some f ↔ l.Blames f := by
  refine ⟨blames_of_fault, fun h => ?_⟩
  cases h with
  | blankPath h hblank =>
    rw [fault_of_path h, faultOfPath, if_pos (Text.isBlankText_iff.2 hblank)]
  | wrongEnding h hfilled hends =>
    rw [fault_of_path h, faultOfPath, if_neg (mt Text.isBlankText_iff.1 hfilled),
      if_neg (mt Text.endsIn_iff.1 hends)]
  | blankPackage h hblank =>
    rw [fault_of_package h, faultOfPackage, if_pos (Text.isBlankText_iff.2 hblank)]
  | badCoordinates h hc =>
    rw [h, fault, if_neg (mt areCoordinates_iff.1 hc)]
  | badExclusion h hc hgood he =>
    rw [h, fault, if_pos (areCoordinates_iff.2 hc),
      find?_exclusion.2 ⟨he, _, _, rfl, hgood⟩, Option.map_some]

theorem faultOfPath_eq_none {kind path : String} :
    faultOfPath kind path = none ↔ PathOf kind path := by
  rw [PathOf, ne_eq, ← Text.endsIn_iff, ← Text.isBlankText_iff, faultOfPath]
  split_ifs <;> simp_all

theorem faultOfPackage_eq_none {kind package : String} :
    faultOfPackage kind package = none ↔ Text.trim package ≠ "" := by
  rw [ne_eq, ← Text.isBlankText_iff, faultOfPackage]
  split_ifs <;> simp_all

theorem fault_eq_none {l : Library} : l.fault = none ↔ l.Grammatical := by
  cases l with
  | jar | egg | whl => exact faultOfPath_eq_none
  | pypi | cran => exact faultOfPackage_eq_none
  | maven c repo es =>
    rw [Grammatical, ← areCoordinates_iff, fault]
    by_cases hc : areCoordinates c = true
    · simp [hc, isExclusion_iff]
    · simp [hc]

/-- A library is valid exactly if it is grammatical, and it is refused for just what it is to blame for.
Coordinates and exclusions are told from other texts as by the two regular expressions. -/
theorem valid_exactly_in_grammar :
    (∀ l : Library, (l.validate = .ok () ↔ l.Grammatical) ∧
      ∀ e, l.validate = .error e ↔ ∃ f, e = .invalidLibrary f ∧ l.Blames f) ∧
    ∀ s : String, (areCoordinates s = true ↔ s.toList ∈ coordinates) ∧
      (isExclusion s = true ↔ s.toList ∈ exclusion) := by
  refine ⟨fun l => ⟨?_, fun e => ?_⟩, fun s =>
    ⟨areCoordinates_iff.trans mem_coordinates.symm, isExclusion_iff.trans mem_exclusion.symm⟩⟩
  · rw [← fault_eq_none, validate]
    cases l.fault <;> simp
  · simp only [← fault_eq_some, validate]
    cases l.fault <;> simp [eq_comm]

end Library

end ClusterReconciliation
