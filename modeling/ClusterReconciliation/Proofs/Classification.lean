import ClusterReconciliation.Http.Response
import ClusterReconciliation.Proofs.Rejections

/-! What becomes of a rejection. The status and the body of a response decide what kind of error it
is, and whether it says that the resource is missing; no conversion on the way to the report of a
reconciliation changes that, and what a deletion makes of it is what the client says. -/
namespace ClusterReconciliation

namespace ClientError

/-- The status of a rejection. -/
def status : ClientError → Option UInt16
  | auth status _ => some status
  | api status _ _ => some status
  | _ => none

/-- The code of a rejection. -/
def code : ClientError → Option String
  | api _ code _ => some code
  | _ => none

/-- The message that came with a rejection. -/
def remark : ClientError → Option String
  | auth _ message => some message
  | api _ _ message => some message
  | _ => none

end ClientError

namespace ReconcileError

def status : ReconcileError → Option UInt16
  | auth status _ => some status
  | api status _ _ => some status
  | _ => none

def remark : ReconcileError → Option String
  | auth _ message => some message
  | api _ _ message => some message
  | _ => none

/-- An error that is reported for one of the client tells of it what a rejection tells. -/
structure Reports (r : ReconcileError) (e : ClientError) : Prop where
  notFound : r.isNotFound = e.isNotFound
  status : r.status = e.status
  code : r.code = e.code
  remark : r.remark = e.remark

theorem reports_ofClient (e : ClientError) : (ofClient e).Reports e := by
  refine ⟨isNotFound_ofClient e, ?_, ?_, ?_⟩ <;> cases e <;> rfl

theorem reports_ofPoll (e : ClientError) : (ofPoll (.client e)).Reports e := reports_ofClient e

end ReconcileError

namespace Http
variable {status : UInt16} {body : String}

/-- The statuses by which the control plane refuses the credentials. -/
abbrev RefusesCredentials (status : UInt16) : Prop := status = 401 ∨ status = 403

/-- The body is an error object with a code that stands for a missing resource. -/
def DescribesMissing (body : String) : Prop :=
  ∃ b, ErrorBody.ofText body = some b ∧ b.code ∈ notFoundCodes

theorem saysNotFound_iff {code : String} :
    saysNotFound status code = true ↔ status = 404 ∨ code ∈ notFoundCodes := by
  simp [saysNotFound]

theorem classifyError_of_refuses (h : RefusesCredentials status) (body : String) :
    ∃ message, classifyError status body = .auth status message := ⟨_, if_pos h⟩

theorem errorOfUndescribed_isNotFound :
    (errorOfUndescribed status body).isNotFound = true ↔ status = 404 := by
  by_cases h : status = 404 <;>
    simp [errorOfUndescribed, ClientError.isNotFound, saysNotFound_iff, h, notFoundCodes]

theorem ErrorBody.not_mem_of_isEmpty {b : ErrorBody} (h : b.isEmpty = true) :
    b.code ∉ notFoundCodes := by
  have hcode : b.code = "" := by
    simp only [isEmpty, Bool.and_eq_true, String.isEmpty_iff] at h
    exact h.1
  simp [hcode, notFoundCodes]

/-- Any other rejection is one of the interface, and says that the resource is missing by its status or
by the body. A body that is no error object, or an empty one, does not. -/
theorem classifyError_of_not_refuses (h : ¬RefusesCredentials status) (body : String) :
    (∃ code message, classifyError status body = .api status code message) ∧
      ((classifyError status body).isNotFound = true ↔ status = 404 ∨ DescribesMissing body) := by
  have hundescribed : ∃ code message, errorOfUndescribed status body = .api status code message :=
    ⟨_, _, rfl⟩
  rw [classifyError, if_neg h]
  cases hb : ErrorBody.ofText body with
  | none =>
    have hmissing : ¬DescribesMissing body := by
      rintro ⟨b, hsome, -⟩
      rw [hb] at hsome
      cases hsome
    exact ⟨hundescribed, by simp [errorOfUndescribed_isNotFound, hmissing]⟩
  | some b =>
    have hmissing : DescribesMissing body ↔ b.code ∈ notFoundCodes := by
      simp [DescribesMissing, hb]
    cases he : b.isEmpty with
    | true =>
      refine ⟨by simpa [he] using hundescribed, ?_⟩
      simp [he, errorOfUndescribed_isNotFound, hmissing, ErrorBody.not_mem_of_isEmpty he]
    | false => simp [he, ClientError.isNotFound, saysNotFound_iff, hmissing]

theorem classifyError_eq_auth_iff :
    (∃ message, classifyError status body = .auth status message) ↔ RefusesCredentials status := by
  refine ⟨fun ⟨message, hm⟩ => ?_, fun h => classifyError_of_refuses h body⟩
  by_contra h
  obtain ⟨⟨code, message', ha⟩, -⟩ := classifyError_of_not_refuses h body
  rw [ha] at hm
  cases hm

theorem classifyError_eq_api_iff :
    (∃ code message, classifyError status body = .api status code message) ↔
      ¬RefusesCredentials status := by
  refine ⟨fun ⟨code, message, ha⟩ h => ?_, fun h => (classifyError_of_not_refuses h body).1⟩
  obtain ⟨message', hm⟩ := classifyError_of_refuses h body
  rw [ha] at hm
  cases hm

theorem classifyError_isTransient (status : UInt16) (body : String) :
    (classifyError status body).isTransient = false := by
  by_cases h : RefusesCredentials status
  · obtain ⟨message, hm⟩ := classifyError_of_refuses h body
    rw [hm]
    rfl
  · obtain ⟨⟨code, message, ha⟩, -⟩ := classifyError_of_not_refuses h body
    rw [ha]
    rfl

theorem classifyError_isNotFound_iff :
    (classifyError status body).isNotFound = true ↔
      ¬RefusesCredentials status ∧ (status = 404 ∨ DescribesMissing body) := by
  by_cases h : RefusesCredentials status
  · obtain ⟨message, hm⟩ := classifyError_of_refuses h body
    simp [hm, ClientError.isNotFound, h]
  · simp [(classifyError_of_not_refuses h body).2, h]

/-- A response that reports no success is a rejection of the call, whichever it is. It is one of the
credentials exactly for the statuses 401 and 403, and one of the interface for all others; it says
that the resource is missing exactly if it is of the interface and has the status 404 or a body that
says so. The reports of it tell the same. No run makes a call after it, so no wait tries again; and a
deletion that it is an answer in succeeds exactly if it says that the resource is missing. -/
theorem classifyError_consistent (status : UInt16) (body : String) :
    let e := classifyError status body
    (isSuccess status = false → ∀ c, interpret c ⟨status, body⟩ = .error e) ∧
    ((∃ message, e = .auth status message) ↔ status = 401 ∨ status = 403) ∧
    ((∃ code message, e = .api status code message) ↔ ¬(status = 401 ∨ status = 403)) ∧
    e.isTransient = false ∧
    (e.isNotFound = true ↔ (∃ code message, e = .api status code message) ∧ (status = 404 ∨
      ∃ b, ErrorBody.ofText body = some b ∧ b.code ∈ ["RESOURCE_DOES_NOT_EXIST", "NOT_FOUND"])) ∧
    (ReconcileError.ofClient e).Reports e ∧ (ReconcileError.ofPoll (.client e)).Reports e ∧
    (∀ {σ : Type} (r : Reconciler σ) (task : Task) (world : σ) (before after) (event : Event σ),
      (r.carryOut task world).session.calls = before ++ event :: after →
        event.failure = some e → after = []) ∧
    ∀ {σ : Type} (r : Reconciler σ) (id : String) (world : σ),
      ∀ event ∈ (r.delete id world).session.calls, event.failure = some e →
        ((r.delete id world).outcome = .ok () ↔ e.isNotFound = true) := by
  intro e
  have hsteady : e.isTransient = false := classifyError_isTransient status body
  refine ⟨fun h c => ?_, classifyError_eq_auth_iff, classifyError_eq_api_iff, hsteady, ?_,
    ReconcileError.reports_ofClient e, ReconcileError.reports_ofPoll e, ?_, ?_⟩
  · simp [interpret, h, e]
  · rw [classifyError_eq_api_iff]
    exact classifyError_isNotFound_iff
  · intro σ r task world before after event hc hf
    exact (r.carryOut_heedful task world).eq_nil hc (Event.isRejected_of_failure hf hsteady)
  · intro σ r id world event he hf
    rw [r.delete_rejected id world he (Event.isRejected_of_failure hf hsteady),
      Event.isMissing_of_failure hf]

/-- A world where every call is given the same response. -/
def rejecting (status : UInt16) (body : String) : World Unit where
  now _ := .zero
  sleep _ := id
  isCancelled _ := false
  answer c _ := (interpret c ⟨status, body⟩, ())

theorem classifyError_consistent_missing :
    let body := "\x7b\"error_code\":\"NOT_FOUND\"\x7d"
    let e := classifyError 400 body
    let r : Reconciler Unit := ⟨rejecting 400 body, {}, 9⟩
    isSuccess 400 = false ∧ interpret (.getCluster "c") ⟨400, body⟩ = .error e ∧
      (∃ b, ErrorBody.ofText body = some b ∧ b.code ∈ notFoundCodes) ∧ e.isNotFound = true ∧
      ∃ event, (r.delete "c" ()).session.calls = [event] ∧ event.failure = some e ∧
        (r.delete "c" ()).outcome = .ok () := by
  intro body e r
  have hrefused : isSuccess 400 = false := by decide
  have hbody : ErrorBody.ofText body = some ⟨"NOT_FOUND", ""⟩ := by decide +kernel
  have hdescribed : ∃ b, ErrorBody.ofText body = some b ∧ b.code ∈ notFoundCodes :=
    ⟨_, hbody, by decide⟩
  obtain ⟨hinterpret, -, hapi, -, hmissing, -, -, hlast, hdelete⟩ :=
    classifyError_consistent 400 body
  have hmissing : e.isNotFound = true := hmissing.2 ⟨hapi.2 (by decide), .inr hdescribed⟩
  have hfirst : ∃ event ∈ (r.delete "c" ()).session.calls, event.failure = some e := by
    decide +kernel
  obtain ⟨event, he, hf⟩ := hfirst
  obtain ⟨before, after, hc⟩ := List.append_of_mem he
  obtain rfl : after = [] := hlast r (.delete "c") () before after event hc hf
  refine ⟨hrefused, hinterpret hrefused _, hdescribed, hmissing, event, ?_, hf, ?_⟩
  · have hone : (r.delete "c" ()).session.calls.length = 1 := by decide +kernel
    rw [hc] at hone ⊢
    obtain rfl : before = [] := by simpa using hone
    rfl
  · exact (hdelete r "c" () event he hf).2 hmissing

end Http
end ClusterReconciliation
