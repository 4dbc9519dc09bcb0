import PodProbe.Probe

/-!
This module contains what a response makes of a probe: the verdict, the body and the payload that it brings depend on
the request and the response alone, and where it brings no body or no payload the probe keeps the one that it has.
-/

namespace PodProbe

def Response.isBlank (r : Response) : Bool :=
  (Text.trim r.body.toList).isEmpty

namespace Probe

/-- Whether a response is read as JSON, because it passes all checks and is of a type that calls for it. -/
def isRead (q : Request) (r : Response) : Bool :=
  q.expectedStatuses.contains r.status && acceptsContentType q r.contentType && wantsJson q r.contentType
    && !r.isBlank

theorem isRead_iff {q : Request} {r : Response}
    : isRead q r
        ↔
      q.expectedStatuses.contains r.status ∧ acceptsContentType q r.contentType ∧ wantsJson q r.contentType
        ∧ r.isBlank = false := by
  unfold isRead
  simp [and_assoc]

def verdict? (q : Request) (r : Response) : Option Failure :=
  if !q.expectedStatuses.contains r.status then some (.unexpectedStatus r.status)
  else if !acceptsContentType q r.contentType then
    some (.unexpectedContentType (q.expectedContentType.getD "") r.contentType)
  else if isRead q r then
    match Json.ofText r.body with
    | .ok _ => none
    | .error text => some (.malformedJson text)
  else none

def broughtBody? (q : Request) (r : Response) : Option String :=
  if q.expectedStatuses.contains r.status then some r.body else none

def broughtJson? (q : Request) (r : Response) : Option Json :=
  if isRead q r then (Json.ofText r.body).toOption else none

theorem respond_eq_of_request (p : Probe) (r : Response)
    : p.respond r
        =
      { p with
        chain := r.chain
        status := some r.status
        contentType := r.contentType
        body := (broughtBody? p.request r).or p.body
        json := (broughtJson? p.request r).or p.json
        failure? := verdict? p.request r
        isFailedCertAuth := false
        isValid := false } := by
  unfold respond verdict? broughtBody? broughtJson? isRead Response.isBlank
  dsimp only
  cases p.request.expectedStatuses.contains r.status with
  | false => rfl
  | true =>
    cases acceptsContentType p.request r.contentType with
    | false => rfl
    | true =>
      cases wantsJson p.request r.contentType with
      | false => rfl
      | true =>
        cases (Text.trim r.body.toList).isEmpty with
        | true => rfl
        | false => cases Json.ofText r.body <;> rfl

theorem body_respond (p : Probe) (r : Response) : (p.respond r).body = (broughtBody? p.request r).or p.body := by
  rw [respond_eq_of_request]

theorem json_respond (p : Probe) (r : Response) : (p.respond r).json = (broughtJson? p.request r).or p.json := by
  rw [respond_eq_of_request]

theorem failure?_respond (p : Probe) (r : Response) : (p.respond r).failure? = verdict? p.request r := by
  rw [respond_eq_of_request]

end Probe

end PodProbe
