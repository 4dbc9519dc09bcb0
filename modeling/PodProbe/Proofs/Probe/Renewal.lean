import PodProbe.Discovery
import PodProbe.Proofs.Probe.Verdict

/-!
This module contains what a response leaves of the attempts before it. Verdict, flags, status and chain are those of
the response; a body and a payload of earlier attempts stay where the response brings none of its own.
-/

namespace PodProbe.Probe

/-- Whether two probes ask for the same, whatever came of it so far. -/
structure SameErrand (p q : Probe) : Prop where
  endpoint : p.endpoint = q.endpoint
  path : p.path = q.path
  request : p.request = q.request

structure SameVerdict (p q : Probe) : Prop where
  status : p.status = q.status
  contentType : p.contentType = q.contentType
  failure? : p.failure? = q.failure?
  isFailedCertAuth : p.isFailedCertAuth = q.isFailedCertAuth
  isValid : p.isValid = q.isValid
  chain : p.chain = q.chain

structure SameResult (p q : Probe) : Prop extends SameVerdict p q where
  body : p.body = q.body
  json : p.json = q.json

theorem sameErrand_respond (p : Probe) (r : Response) : (p.respond r).SameErrand p := by
  rw [respond_eq_of_request]
  exact ⟨rfl, rfl, rfl⟩

theorem or_eq_or_iff {α : Type} {x y z : Option α} : x.or y = x.or z ↔ x.isSome ∨ y = z := by
  cases x <;> simp

theorem sameVerdict_respond {p q : Probe} (h : p.SameErrand q) (r : Response)
    : (p.respond r).SameVerdict (q.respond r) := by
  rw [p.respond_eq_of_request, q.respond_eq_of_request, ← h.request]
  exact ⟨rfl, rfl, rfl, rfl, rfl, rfl⟩

theorem renewed_respond {p q : Probe} (h : p.SameErrand q) (r : Response)
    : (p.respond r).SameVerdict (q.respond r)
      ∧ ((p.respond r).SameResult (q.respond r)
          ↔
        ((broughtBody? p.request r).isSome ∨ p.body = q.body)
          ∧ ((broughtJson? p.request r).isSome ∨ p.json = q.json)) := by
  have hverdict : (p.respond r).SameVerdict (q.respond r) := sameVerdict_respond h r
  have hbody : (p.respond r).body = (q.respond r).body ↔ (broughtBody? p.request r).isSome ∨ p.body = q.body := by
    rw [body_respond, body_respond, ← h.request, or_eq_or_iff]
  have hjson : (p.respond r).json = (q.respond r).json ↔ (broughtJson? p.request r).isSome ∨ p.json = q.json := by
    rw [json_respond, json_respond, ← h.request, or_eq_or_iff]
  rw [← hbody, ← hjson]
  refine ⟨hverdict, fun hsame => ⟨hsame.body, hsame.json⟩, ?_⟩
  rintro ⟨hbodies, hjsons⟩
  exact { toSameVerdict := hverdict, body := hbodies, json := hjsons }

theorem renewed_respond_granted
    : let login :=
        ({ name := "acme", suffix := "", domain := ".symphony.com", port := 8444, basePath := "/sessionauth" }
          : Endpoint).probe Discovery.authenticatePath (some Discovery.jsonType)
      let granted (token : String) : Response :=
        { status := 200, contentType := some "application/json", body := "\x7b\"token\":\"" ++ token ++ "\"\x7d"
          chain := [] }
      (login.respond (granted "a")).SameErrand login
        ∧ ((login.respond (granted "a")).respond (granted "b")).SameResult (login.respond (granted "b")) := by
  intro login granted
  have h : (login.respond (granted "a")).SameErrand login := sameErrand_respond login (granted "a")
  refine ⟨h, (renewed_respond h (granted "b")).2.2 ⟨Or.inl ?_, Or.inl ?_⟩⟩
  . decide +kernel
  . decide +kernel

/-- A token of an earlier attempt is still read from a probe whose latest attempt was rejected. -/
theorem not_renewed_respond_rejected
    : let login :=
        ({ name := "acme", suffix := "", domain := ".symphony.com", port := 8444, basePath := "/sessionauth" }
          : Endpoint).probe Discovery.authenticatePath (some Discovery.jsonType)
      let granted : Response :=
        { status := 200, contentType := some "application/json", body := "\x7b\"token\":\"a\"\x7d", chain := [] }
      let rejected : Response := { status := 401, contentType := some "application/json", body := "", chain := [] }
      (login.respond granted).SameErrand login
        ∧ Discovery.tokenOf? ((login.respond granted).respond rejected) = some "a"
        ∧ Discovery.tokenOf? (login.respond rejected) = none
        ∧ ¬ ((login.respond granted).respond rejected).SameResult (login.respond rejected) := by
  intro login granted rejected
  have htold : Discovery.tokenOf? ((login.respond granted).respond rejected) = some "a" := by
    decide +kernel
  have huntold : Discovery.tokenOf? (login.respond rejected) = none := by
    decide +kernel
  refine ⟨sameErrand_respond login granted, htold, huntold, ?_⟩
  intro hsame
  unfold Discovery.tokenOf? at htold huntold
  rw [hsame.json, huntold] at htold
  cases htold

end PodProbe.Probe
