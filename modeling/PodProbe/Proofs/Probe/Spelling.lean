import PodProbe.Discovery
import PodProbe.Proofs.Probe.Verdict
import PodProbe.Proofs.Text.Lower

/-!
This module contains how far the letter case of a content type matters. It does not matter for whether the type is the
expected one; where no type is expected, it decides whether the type names JSON, and thus whether the body is read.
-/

namespace PodProbe

namespace Probe

/-- Whether two content types, if any, are the same but for the case of their letters. -/
def SameType (a b : Option String) : Prop :=
  a.map (fun t => Text.lower t.toList) = b.map (fun t => Text.lower t.toList)

theorem lower_essence (t : String)
    : Text.lower (essence t) = Text.trim ((Text.lower t.toList).takeWhile (· != ';')) := by
  unfold essence
  rw [Text.lower_trim, Text.lower_takeWhile Text.toLower_ne_semicolon]

theorem matchesContentType_congr {a b : String} (h : Text.lower a.toList = Text.lower b.toList) (expected : String)
    : matchesContentType expected a = matchesContentType expected b := by
  unfold matchesContentType Text.sameIgnoringCase
  rw [lower_essence, lower_essence, h]

theorem acceptsContentType_congr (q : Request) {a b : Option String} (h : SameType a b)
    : acceptsContentType q a = acceptsContentType q b := by
  unfold acceptsContentType
  cases q.expectedContentType with
  | none => rfl
  | some expected =>
    unfold SameType at h
    cases a with
    | none =>
      cases b with
      | none => rfl
      | some b => cases h
    | some a =>
      cases b with
      | none => cases h
      | some b => exact matchesContentType_congr (Option.some.inj h) expected

/-- Whether two probes failed for the same kind of reason, if at all, and have the same payload and body. -/
structure Concurs (p q : Probe) : Prop where
  kind : p.failure?.map Failure.kind = q.failure?.map Failure.kind
  json : p.json = q.json
  body : p.body = q.body

/-- A body that is read shows: it gives a payload, unless it makes the attempt fail. -/
theorem isSome_broughtJson?_of_verdict? {q : Request} {r : Response} (hread : isRead q r) (h : verdict? q r = none)
    : (broughtJson? q r).isSome := by
  obtain ⟨hstatus, htype, _, _⟩ := isRead_iff.1 hread
  unfold verdict? at h
  unfold broughtJson?
  rw [hstatus, htype, hread] at h
  rw [if_pos hread]
  cases hjson : Json.ofText r.body with
  | ok json => rfl
  | error text => simp [hjson] at h

theorem not_alike_of_isRead {q : Request} {r r' : Response} (hread : isRead q r) (hunread : isRead q r' = false)
    (hstatus : r.status = r'.status) (htype : acceptsContentType q r.contentType = acceptsContentType q r'.contentType)
    (hkind : (verdict? q r).map Failure.kind = (verdict? q r').map Failure.kind)
    : broughtJson? q r ≠ broughtJson? q r' := by
  have hpassed := isRead_iff.1 hread
  have hverdict' : verdict? q r' = none := by
    unfold verdict?
    rw [← hstatus, ← htype, hpassed.1, hpassed.2.1, hunread]
    rfl
  have hverdict : verdict? q r = none := by
    rw [hverdict'] at hkind
    exact Option.map_eq_none_iff.1 hkind
  have hjson : broughtJson? q r' = none := by
    unfold broughtJson?
    rw [hunread]
    rfl
  intro heq
  have hsome := isSome_broughtJson?_of_verdict? hread hverdict
  rw [heq, hjson] at hsome
  cases hsome

section

variable (q : Request) (r : Response) {contentType : Option String} (h : SameType r.contentType contentType)

include h in
theorem kind_verdict?_congr (hread : isRead q r = isRead q { r with contentType })
    : (verdict? q r).map Failure.kind = (verdict? q { r with contentType }).map Failure.kind := by
  unfold verdict?
  rw [← hread, ← acceptsContentType_congr q h]
  dsimp only
  cases q.expectedStatuses.contains r.status with
  | false => rfl
  | true => cases acceptsContentType q r.contentType <;> rfl

theorem broughtJson?_congr (hread : isRead q r = isRead q { r with contentType })
    : broughtJson? q r = broughtJson? q { r with contentType } := by
  unfold broughtJson?
  rw [← hread]

include h in
theorem alike_iff
    : (verdict? q r).map Failure.kind = (verdict? q { r with contentType }).map Failure.kind
        ∧ broughtJson? q r = broughtJson? q { r with contentType }
      ↔
        isRead q r = isRead q { r with contentType } := by
  have htype := acceptsContentType_congr q h
  constructor
  . rintro ⟨hkind, hjson⟩
    cases hread : isRead q r with
    | true =>
      cases hread' : isRead q { r with contentType } with
      | true => rfl
      | false => exact absurd hjson (not_alike_of_isRead hread hread' rfl htype hkind)
    | false =>
      cases hread' : isRead q { r with contentType } with
      | true => exact absurd hjson.symm (not_alike_of_isRead hread' hread rfl htype.symm hkind.symm)
      | false => rfl
  . intro hread
    exact ⟨kind_verdict?_congr q r h hread, broughtJson?_congr q r hread⟩

include h in
theorem isRead_congr_iff
    : isRead q r = isRead q { r with contentType }
        ↔
      q.expectedContentType.isSome ∨ q.expectedStatuses.contains r.status = false ∨ r.isBlank
        ∨ r.contentType.any namesJson = contentType.any namesJson := by
  unfold isRead wantsJson Response.isBlank
  rw [← acceptsContentType_congr q h]
  dsimp only
  unfold acceptsContentType
  cases q.expectedContentType with
  | some expected => simp
  | none =>
    cases q.expectedStatuses.contains r.status <;> cases (Text.trim r.body.toList).isEmpty <;> simp

end

/-- For probes that were not attempted yet, since a payload of an earlier attempt stays where nothing is read. -/
theorem concurs_respond_iff (endpoint : Endpoint) (path : String) (request : Request) (r : Response)
    {contentType : Option String} (h : SameType r.contentType contentType)
    : let fresh : Probe := { endpoint, path, request }
      (fresh.respond r).Concurs (fresh.respond { r with contentType })
        ↔
      request.expectedContentType.isSome ∨ request.expectedStatuses.contains r.status = false ∨ r.isBlank
        ∨ r.contentType.any namesJson = contentType.any namesJson := by
  intro fresh
  have hkind (r : Response) : (fresh.respond r).failure? = verdict? request r := failure?_respond fresh r
  have hjson (r : Response) : (fresh.respond r).json = broughtJson? request r := by
    rw [json_respond, Option.or_none]
  rw [← isRead_congr_iff request r h, ← alike_iff request r h]
  constructor
  . intro hconcurs
    have hkinds := hconcurs.kind
    have hjsons := hconcurs.json
    rw [hkind, hkind] at hkinds
    rw [hjson, hjson] at hjsons
    exact ⟨hkinds, hjsons⟩
  . rintro ⟨hkinds, hjsons⟩
    constructor
    . rw [hkind, hkind, hkinds]
    . rw [hjson, hjson, hjsons]
    . rw [body_respond, body_respond]
      rfl

theorem concurs_respond_health
    : let pod : Endpoint := { name := "acme", suffix := "", domain := ".symphony.com", port := 443, basePath := "" }
      let emptyObject (contentType : String) : Response :=
        { status := 200, contentType := some contentType, body := "\x7b\x7d", chain := [] }
      SameType (some "application/json") (some "Application/JSON")
        ∧ ((Discovery.healthProbe pod).respond (emptyObject "application/json")).Concurs
            ((Discovery.healthProbe pod).respond (emptyObject "Application/JSON")) := by
  intro pod emptyObject
  have h : SameType (some "application/json") (some "Application/JSON") := by
    unfold SameType
    decide
  refine ⟨h, ?_⟩
  exact (concurs_respond_iff pod Discovery.healthCheckPath { expectedContentType := some Discovery.jsonType }
    (emptyObject "application/json") h).2 (Or.inl rfl)

/-- Where no type is expected, JSON is only recognised in small letters. -/
theorem not_concurs_respond_checkAuth
    : let pod : Endpoint := { name := "acme", suffix := "", domain := ".symphony.com", port := 443, basePath := "" }
      let emptyObject (contentType : String) : Response :=
        { status := 200, contentType := some contentType, body := "\x7b\x7d", chain := [] }
      SameType (some "application/json") (some "Application/JSON")
        ∧ ((Discovery.checkAuthProbe pod {}).respond (emptyObject "application/json")).json.isSome
        ∧ ((Discovery.checkAuthProbe pod {}).respond (emptyObject "Application/JSON")).json = none
        ∧ ¬ ((Discovery.checkAuthProbe pod {}).respond (emptyObject "application/json")).Concurs
            ((Discovery.checkAuthProbe pod {}).respond (emptyObject "Application/JSON")) := by
  intro pod emptyObject
  have h : SameType (some "application/json") (some "Application/JSON") := by
    unfold SameType
    decide
  have hread : ((Discovery.checkAuthProbe pod {}).respond (emptyObject "application/json")).json.isSome := by
    decide +kernel
  have hunread : ((Discovery.checkAuthProbe pod {}).respond (emptyObject "Application/JSON")).json = none := by
    rw [← Option.isNone_iff_eq_none]
    decide +kernel
  refine ⟨h, hread, hunread, ?_⟩
  intro hconcurs
  rw [hconcurs.json, hunread] at hread
  cases hread

end Probe

end PodProbe
