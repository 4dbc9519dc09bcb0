import PodProbe.Proofs.Probe.Receive
import PodProbe.Proofs.Probe.Verdict
import PodProbe.Proofs.Text.Occurrence
import PodProbe.Proofs.Text.Trim

/-!
This module contains the rules by which responses are judged: in which of five ways a response is settled, and which
failure, body and payload a probe has from it. The rules are exclusive, and one of them always applies.
-/

namespace PodProbe.Probe

/-! ### Conditions of the rules -/

/-- Whether a content type is the expected one, apart from its parameters and from the case of letters. -/
def Meets (expected actual : String) : Prop :=
  ∃ part essence, Text.IsUpTo ';' actual.toList part ∧ Text.IsTrimmed part essence
    ∧ Text.lower essence = Text.lower expected.toList

/-- The content type that decides whether a body is read: the expected one, or the one at hand if none is expected. -/
def governingType? (q : Request) (r : Response) : Option String :=
  q.expectedContentType.or r.contentType

def SuitsType (q : Request) (r : Response) : Prop :=
  ∀ expected ∈ q.expectedContentType, ∃ actual ∈ r.contentType, Meets expected actual

def CallsForJson (q : Request) (r : Response) : Prop :=
  (∃ t ∈ governingType? q r, "json".toList <:+: t.toList) ∧ ∃ c ∈ r.body.toList, Text.isBlank c = false

theorem matchesContentType_iff {expected actual : String}
    : matchesContentType expected actual ↔ Meets expected actual := by
  unfold matchesContentType Meets essence
  rw [Text.sameIgnoringCase_iff]
  constructor
  . intro h
    exact ⟨_, _, Text.isUpTo_iff.2 rfl, Text.isTrimmed_trim _, h⟩
  . rintro ⟨part, essence, hpart, hessence, h⟩
    rw [Text.isUpTo_iff.1 hpart, Text.isTrimmed_iff.1 hessence]
    exact h

theorem acceptsContentType_iff {q : Request} {r : Response}
    : acceptsContentType q r.contentType ↔ SuitsType q r := by
  unfold acceptsContentType SuitsType
  cases q.expectedContentType with
  | none => simp
  | some expected => simp [Option.any_eq_true, matchesContentType_iff]

theorem namesJson_iff {t : String} : namesJson t ↔ "json".toList <:+: t.toList :=
  Text.occursIn_iff

theorem wantsJson_iff {q : Request} {r : Response}
    : wantsJson q r.contentType ↔ ∃ t ∈ governingType? q r, "json".toList <:+: t.toList := by
  unfold wantsJson governingType?
  cases q.expectedContentType with
  | none => simp only [Option.any_eq_true, Option.none_or, namesJson_iff, Option.mem_def]
  | some expected => simp [namesJson_iff]

theorem isBlank_eq_false_iff {r : Response} : r.isBlank = false ↔ ∃ c ∈ r.body.toList, Text.isBlank c = false := by
  unfold Response.isBlank
  rw [List.isEmpty_eq_false_iff, ne_eq, Text.trim_eq_nil_iff]
  simp

theorem isRead_iff_callsForJson {q : Request} {r : Response}
    : isRead q r ↔ r.status ∈ q.expectedStatuses ∧ SuitsType q r ∧ CallsForJson q r := by
  rw [isRead_iff, List.contains_iff_mem, acceptsContentType_iff, wantsJson_iff, isBlank_eq_false_iff]
  rfl

/-! ### The rules -/

/-- How a response to a request is settled: the failure, if any, the body that is kept, and the payload. -/
inductive Judged (q : Request) (r : Response) : Option Failure → Option String → Option Json → Prop where
  | unexpectedStatus (hstatus : r.status ∉ q.expectedStatuses) : Judged q r (some (.unexpectedStatus r.status)) none none
  | unexpectedType {expected : String} (hstatus : r.status ∈ q.expectedStatuses)
      (hexpected : q.expectedContentType = some expected) (htype : ¬ ∃ actual ∈ r.contentType, Meets expected actual)
      : Judged q r (some (.unexpectedContentType expected r.contentType)) (some r.body) none
  | malformed {text : String} (hstatus : r.status ∈ q.expectedStatuses) (htype : SuitsType q r)
      (hjson : CallsForJson q r) (hread : Json.ofText r.body = .error text)
      : Judged q r (some (.malformedJson text)) (some r.body) none
  | read {payload : Json} (hstatus : r.status ∈ q.expectedStatuses) (htype : SuitsType q r)
      (hjson : CallsForJson q r) (hread : Json.ofText r.body = .ok payload)
      : Judged q r none (some r.body) (some payload)
  | unread (hstatus : r.status ∈ q.expectedStatuses) (htype : SuitsType q r) (hjson : ¬ CallsForJson q r)
      : Judged q r none (some r.body) none

section

variable {q : Request} {r : Response} {failure? : Option Failure} {body? : Option String} {payload? : Option Json}

theorem verdict?_of_not_mem (hstatus : r.status ∉ q.expectedStatuses)
    : verdict? q r = some (.unexpectedStatus r.status) := by
  unfold verdict?
  rw [if_pos (by simpa using hstatus)]

theorem verdict?_of_not_suitsType (hstatus : r.status ∈ q.expectedStatuses) (htype : ¬ SuitsType q r)
    : verdict? q r = some (.unexpectedContentType (q.expectedContentType.getD "") r.contentType) := by
  have haccepts : acceptsContentType q r.contentType = false := eq_false_of_ne_true (mt acceptsContentType_iff.1 htype)
  unfold verdict?
  rw [if_neg (by simpa using hstatus), haccepts]
  rfl

theorem verdict?_of_suitsType (hstatus : r.status ∈ q.expectedStatuses) (htype : SuitsType q r)
    : verdict? q r
        =
      if isRead q r then
        match Json.ofText r.body with
        | .ok _ => none
        | .error text => some (.malformedJson text)
      else none := by
  unfold verdict?
  rw [if_neg (by simpa using hstatus), acceptsContentType_iff.2 htype]
  rfl

theorem broughtBody?_of_mem (hstatus : r.status ∈ q.expectedStatuses) : broughtBody? q r = some r.body :=
  if_pos (List.contains_iff_mem.2 hstatus)

theorem broughtBody?_of_not_mem (hstatus : r.status ∉ q.expectedStatuses) : broughtBody? q r = none :=
  if_neg (by simpa using hstatus)

theorem broughtJson?_of_isRead (h : isRead q r) : broughtJson? q r = (Json.ofText r.body).toOption :=
  if_pos h

theorem broughtJson?_of_not_isRead (h : ¬ (r.status ∈ q.expectedStatuses ∧ SuitsType q r ∧ CallsForJson q r))
    : broughtJson? q r = none :=
  if_neg (mt isRead_iff_callsForJson.1 h)

theorem Judged.eq (h : Judged q r failure? body? payload?)
    : verdict? q r = failure? ∧ broughtBody? q r = body? ∧ broughtJson? q r = payload? := by
  cases h with
  | unexpectedStatus hstatus =>
    refine ⟨verdict?_of_not_mem hstatus, broughtBody?_of_not_mem hstatus, broughtJson?_of_not_isRead ?_⟩
    exact fun hread => hstatus hread.1
  | @unexpectedType expected hstatus hexpected htype =>
    have hsuits : ¬ SuitsType q r := fun hsuits => htype (hsuits expected hexpected)
    refine ⟨?_, broughtBody?_of_mem hstatus, broughtJson?_of_not_isRead fun hread => hsuits hread.2.1⟩
    rw [verdict?_of_not_suitsType hstatus hsuits, hexpected]
    rfl
  | malformed hstatus htype hjson hread =>
    have hisRead : isRead q r := isRead_iff_callsForJson.2 ⟨hstatus, htype, hjson⟩
    refine ⟨?_, broughtBody?_of_mem hstatus, ?_⟩
    . rw [verdict?_of_suitsType hstatus htype, if_pos hisRead, hread]
    . rw [broughtJson?_of_isRead hisRead, hread]
      rfl
  | read hstatus htype hjson hread =>
    have hisRead : isRead q r := isRead_iff_callsForJson.2 ⟨hstatus, htype, hjson⟩
    refine ⟨?_, broughtBody?_of_mem hstatus, ?_⟩
    . rw [verdict?_of_suitsType hstatus htype, if_pos hisRead, hread]
    . rw [broughtJson?_of_isRead hisRead, hread]
      rfl
  | unread hstatus htype hjson =>
    have hisRead : ¬ isRead q r := fun hread => hjson (isRead_iff_callsForJson.1 hread).2.2
    refine ⟨?_, broughtBody?_of_mem hstatus, broughtJson?_of_not_isRead fun hread => hjson hread.2.2⟩
    rw [verdict?_of_suitsType hstatus htype, if_neg hisRead]

/-- There is always a rule that applies. -/
theorem exists_judged (q : Request) (r : Response) : ∃ failure? body? payload?, Judged q r failure? body? payload? := by
  by_cases hstatus : r.status ∈ q.expectedStatuses
  . by_cases htype : SuitsType q r
    . by_cases hjson : CallsForJson q r
      . cases hread : Json.ofText r.body with
        | ok payload => exact ⟨_, _, _, .read hstatus htype hjson hread⟩
        | error text => exact ⟨_, _, _, .malformed hstatus htype hjson hread⟩
      . exact ⟨_, _, _, .unread hstatus htype hjson⟩
    . rcases Classical.not_forall.1 htype with ⟨expected, himp⟩
      rcases Classical.not_imp.1 himp with ⟨hexpected, hmeets⟩
      exact ⟨_, _, _, .unexpectedType hstatus hexpected hmeets⟩
  . exact ⟨_, _, _, .unexpectedStatus hstatus⟩

theorem judged_iff
    : Judged q r failure? body? payload?
        ↔
      verdict? q r = failure? ∧ broughtBody? q r = body? ∧ broughtJson? q r = payload? := by
  constructor
  . exact Judged.eq
  . rintro ⟨rfl, rfl, rfl⟩
    rcases exists_judged q r with ⟨failure?, body?, payload?, h⟩
    rw [h.eq.1, h.eq.2.1, h.eq.2.2]
    exact h

/-- Whether no rule blames a response: its status and its type suit, and it is well-formed where it is read. -/
def Passes (q : Request) (r : Response) : Prop :=
  r.status ∈ q.expectedStatuses ∧ SuitsType q r ∧ (CallsForJson q r → ∃ payload, Json.ofText r.body = .ok payload)

theorem verdict?_eq_none_iff : verdict? q r = none ↔ Passes q r := by
  rcases exists_judged q r with ⟨failure?, body?, payload?, h⟩
  rw [h.eq.1]
  cases h with
  | unexpectedStatus hstatus => exact iff_of_false (by simp) fun hpasses => hstatus hpasses.1
  | @unexpectedType expected hstatus hexpected htype =>
    exact iff_of_false (by simp) fun hpasses => htype (hpasses.2.1 expected hexpected)
  | malformed hstatus htype hjson hread =>
    refine iff_of_false (by simp) fun hpasses => ?_
    obtain ⟨payload, hpayload⟩ := hpasses.2.2 hjson
    rw [hread] at hpayload
    cases hpayload
  | @read payload hstatus htype hjson hread => exact iff_of_true rfl ⟨hstatus, htype, fun _ => ⟨payload, hread⟩⟩
  | unread hstatus htype hjson => exact iff_of_true rfl ⟨hstatus, htype, fun hread => absurd hread hjson⟩

theorem broughtJson?_eq_some_iff {payload : Json}
    : broughtJson? q r = some payload
        ↔
      (r.status ∈ q.expectedStatuses ∧ SuitsType q r ∧ CallsForJson q r) ∧ Json.ofText r.body = .ok payload := by
  unfold broughtJson?
  rw [← isRead_iff_callsForJson]
  cases isRead q r <;> cases Json.ofText r.body <;> simp [Except.toOption]

end

theorem isFailed_receive_iff {p : Probe} {reply : Reply}
    : (p.receive reply).isFailed = false ↔ ∃ r, reply = .response r ∧ Passes p.request r := by
  cases reply with
  | response r => simp [isFailed, receive, failure?_respond, verdict?_eq_none_iff]
  | failure f chain =>
    obtain ⟨kept, hkept⟩ := (p.fail f).recordChain_eq chain
    rw [receive, hkept]
    simp [isFailed, fail]

/-- For probes without a payload of an earlier attempt, which would stay where there is none to replace it. -/
theorem json_receive_iff {p : Probe} {reply : Reply} {payload : Json} (h : p.json = none)
    : (p.receive reply).isFailed = false ∧ (p.receive reply).json = some payload
        ↔
      ∃ r, reply = .response r
        ∧ r.status ∈ p.request.expectedStatuses ∧ SuitsType p.request r ∧ CallsForJson p.request r
        ∧ Json.ofText r.body = .ok payload := by
  rw [isFailed_receive_iff]
  constructor
  . rintro ⟨⟨r, rfl, _⟩, hjson⟩
    rw [receive, json_respond, h, Option.or_none] at hjson
    obtain ⟨⟨hstatus, htype, hcalls⟩, hread⟩ := broughtJson?_eq_some_iff.1 hjson
    exact ⟨r, rfl, hstatus, htype, hcalls, hread⟩
  . rintro ⟨r, rfl, hstatus, htype, hcalls, hread⟩
    refine ⟨⟨r, rfl, hstatus, htype, fun _ => ⟨payload, hread⟩⟩, ?_⟩
    rw [receive, json_respond, h, Option.or_none]
    exact broughtJson?_eq_some_iff.2 ⟨⟨hstatus, htype, hcalls⟩, hread⟩

/-- For probes that were not attempted yet, since a body and a payload of an earlier attempt may stay. -/
theorem judged_respond_iff (endpoint : Endpoint) (path : String) (request : Request) (r : Response)
    : let fresh : Probe := { endpoint, path, request }
      (∀ failure? body? payload?,
        Judged request r failure? body? payload?
          ↔
        (fresh.respond r).failure? = failure? ∧ (fresh.respond r).body = body? ∧ (fresh.respond r).json = payload?)
      ∧ (fresh.respond r).chain = r.chain
      ∧ (fresh.respond r).status = some r.status
      ∧ (fresh.respond r).contentType = r.contentType := by
  intro fresh
  have hrespond := fresh.respond_eq_of_request r
  refine ⟨?_, by rw [hrespond], by rw [hrespond], by rw [hrespond]⟩
  intro failure? body? payload?
  rw [judged_iff, failure?_respond, body_respond, json_respond, Option.or_none, Option.or_none]

end PodProbe.Probe
