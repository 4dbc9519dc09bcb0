import PodProbe.Proofs.Bytes.Order
import PodProbe.Proofs.Discovery.Course
import PodProbe.Proofs.Json.Member
import PodProbe.Proofs.Probe.Judgement

/-!
This module contains what a run makes of the reply to its health check: a report of all components if the reply is an
object that has nothing but truth values, and no report at all otherwise.
-/

namespace PodProbe

theorem mapM_eq_some_iff_eq_map {α β : Type} {f : α → Option β} {g : β → α} (h : ∀ x y, f x = some y ↔ x = g y)
    (xs : List α) (ys : List β)
    : xs.mapM f = some ys ↔ xs = ys.map g := by
  induction xs generalizing ys with
  | nil => cases ys <;> simp
  | cons x xs ih =>
    rw [List.mapM_cons]
    cases ys with
    | nil => simp [Option.bind_eq_some_iff]
    | cons y ys => simp [Option.bind_eq_some_iff, h, ih]

namespace Health

/-- The members of the object that tells a health. -/
def members (h : Health) : List (String × Json) :=
  h.components.map fun c => (c.name, .bool c.healthy)

theorem mem_members_iff {h : Health} {name : String} {value : Json}
    : (name, value) ∈ h.members ↔ ∃ flag, value = .bool flag ∧ ⟨name, flag⟩ ∈ h.components := by
  unfold members
  rw [List.mem_map]
  constructor
  . rintro ⟨c, hc, heq⟩
    cases heq
    exact ⟨c.healthy, rfl, hc⟩
  . rintro ⟨flag, rfl, hc⟩
    exact ⟨_, hc, rfl⟩

theorem ofJson?_eq_some_iff {j : Json} {h : Health} : ofJson? j = some h ↔ j = .obj h.members := by
  have hmember (m : String × Json) (c : HealthComponent)
      : m.2.bool?.map (HealthComponent.mk m.1) = some c ↔ m = (c.name, .bool c.healthy) := by
    rcases m with ⟨name, value⟩
    rcases c with ⟨name', healthy⟩
    cases value <;> simp [Json.bool?]
  rcases h with ⟨components⟩
  unfold ofJson? members
  cases j with
  | obj members =>
    rw [Json.obj.injEq, ← mapM_eq_some_iff_eq_map hmember]
    simp [Json.members?, Option.bind_eq_some_iff]
  | _ => simp [Json.members?]

theorem exists_members_eq {members : List (String × Json)} (h : ∀ m ∈ members, ∃ flag, m.2 = .bool flag)
    : ∃ health : Health, members = health.members := by
  induction members with
  | nil => exact ⟨{ components := [] }, rfl⟩
  | cons m members ih =>
    rw [List.forall_mem_cons] at h
    obtain ⟨⟨flag, hflag⟩, hrest⟩ := h
    obtain ⟨health, rfl⟩ := ih hrest
    refine ⟨{ components := ⟨m.1, flag⟩ :: health.components }, ?_⟩
    unfold Health.members
    rw [List.map_cons, ← hflag]

/-- What a health tells of an object: each key is a component, whose value is the one that is given for it last. -/
structure Tells (h : Health) (written : List (String × Json)) : Prop where
  components_iff : ∀ c, c ∈ h.components ↔ written.reverse.lookup c.name = some (.bool c.healthy)
  ascending : h.components.Pairwise fun c d => Bytes.ofString c.name < Bytes.ofString d.name
  isHealthy_iff : h.isHealthy ↔ ∀ key value, written.reverse.lookup key = some value → value = .bool true

theorem tells_of_collect_eq {h : Health} {written : List (String × Json)} (hcollect : Json.collect written = h.members)
    : h.Tells written := by
  have hascending : Json.Ascending h.members := hcollect ▸ Json.ascending_collect written
  have hlookup (key : String) (value : Json)
      : written.reverse.lookup key = some value ↔ ∃ flag, value = .bool flag ∧ ⟨key, flag⟩ ∈ h.components := by
    rw [← Json.lookup_collect, hcollect, hascending.lookup_eq_some_iff, mem_members_iff]
  constructor
  case components_iff =>
    intro c
    rw [hlookup]
    simp
  case ascending => exact (List.pairwise_map.1 hascending).imp Bytes.ofString_lt
  case isHealthy_iff =>
    unfold isHealthy
    rw [List.all_eq_true]
    constructor
    . intro hall key value hvalue
      obtain ⟨flag, rfl, hmem⟩ := (hlookup key value).1 hvalue
      rw [show flag = true from hall _ hmem]
    . intro hall c hc
      exact Json.bool.inj (hall c.name (.bool c.healthy) ((hlookup _ _).2 ⟨c.healthy, rfl, hc⟩))

end Health

namespace Discovery

/-- Whether a reply to a health check brings a payload. -/
def Brings (reply : Reply) (payload : Json) : Prop :=
  ∃ r, reply = .response r ∧ r.status = 200
    ∧ (∃ t ∈ r.contentType, Probe.Meets "application/json" t)
    ∧ (∃ c ∈ r.body.toList, Text.isBlank c = false)
    ∧ Json.ofText r.body = .ok payload

/-- Whether the payload of a reply is an object, and which pairs are written in it. -/
def Gives (reply : Reply) (written : List (String × Json)) : Prop :=
  Brings reply (.obj (Json.collect written)) ∧ ∃ r, reply = .response r ∧ Json.Spells r.body written

theorem Brings.unique {reply : Reply} {payload payload' : Json} (h : Brings reply payload)
    (h' : Brings reply payload')
    : payload = payload' := by
  obtain ⟨r, rfl, _, _, _, hread⟩ := h
  obtain ⟨_, hreply, _, _, _, hread'⟩ := h'
  cases hreply
  exact Except.ok.inj (hread.symm.trans hread')

theorem Brings.exists_gives {reply : Reply} {members : List (String × Json)} (h : Brings reply (.obj members))
    : ∃ written, Gives reply written ∧ Json.collect written = members := by
  obtain ⟨r, hreply, _, _, _, hread⟩ := id h
  obtain ⟨written, hspells, rfl⟩ := Json.exists_spells_of_ofText hread
  exact ⟨written, ⟨h, r, hreply, hspells⟩, rfl⟩

/-- What a report tells of the health of a pod, which is all that the reply to the health check tells or nothing. -/
structure Diagnosed (pod : Endpoint) (reply : Reply) (r : Report) : Prop where
  webUrl_eq : r.configuration.webUrl = some pod.baseUrl
  health_iff : r.health.isSome
    ↔ ∃ written, Gives reply written
        ∧ ∀ key value, written.reverse.lookup key = some value → ∃ flag, value = .bool flag
  tells : ∀ health ∈ r.health, ∀ written, Gives reply written → health.Tells written
  podUrl_eq : r.configuration.podUrl = r.health.map fun _ => pod.baseUrl

variable (settings : Settings) (e : Executor) (pod : Endpoint)

theorem json_healthProbe_iff {payload : Json}
    : (e.execute (healthProbe pod)).isFailed = false ∧ (e.execute (healthProbe pod)).json = some payload
        ↔
      Brings (e.reply (healthProbe pod)) payload := by
  have hjson : "json".toList <:+: jsonType.toList := by decide
  unfold Executor.execute
  rw [Probe.json_receive_iff rfl]
  unfold Brings Probe.SuitsType Probe.CallsForJson Probe.governingType? healthProbe Endpoint.probe
  simp only [Option.mem_def, Option.some_or, Option.some.injEq, exists_eq_left', forall_eq', hjson, true_and,
    List.mem_singleton]
  rfl

theorem healthTold?_eq_some_iff {health : Health}
    : healthTold? (e.execute (healthProbe pod)) = some health
        ↔
      Brings (e.reply (healthProbe pod)) (.obj health.members) := by
  rw [← json_healthProbe_iff]
  unfold healthTold?
  cases (e.execute (healthProbe pod)).isFailed with
  | true => simp
  | false => simp [Option.bind_eq_some_iff, Health.ofJson?_eq_some_iff]

theorem podUrl_podReport (certificates : Harvest)
    : let report := podReport settings e pod certificates
      report.configuration.podUrl = report.health.map fun _ => pod.baseUrl := by
  dsimp only
  rw [health_podReport]
  unfold podReport
  cases healthTold? (e.execute (healthProbe pod)) <;> rfl

theorem diagnosed_podReport (certificates : Harvest)
    : Diagnosed pod (e.reply (healthProbe pod)) (podReport settings e pod certificates) := by
  have hhealth (health : Health)
      : (podReport settings e pod certificates).health = some health
          ↔
        Brings (e.reply (healthProbe pod)) (.obj health.members) := by
    rw [health_podReport]
    apply healthTold?_eq_some_iff
  constructor
  case webUrl_eq => apply webUrl_podReport
  case health_iff =>
    rw [Option.isSome_iff_exists]
    constructor
    . rintro ⟨health, h⟩
      obtain ⟨written, hgives, hcollect⟩ := ((hhealth health).1 h).exists_gives
      refine ⟨written, hgives, fun key value hvalue => ?_⟩
      rw [← Json.lookup_collect, (Json.ascending_collect written).lookup_eq_some_iff, hcollect] at hvalue
      obtain ⟨flag, hflag, _⟩ := Health.mem_members_iff.1 hvalue
      exact ⟨flag, hflag⟩
    . rintro ⟨written, hgives, hflags⟩
      have hmembers : ∀ m ∈ Json.collect written, ∃ flag, m.2 = .bool flag := by
        intro m hm
        apply hflags m.1
        rw [← Json.lookup_collect]
        exact (Json.ascending_collect written).lookup_eq_some_iff.2 hm
      obtain ⟨health, hmembers⟩ := Health.exists_members_eq hmembers
      refine ⟨health, (hhealth health).2 ?_⟩
      rw [← hmembers]
      exact hgives.1
  case tells =>
    intro health h written hgives
    exact Health.tells_of_collect_eq (Json.obj.inj (hgives.1.unique ((hhealth health).1 h)))
  case podUrl_eq => apply podUrl_podReport

theorem exists_podProbes_eq : ∃ later, podProbes settings e pod = healthProbe pod :: later := by
  unfold podProbes
  split
  . exact ⟨_, rfl⟩
  . exact ⟨[], rfl⟩

theorem diagnosed_run (store : TokenStore) (h : (run settings e store).value.1.site = .platform)
    : ∃ port ∈ podPorts,
        let pod := settings.endpoint port
        let run := run settings e store
        e.exchange (healthProbe pod) ∈ run.journal.exchanges
          ∧ Diagnosed pod (e.reply (healthProbe pod)) run.value.1 := by
  rw [site_run, isPlatform_detectSite] at h
  obtain ⟨pod, hfound⟩ := Option.isSome_iff_exists.1 h
  obtain ⟨port, hport, rfl⟩ := mem_endpoints_detectSite settings e { store } pod hfound
  obtain ⟨certificates, hreport, _⟩ := value_run settings e store
  rw [siteReport, hfound, Option.elim_some] at hreport
  refine ⟨port, hport, ?_⟩
  dsimp only
  rw [hreport, exchanges_run]
  refine ⟨?_, diagnosed_podReport _ _ _ _⟩
  obtain ⟨later, hlater⟩ := exists_podProbes_eq settings e (settings.endpoint port)
  dsimp only
  rw [hfound, Option.elim_some, hlater]
  simp

-- A key that is given twice makes one component, with the later value.
theorem diagnosed_run_acme
    : let settings : Settings := { name := "acme" }
      let flags : Response :=
        { status := 200
          contentType := some "Application/JSON; charset=utf-8"
          body := "\x7b\"pod\": false, \"agent\": false, \"pod\": true\x7d"
          chain := [] }
      let page : Response := { status := 200, contentType := some "text/html", body := "", chain := [] }
      let e := Executor.ofReplies [((healthProbe (settings.endpoint 443)).url, .response flags)] (.response page)
      let run := run settings e []
      run.value.1.site = .platform
        ∧ run.value.1.health = some { components := [⟨"agent", false⟩, ⟨"pod", true⟩] }
        ∧ ∃ port ∈ podPorts,
            let pod := settings.endpoint port
            e.exchange (healthProbe pod) ∈ run.journal.exchanges
              ∧ Diagnosed pod (e.reply (healthProbe pod)) run.value.1 := by
  intro settings flags page e run
  have h : run.value.1.site = .platform := by
    rw [site_run]
    decide
  refine ⟨h, ?_, diagnosed_run settings e [] h⟩
  rw [health_run]
  decide +kernel

end Discovery

end PodProbe
