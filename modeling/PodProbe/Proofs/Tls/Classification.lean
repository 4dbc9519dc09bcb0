import PodProbe.Proofs.ErrorChain.Walk
import PodProbe.Proofs.Text.Occurrence
import PodProbe.Tls.Failure

/-!
This module contains what a failed handshake is taken for: a demand for a client certificate if any error that is met
demands one, no matter which errors are met before it; otherwise the first error of TLS that is met, if there is one.
-/

namespace PodProbe

namespace Tls

/-! ### Demands -/

/-- Whether a text shows one of the markers, in letters of whatever case. -/
def ShowsMarker (s : String) : Prop :=
  ∃ m ∈ clientCertificateMarkers, Text.lower m.toList <:+: Text.lower s.toList

theorem lower_of_mem_markers : ∀ m ∈ clientCertificateMarkers, Text.lower m.toList = m.toList := by
  decide

theorem demandsClientCertificate_iff {s : String} : demandsClientCertificate s ↔ ShowsMarker s := by
  unfold demandsClientCertificate ShowsMarker
  rw [List.any_eq_true]
  apply exists_congr
  intro m
  apply and_congr_right
  intro hm
  rw [Text.occursIn_iff, lower_of_mem_markers m hm]

def demandingAlerts : List Alert :=
  [.badCertificate, .certificateUnknown, .certificateRequired]

theorem Alert.demandsClientCertificate_iff {a : Alert} : a.demandsClientCertificate ↔ a ∈ demandingAlerts := by
  unfold Alert.demandsClientCertificate demandingAlerts
  simp [or_assoc]

theorem Error.demandsClientCertificate_iff {e : Error}
    : e.demandsClientCertificate ↔ (∃ a ∈ demandingAlerts, e = .alertReceived a) ∨ ShowsMarker e.message := by
  cases e with
  | alertReceived a =>
    unfold demandsClientCertificate
    rw [Bool.or_eq_true, Alert.demandsClientCertificate_iff, Tls.demandsClientCertificate_iff]
    simp
  | _ =>
    unfold demandsClientCertificate
    rw [Tls.demandsClientCertificate_iff]
    simp

end Tls

namespace ErrorChain

/-- Whether an error, for itself, says that the server wants a client certificate. -/
def Demands (e : ErrorChain) : Prop :=
  (∃ a ∈ Tls.demandingAlerts, e = tls (.alertReceived a)) ∨ Tls.ShowsMarker e.message

def demands : ErrorChain → Bool
  | tls e => e.demandsClientCertificate
  | e => Tls.demandsClientCertificate e.message

def tlsMessage? : ErrorChain → Option String
  | tls e => some e.message
  | _ => none

theorem demands_iff {e : ErrorChain} : e.demands ↔ e.Demands := by
  cases e with
  | tls f =>
    unfold demands Demands
    rw [Tls.Error.demandsClientCertificate_iff]
    simp [message]
  | _ =>
    unfold demands Demands
    rw [Tls.demandsClientCertificate_iff]
    simp

theorem any_demands_walk_iff {e : ErrorChain} : e.walk.any demands ↔ ∃ x, e.Reaches x ∧ x.Demands := by
  simp only [List.any_eq_true, mem_walk_iff, demands_iff]

theorem tlsMessage?_eq_none_iff {e : ErrorChain} : e.tlsMessage? = none ↔ ∀ f, e ≠ tls f := by
  cases e <;> simp [tlsMessage?]

theorem findSome?_tlsMessage?_eq_some_iff {e : ErrorChain} {text : String}
    : e.walk.findSome? tlsMessage? = some text ↔ ∃ f, e.FirstTls f ∧ text = f.message := by
  rw [List.findSome?_eq_some_iff]
  constructor
  . rintro ⟨before, x, after, hwalk, hx, hbefore⟩
    cases x with
    | tls f =>
      refine ⟨f, ⟨before, after, hwalk, ?_⟩, (Option.some.inj hx).symm⟩
      intro g hg
      exact tlsMessage?_eq_none_iff.1 (hbefore _ hg) g rfl
    | _ => cases hx
  . rintro ⟨f, ⟨before, after, hwalk, hbefore⟩, rfl⟩
    refine ⟨before, tls f, after, hwalk, rfl, ?_⟩
    intro x hx
    rw [tlsMessage?_eq_none_iff]
    rintro g rfl
    exact hbefore g hx

theorem findSome?_tlsMessage?_eq_none_iff {e : ErrorChain}
    : e.walk.findSome? tlsMessage? = none ↔ ∀ f, ¬ e.Reaches (tls f) := by
  simp only [List.findSome?_eq_none_iff, mem_walk_iff, tlsMessage?_eq_none_iff]
  constructor
  . intro h f hf
    exact h _ hf f rfl
  . rintro h x hx f rfl
    exact h f hx

end ErrorChain

namespace Tls

open ErrorChain

/-! ### The walk -/

theorem behind_eq (seen : Option String)
    : (e : ErrorChain) → classifyFrom.behind seen e = e.source?.elim (seen.map .other) (classifyFrom seen)
  | .text _ none => rfl
  | .text _ (some _) => rfl
  | .system _ => rfl
  | .kind _ => rfl
  | .wrapped _ inner => behind_eq seen inner
  | .tls _ => rfl

/-- What the errors met on a walk amount to, `seen` being the message of an error of TLS that was met before them. -/
def settled (seen : Option String) (met : List ErrorChain) : Option HandshakeFailure :=
  if met.any demands then some .clientCertificateRequired
  else (seen.or (met.findSome? tlsMessage?)).map .other

theorem settled_nil (seen : Option String) : settled seen [] = seen.map .other := by
  unfold settled
  rw [List.findSome?_nil, Option.or_none]
  rfl

theorem settled_append (seen : Option String) (met met' : List ErrorChain)
    : settled seen (met ++ met')
        =
      if met.any demands then some .clientCertificateRequired
      else settled (seen.or (met.findSome? tlsMessage?)) met' := by
  unfold settled
  rw [List.any_append, List.findSome?_append, ← Option.or_assoc]
  cases met.any demands <;> rfl

theorem settled_cons (seen : Option String) (e : ErrorChain) (met : List ErrorChain)
    : settled seen (e :: met)
        =
      if e.demands then some .clientCertificateRequired else settled (seen.or e.tlsMessage?) met := by
  have h := settled_append seen [e] met
  rw [List.any_cons, List.any_nil, Bool.or_false, List.findSome?_singleton] at h
  exact h

theorem settled_singleton (seen : Option String) (e : ErrorChain)
    : settled seen [e]
        =
      if e.demands then some .clientCertificateRequired else (seen.or e.tlsMessage?).map .other := by
  rw [settled_cons, settled_nil]

theorem text?_settled {met : List ErrorChain} (h : met.any demands = false)
    : (settled none met).bind HandshakeFailure.text? = met.findSome? tlsMessage? := by
  unfold settled
  rw [h, Option.none_or]
  cases met.findSome? tlsMessage? <;> rfl

theorem settled_ne {seen : Option String} {met : List ErrorChain} (h : met.any demands = false)
    : settled seen met ≠ some .clientCertificateRequired := by
  unfold settled
  rw [h]
  cases seen.or (met.findSome? tlsMessage?) <;> simp

theorem settled_elim (seen : Option String) (part : Option ErrorChain)
    (h : ∀ e ∈ part, classifyFrom seen e = settled seen e.walk)
    : part.elim (seen.map .other) (classifyFrom seen) = settled seen (part.elim [] walk) := by
  cases part with
  | none => exact (settled_nil seen).symm
  | some e => exact h e rfl

theorem classifyFrom_wrapped (seen : Option String) (k : SystemErrorKind) (inner : ErrorChain)
    (h : classifyFrom none inner = settled none inner.walk)
    : classifyFrom seen (.wrapped k inner)
        =
      if inner.walk.any demands || demandsClientCertificate inner.message then some .clientCertificateRequired
      else classifyFrom.behind (seen.or (inner.walk.findSome? tlsMessage?)) inner := by
  unfold classifyFrom
  rw [h]
  cases hany : inner.walk.any demands with
  | true =>
    unfold settled
    rw [hany]
    rfl
  | false =>
    split
    . next heq => exact absurd heq (settled_ne hany)
    . rw [text?_settled hany, Bool.false_or]

theorem classifyFrom_text (seen : Option String) (m : String) (source : Option ErrorChain)
    : classifyFrom seen (.text m source)
        =
      if demandsClientCertificate m then some .clientCertificateRequired
      else source.elim (seen.map .other) (classifyFrom seen) := by
  cases source <;> rfl

/-- A walk depends on nothing but the errors that it meets, although it comes across some of them twice. -/
theorem classifyFrom_eq (seen : Option String) (e : ErrorChain) : classifyFrom seen e = settled seen e.walk := by
  induction e using of_parts generalizing seen with
  | h e hpayload hsource =>
    cases e with
    | text m source =>
      have hrest := settled_elim seen source fun s hs => hsource s hs seen
      rw [classifyFrom_text, hrest, walk_eq, settled_cons]
      simp only [tlsMessage?, Option.or_none]
      rfl
    | system code =>
      have hwalk : (system code).walk = [system code] := rfl
      rw [hwalk, settled_singleton]
      simp only [tlsMessage?, Option.or_none]
      rfl
    | kind k =>
      have hwalk : (kind k).walk = [kind k] := rfl
      rw [hwalk, settled_singleton]
      simp only [tlsMessage?, Option.or_none]
      rfl
    | wrapped k inner =>
      have hinner := hpayload inner rfl none
      have hrest := settled_elim (seen.or (inner.walk.findSome? tlsMessage?)) inner.source?
        fun s hs => hsource s hs _
      have hwalk : (wrapped k inner).walk = wrapped k inner :: (inner.walk ++ inner.source?.elim [] walk) := walk_eq _
      have hself : (wrapped k inner).demands = demandsClientCertificate inner.message := rfl
      rw [classifyFrom_wrapped seen k inner hinner, behind_eq, hrest, hwalk, settled_cons, settled_append, hself]
      simp only [tlsMessage?, Option.or_none]
      cases inner.walk.any demands <;> cases demandsClientCertificate inner.message <;> rfl
    | tls f =>
      have hwalk : (tls f).walk = [tls f] := rfl
      rw [hwalk, settled_singleton]
      cases seen <;> rfl

theorem settled_eq_required_iff {met : List ErrorChain}
    : settled none met = some .clientCertificateRequired ↔ met.any demands := by
  cases hany : met.any demands with
  | true => simp [settled, hany]
  | false => simp [settled_ne hany]

theorem settled_eq_other_iff {met : List ErrorChain} {text : String}
    : settled none met = some (.other text) ↔ met.any demands = false ∧ met.findSome? tlsMessage? = some text := by
  unfold settled
  rw [Option.none_or]
  cases met.any demands <;> cases met.findSome? tlsMessage? <;> simp

theorem settled_eq_none_iff {met : List ErrorChain}
    : settled none met = none ↔ met.any demands = false ∧ met.findSome? tlsMessage? = none := by
  unfold settled
  rw [Option.none_or]
  cases met.any demands <;> simp

theorem classify_iff (e : ErrorChain)
    : (classify e = some .clientCertificateRequired ↔ ∃ x, e.Reaches x ∧ x.Demands)
      ∧ (∀ text, classify e = some (.other text)
          ↔
        (¬ ∃ x, e.Reaches x ∧ x.Demands) ∧ ∃ f, e.FirstTls f ∧ text = f.message)
      ∧ (classify e = none ↔ (¬ ∃ x, e.Reaches x ∧ x.Demands) ∧ ∀ f, ¬ e.Reaches (.tls f)) := by
  have hclassify : classify e = settled none e.walk := classifyFrom_eq none e
  have hquiet : e.walk.any demands = false ↔ ¬ ∃ x, e.Reaches x ∧ x.Demands := by
    rw [← any_demands_walk_iff, Bool.not_eq_true]
  rw [hclassify]
  refine ⟨?_, fun text => ?_, ?_⟩
  . rw [settled_eq_required_iff, any_demands_walk_iff]
  . rw [settled_eq_other_iff, hquiet, findSome?_tlsMessage?_eq_some_iff]
  . rw [settled_eq_none_iff, hquiet, findSome?_tlsMessage?_eq_none_iff]

end Tls

end PodProbe
