import Mathlib.Data.List.TakeWhile
import PodProbe.Http.Refusal
import PodProbe.Proofs.Text.Lower
import PodProbe.Proofs.Url.Host

/-!
This module contains that no blank is in the text of a URL that a request can be made for, since what a URL must not
show is encoded or refused when it is read.
-/

namespace PodProbe.Url

/-! ### Encoded parts -/

theorem upperHexDigit_ne_blank : ∀ n < 16, upperHexDigit n ≠ ' ' := by
  decide

theorem blankless_percentEncode {set : Char → Bool} {cs : List Char} (h : ∀ c ∈ cs, c = ' ' → set c)
    : Lacks ' ' (percentEncode set cs) := by
  unfold percentEncode Lacks
  rw [List.mem_flatMap]
  rintro ⟨c, hc, hmem⟩
  split at hmem
  . next hshown =>
    have heq : c = ' ' := (List.mem_singleton.1 hmem).symm
    rw [h c hc heq] at hshown
    simp at hshown
  . rw [List.mem_flatMap] at hmem
    rcases hmem with ⟨b, _, hmem⟩
    have hb : b.toNat < 256 := b.toNat_lt
    simp only [List.mem_cons, List.not_mem_nil, or_false] at hmem
    rcases hmem with heq | heq | heq
    . exact absurd heq (by decide)
    . exact upperHexDigit_ne_blank _ (by omega) heq.symm
    . exact upperHexDigit_ne_blank _ (by omega) heq.symm

theorem blankless_encoded {set : Char → Bool} (h : set ' ') (cs : List Char) : Lacks ' ' (percentEncode set cs) := by
  apply blankless_percentEncode
  rintro c _ rfl
  exact h

/-! ### Hosts -/

namespace Host

theorem blankless_readUnknown? {cs : List Char} {host? : Option Host} (h : readUnknown? cs = .ok host?)
    : ∀ host ∈ host?, Lacks ' ' host.text.toList := by
  intro host hhost
  unfold readUnknown? at h
  split at h
  . next cs =>
    cases hread : readBracketed cs with
    | error r =>
      rw [hread] at h
      cases h
    | ok host' =>
      rw [hread] at h
      cases h
      cases hhost
      exact (shown_readBracketed hread).lacks (by decide) (by decide)
  . cases h
    cases hhost
  . split at h
    . cases h
    . next hforbidden =>
      cases h
      cases hhost
      unfold text
      rw [String.toList_ofList]
      apply blankless_percentEncode
      rintro c hc rfl
      exact absurd (List.any_eq_true.2 ⟨' ', hc, by decide⟩) hforbidden

theorem Stands.blankless {kind : SchemeKind} {host? : Option Host} (h : Stands kind host?)
    : ∀ host ∈ host?, Lacks ' ' host.text.toList := by
  obtain ⟨cs, h⟩ := h
  split at h
  . obtain ⟨host, rfl, hread⟩ := h
    rintro host' ⟨⟩
    exact (shown_read hread).lacks (by decide) (by decide)
  . exact blankless_readUnknown? h

end Host

/-! ### Paths -/

theorem mem_goUp {done : List (List Char)} {s : List Char} (h : s ∈ goUp done) : s ∈ done := by
  unfold goUp at h
  split at h
  . exact h
  . exact (List.dropLast_sublist done).subset h

/-- No segment of a path is changed when the dots in it are resolved. -/
theorem mem_resolveDots {done segments : List (List Char)} {s : List Char} (h : s ∈ resolveDots done segments)
    : s ∈ done ∨ s = [] ∨ s ∈ segments := by
  induction segments generalizing done with
  | nil => exact Or.inl h
  | cons s' rest ih =>
    have hempty {done' : List (List Char)} (hdone : ∀ d ∈ done', d ∈ done) (h : s ∈ done' ++ [[]])
        : s ∈ done ∨ s = [] ∨ s ∈ s' :: rest := by
      rw [List.mem_append, List.mem_singleton] at h
      exact h.imp (hdone s) Or.inl
    have hrest {done' : List (List Char)} (hdone : ∀ d ∈ done', d ∈ done) (h : s ∈ resolveDots done' rest)
        : s ∈ done ∨ s = [] ∨ s ∈ s' :: rest :=
      (ih h).imp (hdone s) (Or.imp_right (List.mem_cons_of_mem s'))
    unfold resolveDots at h
    split at h
    . split at h
      . exact hempty (fun _ => mem_goUp) h
      . exact hrest (fun _ => mem_goUp) h
    . split at h
      . split at h
        . exact hempty (fun _ hd => hd) h
        . exact hrest (fun _ hd => hd) h
      . rcases ih h with h | h | h
        . rw [List.mem_append, List.mem_singleton] at h
          rcases h with h | rfl
          . exact Or.inl h
          . exact Or.inr (Or.inr List.mem_cons_self)
        . exact Or.inr (Or.inl h)
        . exact Or.inr (Or.inr (List.mem_cons_of_mem s' h))

theorem blankless_readSegments {kind : SchemeKind} {cs : List Char}
    : ∀ s ∈ readSegments kind cs, Lacks ' ' s.toList := by
  intro s hs
  unfold readSegments at hs
  rcases List.mem_map.1 hs with ⟨segment, hsegment, rfl⟩
  rw [String.toList_ofList]
  rcases mem_resolveDots hsegment with h | rfl | h
  . cases h
  . exact lacks_nil
  . rcases List.mem_map.1 h with ⟨part, _, rfl⟩
    exact blankless_encoded (by decide) part

def BlanklessPath : UrlPath → Prop
  | .plain _ => False
  | .rooted segments => ∀ s ∈ segments, Lacks ' ' s.toList

theorem blankless_path_text {path : UrlPath} (h : BlanklessPath path) : Lacks ' ' path.text.toList := by
  cases path with
  | plain text => cases h
  | rooted segments =>
    unfold UrlPath.text
    rw [String.toList_join, List.flatMap_map]
    apply lacks_flatten
    intro part hpart
    rcases List.mem_map.1 hpart with ⟨s, hs, rfl⟩
    exact lacks_toList_append_iff.2 ⟨by decide, h s hs⟩

theorem blanklessPath_readRootedPath (kind : SchemeKind) (cs : List Char) : BlanklessPath (readRootedPath kind cs) := by
  unfold readRootedPath
  split
  . intro s hs
    split at hs
    . cases hs
    . rw [List.mem_singleton.1 hs]
      exact lacks_nil
  . exact fun s hs => blankless_readSegments s hs

theorem mem_dropEmptySegments {segments : List String} {s : String} (h : s ∈ dropEmptySegments segments)
    : s ∈ segments := by
  fun_induction dropEmptySegments segments with
  | case1 s' segments ih => exact List.mem_cons_of_mem _ (ih h)
  | case2 segments => exact h

theorem blanklessPath_readFilePath (cs : List Char) : BlanklessPath (readFilePath cs) := by
  have hpath := blanklessPath_readRootedPath .file cs
  unfold readFilePath
  split
  . next segments heq =>
    rw [heq] at hpath
    have hdropped : ∀ s ∈ dropEmptySegments segments, Lacks ' ' s.toList :=
      fun s hs => hpath s (mem_dropEmptySegments hs)
    intro s hs
    unfold writeDrive at hs
    split at hs
    . next s' rest heq =>
      rw [heq, List.forall_mem_cons] at hdropped
      rw [List.mem_cons] at hs
      rcases hs with rfl | hs
      . split
        . rw [String.toList_ofList, lacks_append_iff]
          exact ⟨hdropped.1.subset (List.take_subset _ _), by decide⟩
        . exact hdropped.1
      . exact hdropped.2 s hs
    . cases hs
  . exact hpath

/-! ### Whole URLs -/

/-- Whether no part of a URL that names a host holds a blank, leaving the credentials aside. -/
structure BlanklessParts (u : Url) : Prop where
  scheme : Lacks ' ' u.scheme.toList
  host : ∀ host ∈ u.host?, Lacks ' ' host.text.toList
  path : BlanklessPath u.path
  query : ∀ q ∈ u.query, Lacks ' ' q.toList
  fragment : ∀ f ∈ u.fragment, Lacks ' ' f.toList

theorem blankless_readTail (kind : SchemeKind) (cs : List Char)
    : (∀ q ∈ (readTail kind cs).1, Lacks ' ' q.toList) ∧ ∀ f ∈ (readTail kind cs).2, Lacks ' ' f.toList := by
  have hnone : ∀ s ∈ (none : Option String), Lacks ' ' s.toList := by
    intro s hs
    cases hs
  have hencoded {set : Char → Bool} (h : set ' ') (cs : List Char)
      : ∀ s ∈ some (String.ofList (percentEncode set cs)), Lacks ' ' s.toList := by
    intro s hs
    cases hs
    rw [String.toList_ofList]
    exact blankless_encoded h cs
  unfold readTail
  split
  . constructor
    . apply hencoded
      split <;> decide
    . dsimp only
      split
      . exact hnone
      . exact hencoded (by decide) _
  . refine ⟨hnone, ?_⟩
    dsimp only
    split
    . exact hnone
    . exact hencoded (by decide) _

theorem blanklessParts_finish {scheme : String} {kind : SchemeKind} {authority : Authority}
    {path : List Char → UrlPath} (hscheme : Lacks ' ' scheme.toList)
    (hhost : ∀ host ∈ authority.host, Lacks ' ' host.text.toList) (hpath : ∀ cs, BlanklessPath (path cs))
    (cs : List Char)
    : BlanklessParts (finish scheme kind (some authority) path cs) := by
  have htail := blankless_readTail kind (splitPath cs).2
  exact ⟨hscheme, hhost, hpath _, htail.1, htail.2⟩

theorem blanklessParts_readPlaced {scheme : String} {kind : SchemeKind} {cs : List Char} {u : Url}
    (hscheme : Lacks ' ' scheme.toList) (h : readPlaced scheme kind cs = .ok u)
    : BlanklessParts u := by
  unfold readPlaced at h
  rcases exists_ok_of_bind h with ⟨⟨authority, cut⟩, hread, h⟩
  cases h
  exact blanklessParts_finish hscheme (stands_readAuthority hread).blankless (blanklessPath_readRootedPath kind) _

theorem blankless_readFileHost {cs : List Char} {host? : Option Host} (h : readFileHost cs = .ok host?)
    : ∀ host ∈ host?, Lacks ' ' host.text.toList := by
  unfold readFileHost at h
  split at h
  . cases h
    exact nofun
  . rcases exists_ok_of_bind h with ⟨host, hread, h⟩
    split at h
    . cases h
      exact nofun
    . cases h
      rintro host' ⟨⟩
      exact (Host.shown_read hread).lacks (by decide) (by decide)

theorem blanklessParts_readFile {cs : List Char} {u : Url} (h : readFile cs = .ok u) : BlanklessParts u := by
  have hfinish (host? : Option Host) (hhost : ∀ host ∈ host?, Lacks ' ' host.text.toList) (cs : List Char)
      : BlanklessParts (finish "file" .file (some { host := host? }) readFilePath cs) :=
    blanklessParts_finish (by decide) hhost blanklessPath_readFilePath cs
  have hnowhere := hfinish none nofun
  unfold readFile at h
  split at h
  . split at h
    . dsimp only at h
      split at h
      . cases h
        exact hnowhere _
      . rcases exists_ok_of_bind h with ⟨host?, hread, h⟩
        have hparts := hfinish host? (blankless_readFileHost hread)
        cases h
        split
        . exact { hparts _ with host := nofun }
        . exact hparts _
    . cases h
      exact hnowhere _
  . cases h
    exact hnowhere _

theorem blanklessParts_readUnknown {scheme : String} {cs : List Char} {u : Url} (hscheme : Lacks ' ' scheme.toList)
    (h : readUnknown scheme cs = .ok u) (hhost : u.host?.isSome)
    : BlanklessParts u := by
  unfold readUnknown at h
  split at h
  . exact blanklessParts_readPlaced hscheme h
  . cases h
    cases hhost
  . cases h
    cases hhost

theorem blankless_splitScheme? {cs rest : List Char} {scheme : String} (h : splitScheme? cs = some (scheme, rest))
    : Lacks ' ' scheme.toList := by
  unfold splitScheme? at h
  dsimp only at h
  split at h
  . next c name rest' hname _ =>
    split at h
    . cases h
      rw [String.toList_ofList]
      intro hmem
      rcases List.mem_map.1 hmem with ⟨d, hd, hlower⟩
      rw [← hname] at hd
      have hkept := List.mem_takeWhile_imp hd
      rcases Text.toLower_eq_or d with heq | ⟨hge, _, hnat⟩
      . rw [← heq, hlower] at hkept
        exact absurd hkept (by decide)
      . rw [hlower] at hnat
        have hblank : ' '.toNat = 32 := rfl
        omega
    . cases h
  . cases h

/-- Where a host is named, no part shows a blank; a path of which nothing is known may. -/
theorem blanklessParts_read {s : String} {u : Url} (h : read s = .ok u) (hhost : u.host?.isSome)
    : BlanklessParts u := by
  unfold read at h
  split at h
  . cases h
  . next scheme rest hscheme =>
    have hblankless := blankless_splitScheme? hscheme
    split at h
    . exact blanklessParts_readFile h
    . exact blanklessParts_readPlaced hblankless h
    . exact blanklessParts_readUnknown hblankless h hhost

theorem blankless_hostAndPort {a : Authority} (h : ∀ host ∈ a.host, Lacks ' ' host.text.toList)
    : Lacks ' ' ({ a with user := "", password := "" } : Authority).text.toList := by
  unfold Authority.text
  rw [lacks_toList_append_iff, lacks_toList_append_iff]
  refine ⟨⟨lacks_nil, ?_⟩, ?_⟩
  . cases hhost : a.host with
    | none => exact lacks_nil
    | some host => exact h host hhost
  . cases a.port with
    | none => exact lacks_nil
    | some port =>
      exact lacks_toList_append_iff.2 ⟨by decide, lacks_toString (by decide) port.toNat⟩

theorem blankless_pathText {u : Url} (h : BlanklessPath u.path) : Lacks ' ' u.pathText.toList := by
  unfold pathText
  split
  . next heq =>
    rw [heq] at h
    exact lacks_toList_append_iff.2 ⟨by decide, blankless_path_text h⟩
  . exact blankless_path_text h

theorem blankless_text {u : Url} (h : BlanklessParts u) : Lacks ' ' u.withoutCredentials.text.toList := by
  have hpath : Lacks ' ' u.withoutCredentials.pathText.toList := blankless_pathText h.path
  rcases u with ⟨scheme, authority, path, query, fragment⟩
  rcases h with ⟨hscheme, hhost, _, hquery, hfragment⟩
  unfold text
  simp only [lacks_toList_append_iff]
  refine ⟨⟨⟨⟨⟨hscheme, by decide⟩, ?_⟩, hpath⟩, ?_⟩, ?_⟩
  . cases authority with
    | none => exact lacks_nil
    | some a =>
      have hsign : Lacks ' ' "//".toList := by decide
      exact lacks_toList_append_iff.2 ⟨hsign, blankless_hostAndPort hhost⟩
  . cases query with
    | none => exact lacks_nil
    | some q =>
      have hsign : Lacks ' ' "?".toList := by decide
      exact lacks_toList_append_iff.2 ⟨hsign, hquery q rfl⟩
  . cases fragment with
    | none => exact lacks_nil
    | some f =>
      have hsign : Lacks ' ' "#".toList := by decide
      exact lacks_toList_append_iff.2 ⟨hsign, hfragment f rfl⟩

theorem blankless_target {s : String} {u : Url} (h : Http.target s = .ok u)
    : Lacks ' ' u.withoutCredentials.text.toList := by
  unfold Http.target at h
  split at h
  . cases h
  . next u' hread =>
    split at h
    . next hhost =>
      cases h
      exact blankless_text (blanklessParts_read hread hhost)
    . cases h

end PodProbe.Url
