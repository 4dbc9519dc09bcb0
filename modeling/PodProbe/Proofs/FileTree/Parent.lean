import PodProbe.Proofs.FileTree.Growth

/-!
This module contains that what a path names as its parent is a directory if the path leads anywhere, whichever way it
is written. The directory of a file that can be read need not be made before the file is written again.
-/

namespace PodProbe

namespace FilePath

/-! ### Names -/

def segments (cs : List Char) : List String :=
  ((cs.splitOn '/').filter (!·.isEmpty)).map String.ofList

theorem names_eq (path : String) : names path = segments path.toList :=
  rfl

theorem segments_append_slash (cs ds : List Char) : segments (cs ++ '/' :: ds) = segments cs ++ segments ds := by
  unfold segments
  rw [List.splitOn_append_cons_self, List.filter_append, List.map_append]

theorem segments_nil : segments [] = [] := by
  unfold segments
  rw [List.splitOn_nil]
  rfl

theorem segments_of_not_mem {cs : List Char} (h : '/' ∉ cs) (hne : cs ≠ []) : segments cs = [String.ofList cs] := by
  unfold segments
  rw [List.splitOn_eq_singleton h]
  cases cs with
  | nil => exact absurd rfl hne
  | cons c cs => rfl

/-! ### Parents -/

theorem trimEnd_go_suffix (cs : List Char) : trimEnd.go cs <:+ cs := by
  fun_induction trimEnd.go cs with
  | case1 cs ih => exact ih.trans (List.suffix_cons _ _)
  | case2 cs ih => exact ih.trans (List.suffix_cons _ _)
  | case3 cs => exact List.suffix_refl cs

theorem trimEnd_prefix_self (cs : List Char) : trimEnd cs <+: cs := by
  have hsuffix := trimEnd_go_suffix cs.reverse
  unfold trimEnd
  rw [← List.reverse_suffix, List.reverse_reverse]
  exact hsuffix

/-- All that is trimmed from a path are the slashes at its end and names that do not lead anywhere else. -/
theorem exists_segments_trimEnd (cs : List Char)
    : ∃ k, segments cs = segments (trimEnd cs) ++ List.replicate k "." := by
  have hgo (cs : List Char) : ∃ k, segments cs.reverse = segments (trimEnd.go cs).reverse ++ List.replicate k "." := by
    fun_induction trimEnd.go cs with
    | case1 cs ih =>
      rcases ih with ⟨k, ih⟩
      refine ⟨k, ?_⟩
      rw [List.reverse_cons, segments_append_slash, segments_nil, List.append_nil]
      exact ih
    | case2 cs ih =>
      rcases ih with ⟨k, ih⟩
      refine ⟨k + 1, ?_⟩
      rw [List.reverse_cons, segments_append_slash, segments_nil, List.append_nil] at ih
      have hdot : segments ['.'] = ["."] := by
        exact segments_of_not_mem (by decide) (by decide)
      rw [List.reverse_cons, List.reverse_cons, List.append_assoc, List.cons_append, List.nil_append,
        segments_append_slash, ih, hdot, List.append_assoc, List.replicate_succ']
    | case3 cs => exact ⟨0, (List.append_nil _).symm⟩
  have h := hgo cs.reverse
  rw [List.reverse_reverse] at h
  exact h

theorem exists_last_slash {cs : List Char} (h : '/' ∈ cs) : ∃ as bs, cs = as ++ '/' :: bs ∧ '/' ∉ bs := by
  rcases List.eq_append_cons_of_mem (List.mem_reverse.2 h) with ⟨bs, as, heq, hbs⟩
  refine ⟨as.reverse, bs.reverse, ?_, by simpa using hbs⟩
  rw [List.reverse_eq_iff] at heq
  rw [heq]
  simp

theorem dropWhile_append {cs : List Char} (h : '/' ∉ cs) (ds : List Char)
    : (cs ++ ds).dropWhile (· != '/') = ds.dropWhile (· != '/') := by
  apply List.dropWhile_append_of_pos
  intro c hc
  rw [bne_iff_ne]
  rintro rfl
  exact h hc

theorem head?_trimEnd_go_ne (cs : List Char) : (trimEnd.go cs).head? ≠ some '/' := by
  fun_induction trimEnd.go cs with
  | case1 cs ih => exact ih
  | case2 cs ih => exact ih
  | case3 cs hslash _ =>
    intro hhead
    rcases List.head?_eq_some_iff.1 hhead with ⟨cs', hcs⟩
    exact hslash cs' hcs

theorem getLast?_trimEnd_ne (cs : List Char) : (trimEnd cs).getLast? ≠ some '/' := by
  unfold trimEnd
  rw [List.getLast?_reverse]
  exact head?_trimEnd_go_ne cs.reverse

/-- A parent is what stands before the last slash, unless no slash is left when a path is trimmed. -/
theorem exists_of_parent? {path p : String} (h : parent? path = some p) (hne : p ≠ "")
    : ∃ as bs, trimEnd path.toList = as ++ '/' :: bs ∧ '/' ∉ bs ∧ bs ≠ []
        ∧ p = if (trimEnd as).isEmpty then "/" else String.ofList (trimEnd as) := by
  unfold parent? at h
  split at h
  . cases h
  . by_cases hmem : '/' ∈ trimEnd path.toList
    . rcases exists_last_slash hmem with ⟨as, bs, heq, hbs⟩
      have hlast := getLast?_trimEnd_ne path.toList
      have hrev : (trimEnd path.toList).reverse = bs.reverse ++ '/' :: as.reverse := by
        rw [heq]
        simp
      have hdrop : (bs.reverse ++ '/' :: as.reverse).dropWhile (· != '/') = '/' :: as.reverse := by
        rw [dropWhile_append]
        . rfl
        . rw [List.mem_reverse]
          exact hbs
      have htrim : trimEnd ('/' :: as.reverse).reverse = trimEnd as := by
        unfold trimEnd
        rw [List.reverse_reverse]
        rfl
      refine ⟨as, bs, heq, hbs, ?_, ?_⟩
      . rintro rfl
        rw [heq, List.getLast?_concat] at hlast
        exact hlast rfl
      . rw [hrev, hdrop] at h
        dsimp only at h
        rw [htrim] at h
        exact (Option.some.inj h).symm
    . have hdrop : (trimEnd path.toList).reverse.dropWhile (· != '/') = [] := by
        rw [← List.append_nil (trimEnd path.toList).reverse, dropWhile_append]
        . rfl
        . rw [List.mem_reverse]
          exact hmem
      rw [hdrop] at h
      exact absurd (Option.some.inj h).symm hne

end FilePath

namespace FileTree

variable {t : FileTree} {l m : Location}

theorem isDirectory_of_step {name : String} (h : t.step l name = .ok m) : t.node? l = some .directory := by
  unfold step at h
  split at h
  . cases h
  . cases h
  . next hl => exact hl

theorem eq_of_step_dot (h : t.step l "." = .ok m) : m = l := by
  have hl := isDirectory_of_step h
  unfold step at h
  rw [hl] at h
  cases h
  rfl

theorem eq_of_foldlM_step_dots {k : Nat} (h : (List.replicate k ".").foldlM t.step l = .ok m) : m = l := by
  induction k with
  | zero =>
    cases h
    rfl
  | succ k ih =>
    rw [List.replicate_succ, List.foldlM_cons] at h
    cases hstep : t.step l "." with
    | error e =>
      rw [hstep] at h
      cases h
    | ok l' =>
      rw [hstep, eq_of_step_dot hstep] at h
      exact ih h

theorem exists_of_foldlM_step_append {names names' : List String} (h : (names ++ names').foldlM t.step l = .ok m)
    : ∃ l', names.foldlM t.step l = .ok l' ∧ names'.foldlM t.step l' = .ok m := by
  rw [List.foldlM_append] at h
  cases hfold : names.foldlM t.step l with
  | error e =>
    rw [hfold] at h
    cases h
  | ok l' =>
    rw [hfold] at h
    exact ⟨l', rfl, h⟩

theorem makeDirectories_of_isDirectory {path : String} (h : t.locate path = .ok l)
    (hdirectory : t.node? l = some .directory)
    : t.makeDirectories path = (.ok (), t) := by
  have hmake : t.makeDirectory path = .error .alreadyExists := by
    unfold makeDirectory
    rw [h]
    dsimp only [bind, Except.bind]
    rw [hdirectory]
  have hthere : t.isDirectory path := by
    unfold isDirectory find?
    rw [h]
    dsimp only
    rw [hdirectory]
    rfl
  have hensure : t.ensureDirectory path = .ok t := by
    unfold ensureDirectory
    rw [hmake]
    exact if_pos hthere
  unfold makeDirectories
  rw [hensure]
  split <;> rfl

theorem Passable.of_prefix {path : String} (h : Passable path) {cs : List Char} (hne : cs ≠ [])
    (hpre : cs <+: path.toList)
    : Passable (String.ofList cs) := by
  constructor
  . have hvalid := h.valid
    rw [List.contains_eq_mem, decide_eq_false_iff_not] at hvalid ⊢
    rw [String.toList_ofList]
    intro hmem
    exact hvalid (hpre.subset hmem)
  . rw [String.isEmpty_eq_false_iff, ne_eq, String.ofList_eq_empty_iff]
    exact hne
  . rcases hpre with ⟨ds, hds⟩
    have hpath : path = String.ofList cs ++ String.ofList ds := by
      rw [← String.ofList_append, hds, String.ofList_toList]
    have hshort := h.short
    rw [hpath, String.utf8ByteSize_append] at hshort
    omega

theorem passable_slash : Passable "/" where
  valid := by decide
  nonempty := by decide
  short := by decide

/-- A path leads somewhere only if what it names as its parent is a directory. -/
theorem isDirectory_parent {path p : String} (hl : t.locate path = .ok l) (hp : FilePath.parent? path = some p)
    (hne : p ≠ "")
    : ∃ m, t.locate p = .ok m ∧ t.node? m = some .directory := by
  rcases FilePath.exists_of_parent? hp hne with ⟨as, bs, htrim, hslash, hbs, rfl⟩
  rcases locate_eq_ok_iff.1 hl with ⟨hpassable, hfold⟩
  rcases FilePath.exists_segments_trimEnd path.toList with ⟨k, hk⟩
  rw [FilePath.names_eq, hk] at hfold
  rcases exists_of_foldlM_step_append hfold with ⟨l', hfold, _⟩
  rw [htrim, FilePath.segments_append_slash, FilePath.segments_of_not_mem hslash hbs] at hfold
  rcases exists_of_foldlM_step_append hfold with ⟨m, hparent, hlast⟩
  have hstep : t.step m (String.ofList bs) = .ok l' := by
    simpa using hlast
  have hdirectory : t.node? m = some .directory := isDirectory_of_step hstep
  rcases FilePath.exists_segments_trimEnd as with ⟨k', hk'⟩
  rw [hk'] at hparent
  rcases exists_of_foldlM_step_append hparent with ⟨m', hfold', hdots⟩
  rw [eq_of_foldlM_step_dots hdots] at hdirectory
  refine ⟨m', ?_, hdirectory⟩
  rw [locate_eq_ok_iff]
  split
  . next hempty =>
    rw [List.isEmpty_iff.1 hempty] at hfold'
    exact ⟨passable_slash, hfold'⟩
  . next hempty =>
    have hpre : FilePath.trimEnd as <+: path.toList := by
      have hwhole := FilePath.trimEnd_prefix_self path.toList
      rw [htrim] at hwhole
      exact ((FilePath.trimEnd_prefix_self as).trans (List.prefix_append _ _)).trans hwhole
    refine ⟨hpassable.of_prefix (mt List.isEmpty_iff.2 hempty) hpre, ?_⟩
    rw [FilePath.names_eq, String.toList_ofList]
    exact hfold'

/-- The directory of a file that can be read is there, so that there is nothing to make. -/
theorem makeDirectories_parent {path p : String} {contents : Bytes} (hread : t.read path = .ok contents)
    (hp : FilePath.parent? path = some p)
    : t.makeDirectories p = (.ok (), t) := by
  by_cases hempty : p = ""
  . rw [hempty]
    rfl
  . rcases read_eq_ok_iff.1 hread with ⟨_, l, hl, _⟩
    rcases isDirectory_parent hl hp hempty with ⟨m, hm, hdirectory⟩
    exact makeDirectories_of_isDirectory hm hdirectory

end FileTree

end PodProbe
