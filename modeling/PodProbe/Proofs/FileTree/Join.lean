import PodProbe.Proofs.FileTree.Parent

/-!
This module contains where a name below a directory leads: a name that stands for nothing but itself leads to the place
of that name right below the place of the directory.
-/

namespace PodProbe

namespace FilePath

/-- Whether a text is a name that can be that of a file, and that of this file only. -/
structure Plain (name : String) : Prop where
  slash_not_mem : '/' ∉ name.toList
  nul_not_mem : '\x00' ∉ name.toList
  nonempty : name.toList ≠ []
  ne_dot : name ≠ "."
  ne_dots : name ≠ ".."
  short : name.utf8ByteSize ≤ longestName

theorem names_join (path : String) {name : String} (h : Plain name) : names (join path name) = names path ++ [name] := by
  have hname : segments name.toList = [name] := by
    rw [segments_of_not_mem h.slash_not_mem h.nonempty, String.ofList_toList]
  unfold join
  split
  . next hjoin =>
    rw [names_eq, names_eq, String.toList_append]
    rw [Bool.or_eq_true] at hjoin
    cases hjoin with
    | inl hempty =>
      rw [String.isEmpty_iff.1 hempty, String.toList_empty, List.nil_append, segments_nil, List.nil_append, hname]
    | inr hslash =>
      unfold endsInSlash at hslash
      rw [beq_iff_eq, List.getLast?_eq_some_iff] at hslash
      rcases hslash with ⟨cs, hcs⟩
      rw [hcs, List.append_assoc, List.cons_append, List.nil_append, segments_append_slash, segments_append_slash,
        segments_nil, List.append_nil, hname]
  . have hslash : (path ++ "/" ++ name).toList = path.toList ++ '/' :: name.toList := by
      simp
    rw [names_eq, names_eq, hslash, segments_append_slash, hname]

theorem endsInSlash_join (path : String) {name : String} (h : Plain name) : endsInSlash (join path name) = false := by
  have hlast (s : String) : endsInSlash (s ++ name) = false := by
    unfold endsInSlash
    rw [String.toList_append, List.getLast?_append, beq_eq_false_iff_ne]
    cases hname : name.toList.getLast? with
    | none => exact absurd (List.getLast?_eq_none_iff.1 hname) h.nonempty
    | some c =>
      rintro ⟨⟩
      exact h.slash_not_mem (List.mem_of_getLast? hname)
  unfold join
  split
  . exact hlast path
  . exact hlast (path ++ "/")

end FilePath

namespace FileTree

variable {t : FileTree} {l : Location}

theorem step_of_plain {name : String} (h : FilePath.Plain name) (hl : t.node? l = some .directory)
    : t.step l name = .ok (l ++ [name]) := by
  unfold step
  rw [hl]
  dsimp only
  rw [if_neg h.ne_dot, if_neg h.ne_dots, if_neg (Nat.not_lt_of_le h.short)]

theorem locate_join {path name : String} (h : t.locate path = .ok l) (hl : t.node? l = some .directory)
    (hname : FilePath.Plain name) (hpassable : Passable (FilePath.join path name))
    : t.locate (FilePath.join path name) = .ok (l ++ [name]) := by
  rw [locate_eq_ok_iff] at h ⊢
  refine ⟨hpassable, ?_⟩
  rw [FilePath.names_join path hname, List.foldlM_append, h.2]
  change ([name].foldlM t.step l) = _
  rw [List.foldlM_cons, step_of_plain hname hl]
  rfl

theorem eq_of_step_plain {m : Location} {name : String} (hname : FilePath.Plain name) (h : t.step l name = .ok m)
    : m = l ++ [name] := by
  rw [step_of_plain hname (isDirectory_of_step h)] at h
  exact (Except.ok.inj h).symm

/-- The names before the last one need not make up a path that leads anywhere, since the path of no names does not. -/
theorem exists_of_locate_join {path name : String} {m : Location} (hname : FilePath.Plain name)
    (h : t.locate (FilePath.join path name) = .ok m)
    : ∃ l, (FilePath.names path).foldlM t.step [] = .ok l ∧ m = l ++ [name] := by
  have hfold := (locate_eq_ok_iff.1 h).2
  rw [FilePath.names_join path hname] at hfold
  rcases exists_of_foldlM_step_append hfold with ⟨l, hpath, hlast⟩
  have hstep : t.step l name = .ok m := by
    simpa using hlast
  exact ⟨l, hpath, eq_of_step_plain hname hstep⟩

theorem Passable.join {path name : String} (h : Passable path) (hname : FilePath.Plain name)
    (hshort : path.utf8ByteSize + 1 + name.utf8ByteSize < FilePath.tooLong)
    : Passable (FilePath.join path name) := by
  have happend {s : String} (hs : '\x00' ∉ s.toList) (hshort : s.utf8ByteSize + name.utf8ByteSize < FilePath.tooLong)
      : Passable (s ++ name) := by
    constructor
    . rw [List.contains_eq_mem, decide_eq_false_iff_not, String.toList_append, List.mem_append, not_or]
      exact ⟨hs, hname.nul_not_mem⟩
    . rw [String.isEmpty_eq_false_iff]
      intro heq
      have hnil : s.toList ++ name.toList = [] := by
        rw [← String.toList_append, heq, String.toList_empty]
      exact hname.nonempty (List.append_eq_nil_iff.1 hnil).2
    . rw [String.utf8ByteSize_append]
      exact hshort
  have hvalid : '\x00' ∉ path.toList := by
    have hcontains := h.valid
    rw [List.contains_eq_mem, decide_eq_false_iff_not] at hcontains
    exact hcontains
  unfold FilePath.join
  split
  . exact happend hvalid (by omega)
  . apply happend
    . rw [String.toList_append, List.mem_append, not_or]
      exact ⟨hvalid, by decide⟩
    . rw [String.utf8ByteSize_append]
      exact hshort

theorem write_join {path name : String} (h : t.locate path = .ok l) (hl : t.node? l = some .directory)
    (hname : FilePath.Plain name) (hpassable : Passable (FilePath.join path name))
    (hfree : t.node? (l ++ [name]) ≠ some .directory) {contents : Bytes} (htakes : t.Takes (l ++ [name]) contents)
    : t.write (FilePath.join path name) contents = .ok (t.put (l ++ [name]) (.file contents)) := by
  rw [write_eq_ok_iff]
  exact ⟨FilePath.endsInSlash_join path hname, _, locate_join h hl hname hpassable, hfree, htakes, rfl⟩

end FileTree

end PodProbe
