import Mathlib.Data.List.TakeWhile
import PodProbe.Text.Blank

/-!
This module contains what cutting and trimming leave of a text, said without the way in which it is found: the part
before a separator, and the part between the blanks at the two ends.
-/

namespace PodProbe.Text

/-- Whether a text is the part of another one before the first separator, which may be missing. -/
structure IsUpTo (separator : Char) (cs part : List Char) : Prop where
  not_mem : separator ∉ part
  eq_or_exists_eq : cs = part ∨ ∃ after, cs = part ++ separator :: after

/-- Whether a text is what is left of another one without the blanks around it. -/
structure IsTrimmed (cs part : List Char) : Prop where
  exists_blanks : ∃ left right, cs = left ++ part ++ right ∧ (∀ c ∈ left, isBlank c) ∧ ∀ c ∈ right, isBlank c
  head : ∀ c ∈ part.head?, isBlank c = false
  last : ∀ c ∈ part.getLast?, isBlank c = false

theorem isUpTo_iff {separator : Char} {cs part : List Char}
    : IsUpTo separator cs part ↔ cs.takeWhile (· != separator) = part := by
  constructor
  . intro ⟨hpart, hcs⟩
    have hkeep : part.takeWhile (· != separator) = part := by
      rw [List.takeWhile_eq_self_iff]
      intro c hc
      rw [bne_iff_ne]
      rintro rfl
      exact hpart hc
    rcases hcs with rfl | ⟨after, rfl⟩
    . exact hkeep
    . rw [List.takeWhile_append, if_pos (congrArg List.length hkeep), List.takeWhile_cons_of_neg (by simp),
        List.append_nil]
  . rintro rfl
    constructor
    . intro hmem
      have hkept := List.mem_takeWhile_imp hmem
      simp at hkept
    . cases hdrop : cs.dropWhile (· != separator) with
      | nil =>
        left
        have hcs := List.takeWhile_append_dropWhile (p := (· != separator)) (l := cs)
        rw [hdrop, List.append_nil] at hcs
        exact hcs.symm
      | cons c after =>
        right
        have hc := List.head?_dropWhile_not (· != separator) cs
        rw [hdrop] at hc
        have heq : c = separator := by simpa using hc
        refine ⟨after, ?_⟩
        rw [heq] at hdrop
        rw [← hdrop, List.takeWhile_append_dropWhile]

theorem dropWhile_isBlank_append {left : List Char} (h : ∀ c ∈ left, isBlank c) (cs : List Char)
    : (left ++ cs).dropWhile isBlank = cs.dropWhile isBlank :=
  List.dropWhile_append_of_pos h

theorem dropWhile_of_head {p : Char → Bool} {cs : List Char} (h : ∀ c ∈ cs.head?, p c = false)
    : cs.dropWhile p = cs := by
  cases cs with
  | nil => rfl
  | cons c cs => rw [List.dropWhile_cons_of_neg (by simp [h c rfl])]

theorem trim_of_isTrimmed {cs part : List Char} (h : IsTrimmed cs part) : trim cs = part := by
  rcases h.exists_blanks with ⟨left, right, rfl, hleft, hright⟩
  have hreverse : ∀ c ∈ right.reverse, isBlank c := fun c hc => hright c (List.mem_reverse.1 hc)
  have hlast : ∀ c ∈ part.reverse.head?, isBlank c = false := by
    rw [List.head?_reverse]
    exact h.last
  unfold trim trimRight
  rw [List.append_assoc, dropWhile_isBlank_append hleft]
  cases part with
  | nil =>
    have hnil : right.dropWhile isBlank = [] := List.dropWhile_eq_nil_iff.2 hright
    rw [List.nil_append, hnil]
    rfl
  | cons c part =>
    have hhead : ∀ d ∈ (c :: part ++ right).head?, isBlank d = false := h.head
    rw [dropWhile_of_head hhead, List.reverse_append, dropWhile_isBlank_append hreverse,
      dropWhile_of_head hlast, List.reverse_reverse]

theorem exists_takeWhile_isBlank (cs : List Char)
    : ∃ left, cs = left ++ cs.dropWhile isBlank ∧ ∀ c ∈ left, isBlank c :=
  ⟨cs.takeWhile isBlank, List.takeWhile_append_dropWhile.symm, fun _ hc => List.mem_takeWhile_imp hc⟩

theorem head?_dropWhile_isBlank (cs : List Char) : ∀ c ∈ (cs.dropWhile isBlank).head?, isBlank c = false := by
  intro c hc
  have h := List.head?_dropWhile_not isBlank cs
  rw [Option.mem_def.1 hc] at h
  exact h

theorem isTrimmed_trim (cs : List Char) : IsTrimmed cs (trim cs) := by
  rcases exists_takeWhile_isBlank cs with ⟨left, hcs, hleft⟩
  rcases exists_takeWhile_isBlank (cs.dropWhile isBlank).reverse with ⟨right, hrest, hright⟩
  have hsplit : cs.dropWhile isBlank = trim cs ++ right.reverse := by
    rw [← List.reverse_inj, List.reverse_append, List.reverse_reverse]
    unfold trim trimRight
    rw [List.reverse_reverse]
    exact hrest
  constructor
  . refine ⟨left, right.reverse, ?_, hleft, fun c hc => hright c (List.mem_reverse.1 hc)⟩
    rw [List.append_assoc, ← hsplit]
    exact hcs
  . intro c hc
    apply head?_dropWhile_isBlank cs
    rw [hsplit, List.head?_append, Option.mem_def.1 hc]
    rfl
  . unfold trim trimRight
    rw [List.getLast?_reverse]
    exact head?_dropWhile_isBlank _

theorem isTrimmed_iff {cs part : List Char} : IsTrimmed cs part ↔ trim cs = part := by
  constructor
  . exact trim_of_isTrimmed
  . rintro rfl
    exact isTrimmed_trim cs

theorem trim_eq_nil_iff {cs : List Char} : trim cs = [] ↔ ∀ c ∈ cs, isBlank c := by
  rw [← isTrimmed_iff]
  constructor
  . intro h
    rcases h.exists_blanks with ⟨left, right, rfl, hleft, hright⟩
    intro c hc
    rw [List.append_nil, List.mem_append] at hc
    cases hc with
    | inl hc => exact hleft c hc
    | inr hc => exact hright c hc
  . intro h
    constructor
    case exists_blanks => exact ⟨cs, [], by simp, h, fun _ hc => nomatch hc⟩
    case head => exact fun _ hc => nomatch hc
    case last => exact fun _ hc => nomatch hc

end PodProbe.Text
