import PodProbe.Proofs.Configuration.Stored
import PodProbe.Proofs.FileTree.Missing

/-!
This module contains what becomes of a stored configuration when storing another one in its place fails. It is written
before the certificates are, and nothing is taken back: what fails before that leaves the file alone, what fails after
that leaves the new configuration behind.
-/

namespace PodProbe.Configuration

open FileTree

theorem made_parentTask (t : FileTree) (path : String)
    : Made (fun _ => False) t (t.perform (parentTask path)).2 := by
  apply (made_perform t (parentTask path)).mono
  rintro l ⟨file, contents, hmem, _⟩
  exact write_not_mem_parentTask path file contents hmem

theorem save_none_eq (c : Configuration) (path : String) (t : FileTree)
    : c.save path none t
        =
      match t.perform (parentTask path) with
      | (.ok (), v) => v.perform [.write path (Bytes.ofString c.withFingerprints.toLines)]
      | (.error e, v) => (.error e, v) :=
  perform_append t (parentTask path) _

/-- Where the directory of a path could not be made, nothing is at the path. -/
theorem not_read_of_parentTask {t u : FileTree} {path : String} {e : RunError}
    (h : t.perform (parentTask path) = (.error e, u)) (contents : Bytes)
    : u.read path ≠ .ok contents := by
  intro hread
  unfold parentTask at h
  split at h
  . next parent hparent =>
    split at h
    . cases h
    . next hempty =>
      rw [perform] at h
      split at h
      . cases h
      . next e' v hattempt =>
        cases h
        rcases read_eq_ok_iff.1 hread with ⟨_, l, hl, _⟩
        apply not_isDirectory_of_makeDirectories hattempt
        rw [isDirectory_iff]
        exact isDirectory_parent hl hparent (mt String.isEmpty_iff.2 hempty)
  . cases h

/-- Whether a path has come to lead to a file that was there before, by the making of directories that it was missing. -/
structure Uncovered (path : String) (t u : FileTree) : Prop where
  led_nowhere : ∀ l, t.locate path ≠ .ok l
  made : (t.perform (parentTask path)).1 = .ok ()
  file_before : ∃ l contents, u.locate path = .ok l ∧ t.node? l = some (.file contents)

/-- What becomes of a stored configuration when storing another one in its place fails. -/
inductive Aftermath (c : Configuration) (path : String) (trustDirectory : Option String) (t : FileTree) (e : RunError)
    (u : FileTree) : Prop where
  /-- No file has been opened, so that there is nothing new but directories. -/
  | unopened (hwithout : (c.save path none t).1 = .error e)
      (hnode : ∀ l, u.node? l = t.node? l ∨ t.node? l = none ∧ u.node? l = some .directory)
      (hread : (∀ contents, u.read path = .ok contents ↔ t.read path = .ok contents) ∨ Uncovered path t u)
  /-- The writing of the configuration has broken off. -/
  | brokenOff {v : FileTree} {l : Location} {i : Interruption} (hwithout : (c.save path none t).1 = .error e)
      (hparent : t.perform (parentTask path) = (.ok (), v)) (hopen : v.openFile path = .ok l)
      (hinterruption : v.volume.interruption? v.entries l = some i)
      (hshort : i.kept < (Bytes.ofString c.withFingerprints.toLines).length)
      (he : e = .persist path (FileError.chain (.system i.code)))
      (hread : u.read path = .ok ((Bytes.ofString c.withFingerprints.toLines).take i.kept))
  /-- The configuration has been written, and only a certificate that leads to the same place has taken its place. -/
  | stored {contents : Bytes} (hwithout : (c.save path none t).1 = .ok ()) (hread : u.read path = .ok contents)
      (hheld : contents = Bytes.ofString c.withFingerprints.toLines
        ∨ ∃ file der, .write file der ∈ certificateTasks c.certificates trustDirectory
          ∧ u.locate file = u.locate path ∧ contents <+: der)

theorem unopened_of_perform_parentTask {c : Configuration} {path : String} {trustDirectory : Option String}
    {t u : FileTree} {e : RunError} {r : Except RunError Unit} (hwithout : (c.save path none t).1 = .error e)
    (h : t.perform (parentTask path) = (r, u))
    : Aftermath c path trustDirectory t e u := by
  have hmade := made_parentTask t path
  rw [h] at hmade
  refine .unopened hwithout (fun _ => hmade.node?_eq_or not_false) ?_
  by_cases hled : ∃ l, t.locate path = .ok l
  . obtain ⟨l, hl⟩ := hled
    exact Or.inl fun _ => hmade.read_eq_ok_iff hl
  . have hunread (contents : Bytes) : t.read path ≠ .ok contents := by
      intro hread
      obtain ⟨_, l, hl, _⟩ := read_eq_ok_iff.1 hread
      exact hled ⟨l, hl⟩
    by_cases hread : ∃ contents, u.read path = .ok contents
    . obtain ⟨contents, hread⟩ := hread
      obtain ⟨_, l, hl, hnode⟩ := read_eq_ok_iff.1 hread
      refine Or.inr ⟨not_exists.1 hled, ?_, l, contents, hl, ?_⟩
      . rw [h]
        cases r with
        | error e => exact absurd hread (not_read_of_parentTask h contents)
        | ok => rfl
      . exact hmade.node?_eq_file_iff.1 hnode
    . exact Or.inl fun contents => iff_of_false (not_exists.1 hread contents) (hunread contents)

/-- Nothing is taken back: what is found at the path depends on how far storing has come. -/
theorem aftermath_of_save {c : Configuration} {t u : FileTree} {path : String} {trustDirectory : Option String}
    {e : RunError} (hsave : c.save path trustDirectory t = (.error e, u))
    : Aftermath c path trustDirectory t e u := by
  have hnone := save_none_eq c path t
  rw [save_eq, perform_append] at hsave
  rcases hparent : t.perform (parentTask path) with ⟨e' | ⟨⟩, v⟩
  . rw [hparent] at hsave hnone
    cases hsave
    exact unopened_of_perform_parentTask (congrArg Prod.fst hnone) hparent
  . rw [hparent] at hsave hnone
    dsimp only at hsave hnone
    have hwrites := writes_attempt v path (Bytes.ofString c.withFingerprints.toLines)
    rcases hattempt : v.attempt (.write path (Bytes.ofString c.withFingerprints.toLines)) with ⟨r, w⟩
    rw [hattempt] at hwrites
    cases hwrites with
    | unopened hopen =>
      rw [perform_cons_error _ hattempt] at hsave hnone
      cases hsave
      exact unopened_of_perform_parentTask (congrArg Prod.fst hnone) hparent
    | brokenOff hopen hinterruption hshort =>
      rw [perform_cons_error _ hattempt] at hsave hnone
      cases hsave
      exact .brokenOff (congrArg Prod.fst hnone) hparent hopen hinterruption hshort rfl (read_put_of_openFile hopen _)
    | complete =>
      rw [perform_cons_ok _ hattempt] at hsave hnone
      have hstored := read_of_write (attempt_write_eq_ok_iff.1 hattempt)
      obtain ⟨contents, hread, hheld⟩ := exists_read_perform hstored (certificateTasks c.certificates trustDirectory)
      rw [hsave] at hread hheld
      refine .stored (congrArg Prod.fst hnone) hread (hheld.imp_right ?_)
      rintro ⟨file, der, hmem, hsame, hleft⟩
      exact ⟨file, der, hmem, hsame, hleft.starts⟩

namespace Example

/-- A file lies where the directory for the certificates would be. -/
def trustBlocked : FileTree where
  entries := [(["pod.json"], .file (Bytes.ofString fingerprinted.toLines)), (["trust"], .file [0x78])]

def replaced : FileTree :=
  trustBlocked.put ["pod.json"] (.file (Bytes.ofString fingerprinted.withFingerprints.toLines))

theorem write_replaced
    : trustBlocked.write "pod.json" (Bytes.ofString fingerprinted.withFingerprints.toLines) = .ok replaced := by
  rw [write_eq_ok_iff]
  exact ⟨by decide, ["pod.json"], by decide +kernel, nofun, takes_of_volume_eq rfl _ _, rfl⟩

theorem read_trustBlocked : trustBlocked.read "pod.json" = .ok (Bytes.ofString fingerprinted.toLines) := by
  rw [read_eq_ok_iff]
  exact ⟨by decide, ["pod.json"], by decide +kernel, rfl⟩

theorem save_trustBlocked
    : fingerprinted.save "pod.json" (some "trust") trustBlocked
        = (.error (.persist "trust" (FileError.chain .alreadyExists)), replaced) := by
  have htrust : replaced.attempt (.makeDirectories "trust") = (.error .alreadyExists, replaced) := by
    unfold attempt
    exact makeDirectories_of_file (l := ["trust"]) (by decide +kernel) rfl
  rw [save_of_read read_trustBlocked, perform_cons_ok _ (attempt_write_eq_ok_iff.2 write_replaced)]
  exact perform_cons_error _ htrust

/-- There is no space left on what the files are kept on. -/
def volumeFull : FileTree :=
  { fingerprintedTree with volume := { interruption? _ _ := some { kept := 0, code := 28 } } }

def emptied : FileTree :=
  volumeFull.put ["pod.json"] (.file [])

theorem openFile_volumeFull : volumeFull.openFile "pod.json" = .ok ["pod.json"] := by
  rw [openFile_eq_ok_iff]
  exact ⟨by decide, by decide +kernel, nofun, rfl⟩

theorem read_volumeFull : volumeFull.read "pod.json" = .ok (Bytes.ofString fingerprinted.toLines) := by
  rw [read_eq_ok_iff]
  exact ⟨by decide, ["pod.json"], by decide +kernel, rfl⟩

theorem attempt_volumeFull {contents : Bytes} (h : 0 < contents.length)
    : volumeFull.attempt (.write "pod.json" contents) = (.error (.system 28), emptied) := by
  have hfill : volumeFull.fill ["pod.json"] contents = .error (.system 28, emptied) :=
    fill_of_short (i := { kept := 0, code := 28 }) rfl h
  unfold attempt write
  dsimp only
  rw [openFile_volumeFull]
  dsimp only
  rw [hfill]

theorem length_toLines_pos (c : Configuration) : 0 < (Bytes.ofString c.toLines).length := by
  unfold Bytes.ofString Bytes.ofChars
  rw [toList_toLines, List.flatMap_cons, List.length_append, String.length_utf8EncodeChar]
  exact Nat.add_pos_left (Char.utf8Size_pos _) _

theorem save_volumeFull
    : fingerprinted.save "pod.json" none volumeFull
        = (.error (.persist "pod.json" (FileError.chain (.system 28))), emptied) := by
  rw [save_of_read read_volumeFull]
  exact perform_cons_error _ (attempt_volumeFull (length_toLines_pos fingerprinted.withFingerprints))

theorem toLines_fingerprinted_ne
    : Bytes.ofString fingerprinted.withFingerprints.toLines ≠ Bytes.ofString fingerprinted.toLines := by
  have hstorable : fingerprinted.Storable := { fits := fun _ hn => (nomatch hn), certificates_eq := rfl }
  have hfits : ∀ n ∈ fingerprinted.withFingerprints.podId, Fits n := hstorable.fits
  intro heq
  have htext := congrArg Bytes.toString? heq
  rw [Bytes.toString?_ofString, Bytes.toString?_ofString] at htext
  have hread := congrArg ofText (Option.some.inj htext)
  rw [ofText_toLines hfits, ofText_toLines hstorable.fits] at hread
  have hlists : ([] : List String) = ["ab"] := congrArg rootFingerprints (Except.ok.inj hread)
  cases hlists

end Example

open Example

theorem aftermath_of_save_blocked
    : fingerprinted.save "pod.json" (some "trust") trustBlocked
        = (.error (.persist "trust" (FileError.chain .alreadyExists)), replaced)
      ∧ Aftermath fingerprinted "pod.json" (some "trust") trustBlocked (.persist "trust" (FileError.chain .alreadyExists))
        replaced
      ∧ replaced.read "pod.json" = .ok (Bytes.ofString fingerprinted.withFingerprints.toLines)
      ∧ fingerprinted.save "pod.json" none volumeFull
        = (.error (.persist "pod.json" (FileError.chain (.system 28))), emptied)
      ∧ Aftermath fingerprinted "pod.json" none volumeFull (.persist "pod.json" (FileError.chain (.system 28)))
        emptied :=
  ⟨save_trustBlocked, aftermath_of_save save_trustBlocked, read_of_write write_replaced, save_volumeFull,
    aftermath_of_save save_volumeFull⟩

/--
The configuration that was there before is gone although storing is said to have failed: where only the certificates
could not be stored there is the new one, and where there is no space left there is none.
-/
theorem not_spared_of_save_blocked
    : (∃ e, fingerprinted.save "pod.json" (some "trust") trustBlocked = (.error e, replaced))
      ∧ replaced.read "pod.json" ≠ trustBlocked.read "pod.json"
      ∧ (∃ e, fingerprinted.save "pod.json" none volumeFull = (.error e, emptied))
      ∧ volumeFull.read "pod.json" = .ok (Bytes.ofString fingerprinted.toLines)
      ∧ emptied.read "pod.json" = .ok [] := by
  refine ⟨⟨_, save_trustBlocked⟩, ?_, ⟨_, save_volumeFull⟩, read_volumeFull, read_put_of_openFile openFile_volumeFull []⟩
  rw [read_trustBlocked, read_of_write write_replaced]
  intro h
  exact toLines_fingerprinted_ne (Except.ok.inj h)

end PodProbe.Configuration
