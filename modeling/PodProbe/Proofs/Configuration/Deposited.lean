import PodProbe.Proofs.Configuration.Stored

/-!
This module contains what is found in the files once a configuration has been stored together with its certificates:
each listed fingerprint names a file that holds a certificate of this fingerprint, and all other files are as they were.
-/

namespace PodProbe

namespace FilePath

theorem plain_servers : Plain "servers" where
  slash_not_mem := by decide
  nul_not_mem := by decide
  nonempty := by decide
  ne_dot := by decide
  ne_dots := by decide
  short := by decide

end FilePath

namespace Configuration

open FileTree

/-! ### Where certificates are put -/

section

variable {u : FileTree} {directory : String} {c d : Certificate}

/-- In one directory, certificates share a place only if they have one fingerprint. -/
theorem sha256Hex_eq_of_locate_eq {m : Location} (hc : u.locate (certificatePath directory c) = .ok m)
    (hd : u.locate (certificatePath directory d) = .ok m)
    : c.sha256Hex = d.sha256Hex := by
  rcases exists_of_locate_join (plain_certificateName c) hc with ⟨l, hl, rfl⟩
  rcases exists_of_locate_join (plain_certificateName d) hd with ⟨l', hl', heq⟩
  rw [hl] at hl'
  cases hl'
  have hname := List.append_cancel_left heq
  exact (String.append_left_inj ".der").1 (List.singleton_inj.1 hname)

/-- A root never shares its place with a certificate of a server, which lies one level deeper. -/
theorem locate_root_ne_server {m : Location} (hc : u.locate (certificatePath directory c) = .ok m)
    : u.locate (certificatePath (serversIn directory) d) ≠ .ok m := by
  intro hd
  rcases exists_of_locate_join (plain_certificateName c) hc with ⟨l, hl, rfl⟩
  rcases exists_of_locate_join (plain_certificateName d) hd with ⟨l', hl', heq⟩
  unfold serversIn at hl'
  rw [FilePath.names_join directory FilePath.plain_servers] at hl'
  rcases exists_of_foldlM_step_append hl' with ⟨l'', hl'', hstep⟩
  rw [hl] at hl''
  cases hl''
  have hdeeper : l' = l ++ ["servers"] := by
    apply eq_of_step_plain FilePath.plain_servers
    simpa using hstep
  have hlength := congrArg List.length heq
  rw [hdeeper] at hlength
  simp at hlength

end

section

variable {h : Harvest} {directory : String} {t u : FileTree} {c : Certificate}

theorem exists_read_root (hperform : t.perform (trustTasks h directory) = (.ok (), u)) (hc : c ∈ h.roots)
    : ∃ r ∈ h.roots, r.sha256Hex = c.sha256Hex ∧ u.read (certificatePath directory c) = .ok r.der := by
  rcases exists_read_of_write_mem hperform (write_mem_trustTasks_iff.2 (Or.inl ⟨c, hc, rfl, rfl⟩)) with
    ⟨last, contents, hlast, hsame, hread⟩
  rcases read_eq_ok_iff.1 hread with ⟨_, m, hm, _⟩
  rw [hm] at hsame
  rcases write_mem_trustTasks_iff.1 hlast with ⟨r, hr, rfl, rfl⟩ | ⟨s, _, rfl, rfl⟩
  . exact ⟨r, hr, sha256Hex_eq_of_locate_eq hsame hm, hread⟩
  . exact absurd hsame (locate_root_ne_server hm)

theorem exists_read_server (hperform : t.perform (trustTasks h directory) = (.ok (), u)) (hc : c ∈ h.servers)
    : ∃ s ∈ h.servers, s.sha256Hex = c.sha256Hex
        ∧ u.read (certificatePath (serversIn directory) c) = .ok s.der := by
  rcases exists_read_of_write_mem hperform (write_mem_trustTasks_iff.2 (Or.inr ⟨c, hc, rfl, rfl⟩)) with
    ⟨last, contents, hlast, hsame, hread⟩
  rcases read_eq_ok_iff.1 hread with ⟨_, m, hm, _⟩
  rw [hm] at hsame
  rcases write_mem_trustTasks_iff.1 hlast with ⟨r, _, rfl, rfl⟩ | ⟨s, hs, rfl, rfl⟩
  . exact absurd hm (locate_root_ne_server hsame)
  . exact ⟨s, hs, sha256Hex_eq_of_locate_eq hsame hm, hread⟩

end

/-! ### The files after storing -/

/-- The files that a configuration is stored in, with those of its certificates. -/
def depositPaths (c : Configuration) (path directory : String) : List String :=
  path :: certificatePaths c.certificates (some directory)

/-- What is found in the files after a configuration was stored, if its certificates went into a directory. What is
listed in the configuration can be read back as long as none of the certificates took its place. -/
structure Deposited (c : Configuration) (path directory : String) (t u : FileTree) : Prop where
  load_eq : (∀ n ∈ c.podId, Fits n) →
    (∀ file ∈ certificatePaths c.certificates (some directory), u.locate file ≠ u.locate path) →
    load u path = .ok { c.withFingerprints with certificates := {} }
  read_root : ∀ f ∈ c.withFingerprints.rootFingerprints, ∃ r ∈ c.certificates.roots,
    r.sha256Hex = f ∧ u.read (FilePath.join directory (f ++ ".der")) = .ok r.der
  read_server : ∀ f ∈ c.withFingerprints.serverFingerprints, ∃ s ∈ c.certificates.servers,
    s.sha256Hex = f ∧ u.read (FilePath.join (FilePath.join directory "servers") (f ++ ".der")) = .ok s.der
  root_listed : ∀ r ∈ c.certificates.roots, r.sha256Hex ∈ c.withFingerprints.rootFingerprints
  server_listed : ∀ s ∈ c.certificates.servers, s.sha256Hex ∈ c.withFingerprints.serverFingerprints
  read_other : ∀ file contents, t.read file = .ok contents →
    (∀ other ∈ depositPaths c path directory, u.locate other ≠ u.locate file) → u.read file = .ok contents
  node?_other : ∀ l, (∀ other ∈ depositPaths c path directory, u.locate other ≠ .ok l) →
    u.node? l = t.node? l ∨ t.node? l = none ∧ u.node? l = some .directory

theorem mem_depositPaths_of_write {c : Configuration} {path directory file : String} {contents : Bytes}
    (hmem : FileTask.write file contents ∈ c.tasks path (some directory))
    : file ∈ depositPaths c path directory := by
  change _ ∈ parentTask path ++ .write path _ :: certificateTasks c.certificates (some directory) at hmem
  rw [List.mem_append, List.mem_cons] at hmem
  rcases hmem with hmem | heq | hmem
  . exact absurd hmem (write_not_mem_parentTask path file contents)
  . cases heq
    exact List.mem_cons_self
  . exact List.mem_cons_of_mem path (mem_certificatePaths_of_write hmem)

theorem exists_perform_trustTasks {c : Configuration} {t u : FileTree} {path directory : String}
    (hsave : c.save path (some directory) t = (.ok (), u))
    : ∃ v : FileTree, v.perform (trustTasks c.certificates directory) = (.ok (), u) := by
  rw [save_eq, perform_append_eq_ok_iff] at hsave
  rcases hsave with ⟨v, _, hsave⟩
  rcases perform_cons_eq_ok_iff.1 hsave with ⟨w, _, hrest⟩
  exact ⟨w, hrest⟩

theorem deposited_of_save {c : Configuration} {t u : FileTree} {path directory : String}
    (hsave : c.save path (some directory) t = (.ok (), u))
    : Deposited c path directory t u := by
  rcases exists_perform_trustTasks hsave with ⟨v, htrust⟩
  have hmade := made_perform t (c.tasks path (some directory))
  have hread {file : String} {contents : Bytes} (h : t.read file = .ok contents) :=
    read_perform h (c.tasks path (some directory))
  change t.perform (c.tasks path (some directory)) = _ at hsave
  rw [hsave] at hmade hread
  constructor
  case load_eq =>
    intro hfits hpath
    exact load_of_read (c := c.withFingerprints) hfits (read_of_save hsave hpath)
  case read_root =>
    intro f hf
    rcases List.mem_map.1 hf with ⟨r, hr, rfl⟩
    exact exists_read_root htrust hr
  case read_server =>
    intro f hf
    rcases List.mem_map.1 hf with ⟨s, hs, rfl⟩
    exact exists_read_server htrust hs
  case root_listed => exact fun r hr => List.mem_map_of_mem hr
  case server_listed => exact fun s hs => List.mem_map_of_mem hs
  case read_other =>
    intro file contents hbefore hother
    apply hread hbefore
    intro written _ hmem
    exact hother written (mem_depositPaths_of_write hmem)
  case node?_other =>
    intro l hother
    apply hmade.node?_eq_or
    rintro ⟨written, _, hmem, hl⟩
    exact hother written (mem_depositPaths_of_write hmem) hl

open Example

theorem deposited_of_save_harvested
    : harvested.save "pod.json" (some "trust") emptyTrust = (.ok (), serverStored)
      ∧ Certificate.sha256Hex ⟨[1]⟩ ∈ harvested.withFingerprints.rootFingerprints
      ∧ serverStored.read (FilePath.join "trust" certificateFile) = .ok [1]
      ∧ serverStored.read (FilePath.join (FilePath.join "trust" "servers") certificateFile) = .ok [1] := by
  have hdeposited := deposited_of_save save_harvested
  have hmem : (⟨[1]⟩ : Certificate) ∈ harvested.certificates.roots := List.mem_singleton_self _
  have hmem' : (⟨[1]⟩ : Certificate) ∈ harvested.certificates.servers := List.mem_singleton_self _
  have hlisted := hdeposited.root_listed _ hmem
  rcases hdeposited.read_root _ hlisted with ⟨r, hr, _, hroot⟩
  rcases hdeposited.read_server _ (hdeposited.server_listed _ hmem') with ⟨s, hs, _, hserver⟩
  rw [List.mem_singleton.1 hr] at hroot
  rw [List.mem_singleton.1 hs] at hserver
  exact ⟨save_harvested, hlisted, hroot, hserver⟩

end Configuration

end PodProbe
