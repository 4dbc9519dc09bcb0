import PodProbe.Configuration.Store
import PodProbe.Proofs.Bytes.Hex
import PodProbe.Proofs.Bytes.Text
import PodProbe.Proofs.Configuration.Storable
import PodProbe.Proofs.FileTree.Join
import PodProbe.Proofs.Harvest

/-!
This module contains what comes back of a configuration that is stored and read again, and of one that is read and
stored again. The fingerprints that are stored are those of the certificates at hand; as none are read, storing what
was read drops the fingerprints.
-/

namespace PodProbe.Configuration

/-! ### Reading -/

theorem load_eq_ok_iff {t : FileTree} {path : String} {c : Configuration}
    : load t path = .ok c
        ↔
      ∃ contents text, t.read path = .ok contents ∧ Bytes.toString? contents = some text ∧ ofText text = .ok c := by
  unfold load
  cases t.read path with
  | error e =>
    constructor
    . intro h
      cases h
    . intro ⟨_, _, h, _⟩
      cases h
  | ok contents =>
    change ofFile path (.ok contents) = _ ↔ _
    unfold ofFile
    dsimp only
    cases htext : Bytes.toString? contents with
    | none => simp [htext]
    | some text =>
      cases hread : ofText text <;> simp [htext, hread]

theorem load_of_read {t : FileTree} {path : String} {c : Configuration} (hid : ∀ n ∈ c.podId, Fits n)
    (hread : t.read path = .ok (Bytes.ofString c.toLines))
    : load t path = .ok { c with certificates := {} } := by
  rw [load_eq_ok_iff]
  exact ⟨_, _, hread, Bytes.toString?_ofString _, ofText_toLines hid⟩

/-! ### Storing -/

def certificatePath (directory : String) (c : Certificate) : String :=
  FilePath.join directory (c.sha256Hex ++ ".der")

/-- The files that hold the certificates of a harvest once it is stored. -/
def certificatePaths (h : Harvest) : Option String → List String
  | none => []
  | some directory =>
    h.roots.map (certificatePath directory) ++ h.servers.map (certificatePath (FilePath.join directory "servers"))

def certificateTasks (h : Harvest) (trustDirectory : Option String) : List FileTask :=
  (trustDirectory.map (trustTasks h)).getD []

def serversIn (directory : String) : String :=
  FilePath.join directory "servers"

theorem write_mem_trustTasks_iff {h : Harvest} {directory file : String} {contents : Bytes}
    : FileTask.write file contents ∈ trustTasks h directory
        ↔
      (∃ c ∈ h.roots, certificatePath directory c = file ∧ c.der = contents)
        ∨ ∃ c ∈ h.servers, certificatePath (serversIn directory) c = file ∧ c.der = contents := by
  unfold trustTasks
  simp only [List.mem_append, List.mem_cons, List.mem_map, reduceCtorEq, false_or, certificateTask, FileTask.write.injEq]
  rfl

theorem mem_certificatePaths_of_write {h : Harvest} {trustDirectory : Option String} {file : String} {contents : Bytes}
    (hmem : FileTask.write file contents ∈ certificateTasks h trustDirectory)
    : file ∈ certificatePaths h trustDirectory := by
  cases trustDirectory with
  | none => cases hmem
  | some directory =>
    unfold certificatePaths
    rw [List.mem_append, List.mem_map, List.mem_map]
    rcases write_mem_trustTasks_iff.1 hmem with ⟨c, hc, heq, _⟩ | ⟨c, hc, heq, _⟩
    . exact Or.inl ⟨c, hc, heq⟩
    . exact Or.inr ⟨c, hc, heq⟩

theorem write_not_mem_parentTask (path file : String) (contents : Bytes)
    : FileTask.write file contents ∉ parentTask path := by
  unfold parentTask
  split
  . split <;> simp
  . simp

theorem save_eq (c : Configuration) (path : String) (trustDirectory : Option String) (t : FileTree)
    : c.save path trustDirectory t
        =
      t.perform (parentTask path
        ++ .write path (Bytes.ofString c.withFingerprints.toLines) :: certificateTasks c.certificates trustDirectory) :=
  rfl

theorem read_of_save {c : Configuration} {t u : FileTree} {path : String} {trustDirectory : Option String}
    (hsave : c.save path trustDirectory t = (.ok (), u))
    (hpath : ∀ file ∈ certificatePaths c.certificates trustDirectory, u.locate file ≠ u.locate path)
    : u.read path = .ok (Bytes.ofString c.withFingerprints.toLines) := by
  -- The configuration is written between two groups of tasks, and only those of the second could undo it.
  rw [save_eq, FileTree.perform_append_eq_ok_iff] at hsave
  rcases hsave with ⟨v, _, hsave⟩
  rw [FileTree.perform_cons_eq_ok_iff] at hsave
  rcases hsave with ⟨w, hwrite, hrest⟩
  rw [FileTree.attempt_write_eq_ok_iff] at hwrite
  have hread := FileTree.read_perform (FileTree.read_of_write hwrite) (certificateTasks c.certificates trustDirectory)
  rw [hrest] at hread
  apply hread
  intro file contents hmem
  exact hpath file (mem_certificatePaths_of_write hmem)

/-- What is stored comes back, with the fingerprints of the certificates that were at hand. Since a path can be written
in many ways, files are told apart by where their paths lead. -/
theorem load_of_save {c : Configuration} (hid : ∀ n ∈ c.podId, Fits n) {t u : FileTree} {path : String}
    {trustDirectory : Option String} (hsave : c.save path trustDirectory t = (.ok (), u))
    (hpath : ∀ file ∈ certificatePaths c.certificates trustDirectory, u.locate file ≠ u.locate path)
    : load u path = .ok { c with
        rootFingerprints := c.certificates.roots.map Certificate.sha256Hex
        serverFingerprints := c.certificates.servers.map Certificate.sha256Hex
        certificates := {} }
      ∧ ∀ ps, c.certificates = .ofProbes ps → c.certificates.Ordered := by
  constructor
  . have hload := load_of_read (c := c.withFingerprints) hid (read_of_save hsave hpath)
    exact hload
  . intro ps hps
    rw [hps]
    exact Harvest.ordered_ofProbes ps

theorem plain_certificateName (c : Certificate) : FilePath.Plain (c.sha256Hex ++ ".der") := by
  have hchars : ∀ d ∈ (c.sha256Hex ++ ".der").toList, d ∈ Bytes.hexDigits ∨ d ∈ ['.', 'd', 'e', 'r'] := by
    intro d hd
    rw [String.toList_append, List.mem_append] at hd
    exact hd.imp_left Bytes.mem_hexDigits_of_mem_toHex
  have hlast : 'r' ∈ (c.sha256Hex ++ ".der").toList := by
    simp
  have hshort := c.utf8ByteSize_sha256Hex_le
  constructor
  case slash_not_mem => exact fun h => absurd (hchars _ h) (by decide)
  case nul_not_mem => exact fun h => absurd (hchars _ h) (by decide)
  case nonempty => exact List.ne_nil_of_mem hlast
  case ne_dot =>
    intro heq
    rw [heq] at hlast
    exact absurd hlast (by decide)
  case ne_dots =>
    intro heq
    rw [heq] at hlast
    exact absurd hlast (by decide)
  case short =>
    rw [String.utf8ByteSize_append]
    exact Nat.le_trans (Nat.add_le_add_right hshort _) (by decide)

namespace Example

/-- A configuration with a text that has to be escaped, the least integer, and one certificate that is both a root and
that of a server. -/
def harvested : Configuration where
  podUrl := some "https://\"acme\"\\\x00\n"
  podId := some Json.leastInt
  rootFingerprints := ["ab"]
  certificates := { roots := [⟨[1]⟩], servers := [⟨[1]⟩] }

def certificateFile : String :=
  Certificate.sha256Hex ⟨[1]⟩ ++ ".der"

def emptyTrust : FileTree where
  entries := [(["trust"], .directory), (["trust", "servers"], .directory)]

def configurationStored : FileTree :=
  emptyTrust.put ["pod.json"] (.file (Bytes.ofString harvested.withFingerprints.toLines))

def rootStored : FileTree :=
  configurationStored.put ["trust", certificateFile] (.file [1])

def serverStored : FileTree :=
  rootStored.put ["trust", "servers", certificateFile] (.file [1])

open FileTree FilePath

theorem plain_certificateFile : Plain certificateFile :=
  plain_certificateName ⟨[1]⟩

theorem certificateFile_ne : certificateFile ≠ "servers" := by
  intro heq
  have hdot : '.' ∈ certificateFile.toList := by
    simp [certificateFile]
  rw [heq] at hdot
  exact absurd hdot (by decide)

theorem passable_join_certificateFile {path : String} (h : Passable path) (hshort : path.utf8ByteSize ≤ 13)
    : Passable (join path certificateFile) := by
  apply h.join plain_certificateFile
  have hname := plain_certificateFile.short
  unfold longestName at hname
  unfold tooLong
  omega

theorem node?_emptyTrust {name : String} (h : name ≠ "servers") : emptyTrust.node? ["trust", name] = none := by
  simp [emptyTrust, node?, List.lookup_cons, beq_false_of_ne h]

theorem locate_trust : emptyTrust.locate "trust" = .ok ["trust"] := by
  decide +kernel

theorem locate_servers : emptyTrust.locate (join "trust" "servers") = .ok ["trust", "servers"] := by
  decide +kernel

theorem write_configurationStored
    : emptyTrust.write "pod.json" (Bytes.ofString harvested.withFingerprints.toLines) = .ok configurationStored := by
  rw [write_eq_ok_iff]
  exact ⟨by decide, ["pod.json"], by decide +kernel, by decide, takes_of_volume_eq rfl _ _, rfl⟩

theorem write_rootStored : configurationStored.write (join "trust" certificateFile) [1] = .ok rootStored := by
  have hgrows := grows_write write_configurationStored
  apply write_join (hgrows.locate locate_trust) (hgrows _ _ rfl (Or.inl rfl)) plain_certificateFile
  . exact passable_join_certificateFile (locate_eq_ok_iff.1 locate_trust).1 (by decide)
  . unfold configurationStored
    rw [List.cons_append, List.nil_append, node?_put_of_ne _ _ (by simp), node?_emptyTrust certificateFile_ne]
    exact nofun
  . exact takes_of_volume_eq rfl _ _

theorem grows_rootStored : Grows (fun _ => True) emptyTrust rootStored := by
  apply Grows.trans (u := configurationStored)
  . exact (grows_write write_configurationStored).mono fun _ _ => trivial
  . exact (grows_write write_rootStored).mono fun _ _ => trivial

theorem write_serverStored : rootStored.write (join (join "trust" "servers") certificateFile) [1] = .ok serverStored := by
  apply write_join (grows_rootStored.locate locate_servers) (grows_rootStored _ _ rfl (Or.inl rfl)) plain_certificateFile
  . exact passable_join_certificateFile (locate_eq_ok_iff.1 locate_servers).1 (by decide)
  . unfold rootStored configurationStored
    rw [node?_put_of_ne _ _ (by simp), node?_put_of_ne _ _ (by simp)]
    simp [emptyTrust, node?, List.lookup_cons]
  . exact takes_of_volume_eq rfl _ _

theorem save_harvested : harvested.save "pod.json" (some "trust") emptyTrust = (.ok (), serverStored) := by
  have hparent : parentTask "pod.json" = [] := by
    decide +kernel
  have hgrows := grows_write write_configurationStored
  have htrust : configurationStored.attempt (.makeDirectories "trust") = (.ok (), configurationStored) := by
    unfold attempt
    exact makeDirectories_of_isDirectory (hgrows.locate locate_trust) (hgrows _ _ rfl (Or.inl rfl))
  have hservers : rootStored.attempt (.makeDirectories (join "trust" "servers")) = (.ok (), rootStored) := by
    unfold attempt
    exact makeDirectories_of_isDirectory (grows_rootStored.locate locate_servers) (grows_rootStored _ _ rfl (Or.inl rfl))
  rw [save_eq, hparent, List.nil_append]
  rw [perform_cons_ok _ (attempt_write_eq_ok_iff.2 write_configurationStored)]
  change configurationStored.perform [.makeDirectories "trust", .write (join "trust" certificateFile) [1],
    .makeDirectories (join "trust" "servers"), .write (join (join "trust" "servers") certificateFile) [1]] = _
  rw [perform_cons_ok _ htrust, perform_cons_ok _ (attempt_write_eq_ok_iff.2 write_rootStored), perform_cons_ok _ hservers,
    perform_cons_ok _ (attempt_write_eq_ok_iff.2 write_serverStored), perform_nil]

theorem locate_ne_harvested
    : ∀ file ∈ certificatePaths harvested.certificates (some "trust"),
        serverStored.locate file ≠ serverStored.locate "pod.json" := by
  have hgrows := grows_write write_serverStored
  have hpod : serverStored.locate "pod.json" = .ok ["pod.json"] := by
    apply hgrows.locate
    apply grows_rootStored.locate
    decide +kernel
  have hroot : serverStored.locate (join "trust" certificateFile) = .ok ["trust", certificateFile] := by
    apply hgrows.locate
    apply locate_join (grows_rootStored.locate locate_trust) (grows_rootStored _ _ rfl (Or.inl rfl)) plain_certificateFile
    exact passable_join_certificateFile (locate_eq_ok_iff.1 locate_trust).1 (by decide)
  have hserver : serverStored.locate (join (join "trust" "servers") certificateFile)
      = .ok ["trust", "servers", certificateFile] := by
    apply hgrows.locate
    apply locate_join (grows_rootStored.locate locate_servers) (grows_rootStored _ _ rfl (Or.inl rfl)) plain_certificateFile
    exact passable_join_certificateFile (locate_eq_ok_iff.1 locate_servers).1 (by decide)
  have hpaths : certificatePaths harvested.certificates (some "trust")
      = [join "trust" certificateFile, join (join "trust" "servers") certificateFile] := rfl
  rw [hpaths, hpod]
  intro file hfile
  simp only [List.mem_cons, List.not_mem_nil, or_false] at hfile
  cases hfile with
  | inl heq =>
    rw [heq, hroot]
    simp
  | inr heq =>
    rw [heq, hserver]
    simp

end Example

open Example

theorem load_of_save_harvested
    : harvested.save "pod.json" (some "trust") emptyTrust = (.ok (), serverStored)
      ∧ load serverStored "pod.json" = .ok { harvested with
          rootFingerprints := [Certificate.sha256Hex ⟨[1]⟩]
          serverFingerprints := [Certificate.sha256Hex ⟨[1]⟩]
          certificates := {} } := by
  have hid : ∀ n ∈ harvested.podId, Fits n := by
    intro n hn
    cases hn
    exact ⟨by decide, by decide⟩
  exact ⟨save_harvested, (load_of_save hid save_harvested locate_ne_harvested).1⟩

theorem exists_write_iff_of_read {t : FileTree} {path : String} {contents : Bytes} (hread : t.read path = .ok contents)
    (contents' : Bytes)
    : (∃ u, t.write path contents' = .ok u) ↔ t.Accepts path contents' := by
  rcases FileTree.read_eq_ok_iff.1 hread with ⟨hslash, l, hl, hnode⟩
  constructor
  . rintro ⟨u, hwrite⟩ m hm
    rcases FileTree.write_eq_ok_iff.1 hwrite with ⟨_, l', hl', _, htakes, _⟩
    rw [hl'] at hm
    cases hm
    exact htakes
  . intro haccepts
    refine ⟨_, FileTree.write_eq_ok_iff.2 ⟨hslash, l, hl, ?_, haccepts l hl, rfl⟩⟩
    rw [hnode]
    exact nofun

theorem perform_parentTask {t : FileTree} {path : String} {contents : Bytes} (hread : t.read path = .ok contents)
    : t.perform (parentTask path) = (.ok (), t) := by
  unfold parentTask
  split
  . next parent hparent =>
    split
    . rfl
    . have hattempt : t.attempt (.makeDirectories parent) = (.ok (), t) := FileTree.makeDirectories_parent hread hparent
      rw [FileTree.perform_cons_ok [] hattempt]
      rfl
  . rfl

/-- Where there is a file already, nothing has to be made before it is written. -/
theorem save_of_read {t : FileTree} {path : String} {contents : Bytes} (hread : t.read path = .ok contents)
    (c : Configuration) (trustDirectory : Option String)
    : c.save path trustDirectory t
        =
      t.perform (.write path (Bytes.ofString c.withFingerprints.toLines)
        :: certificateTasks c.certificates trustDirectory) := by
  rw [save_eq, FileTree.perform_append, perform_parentTask hread]

theorem save_none_eq_ok_iff_of_read {t : FileTree} {path : String} {contents : Bytes}
    (hread : t.read path = .ok contents) (c : Configuration)
    : (c.save path none t).1 = .ok () ↔ ∃ u, t.write path (Bytes.ofString c.withFingerprints.toLines) = .ok u := by
  rw [save_of_read hread]
  constructor
  . intro hok
    obtain ⟨u, hattempt, _⟩ := FileTree.perform_cons_eq_ok_iff.1 (Prod.ext hok rfl)
    exact ⟨u, FileTree.attempt_write_eq_ok_iff.1 hattempt⟩
  . rintro ⟨u, hwrite⟩
    rw [FileTree.perform_cons_ok _ (FileTree.attempt_write_eq_ok_iff.2 hwrite)]
    rfl

theorem certificatePaths_empty (trustDirectory : Option String) : certificatePaths {} trustDirectory = [] := by
  cases trustDirectory <;> rfl

theorem load_save_of_read {t : FileTree} {path : String} {contents : Bytes} (hread : t.read path = .ok contents)
    {c : Configuration} (h : c.Storable) (hsaved : (c.save path none t).1 = .ok ()) (trustDirectory : Option String)
    : load (c.save path trustDirectory t).2 path = .ok { c with rootFingerprints := [], serverFingerprints := [] } := by
  obtain ⟨u, hwrite⟩ := (save_none_eq_ok_iff_of_read hread c).1 hsaved
  have hkept : (u.perform (certificateTasks c.certificates trustDirectory)).2.read path
      = .ok (Bytes.ofString c.withFingerprints.toLines) := by
    apply FileTree.read_perform (FileTree.read_of_write hwrite)
    intro file contents hmem
    have hfile := mem_certificatePaths_of_write hmem
    rw [h.certificates_eq, certificatePaths_empty] at hfile
    cases hfile
  have hfits : ∀ n ∈ c.withFingerprints.podId, Fits n := h.fits
  rw [save_of_read hread, FileTree.perform_cons_ok _ (FileTree.attempt_write_eq_ok_iff.2 hwrite),
    load_of_read hfits hkept]
  unfold withFingerprints
  rw [h.certificates_eq]
  rfl

/--
What was read is stored again, if nothing refuses it or breaks it off, without fingerprints: these are those of
certificates, of which none are read.
-/
theorem load_save_of_load {t : FileTree} {path : String} {c : Configuration} (h : load t path = .ok c)
    : ((c.save path none t).1 = .ok () ↔ t.Accepts path (Bytes.ofString c.withFingerprints.toLines))
      ∧ ((c.save path none t).1 = .ok () →
          ∀ trustDirectory, load (c.save path trustDirectory t).2 path
            = .ok { c with rootFingerprints := [], serverFingerprints := [] }) := by
  rcases load_eq_ok_iff.1 h with ⟨contents, text, hread, _, htext⟩
  constructor
  . rw [save_none_eq_ok_iff_of_read hread]
    exact exists_write_iff_of_read hread _
  . exact load_save_of_read hread (storable_of_ofText htext)

namespace Example

def fingerprinted : Configuration where
  podUrl := some "https://acme.symphony.com"
  rootFingerprints := ["ab"]

def fingerprintedTree : FileTree where
  entries := [(["pod.json"], .file (Bytes.ofString fingerprinted.toLines))]

theorem read_fingerprinted : fingerprintedTree.read "pod.json" = .ok (Bytes.ofString fingerprinted.toLines) := by
  rw [FileTree.read_eq_ok_iff]
  refine ⟨by decide, ["pod.json"], ?_, rfl⟩
  decide +kernel

theorem load_fingerprinted : load fingerprintedTree "pod.json" = .ok fingerprinted := by
  apply load_of_read _ read_fingerprinted
  intro n hn
  cases hn

theorem save_fingerprinted : (fingerprinted.save "pod.json" none fingerprintedTree).1 = .ok () := by
  rw [save_none_eq_ok_iff_of_read read_fingerprinted, exists_write_iff_of_read read_fingerprinted]
  exact FileTree.accepts_of_volume_eq rfl _ _

end Example

theorem load_save_of_load_fingerprinted
    : load fingerprintedTree "pod.json" = .ok fingerprinted
      ∧ (fingerprinted.save "pod.json" none fingerprintedTree).1 = .ok ()
      ∧ load (fingerprinted.save "pod.json" none fingerprintedTree).2 "pod.json"
        = .ok { fingerprinted with rootFingerprints := [] } :=
  ⟨load_fingerprinted, save_fingerprinted, (load_save_of_load load_fingerprinted).2 save_fingerprinted none⟩

theorem load_save_fingerprinted_ne
    : load fingerprintedTree "pod.json" = .ok fingerprinted
      ∧ load (fingerprinted.save "pod.json" none fingerprintedTree).2 "pod.json" ≠ .ok fingerprinted := by
  have hstorable : fingerprinted.Storable := { fits := fun _ hn => (nomatch hn), certificates_eq := rfl }
  refine ⟨load_fingerprinted, ?_⟩
  rw [load_save_of_read read_fingerprinted hstorable save_fingerprinted]
  intro h
  have hlists : ([] : List String) = ["ab"] := congrArg rootFingerprints (Except.ok.inj h)
  cases hlists

end PodProbe.Configuration
