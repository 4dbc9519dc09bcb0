import PodProbe.Proofs.Session.Consent
import PodProbe.Proofs.Session.Leads

/-!
This module contains what sessions leave alone. Files change only when a platform was found whose configuration
somebody agreed to store, and probes are sent only when nothing stands in the way that can be known without them.
-/

namespace PodProbe

namespace Session

variable (v : Standing) (o : Options)

/-- What an answer is taken for, where one that is not text is an error. -/
def heard : Option Bool → Except RunError Bool
  | some yes => .ok yes
  | none => .error (.other ErrorChain.notText.message)

theorem heard_eq_ok_iff (answer : Option Bool) (yes : Bool) :
    heard answer = .ok yes
      ↔ answer = some yes := by
  cases answer <;> simp [heard]

theorem leads_confirm (q : Console.Question) :
    Leads v (confirm q) (heard (q.ask v.typed).1) { v with typed := (q.ask v.typed).2 } := by
  unfold confirm
  refine (leads_print v _).bind ?_
  cases h : q.assumeYes with
  | true =>
    simp only [Console.Question.ask, h, if_true]
    exact (leads_pure v _).bind (leads_pure v _)
  | false =>
    simp only [Console.Question.ask, h, Bool.false_eq_true, if_false]
    refine (leads_readLine v).bind ?_
    -- The question cuts the line that was read once more, which leaves it as it is.
    rw [Bytes.splitLine_splitLine]
    cases Bytes.toChars? (Bytes.splitLine v.typed).1 with
    | none => exact leads_throw _ _
    | some answer => exact leads_pure _ _

theorem leads_confirm_question (text : String) :
    ∃ r, Leads v (confirm (o.question text)) r { v with typed := o.typedAfter v.typed }
      ∧ (r = .ok true ↔ o.Consents (Bytes.splitLine v.typed).1) := by
  refine ⟨_, o.ask_question_snd text v.typed ▸ leads_confirm v (o.question text), ?_⟩
  rw [heard_eq_ok_iff, o.ask_question_eq_iff]

theorem leads_identity : Leads v (identity o) (o.identityIn v.files) v := by
  unfold identity Options.identityIn
  cases o.clientCertificate with
  | none => exact leads_pure v _
  | some path =>
    cases hkind : KeystoreKind.ofText o.keystoreType with
    | error e => exact (leads_lift v (.error e)).bind_error
    | ok kind =>
      refine (leads_lift v (.ok kind)).bind ?_
      refine (leads_read v path).bind ?_
      change Leads v (liftM (ClientIdentity.load v.files path kind o.keystorePassword) >>= _)
        ((ClientIdentity.load v.files path kind o.keystorePassword).map some) v
      cases ClientIdentity.load v.files path kind o.keystorePassword with
      | error e => exact (leads_lift v (.error e)).bind_error
      | ok i => exact (leads_lift v (.ok i)).bind ((leads_inform v _).bind (leads_pure v _))

theorem leads_goesOn_of_vacant (h : o.occupied? v.files = none) : Leads v (goesOn o) (.ok true) v := by
  unfold goesOn
  cases hpath : o.output with
  | none => exact leads_pure v true
  | some path =>
    have hfind : (v.files.find? path).isSome = false := by simpa [Options.occupied?, hpath] using h
    refine (leads_find v path).bind ?_
    rw [hfind]
    exact leads_pure v true

theorem leads_goesOn_of_occupied {path : String} {r : Except RunError Bool} {w : Standing}
    (h : o.occupied? v.files = some path)
    (hr : Leads v
      (do
        let existing ← liftM (Configuration.load v.files path)
        inform ("existing configuration for " ++ existing.podUrl.getD "an unknown pod")
        confirm (o.question (path ++ " already exists. Continue with probe?"))) r w) :
    Leads v (goesOn o) r w := by
  obtain ⟨hpath, hfind⟩ := Option.filter_eq_some_iff.mp h
  unfold goesOn
  rw [hpath]
  refine (leads_find v path).bind ?_
  rw [hfind]
  exact (leads_read v path).bind hr

theorem leads_goesOn_of_rejected {path : String} {e : RunError} (h : o.occupied? v.files = some path)
    (hload : Configuration.load v.files path = .error e) : Leads v (goesOn o) (.error e) v := by
  refine leads_goesOn_of_occupied v o h ?_
  rw [hload]
  exact (leads_lift v (.error e)).bind_error

theorem leads_goesOn_of_stored {path : String} {c : Configuration} (h : o.occupied? v.files = some path)
    (hload : Configuration.load v.files path = .ok c) :
    ∃ r, Leads v (goesOn o) r { v with typed := o.typedAfter v.typed }
      ∧ (r = .ok true ↔ o.Consents (Bytes.splitLine v.typed).1) := by
  obtain ⟨r, hr, hconsents⟩ := leads_confirm_question v o (path ++ " already exists. Continue with probe?")
  refine ⟨r, leads_goesOn_of_occupied v o h ?_, hconsents⟩
  rw [hload]
  exact (leads_lift v (.ok c)).bind ((leads_inform v _).bind hr)

theorem leads_goesOn :
    ∃ r w, Leads v (goesOn o) r w ∧ w.files = v.files ∧ w.exchanges = v.exchanges
      ∧ (r = .ok true ↔ o.Clear v.files v.typed)
      ∧ (r = .ok true → w.typed = o.typedLast v.files v.typed) := by
  cases hpath : o.occupied? v.files with
  | none =>
    exact ⟨_, _, leads_goesOn_of_vacant v o hpath, rfl, rfl, by simp [Options.Clear, hpath],
      fun _ => by simp [Options.typedLast, hpath]⟩
  | some path =>
    cases hload : Configuration.load v.files path with
    | error e =>
      exact ⟨_, _, leads_goesOn_of_rejected v o hpath hload, rfl, rfl, by simp [Options.Clear, hpath, hload], nofun⟩
    | ok c =>
      obtain ⟨r, hr, hconsents⟩ := leads_goesOn_of_stored v o hpath hload
      exact ⟨r, _, hr, rfl, rfl, by simp [Options.Clear, hpath, hload, hconsents],
        fun _ => by simp [Options.typedLast, hpath]⟩

theorem leads_save (c : Configuration) (path : String) (trustDirectory : Option String) (message : Text.Styled) :
    Leads v
      (do
        let saved ← command (.work (c.tasks path trustDirectory))
        saved
        print message)
      (c.save path trustDirectory v.files).1
      { v with files := (c.save path trustDirectory v.files).2 } := by
  refine (leads_work v _).bind ?_
  change Leads _ (liftM (c.save path trustDirectory v.files).1 >>= _) (c.save path trustDirectory v.files).1 _
  cases (c.save path trustDirectory v.files).1 with
  | error e => exact (leads_lift _ (.error e)).bind_error
  | ok => exact (leads_lift _ (.ok ())).bind (leads_print _ message)

theorem leads_keep (c : Configuration) :
    ∃ r w, Leads v (keep o c) r w ∧ w.exchanges = v.exchanges
      ∧ (w.files ≠ v.files → ∃ path, o.output = some path ∧ o.Consents (Bytes.splitLine v.typed).1)
      ∧ ∀ path, o.output = some path → o.Consents (Bytes.splitLine v.typed).1 →
        w.files = (c.save path o.trustDirectory v.files).2 := by
  unfold keep
  cases hpath : o.output with
  | none => exact ⟨_, _, leads_pure v (), rfl, fun hne => absurd rfl hne, nofun⟩
  | some path =>
    obtain ⟨r, hr, hconsents⟩ := leads_confirm_question v o
      (if (v.files.find? path).isSome then "Overwrite " ++ path ++ "?" else "Save configuration to " ++ path ++ "?")
    match r, hr, hconsents with
    | .error e, hr, hconsents =>
      refine ⟨_, _, (leads_find v path).bind hr.bind_error, rfl, fun hne => absurd rfl hne, ?_⟩
      intro _ _ h
      cases hconsents.mpr h
    | .ok false, hr, hconsents =>
      refine ⟨_, _, (leads_find v path).bind (hr.bind (leads_pure _ ())), rfl, fun hne => absurd rfl hne, ?_⟩
      intro _ _ h
      cases hconsents.mpr h
    | .ok true, hr, hconsents =>
      refine ⟨_, _, (leads_find v path).bind (hr.bind (leads_save _ c path o.trustDirectory _)), rfl,
        fun _ => ⟨path, rfl, hconsents.mp rfl⟩, ?_⟩
      rintro path' ⟨⟩ -
      rfl

/-- The discovery that a session runs. -/
def discovery (net : Http.Network) (settings : Settings) : Journaled (Report × TokenStore) :=
  Discovery.run settings (Http.executor net settings) []

theorem leads_explore_of_unusable (net : Http.Network) (settings : Settings) {e : RunError}
    (h : Tls.checkIdentity settings.identity = .error e) : Leads v (explore net o settings) (.error e) v := by
  unfold explore
  refine leads_now fun start => (leads_print v _).bind ?_
  rw [h]
  exact (leads_lift v (.error e)).bind_error

theorem leads_explore_of_leads (net : Http.Network) {settings : Settings} {r : Except RunError Unit} {w : Standing}
    (h : Tls.checkIdentity settings.identity = .ok ())
    (hr : Leads { v with exchanges := v.exchanges ++ (discovery net settings).journal.exchanges }
      (if (discovery net settings).value.1.isUsable then keep o (discovery net settings).value.1.configuration
      else print (Text.line ["No usable configuration was discovered."])) r w) :
    Leads v (explore net o settings) r w := by
  -- What only the verbose report tells are events, not exchanges.
  have hverbose (j : Journal) : (if o.verbose then j else j.withoutDetails).exchanges = j.exchanges := by
    split
    . rfl
    . exact j.exchanges_withoutDetails
  unfold explore
  refine leads_now fun start => (leads_print v _).bind ?_
  rw [h]
  refine (leads_lift v (.ok ())).bind ?_
  refine (leads_report v (hverbose _)).bind ?_
  refine (leads_print _ _).bind ?_
  refine (leads_forIn _ fun t => leads_inform _ _).bind ?_
  split at hr
  . rw [if_pos ‹_›]
    exact hr.andThen (leads_now fun stop => leads_print _ _)
  . rw [if_neg ‹_›]
    exact hr.andThen (leads_now fun stop => leads_print _ _)

theorem leads_explore (net : Http.Network) (settings : Settings) (h : Tls.checkIdentity settings.identity = .ok ()) :
    ∃ r w, Leads v (explore net o settings) r w
      ∧ w.exchanges = v.exchanges ++ (discovery net settings).journal.exchanges
      ∧ (w.files ≠ v.files → (discovery net settings).value.1.site = .platform
        ∧ ∃ path, o.output = some path ∧ o.Consents (Bytes.splitLine v.typed).1)
      ∧ ((discovery net settings).value.1.site = .platform →
        ∀ path, o.output = some path → o.Consents (Bytes.splitLine v.typed).1 →
        w.files = ((discovery net settings).value.1.configuration.save path o.trustDirectory v.files).2) := by
  let told : Standing := { v with exchanges := v.exchanges ++ (discovery net settings).journal.exchanges }
  let report := (discovery net settings).value.1
  have husable_iff : report.isUsable ↔ report.site = .platform := by simp [Report.isUsable]
  by_cases husable : report.isUsable
  . obtain ⟨r, w, hr, hexchanges, hasked, hsaved⟩ := leads_keep told o report.configuration
    refine ⟨r, w, leads_explore_of_leads v o net h ?_, hexchanges, ?_, fun _ => hsaved⟩
    . rwa [if_pos husable]
    . exact fun hne => ⟨husable_iff.mp husable, hasked hne⟩
  . refine ⟨.ok (), told, leads_explore_of_leads v o net h ?_, rfl, fun hne => absurd rfl hne, ?_⟩
    . rw [if_neg husable]
      exact leads_print told _
    . exact fun hsite => absurd (husable_iff.mpr hsite) husable

theorem leads_ofOptions {net : Http.Network} {identity : Option ClientIdentity} {u w : Standing}
    {r : Except RunError Unit} (hid : o.identityIn v.files = .ok identity) (hgoesOn : Leads v (goesOn o) (.ok true) u)
    (hexplore : Leads u (explore net o (o.settingsWith identity)) r w) : Leads v (ofOptions net o) r w := by
  have hidentity := leads_identity v o
  rw [hid] at hidentity
  unfold ofOptions
  refine hidentity.bind (hgoesOn.bind ?_)
  rw [if_pos rfl]
  exact hexplore

theorem leads_ofOptions_of_hindered (net : Http.Network) (h : o.Hindered v.files v.typed) :
    ∃ r w, Leads v (ofOptions net o) r w ∧ w.files = v.files ∧ w.exchanges = v.exchanges := by
  have hidentity := leads_identity v o
  cases hid : o.identityIn v.files with
  | error e =>
    rw [hid] at hidentity
    exact ⟨_, _, hidentity.bind_error, rfl, rfl⟩
  | ok identity =>
    rw [hid] at hidentity
    obtain ⟨r, u, hr, hfiles, hexchanges, hclear, -⟩ := leads_goesOn v o
    match r, hr with
    | .error e, hr => exact ⟨_, u, hidentity.bind hr.bind_error, hfiles, hexchanges⟩
    | .ok false, hr => exact ⟨_, u, hidentity.bind (hr.bind (leads_pure u ())), hfiles, hexchanges⟩
    | .ok true, hr =>
      -- Nothing but a key that cannot sign is left to hinder the session.
      cases hcheck : Tls.checkIdentity identity with
      | error e =>
        have hexplore := leads_explore_of_unusable u o net (o.settingsWith identity) hcheck
        exact ⟨_, u, leads_ofOptions v o hid hr hexplore, hfiles, hexchanges⟩
      | ok => exact absurd (hclear.mp rfl) (h.not_clear hid hcheck)

/-- All that has to come together before a configuration is stored at a path. -/
structure Permits (net : Http.Network) (o : Options) (files : FileTree) (typed : Bytes)
    (identity : Option ClientIdentity) (path : String) : Prop where
  unhindered : ¬ o.Hindered files typed
  identified : o.identityIn files = .ok identity
  platform : (discovery net (o.settingsWith identity)).value.1.site = .platform
  requested : o.output = some path
  agreed : o.Consents (Bytes.splitLine (o.typedLast files typed)).1

theorem leads_ofOptions_of_not_hindered (net : Http.Network) {identity : Option ClientIdentity}
    (h : ¬ o.Hindered v.files v.typed) (hid : o.identityIn v.files = .ok identity) :
    ∃ r w, Leads v (ofOptions net o) r w
      ∧ w.exchanges = v.exchanges ++ (discovery net (o.settingsWith identity)).journal.exchanges
      ∧ (w.files ≠ v.files → ∃ path, Permits net o v.files v.typed identity path)
      ∧ ∀ path, Permits net o v.files v.typed identity path →
        w.files = ((discovery net (o.settingsWith identity)).value.1.configuration.save path o.trustDirectory
          v.files).2 := by
  have hcheck : Tls.checkIdentity identity = .ok () := Options.checkIdentity_of_not_hindered h hid
  obtain ⟨r, u, hr, hfiles, hexchanges, hclear, htyped⟩ := leads_goesOn v o
  obtain rfl := hclear.mpr (Options.clear_of_not_hindered h)
  obtain ⟨r, w, hexplore, hsent, hasked, hsaved⟩ := leads_explore u o net (o.settingsWith identity) hcheck
  rw [hfiles, htyped rfl] at hasked hsaved
  refine ⟨r, w, leads_ofOptions v o hid hr hexplore, hexchanges ▸ hsent, ?_, ?_⟩
  . intro hne
    obtain ⟨hsite, path, hpath, hconsents⟩ := hasked hne
    exact ⟨path, h, hid, hsite, hpath, hconsents⟩
  . intro path hpermits
    exact hsaved hpermits.platform path hpermits.requested hpermits.agreed

section

variable (net : Http.Network) {words : List String} {o : Options} {d : Desk}

theorem run_ofWords_of_stop {stop : Options.Stop} (hread : Options.read words = .error stop) :
    (d.run (ofWords net words)).2 = d := by
  rw [ofWords, hread]
  rfl

theorem standing_ofWords {r : Except RunError Unit} {w : Standing} (hread : Options.read words = .ok o)
    (h : Leads d.standing (ofOptions net o) r w) : (d.run (ofWords net words)).2.standing = w := by
  obtain ⟨-, hw⟩ := h d rfl
  rw [← hw, ofWords, hread]
  simp only [Desk.run_bind]
  cases (d.run (ofOptions net o).run).1 <;> rfl

theorem ofWords_of_hindered (hread : Options.read words = .ok o) (h : o.Hindered d.files d.typed) :
    (d.run (ofWords net words)).2.files = d.files
      ∧ (d.run (ofWords net words)).2.journal.exchanges = d.journal.exchanges := by
  obtain ⟨r, w, hr, hfiles, hexchanges⟩ := leads_ofOptions_of_hindered d.standing o net h
  have hw := standing_ofWords net hread hr
  exact ⟨(congrArg Standing.files hw).trans hfiles, (congrArg Standing.exchanges hw).trans hexchanges⟩

theorem ofWords_of_not_hindered {identity : Option ClientIdentity} (hread : Options.read words = .ok o)
    (h : ¬ o.Hindered d.files d.typed) (hid : o.identityIn d.files = .ok identity) :
    let after := (d.run (ofWords net words)).2
    after.journal.exchanges
        = d.journal.exchanges ++ (discovery net (o.settingsWith identity)).journal.exchanges
      ∧ (after.files ≠ d.files → ∃ path, Permits net o d.files d.typed identity path)
      ∧ ∀ path, Permits net o d.files d.typed identity path →
        after.files
          = ((discovery net (o.settingsWith identity)).value.1.configuration.save path o.trustDirectory
            d.files).2 := by
  intro after
  obtain ⟨r, w, hr, heffects⟩ := leads_ofOptions_of_not_hindered d.standing o net h hid
  obtain rfl : after.standing = w := standing_ofWords net hread hr
  simp only [Desk.files_standing, Desk.typed_standing, Desk.exchanges_standing] at heffects
  exact heffects

end

/--
What a session does to files and to the network. It changes files only by storing a configuration that it is permitted
to store, and sends probes only where nothing hinders it; but then it does so.
-/
structure Restrained (net : Http.Network) (words : List String) (d after : Desk) : Prop where
  files : after.files ≠ d.files →
    ∃ o identity path, Options.read words = .ok o ∧ Permits net o d.files d.typed identity path
  saved : ∀ o identity path, Options.read words = .ok o → Permits net o d.files d.typed identity path →
    after.files
      = ((discovery net (o.settingsWith identity)).value.1.configuration.save path o.trustDirectory d.files).2
  unsent : ∀ o, Options.read words = .ok o → o.Hindered d.files d.typed →
    after.journal.exchanges = d.journal.exchanges
  sent : ∀ o identity, Options.read words = .ok o → ¬ o.Hindered d.files d.typed →
    o.identityIn d.files = .ok identity →
    after.journal.exchanges
      = d.journal.exchanges ++ (discovery net (o.settingsWith identity)).journal.exchanges

theorem restrained_ofWords (net : Http.Network) (words : List String) (d : Desk) :
    Restrained net words d (d.run (ofWords net words)).2 := by
  constructor
  case files =>
    intro hne
    cases hread : Options.read words with
    | error stop => exact absurd (congrArg Desk.files (run_ofWords_of_stop net hread)) hne
    | ok o =>
      by_cases h : o.Hindered d.files d.typed
      . exact absurd (ofWords_of_hindered net hread h).1 hne
      . obtain ⟨identity, hid⟩ := Options.exists_identityIn_of_not_hindered h
        obtain ⟨-, hpermits, -⟩ := ofWords_of_not_hindered net hread h hid
        obtain ⟨path, hpath⟩ := hpermits hne
        exact ⟨o, identity, path, rfl, hpath⟩
  case saved =>
    intro o identity path hread hpermits
    exact (ofWords_of_not_hindered net hread hpermits.unhindered hpermits.identified).2.2 path hpermits
  case unsent =>
    intro o hread h
    exact (ofWords_of_hindered net hread h).2
  case sent =>
    intro o identity hread h hid
    exact (ofWords_of_not_hindered net hread h hid).1

end Session

end PodProbe
