import Mathlib.Data.List.Induction
import PodProbe.Keystore

/-!
This module contains which identity is selected from the blocks of a text. The blocks are met in order, and the first
that is malformed, or that is the first key and cannot be decrypted, is the end. Where there is none such, all
certificates count and the first key does, whatever else stands between and behind them.
-/

namespace PodProbe

namespace Pem

/-- What is met where a block should be: a block, or what is wrong. -/
abbrev Item := Except Fault Block

def certificateLabel : String := "CERTIFICATE"

def encryptedLabel : String := "ENCRYPTED PRIVATE KEY"

def keyLabels : List String :=
  ["PRIVATE KEY", "RSA PRIVATE KEY", "EC PRIVATE KEY", encryptedLabel]

def blocks (items : List Item) : List Block :=
  items.filterMap Except.toOption

/-- The contents of all certificates, in order. -/
def certificates (items : List Item) : List Bytes :=
  ((blocks items).filter (·.label == certificateLabel)).map Block.contents

def firstKey? (items : List Item) : Option Block :=
  (blocks items).find? (keyLabels.contains ·.label)

/-- What comes of the contents of an encrypted key. -/
inductive Decrypts (password : Option String) (contents : Bytes) : Except KeystoreError Bytes → Prop where
  | needsPassword (hpassword : password = none) : Decrypts password contents (.error .needsPassword)
  | unreadable {p : String} {f : Der.Fault} (hpassword : password = some p)
      (hread : Key.Encrypted.ofBytes contents = .error f) : Decrypts password contents (.error (.unreadableKey f))
  | undecryptable {p : String} {k : Key.Encrypted} {f : Key.DecryptionFault} (hpassword : password = some p)
      (hread : Key.Encrypted.ofBytes contents = .ok k) (hdecrypt : k.decrypt (Bytes.ofString p) = .error f)
      : Decrypts password contents (.error (.undecryptableKey f))
  | decrypted {p : String} {k : Key.Encrypted} {key : Bytes} (hpassword : password = some p)
      (hread : Key.Encrypted.ofBytes contents = .ok k) (hdecrypt : k.decrypt (Bytes.ofString p) = .ok key)
      : Decrypts password contents (.ok key)

/-- Whether a key is the one in a block. -/
inductive Holds (password : Option String) (b : Block) : Bytes → Prop where
  | plain (hlabel : b.label ≠ encryptedLabel) : Holds password b b.contents
  | encrypted {key : Bytes} (hlabel : b.label = encryptedLabel) (hdecrypts : Decrypts password b.contents (.ok key))
      : Holds password b key

/-- Whether an item behind others puts an end to the reading, and with which error. -/
inductive Obstructs (password : Option String) (before : List Item) : Item → KeystoreError → Prop where
  | malformed (f : Fault) : Obstructs password before (.error f) (.block f)
  | locked {b : Block} {e : KeystoreError} (hfirst : firstKey? before = none) (hlabel : b.label = encryptedLabel)
      (hdecrypts : Decrypts password b.contents (.error e)) : Obstructs password before (.ok b) e

def Clear (password : Option String) (items : List Item) : Prop :=
  ∀ before item, before ++ [item] <+: items → ∀ e, ¬ Obstructs password before item e

/-- What is selected from items. -/
inductive Selected (password : Option String) : List Item → Except KeystoreError ClientIdentity → Prop where
  | obstructed {before after : List Item} {item : Item} {e : KeystoreError} (hclear : Clear password before)
      (hobstructs : Obstructs password before item e) : Selected password (before ++ item :: after) (.error e)
  | noCertificate {items : List Item} (hclear : Clear password items) (hcertificates : certificates items = [])
      : Selected password items (.error .noCertificate)
  | noKey {items : List Item} (hclear : Clear password items) (hcertificates : certificates items ≠ [])
      (hkey : firstKey? items = none) : Selected password items (.error .noKey)
  | identity {items : List Item} {b : Block} {key : Bytes} (hclear : Clear password items)
      (hcertificates : certificates items ≠ []) (hkey : firstKey? items = some b) (hholds : Holds password b key)
      : Selected password items (.ok { certificates := certificates items, key })

/-- Whether a block behind others is of no account: it has a label of its own kind, or it is not the first key. -/
def PassedOver (before : List Item) (b : Block) : Prop :=
  b.label ∉ certificateLabel :: keyLabels ∨ b.label ∈ keyLabels ∧ (firstKey? before).isSome

/-! ### Items in a row -/

variable {password : Option String}

@[simp]
theorem certificates_append (items items' : List Item)
    : certificates (items ++ items') = certificates items ++ certificates items' := by
  simp [certificates, blocks]

@[simp]
theorem firstKey?_append (items items' : List Item)
    : firstKey? (items ++ items') = (firstKey? items).or (firstKey? items') := by
  simp [firstKey?, blocks]

@[simp]
theorem certificates_ok (b : Block)
    : certificates [.ok b] = if b.label = certificateLabel then [b.contents] else [] := by
  by_cases h : b.label = certificateLabel <;> simp [certificates, blocks, Except.toOption, h]

@[simp]
theorem firstKey?_ok (b : Block) : firstKey? [.ok b] = if b.label ∈ keyLabels then some b else none := by
  by_cases h : b.label ∈ keyLabels <;> simp [firstKey?, blocks, Except.toOption, h]

theorem clear_nil : Clear password [] := by
  intro before item h
  simp at h

theorem clear_concat_iff {items : List Item} {item : Item}
    : Clear password (items ++ [item]) ↔ Clear password items ∧ ∀ e, ¬ Obstructs password items item e := by
  constructor
  . intro h
    exact ⟨fun before item' hstarts => h before item' (hstarts.trans (List.prefix_append _ _)),
      h items item List.prefix_rfl⟩
  . rintro ⟨hclear, hlast⟩ before item' hstarts
    rcases List.prefix_concat_iff.1 hstarts with heq | hstarts
    . obtain ⟨rfl, hitem⟩ := List.append_inj' heq rfl
      cases hitem
      exact hlast
    . exact hclear before item' hstarts

-- The search for the first obstruction goes by the last item, since an earlier one makes it of no account.
theorem clear_or_obstructed (password : Option String) (items : List Item)
    : Clear password items ∨ ∃ before item after e,
        items = before ++ item :: after ∧ Clear password before ∧ Obstructs password before item e := by
  induction items using List.reverseRecOn with
  | nil => exact Or.inl clear_nil
  | append_singleton items item ih =>
    rcases ih with hclear | ⟨before, item', after, e, rfl, hclear, hobstructs⟩
    . by_cases h : ∃ e, Obstructs password items item e
      . obtain ⟨e, hobstructs⟩ := h
        exact Or.inr ⟨items, item, [], e, rfl, hclear, hobstructs⟩
      . exact Or.inl (clear_concat_iff.2 ⟨hclear, not_exists.1 h⟩)
    . refine Or.inr ⟨before, item', after ++ [item], e, ?_, hclear, hobstructs⟩
      simp

/-! ### Keys -/

theorem decryptKey_of_readable {contents : Bytes} {k : Key.Encrypted} (h : Key.Encrypted.ofBytes contents = .ok k)
    (p : String)
    : decryptKey (some p) contents = (k.decrypt (Bytes.ofString p)).mapError .undecryptableKey := by
  change ((Key.Encrypted.ofBytes contents).mapError _ >>= _) = _
  rw [h]
  rfl

theorem decryptKey_of_unreadable {contents : Bytes} {f : Der.Fault} (h : Key.Encrypted.ofBytes contents = .error f)
    (p : String)
    : decryptKey (some p) contents = .error (.unreadableKey f) := by
  change ((Key.Encrypted.ofBytes contents).mapError _ >>= _) = _
  rw [h]
  rfl

theorem decryptKey_eq_iff {contents : Bytes} {r : Except KeystoreError Bytes}
    : decryptKey password contents = r ↔ Decrypts password contents r := by
  constructor
  . rintro rfl
    cases password with
    | none => exact .needsPassword rfl
    | some p =>
      cases hread : Key.Encrypted.ofBytes contents with
      | error f =>
        rw [decryptKey_of_unreadable hread]
        exact .unreadable rfl hread
      | ok k =>
        rw [decryptKey_of_readable hread]
        cases hdecrypt : k.decrypt (Bytes.ofString p) with
        | error f => exact .undecryptable rfl hread hdecrypt
        | ok key => exact .decrypted rfl hread hdecrypt
  . rintro (rfl | ⟨rfl, hread⟩ | ⟨rfl, hread, hdecrypt⟩ | ⟨rfl, hread, hdecrypt⟩)
    . rfl
    . exact decryptKey_of_unreadable hread _
    . rw [decryptKey_of_readable hread, hdecrypt]
      rfl
    . rw [decryptKey_of_readable hread, hdecrypt]
      rfl

/-- The key that a block gives, if it is to give one. -/
def keyIn (password : Option String) (b : Block) : Except KeystoreError Bytes :=
  if b.label = encryptedLabel then decryptKey password b.contents else .ok b.contents

theorem keyIn_eq_ok_iff {b : Block} {key : Bytes} : keyIn password b = .ok key ↔ Holds password b key := by
  unfold keyIn
  constructor
  . intro h
    split at h
    . next hlabel => exact .encrypted hlabel (decryptKey_eq_iff.1 h)
    . next hlabel =>
      cases h
      exact .plain hlabel
  . rintro (hlabel | ⟨hlabel, hdecrypts⟩)
    . exact if_neg hlabel
    . rw [if_pos hlabel]
      exact decryptKey_eq_iff.2 hdecrypts

theorem keyIn_eq_error_iff {before : List Item} {b : Block} {e : KeystoreError} (h : firstKey? before = none)
    : keyIn password b = .error e ↔ Obstructs password before (.ok b) e := by
  unfold keyIn
  constructor
  . intro herror
    split at herror
    . next hlabel => exact .locked h hlabel (decryptKey_eq_iff.1 herror)
    . cases herror
  . intro hobstructs
    cases hobstructs with
    | locked _ hlabel hdecrypts =>
      rw [if_pos hlabel]
      exact decryptKey_eq_iff.2 hdecrypts

/-! ### Drafts -/

/-- Whether a draft is what items leave. -/
structure Drafts (password : Option String) (items : List Item) (d : IdentityDraft) : Prop where
  certificates_eq : d.certificates = certificates items
  key_eq : Option.Rel (Holds password) (firstKey? items) d.key

theorem drafts_nil : Drafts password [] {} :=
  ⟨rfl, .none⟩

theorem role_eq (b : Block)
    : b.role
        =
      if b.label = certificateLabel then .certificate
      else if b.label ∈ keyLabels then
        if b.label = encryptedLabel then .encryptedKey else .key
      else .none := by
  unfold Block.role keyLabels certificateLabel encryptedLabel
  grind

theorem addBlock_eq (d : IdentityDraft) (b : Block)
    : d.addBlock (decryptKey password) b
        =
      if b.label = certificateLabel then .ok { d with certificates := d.certificates ++ [b.contents] }
      else if b.label ∈ keyLabels ∧ d.key = none then
        (keyIn password b).map fun key => { d with key := some key }
      else .ok d := by
  unfold IdentityDraft.addBlock keyIn
  rw [role_eq]
  by_cases hcertificate : b.label = certificateLabel
  . rw [if_pos hcertificate, if_pos hcertificate]
  . rw [if_neg hcertificate, if_neg hcertificate]
    by_cases hkey : b.label ∈ keyLabels
    . by_cases hencrypted : b.label = encryptedLabel
      . rw [if_pos hkey, if_pos hencrypted, if_pos hencrypted]
        cases d.key with
        | none =>
          rw [if_pos ⟨hkey, rfl⟩]
          cases decryptKey password b.contents <;> rfl
        | some key => simp
      . rw [if_pos hkey, if_neg hencrypted, if_neg hencrypted]
        cases d.key with
        | none =>
          rw [if_pos ⟨hkey, rfl⟩]
          rfl
        | some key => simp
    . rw [if_neg hkey, if_neg fun h => hkey h.1]

variable {before items : List Item} {d : IdentityDraft}

theorem Drafts.key_eq_none_iff (h : Drafts password before d) : d.key = none ↔ firstKey? before = none := by
  have hrel := h.key_eq
  cases hkey : d.key <;> cases hfirst : firstKey? before <;> simp_all

theorem Drafts.exists_key (h : Drafts password before d) {b : Block} (hfirst : firstKey? before = some b)
    : ∃ key, d.key = some key ∧ Holds password b key := by
  have hrel := h.key_eq
  cases hkey : d.key with
  | none => simp [hfirst, hkey] at hrel
  | some key =>
    rw [hfirst, hkey] at hrel
    cases hrel with
    | some hholds => exact ⟨key, rfl, hholds⟩

theorem Drafts.addBlock (h : Drafts password before d) {b : Block}
    (hclear : ∀ e, ¬ Obstructs password before (.ok b) e)
    : ∃ d', d.addBlock (decryptKey password) b = .ok d' ∧ Drafts password (before ++ [.ok b]) d' := by
  rw [addBlock_eq]
  by_cases hcertificate : b.label = certificateLabel
  . rw [if_pos hcertificate]
    refine ⟨_, rfl, ?_, ?_⟩
    . rw [certificates_append, certificates_ok, if_pos hcertificate, h.certificates_eq]
    . have hkey : b.label ∉ keyLabels := by
        rw [hcertificate]
        decide
      rw [firstKey?_append, firstKey?_ok, if_neg hkey, Option.or_none]
      exact h.key_eq
  . have hcertificates : d.certificates = certificates (before ++ [.ok b]) := by
      rw [certificates_append, certificates_ok, if_neg hcertificate, List.append_nil, h.certificates_eq]
    rw [if_neg hcertificate]
    by_cases hkey : b.label ∈ keyLabels ∧ d.key = none
    . have hfirst := h.key_eq_none_iff.1 hkey.2
      rw [if_pos hkey]
      cases hkeyIn : keyIn password b with
      | error e => exact absurd ((keyIn_eq_error_iff hfirst).1 hkeyIn) (hclear e)
      | ok key =>
        refine ⟨_, rfl, hcertificates, ?_⟩
        rw [firstKey?_append, firstKey?_ok, if_pos hkey.1, hfirst]
        exact .some (keyIn_eq_ok_iff.1 hkeyIn)
    . rw [if_neg hkey]
      refine ⟨d, rfl, hcertificates, ?_⟩
      rw [firstKey?_append, firstKey?_ok]
      have hrel := h.key_eq
      cases hfirst : firstKey? before with
      | none =>
        have hlabel : b.label ∉ keyLabels := fun hlabel => hkey ⟨hlabel, h.key_eq_none_iff.2 hfirst⟩
        rw [if_neg hlabel, Option.none_or, ← hfirst]
        exact hrel
      | some first =>
        rw [Option.some_or, ← hfirst]
        exact hrel

theorem Drafts.addBlocks_obstructed (h : Drafts password before d) {item : Item} {e : KeystoreError}
    (hobstructs : Obstructs password before item e) (after : List Item)
    : d.addBlocks (decryptKey password) (item :: after) = .error e := by
  cases hobstructs with
  | malformed f => rfl
  | @locked b _ hfirst hlabel hdecrypts =>
    have hcertificate : b.label ≠ certificateLabel := by
      rw [hlabel]
      decide
    have hkey : b.label ∈ keyLabels := by
      rw [hlabel]
      decide
    have hkeyIn : keyIn password b = .error e := (keyIn_eq_error_iff hfirst).2 (.locked hfirst hlabel hdecrypts)
    have hadd : d.addBlock (decryptKey password) b = .error e := by
      rw [addBlock_eq, if_neg hcertificate, if_pos ⟨hkey, h.key_eq_none_iff.2 hfirst⟩, hkeyIn]
      rfl
    rw [IdentityDraft.addBlocks, hadd]
    rfl

theorem addBlocks_append (decrypt : Bytes → Except KeystoreError Bytes) (d : IdentityDraft) (items items' : List Item)
    : d.addBlocks decrypt (items ++ items') = d.addBlocks decrypt items >>= (·.addBlocks decrypt items') := by
  induction items generalizing d with
  | nil => rfl
  | cons item items ih =>
    cases item with
    | error f => rfl
    | ok b =>
      rw [List.cons_append, IdentityDraft.addBlocks, IdentityDraft.addBlocks, bind_assoc]
      exact bind_congr fun d => ih d

theorem exists_drafts_of_clear (h : Clear password items)
    : ∃ d, IdentityDraft.addBlocks (decryptKey password) {} items = .ok d ∧ Drafts password items d := by
  induction items using List.reverseRecOn with
  | nil => exact ⟨{}, rfl, drafts_nil⟩
  | append_singleton items item ih =>
    obtain ⟨hclear, hlast⟩ := clear_concat_iff.1 h
    obtain ⟨d, hadds, hd⟩ := ih hclear
    rw [addBlocks_append, hadds]
    cases item with
    | error f => exact absurd (.malformed f) (hlast (.block f))
    | ok b =>
      obtain ⟨d', hadd, hd'⟩ := hd.addBlock hlast
      refine ⟨d', ?_, hd'⟩
      change IdentityDraft.addBlock _ d b >>= _ = _
      rw [hadd]
      rfl

theorem addBlocks_eq_error_of_obstructs (hclear : Clear password before) {item : Item} {e : KeystoreError}
    (hobstructs : Obstructs password before item e) (after : List Item)
    : IdentityDraft.addBlocks (decryptKey password) {} (before ++ item :: after) = .error e := by
  obtain ⟨d, hadds, hd⟩ := exists_drafts_of_clear hclear
  rw [addBlocks_append, hadds]
  exact hd.addBlocks_obstructed hobstructs after

theorem drafts_of_addBlocks (h : IdentityDraft.addBlocks (decryptKey password) {} items = .ok d)
    : Drafts password items d := by
  rcases clear_or_obstructed password items with hclear | ⟨before, item, after, e, rfl, hclear, hobstructs⟩
  . obtain ⟨d', hadds, hd⟩ := exists_drafts_of_clear hclear
    cases h.symm.trans hadds
    exact hd
  . cases h.symm.trans (addBlocks_eq_error_of_obstructs hclear hobstructs after)

/-! ### The selection -/

theorem exists_selected (password : Option String) (items : List Item) : ∃ r, Selected password items r := by
  rcases clear_or_obstructed password items with hclear | ⟨before, item, after, e, rfl, hclear, hobstructs⟩
  . by_cases hcertificates : certificates items = []
    . exact ⟨_, .noCertificate hclear hcertificates⟩
    . cases hfirst : firstKey? items with
      | none => exact ⟨_, .noKey hclear hcertificates hfirst⟩
      | some b =>
        obtain ⟨d, _, hd⟩ := exists_drafts_of_clear hclear
        obtain ⟨key, _, hholds⟩ := hd.exists_key hfirst
        exact ⟨_, .identity hclear hcertificates hfirst hholds⟩
  . exact ⟨_, .obstructed hclear hobstructs⟩

theorem exists_ofBlocks_eq_complete (hclear : Clear password items)
    : ∃ d, ClientIdentity.ofBlocks (decryptKey password) items = d.complete ∧ Drafts password items d := by
  obtain ⟨d, hadds, hd⟩ := exists_drafts_of_clear hclear
  refine ⟨d, ?_, hd⟩
  unfold ClientIdentity.ofBlocks
  rw [hadds]
  rfl

theorem Selected.ofBlocks_eq {r : Except KeystoreError ClientIdentity} (h : Selected password items r)
    : ClientIdentity.ofBlocks (decryptKey password) items = r := by
  cases h with
  | obstructed hclear hobstructs =>
    unfold ClientIdentity.ofBlocks
    rw [addBlocks_eq_error_of_obstructs hclear hobstructs]
    rfl
  | noCertificate hclear hcertificates =>
    obtain ⟨d, hcomplete, hd⟩ := exists_ofBlocks_eq_complete hclear
    rw [hcomplete, IdentityDraft.complete, hd.certificates_eq, hcertificates]
    rfl
  | noKey hclear hcertificates hkey =>
    obtain ⟨d, hcomplete, hd⟩ := exists_ofBlocks_eq_complete hclear
    rw [hcomplete, IdentityDraft.complete, hd.certificates_eq, hd.key_eq_none_iff.2 hkey]
    exact if_neg (by simpa using hcertificates)
  | identity hclear hcertificates hkey hholds =>
    obtain ⟨d, hcomplete, hd⟩ := exists_ofBlocks_eq_complete hclear
    obtain ⟨key, heq, hholds'⟩ := hd.exists_key hkey
    cases (keyIn_eq_ok_iff.2 hholds).symm.trans (keyIn_eq_ok_iff.2 hholds')
    rw [hcomplete, IdentityDraft.complete, hd.certificates_eq, heq]
    exact if_neg (by simpa using hcertificates)

theorem ofBlocks_eq_iff {r : Except KeystoreError ClientIdentity}
    : ClientIdentity.ofBlocks (decryptKey password) items = r ↔ Selected password items r := by
  constructor
  . rintro rfl
    obtain ⟨r, hselected⟩ := exists_selected password items
    rw [hselected.ofBlocks_eq]
    exact hselected
  . exact Selected.ofBlocks_eq

theorem addBlock_of_passedOver (h : Drafts password before d) {b : Block} (hpassed : PassedOver before b)
    : d.addBlock (decryptKey password) b = .ok d := by
  rw [addBlock_eq]
  rcases hpassed with hlabel | ⟨hlabel, hfirst⟩
  . rw [List.mem_cons, not_or] at hlabel
    rw [if_neg hlabel.1, if_neg fun hkey => hlabel.2 hkey.1]
  . have hcertificate : b.label ≠ certificateLabel := by
      intro heq
      rw [heq] at hlabel
      revert hlabel
      decide
    have hkey : d.key ≠ none := by
      rw [Ne, h.key_eq_none_iff]
      exact Option.isSome_iff_ne_none.1 hfirst
    rw [if_neg hcertificate, if_neg fun hnone => hkey hnone.2]

theorem ofBlocks_append_of_passedOver {b : Block} (hpassed : PassedOver before b) (after : List Item)
    : ClientIdentity.ofBlocks (decryptKey password) (before ++ .ok b :: after)
        =
      ClientIdentity.ofBlocks (decryptKey password) (before ++ after) := by
  unfold ClientIdentity.ofBlocks
  rw [addBlocks_append, addBlocks_append]
  cases hadds : IdentityDraft.addBlocks (decryptKey password) {} before with
  | error e => rfl
  | ok d =>
    have hadd := addBlock_of_passedOver (drafts_of_addBlocks hadds) hpassed
    change (IdentityDraft.addBlock _ d b >>= _) >>= _ = IdentityDraft.addBlocks _ d after >>= _
    rw [hadd]
    rfl

theorem selects_ofPem (password : Option String)
    : (∀ bs r, ClientIdentity.ofPem bs password = r ↔ Selected password (ofBytes bs) r)
        ∧ (∀ before b after, PassedOver before b →
            ClientIdentity.ofBlocks (decryptKey password) (before ++ .ok b :: after)
              = ClientIdentity.ofBlocks (decryptKey password) (before ++ after))
        ∧ KeystoreError.noCertificate.message = "no certificate found"
        ∧ KeystoreError.noKey.message = "no private key found" := by
  refine ⟨?_, ?_, rfl, rfl⟩
  . intro bs r
    exact ofBlocks_eq_iff
  . intro before b after hpassed
    exact ofBlocks_append_of_passedOver hpassed after

-- An encrypted key behind another key needs no password.
example
    : (ClientIdentity.ofBlocks (decryptKey none) [
        .ok { label := "CERTIFICATE", contents := [1, 2, 3] },
        .ok { label := "EC PARAMETERS", contents := [6, 5, 43] },
        .ok { label := "EC PRIVATE KEY", contents := [4, 5, 6] },
        .ok { label := "ENCRYPTED PRIVATE KEY", contents := [4, 5, 6] }]).toOption
        =
      some { certificates := [[1, 2, 3]], key := [4, 5, 6] } := by
  decide +kernel

end Pem

end PodProbe
