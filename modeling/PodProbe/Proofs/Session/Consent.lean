import PodProbe.Configuration.Store
import PodProbe.Console
import PodProbe.Keystore
import PodProbe.Options
import PodProbe.Tls.Client

/-!
This module contains what options have to find before a session does anything: an identity that can be used, and an
answer that means yes where something is stored already.
-/

namespace PodProbe

/-! ### Answers -/

namespace Console

/-- A line that means yes where yes is the preset: it is text, and that is blank or a kind of yes. -/
def Affirms (line : Bytes) : Prop :=
  ∃ answer, Bytes.toChars? line = some answer ∧ Text.lower (Text.trim answer) ∈ [[], ['y'], ['y', 'e', 's']]

theorem readAnswer_true_iff (answer : List Char) :
    readAnswer answer true = true
      ↔ Text.lower (Text.trim answer) ∈ [[], ['y'], ['y', 'e', 's']] := by
  by_cases h : Text.lower (Text.trim answer) = [] <;> simp [readAnswer, h]

end Console

namespace Options

def question (o : Options) (text : String) : Console.Question where
  text := text
  preset := true
  assumeYes := o.assumeYes

def Consents (o : Options) (line : Bytes) : Prop :=
  o.assumeYes = true ∨ Console.Affirms line

theorem ask_question_eq_iff (o : Options) (text : String) (typed : Bytes) :
    ((o.question text).ask typed).1 = some true
      ↔ o.Consents (Bytes.splitLine typed).1 := by
  cases h : o.assumeYes with
  | true => simp [question, Console.Question.ask, Consents, h]
  | false =>
    simp [question, Console.Question.ask, Consents, Console.Affirms, h, Console.readAnswer_true_iff]

/-- What is still typed after a question. -/
def typedAfter (o : Options) (typed : Bytes) : Bytes :=
  if o.assumeYes then typed else (Bytes.splitLine typed).2

theorem ask_question_snd (o : Options) (text : String) (typed : Bytes) :
    ((o.question text).ask typed).2
      =
    o.typedAfter typed := by
  cases h : o.assumeYes <;> simp [question, Console.Question.ask, typedAfter, h]

/-! ### What is there beforehand -/

def identityIn (o : Options) (files : FileTree) : Except RunError (Option ClientIdentity) :=
  match o.clientCertificate with
  | none => .ok none
  | some path => do
    let kind ← KeystoreKind.ofText o.keystoreType
    (ClientIdentity.load files path kind o.keystorePassword).map some

def settingsWith (o : Options) (identity : Option ClientIdentity) : Settings :=
  { o.settings with identity }

/-- Where the configuration is to be stored, if there is something already. -/
def occupied? (o : Options) (files : FileTree) : Option String :=
  o.output.filter fun path => (files.find? path).isSome

/-- Why a session ends before it sends a probe. -/
inductive Hindered (o : Options) (files : FileTree) (typed : Bytes) : Prop where
  | keystoreType {path : String} {e : RunError} (hpath : o.clientCertificate = some path)
      (h : KeystoreKind.ofText o.keystoreType = .error e)
  | identity {path : String} {kind : KeystoreKind} {e : RunError} (hpath : o.clientCertificate = some path)
      (hkind : KeystoreKind.ofText o.keystoreType = .ok kind)
      (h : ClientIdentity.load files path kind o.keystorePassword = .error e)
  | unusable {identity : Option ClientIdentity} {e : RunError} (hid : o.identityIn files = .ok identity)
      (h : Tls.checkIdentity identity = .error e)
  | stored {path : String} {e : RunError} (hpath : o.occupied? files = some path)
      (h : Configuration.load files path = .error e)
  | declined {path : String} (hpath : o.occupied? files = some path)
      (h : ¬ o.Consents (Bytes.splitLine typed).1)

/-- What is stored already does not stand against a run: it is a configuration, and somebody agreed to go on. -/
def Clear (o : Options) (files : FileTree) (typed : Bytes) : Prop :=
  ∀ path, o.occupied? files = some path →
    (∃ c, Configuration.load files path = .ok c) ∧ o.Consents (Bytes.splitLine typed).1

theorem identityIn_of_keystoreType {o : Options} {path : String} {e : RunError} (files : FileTree)
    (hpath : o.clientCertificate = some path) (h : KeystoreKind.ofText o.keystoreType = .error e) :
    o.identityIn files = .error e := by
  rw [identityIn, hpath, h]
  rfl

theorem identityIn_of_kind {o : Options} {path : String} {kind : KeystoreKind} (files : FileTree)
    (hpath : o.clientCertificate = some path) (hkind : KeystoreKind.ofText o.keystoreType = .ok kind) :
    o.identityIn files = (ClientIdentity.load files path kind o.keystorePassword).map some := by
  rw [identityIn, hpath, hkind]
  rfl

theorem exists_identityIn_of_not_hindered {o : Options} {files : FileTree} {typed : Bytes}
    (h : ¬ o.Hindered files typed) : ∃ identity, o.identityIn files = .ok identity := by
  cases hpath : o.clientCertificate with
  | none => exact ⟨none, by rw [identityIn, hpath]⟩
  | some path =>
    cases hkind : KeystoreKind.ofText o.keystoreType with
    | error e => exact absurd (.keystoreType hpath hkind) h
    | ok kind =>
      cases hload : ClientIdentity.load files path kind o.keystorePassword with
      | error e => exact absurd (.identity hpath hkind hload) h
      | ok i => exact ⟨some i, by rw [identityIn_of_kind files hpath hkind, hload]; rfl⟩

theorem checkIdentity_of_not_hindered {o : Options} {files : FileTree} {typed : Bytes}
    {identity : Option ClientIdentity} (h : ¬ o.Hindered files typed) (hid : o.identityIn files = .ok identity) :
    Tls.checkIdentity identity = .ok () := by
  cases hcheck : Tls.checkIdentity identity with
  | error e => exact absurd (.unusable hid hcheck) h
  | ok => rfl

theorem clear_of_not_hindered {o : Options} {files : FileTree} {typed : Bytes} (h : ¬ o.Hindered files typed) :
    o.Clear files typed := by
  intro path hpath
  cases hload : Configuration.load files path with
  | error e => exact absurd (.stored hpath hload) h
  | ok c => exact ⟨⟨c, rfl⟩, Classical.byContradiction fun hline => h (.declined hpath hline)⟩

theorem Hindered.not_clear {o : Options} {files : FileTree} {typed : Bytes} {identity : Option ClientIdentity}
    (h : o.Hindered files typed) (hid : o.identityIn files = .ok identity)
    (hcheck : Tls.checkIdentity identity = .ok ()) : ¬ o.Clear files typed := by
  intro hclear
  cases h with
  | keystoreType hpath h => simp [identityIn_of_keystoreType files hpath h] at hid
  | identity hpath hkind h => simp [identityIn_of_kind files hpath hkind, h, Except.map] at hid
  | unusable hid' h =>
    obtain rfl : _ = identity := by simpa [hid'] using hid
    simp [h] at hcheck
  | stored hpath h =>
    obtain ⟨⟨c, hc⟩, -⟩ := hclear _ hpath
    simp [h] at hc
  | declined hpath h => exact h (hclear _ hpath).2

/-- What is still typed when the last question is asked, which is the first one if nothing is stored yet. -/
def typedLast (o : Options) (files : FileTree) (typed : Bytes) : Bytes :=
  if (o.occupied? files).isSome then o.typedAfter typed else typed

end Options

end PodProbe
