import PodProbe.Configuration.Reader
import PodProbe.Proofs.Json.Integer
import PodProbe.Proofs.Json.Quoted

/-!
This module contains that a configuration is read back from its lines. All that is stored comes back, whatever the
texts are and as long as the integer fits 64 bits; certificates are not stored, so that there are none afterwards.
-/

namespace PodProbe

namespace Json

theorem skipSpace_append {blanks : List Char} (h : ∀ c ∈ blanks, isSpace c) (cs : List Char)
    : skipSpace (blanks ++ cs) = skipSpace cs := by
  apply List.dropWhile_append_of_pos
  exact h

theorem commas_cons (x : List Char) (xs : List (List Char)) : commas (x :: xs) = x ++ xs.flatMap (',' :: ·) := by
  induction xs generalizing x with
  | nil => simp [commas]
  | cons y ys ih => rw [commas, ih, List.flatMap_cons, List.cons_append]; simp

theorem itemChars_map_str (ss : List String) : itemChars (ss.map .str) = ss.map quoted := by
  induction ss with
  | nil => simp [itemChars]
  | cons s ss ih => simp [itemChars, chars, ih]

end Json

namespace Configuration

open Json (EndsNumber Result itemAhead skipSpace isSpace quoted)

/-! ### Lines -/

theorem isSpace_of_mem_newline {depth : Nat} {c : Char} (h : c ∈ newline depth) : isSpace c := by
  cases List.mem_cons.1 h with
  | inl heq => rw [heq]; rfl
  | inr hmem => rw [List.eq_of_mem_replicate hmem]; rfl

/-- What stands between an item and the one before it, if there is one. -/
def separator (first : Bool) : List Char :=
  if first then [] else [',']

/-- The items of a block as they are met one after the other. -/
def itemLines (depth : Nat) (first : Bool) : List (List Char) → List Char
  | [] => []
  | x :: xs => separator first ++ (newline depth ++ (x ++ itemLines depth false xs))

theorem itemLines_false (depth : Nat) (xs : List (List Char))
    : itemLines depth false xs = (xs.map (newline depth ++ ·)).flatMap (',' :: ·) := by
  induction xs with
  | nil => rfl
  | cons x xs ih =>
    rw [itemLines, ih, List.map_cons, List.flatMap_cons]
    simp [separator]

/-- What stands before the end of a block. -/
def lastBlanks (depth : Nat) (items : List (List Char)) : List Char :=
  if items.isEmpty then [] else newline depth

theorem isSpace_of_mem_lastBlanks {depth : Nat} {items : List (List Char)} {c : Char} (h : c ∈ lastBlanks depth items)
    : isSpace c := by
  unfold lastBlanks at h
  split at h
  . exact absurd h List.not_mem_nil
  . exact isSpace_of_mem_newline h

theorem block_append (depth : Nat) (start stop : Char) (items : List (List Char)) (rest : List Char)
    : block depth start stop items ++ rest
        =
      start :: (itemLines (depth + 1) true items ++ (lastBlanks depth items ++ stop :: rest)) := by
  cases items with
  | nil => rfl
  | cons x xs =>
    unfold block lastBlanks
    simp [Json.commas_cons, itemLines, itemLines_false, separator]

theorem length_le_length_itemLines (depth : Nat) (first : Bool) (items : List (List Char))
    : items.length ≤ (itemLines depth first items).length := by
  induction items generalizing first with
  | nil => exact Nat.le_refl 0
  | cons x xs ih =>
    specialize ih false
    simp only [itemLines, newline, List.length_append, List.length_cons]
    omega

theorem endsNumber_itemLines (depth depth' : Nat) (items : List (List Char)) (rest : List Char)
    : EndsNumber (itemLines depth false items ++ (newline depth' ++ rest)) := by
  intro c hc
  cases items with
  | nil =>
    cases hc
    decide
  | cons x xs =>
    cases hc
    decide

section

variable (first : Bool) {close : Char} (endCause separatorCause : Json.Cause) (depth : Nat) (cs : List Char)

theorem itemAhead_next {c : Char} (hspace : isSpace c = false) (hc : c ≠ close) (hcomma : ',' ≠ close)
    : itemAhead first close endCause separatorCause (separator first ++ (newline depth ++ c :: cs))
        =
      .ok (true, c :: cs) := by
  have hskip : skipSpace (newline depth ++ c :: cs) = c :: cs := by
    rw [Json.skipSpace_append fun _ => isSpace_of_mem_newline, Json.skipSpace_cons hspace]
  unfold itemAhead separator
  cases first with
  | true =>
    rw [if_pos rfl, List.nil_append, hskip]
    simp [hc]
  | false =>
    rw [if_neg (by decide), List.cons_append, List.nil_append, Json.skipSpace_cons rfl]
    dsimp only
    rw [if_neg hcomma, if_neg (by decide), if_pos rfl, hskip]
    simp [hc]

theorem itemAhead_close {blanks : List Char} (hblanks : ∀ c ∈ blanks, isSpace c) (hspace : isSpace close = false)
    : itemAhead first close endCause separatorCause (blanks ++ close :: cs) = .ok (false, cs) := by
  unfold itemAhead
  rw [Json.skipSpace_append hblanks, Json.skipSpace_cons hspace]
  simp

end

/-! ### Values -/

/-- Whether a value is read from a text, whatever follows the text without carrying on a number. -/
def Reads {α : Type} (read : List Char → Result (α × List Char)) (text : List Char) (value : α) : Prop :=
  ∀ rest, EndsNumber rest → read (text ++ rest) = .ok (value, rest)

theorem readText_quoted (s : String) (rest : List Char) : readText (quoted s ++ rest) = .ok (s, rest) := by
  unfold readText
  rw [Json.quoted_append, Json.skipSpace_cons rfl]
  apply Json.readString_escaped

theorem reads_optional_none {α : Type} (depth : Nat) (read : List Char → Result (α × List Char))
    : Reads (readOptional read) (' ' :: valueChars depth .null) none := by
  intro rest _
  simp only [valueChars, Json.chars]
  rfl

theorem reads_optional_some {α : Type} {read : List Char → Result (α × List Char)} {c : Char} {cs : List Char} {x : α}
    (hspace : isSpace c = false) (hnull : c ≠ 'n') (h : Reads read (c :: cs) x)
    : Reads (readOptional read) (' ' :: c :: cs) (some x) := by
  intro rest hrest
  have hskip : skipSpace (' ' :: c :: cs ++ rest) = c :: (cs ++ rest) := Json.skipSpace_cons hspace _
  have hread : read (c :: (cs ++ rest)) = .ok (x, rest) := h rest hrest
  unfold readOptional
  rw [hskip]
  split
  . next heq => exact absurd (List.cons.inj heq).1 hnull
  . rw [hread]
    rfl

theorem reads_text (depth : Nat) (s : Option String)
    : Reads (readOptional readText) (' ' :: valueChars depth (Field.textJson s)) s := by
  cases s with
  | none => exact reads_optional_none depth _
  | some s =>
    simp only [Field.textJson, valueChars, Json.chars]
    apply reads_optional_some rfl (by decide)
    intro rest _
    exact readText_quoted s rest

theorem readItems_itemLines (depth : Nat) (first : Bool) (ss : List String) {blanks : List Char}
    (hblanks : ∀ c ∈ blanks, isSpace c) (rest : List Char) {fuel : Nat} (h : ss.length < fuel)
    : Json.readItems readText first fuel (itemLines depth first (ss.map quoted) ++ (blanks ++ ']' :: rest))
        =
      .ok (ss, rest) := by
  induction ss generalizing first fuel with
  | nil =>
    cases fuel with
    | zero => cases h
    | succ fuel =>
      rw [Json.readItems, List.map_nil, itemLines, List.nil_append, itemAhead_close _ _ _ _ hblanks rfl]
      rfl
  | cons s ss ih =>
    cases fuel with
    | zero => cases h
    | succ fuel =>
      rw [Json.readItems, List.map_cons, itemLines]
      simp only [List.append_assoc]
      rw [Json.quoted_append, itemAhead_next _ _ _ _ _ rfl (by decide) (by decide), ← Json.quoted_append]
      change (readText _ >>= _) = _
      rw [readText_quoted]
      change (Json.readItems readText false fuel _ >>= _) = _
      rw [ih false (Nat.lt_of_succ_lt_succ h)]
      rfl

theorem reads_texts (depth : Nat) (ss : List String)
    : Reads readTexts (' ' :: valueChars depth (Field.listJson ss)) ss := by
  intro rest _
  unfold readTexts
  rw [Field.listJson, valueChars, Json.itemChars_map_str, List.cons_append, block_append]
  apply readItems_itemLines
  . intro c
    exact isSpace_of_mem_lastBlanks
  . have hlen := length_le_length_itemLines (depth + 1) true (ss.map quoted)
    rw [List.length_map] at hlen
    rw [List.length_append]
    omega

/-! ### Integers -/

/-- The integers that fit 64 bits. -/
def Fits (n : Int) : Prop :=
  Json.leastInt ≤ n ∧ n ≤ Json.greatestInt

theorem readInteger_digits {n : Nat} (h : (n : Int) ≤ Json.greatestInt)
    : Reads readInteger (Nat.toDigits 10 n) n := by
  intro rest hrest
  have hn : n ≤ Json.greatestSignificand := by
    unfold Json.greatestInt at h
    change n ≤ 18446744073709551615
    omega
  have hread : Json.readNumber false (Nat.toDigits 10 n ++ rest) = .ok (.int n, rest) := by
    rw [Json.readNumber_toDigits hrest _ hn, Json.finishNumber_of_endsNumber hrest]
    rfl
  have hdigits : ∀ d ∈ Nat.toDigits 10 n, d.isDigit := fun _ => Json.isDigit_of_mem_toDigits
  have hfits : Json.leastInt ≤ (n : Int) := by
    unfold Json.leastInt
    omega
  cases hds : Nat.toDigits 10 n with
  | nil => exact absurd hds Nat.toDigits_ne_nil
  | cons d ds =>
    rw [hds] at hread hdigits
    have hd : d.isDigit := hdigits d (List.mem_cons_self ..)
    rw [List.cons_append] at hread ⊢
    unfold readInteger
    rw [Json.skipSpace_cons (Json.isSpace_eq_false_of_isDigit hd)]
    split
    . next heq =>
      rw [(List.cons.inj heq).1] at hd
      cases hd
    . next heq =>
      cases heq
      rw [if_pos hd, hread]
      exact if_pos ⟨hfits, h⟩
    . next heq => cases heq

theorem readInteger_negative {n : Int} (h : Fits n) {cs rest : List Char}
    (hread : Json.readNumber true cs = .ok (.int n, rest))
    : readInteger ('-' :: cs) = .ok (n, rest) := by
  unfold readInteger
  rw [Json.skipSpace_cons rfl]
  change (Json.readNumber true _ >>= _) = _
  rw [hread]
  exact if_pos h

theorem reads_integer {n : Int} (h : Fits n) : Reads readInteger (toString n).toList n := by
  cases n with
  | ofNat n =>
    rw [Json.toList_toString_ofNat]
    exact readInteger_digits h.2
  | negSucc n =>
    intro rest hrest
    have hn : n + 1 ≤ 9223372036854775808 := by
      have hleast := h.1
      unfold Json.leastInt at hleast
      omega
    rw [Json.toList_toString_negSucc, List.cons_append]
    apply readInteger_negative h
    rw [Json.readNumber_toDigits hrest _ (Nat.le_trans hn (by decide)), Json.finishNumber_of_endsNumber hrest]
    rw [if_neg (by decide), if_pos ⟨Nat.succ_ne_zero n, hn⟩]
    rfl

theorem exists_toString_eq_cons (n : Int)
    : ∃ c cs, (toString n).toList = c :: cs ∧ isSpace c = false ∧ c ≠ 'n' := by
  cases n with
  | ofNat n =>
    rw [Json.toList_toString_ofNat]
    cases hds : Nat.toDigits 10 n with
    | nil => exact absurd hds Nat.toDigits_ne_nil
    | cons d ds =>
      have hd : d.isDigit := Json.isDigit_of_mem_toDigits (n := n) (hds ▸ List.mem_cons_self ..)
      refine ⟨d, ds, rfl, Json.isSpace_eq_false_of_isDigit hd, ?_⟩
      rintro rfl
      cases hd
  | negSucc n => exact ⟨_, _, Json.toList_toString_negSucc n, rfl, by decide⟩

theorem reads_optional_integer (depth : Nat) (n : Option Int) (h : ∀ m ∈ n, Fits m)
    : Reads (readOptional readInteger) (' ' :: valueChars depth (Field.integerJson n)) n := by
  cases n with
  | none => exact reads_optional_none depth _
  | some n =>
    have hread := reads_integer (h n rfl)
    rcases exists_toString_eq_cons n with ⟨c, cs, heq, hspace, hnull⟩
    rw [heq] at hread
    simp only [Field.integerJson, valueChars, Json.chars]
    rw [heq]
    exact reads_optional_some hspace hnull hread

/-! ### Fields -/

/-- A configuration that has one field of another. -/
def Field.copy (c d : Configuration) : Field → Configuration
  | webUrl => { d with webUrl := c.webUrl }
  | podUrl => { d with podUrl := c.podUrl }
  | podApiUrl => { d with podApiUrl := c.podApiUrl }
  | keyManagerUrl => { d with keyManagerUrl := c.keyManagerUrl }
  | sessionAuthUrl => { d with sessionAuthUrl := c.sessionAuthUrl }
  | keyAuthUrl => { d with keyAuthUrl := c.keyAuthUrl }
  | agentApiUrl => { d with agentApiUrl := c.agentApiUrl }
  | podId => { d with podId := c.podId }
  | rootFingerprints => { d with rootFingerprints := c.rootFingerprints }
  | serverFingerprints => { d with serverFingerprints := c.serverFingerprints }

theorem Reads.map {α β : Type} {read : List Char → Result (α × List Char)} {text : List Char} {x : α}
    (h : Reads read text x) (f : α → β)
    : Reads (fun cs => do let (x, cs) ← read cs; return (f x, cs)) text (f x) := by
  intro rest hrest
  dsimp only
  rw [h rest hrest]
  rfl

theorem reads_field {c : Configuration} (hid : ∀ n ∈ c.podId, Fits n) (d : Configuration) (f : Field)
    : Reads (readField d · f) (' ' :: valueChars 1 (f.json c)) (f.copy c d) := by
  cases f with
  | webUrl => exact (reads_text 1 c.webUrl).map fun x => { d with webUrl := x }
  | podUrl => exact (reads_text 1 c.podUrl).map fun x => { d with podUrl := x }
  | podApiUrl => exact (reads_text 1 c.podApiUrl).map fun x => { d with podApiUrl := x }
  | keyManagerUrl => exact (reads_text 1 c.keyManagerUrl).map fun x => { d with keyManagerUrl := x }
  | sessionAuthUrl => exact (reads_text 1 c.sessionAuthUrl).map fun x => { d with sessionAuthUrl := x }
  | keyAuthUrl => exact (reads_text 1 c.keyAuthUrl).map fun x => { d with keyAuthUrl := x }
  | agentApiUrl => exact (reads_text 1 c.agentApiUrl).map fun x => { d with agentApiUrl := x }
  | podId => exact (reads_optional_integer 1 c.podId hid).map fun x => { d with podId := x }
  | rootFingerprints => exact (reads_texts 1 c.rootFingerprints).map fun x => { d with rootFingerprints := x }
  | serverFingerprints => exact (reads_texts 1 c.serverFingerprints).map fun x => { d with serverFingerprints := x }

/-! ### Objects -/

def Field.line (c : Configuration) (f : Field) : List Char :=
  quoted f.key ++ ':' :: ' ' :: valueChars 1 (f.json c)

theorem memberAhead_next (first : Bool) (depth : Nat) (s : String) (rest : List Char)
    : memberAhead first (separator first ++ (newline depth ++ (quoted s ++ rest))) = .ok (true, quoted s ++ rest) := by
  unfold memberAhead
  rw [Json.quoted_append, itemAhead_next _ _ _ _ _ rfl (by decide) (by decide)]
  rfl

theorem memberAhead_close (first : Bool) {blanks : List Char} (hblanks : ∀ c ∈ blanks, isSpace c)
    : memberAhead first (blanks ++ ['\x7d']) = .ok (false, []) := by
  unfold memberAhead
  rw [itemAhead_close _ _ _ _ hblanks rfl]
  rfl

theorem readKey_quoted (s : String) (rest : List Char) : Json.readKey (quoted s ++ rest) = .ok (s, rest) := by
  rw [Json.quoted_append]
  apply Json.readString_escaped

theorem readMembers_line {c : Configuration} (hid : ∀ n ∈ c.podId, Fits n) (d : Configuration) {f : Field}
    {seen : List Field} (hseen : f ∉ seen) (first : Bool) (depth fuel : Nat) {rest : List Char}
    (hrest : EndsNumber rest)
    : readMembers d seen first (fuel + 1) (separator first ++ (newline depth ++ (f.line c ++ rest)))
        =
      readMembers (f.copy c d) (f :: seen) false fuel rest := by
  have hline : f.line c ++ rest = quoted f.key ++ (':' :: (' ' :: valueChars 1 (f.json c) ++ rest)) := by
    unfold Field.line
    simp
  have hcolon (cs : List Char) : Json.readColon (':' :: cs) = .ok ((), cs) := rfl
  rw [hline, readMembers, memberAhead_next]
  change (Json.readKey _ >>= _) = _
  rw [readKey_quoted]
  dsimp only [bind, Except.bind]
  rw [Field.ofKey?_key]
  dsimp only
  rw [if_neg (by simpa using hseen), hcolon]
  change (readField d _ f >>= _) = _
  have hread : readField d (' ' :: valueChars 1 (f.json c) ++ rest) f = .ok (f.copy c d, rest) :=
    reads_field hid d f rest hrest
  rw [hread]
  rfl

theorem readMembers_itemLines {c : Configuration} (hid : ∀ n ∈ c.podId, Fits n) (d : Configuration)
    {fs seen : List Field} (hnodup : fs.Nodup) (hseen : ∀ f ∈ fs, f ∉ seen) (first : Bool) {fuel : Nat}
    (h : fs.length < fuel)
    : readMembers d seen first fuel (itemLines 1 first (fs.map (·.line c)) ++ (newline 0 ++ ['\x7d']))
        =
      .ok (fs.foldl (fun d f => f.copy c d) d, []) := by
  induction fs generalizing d seen first fuel with
  | nil =>
    cases fuel with
    | zero => cases h
    | succ fuel =>
      rw [List.map_nil, itemLines, List.nil_append, readMembers, memberAhead_close _ fun _ => isSpace_of_mem_newline]
      rfl
  | cons f fs ih =>
    cases fuel with
    | zero => cases h
    | succ fuel =>
      rw [List.nodup_cons] at hnodup
      rw [List.forall_mem_cons] at hseen
      rw [List.map_cons, itemLines]
      simp only [List.append_assoc]
      -- What follows is a comma or a new line, so that the value of this line ends where the line does.
      rw [readMembers_line hid d hseen.1 first 1 fuel (endsNumber_itemLines 1 0 _ _), List.foldl_cons]
      apply ih _ hnodup.2 _ _ (Nat.lt_of_succ_lt_succ h)
      intro g hg
      rw [List.mem_cons, not_or]
      refine ⟨?_, hseen.2 g hg⟩
      rintro rfl
      exact hnodup.1 hg

/-! ### Whole texts -/

theorem toList_toLines (c : Configuration)
    : c.toLines.toList
        =
      '\x7b' :: (itemLines 1 true (Field.all.map (·.line c)) ++ (newline 0 ++ ['\x7d'])) := by
  have hblock := block_append 0 '\x7b' '\x7d' (Field.all.map (·.line c)) []
  rw [List.append_nil] at hblock
  unfold toLines members
  rw [String.toList_ofList, List.map_map]
  exact hblock

theorem foldl_copy (c : Configuration)
    : Field.all.foldl (fun d f => f.copy c d) {} = { c with certificates := {} } := by
  simp only [Field.all, List.foldl_cons, List.foldl_nil, Field.copy]

theorem readChars_object (cs : List Char)
    : readChars ('\x7b' :: cs)
        =
      readMembers {} [] true (cs.length + 1) cs >>= fun (c, cs) => Json.finish c cs :=
  rfl

theorem ofText_toLines {c : Configuration} (hid : ∀ n ∈ c.podId, Fits n)
    : ofText c.toLines = .ok { c with certificates := {} } := by
  have hread : readMembers {} [] true
      ((itemLines 1 true (Field.all.map (·.line c)) ++ (newline 0 ++ ['\x7d'])).length + 1)
      (itemLines 1 true (Field.all.map (·.line c)) ++ (newline 0 ++ ['\x7d']))
      = .ok ({ c with certificates := {} }, []) := by
    have hlen := length_le_length_itemLines 1 true (Field.all.map (·.line c))
    rw [List.length_map] at hlen
    rw [← foldl_copy]
    apply readMembers_itemLines hid
    . decide
    . intro f _
      exact List.not_mem_nil
    . rw [List.length_append]
      omega
  unfold ofText
  rw [toList_toLines, readChars_object, hread]
  rfl

end Configuration

end PodProbe
