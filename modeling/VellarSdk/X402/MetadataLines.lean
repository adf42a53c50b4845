import VellarSdk.Js.Labels
import VellarSdk.Js.Pairing
import VellarSdk.X402.UntrustedGuarantees

/-!
# Sanitised Metadata, Line by Line

What the sanitiser does to one line of metadata, and to lines that each start
with a label.

The fence pattern reads white space where its words are apart, and white space
includes line breaks. Over labelled lines it still finds nothing across a break:
behind the break stands a label, and none of the words starts there.

## Main definitions

* `isWellFormed`: No surrogate stands alone.
* `clashes`: A word is not read, whatever follows.
* `IsLabel`: A label that neither pattern touches.

## Theorems

* `keepsLabels_controlAndFormat`, `keepsLabels_fenceLookalike`: The sanitiser's
  patterns keep such labels.
* `sanitizeUntrusted_labelled`: So does the sanitiser.
* `sanitizeMetadata_length_le`: How long a line of metadata can be.
* `sanitizeMetadata_wellFormed`: A well-formed line stays one.
-/

namespace VellarSdk

namespace X402

open Js

/-- `text.isWellFormed()`. -/
def isWellFormed (s : JsString) : Bool :=
  isPaired isHighSurrogate isLowSurrogate s

/-- The words of the fence pattern. -/
def fenceWords : List JsString :=
  [js "BEGIN", js "END", js "UNTRUSTED", js "RESOURCE", js "DATA"]

/-- A text and a word differ at a place that both have. -/
def clashes : JsString → JsString → Bool
  | k :: ks, u :: t => foldCase u != foldCase k || clashes ks t
  | _, _ => false

/-- A unit that the sanitiser's patterns pass over unless a word starts there. -/
def isLabelUnit (u : CodeUnit) : Bool :=
  isPlain u && !isHighSurrogate u && !isDelimiter u && !isWhiteSpace u

/-- A label that the sanitiser's patterns pass over, whatever follows it. -/
structure IsLabel (label : JsString) : Prop where
  ne_nil : label ≠ []
  units : ∀ u ∈ label, isLabelUnit u = true
  words : ∀ t ∈ label.tails, t ≠ [] → ∀ k ∈ fenceWords, clashes k t = true

section Words

/-- A word that clashes with a text is not read there. -/
theorem keyword_eq_none {k t : JsString} (h : clashes k t = true) (s : JsString) :
    keyword k (t ++ s) = none := by
  induction k generalizing t with
  | nil => exact absurd h (by simp only [clashes, Bool.false_eq_true, not_false_eq_true])
  | cons k ks ih =>
      rcases t with _ | ⟨u, t⟩
      · exact absurd h (by simp only [clashes, Bool.false_eq_true, not_false_eq_true])
      · rw [List.cons_append, keyword]
        by_cases hu : foldCase u = foldCase k
        · rw [clashes, hu, bne_self_eq_false, Bool.false_or] at h
          rw [if_pos hu, ih h]
        · rw [if_neg hu]

variable {label : JsString} (h : IsLabel label)
include h

/-- Wherever a label goes on from, it starts with a unit to pass over and no word
    is read. -/
theorem IsLabel.tail {a b : JsString} {x : CodeUnit} (hsplit : label = a ++ x :: b) :
    isLabelUnit x = true ∧ ∀ k ∈ fenceWords, ∀ s, keyword k (x :: (b ++ s)) = none := by
  constructor
  · exact h.units x (by rw [hsplit]; exact List.mem_append_right _ List.mem_cons_self)
  · intro k hk s
    have htail : x :: b ∈ label.tails := (List.mem_tails _ _).mpr ⟨a, hsplit.symm⟩
    exact keyword_eq_none (h.words _ htail (List.cons_ne_nil _ _) k hk) s

theorem IsLabel.front : ∃ x b, label = x :: b ∧ isLabelUnit x = true ∧
    ∀ k ∈ fenceWords, ∀ s, keyword k (x :: (b ++ s)) = none := by
  rcases hcons : label with _ | ⟨x, b⟩
  · exact absurd hcons h.ne_nil
  · have htail := h.tail (a := []) hcons
    exact ⟨x, b, rfl, htail.1, htail.2⟩

end Words

section Within

/-- Reading a line, what is read ends before the line break. -/
def Within (read : JsString → Option JsString) (t : JsString) : Prop :=
  ∀ w rest, read (w ++ 10 :: t) = some rest → ∃ w', rest = w' ++ 10 :: t

variable {t : JsString}

theorem Within.bind {read next : JsString → Option JsString} (h : Within read t)
    (hnext : Within next t) : Within (fun s => (read s).bind next) t := by
  intro w rest hs
  rcases Option.bind_eq_some_iff.mp hs with ⟨mid, hmid, hrest⟩
  rcases h w mid hmid with ⟨w', rfl⟩
  exact hnext w' rest hrest

/-- A word has no line break. -/
theorem keyword_within {k : JsString} (hk : ∀ x ∈ k, foldCase 10 ≠ foldCase x) :
    Within (keyword k) t := by
  induction k with
  | nil =>
      intro w rest hs
      exact ⟨w, (Option.some.inj hs).symm⟩
  | cons k ks ih =>
      rw [List.forall_mem_cons] at hk
      intro w rest hs
      rcases w with _ | ⟨u, w⟩
      · rw [List.nil_append, keyword, if_neg hk.1] at hs
        exact absurd hs (by simp only [reduceCtorEq, not_false_eq_true])
      · rw [List.cons_append, keyword] at hs
        split at hs
        · exact ih hk.2 w rest hs
        · exact absurd hs (by simp only [reduceCtorEq, not_false_eq_true])

/-- White space up to the break, or beyond it. -/
theorem dropWhile_within (ht : t.dropWhile isWhiteSpace = t) (w : JsString) :
    (∃ w', (w ++ 10 :: t).dropWhile isWhiteSpace = w' ++ 10 :: t) ∨
      (w ++ 10 :: t).dropWhile isWhiteSpace = t := by
  rw [List.dropWhile_append]
  split
  · right
    rw [List.dropWhile_cons, if_pos (by decide), ht]
  · exact .inl ⟨_, rfl⟩

/-- Nor is a word read behind the break. -/
theorem spacedKeyword_within {k : JsString} (hk : ∀ x ∈ k, foldCase 10 ≠ foldCase x)
    (ht : t.dropWhile isWhiteSpace = t) (hnone : keyword k t = none) :
    Within (spacedKeyword k) t := by
  intro w rest hs
  have hbehind : ∀ s : JsString, (∃ w', s = w' ++ 10 :: t) ∨ s = t → keyword k s = some rest →
      ∃ w', rest = w' ++ 10 :: t := by
    rintro s (⟨w', rfl⟩ | rfl) hread
    · exact keyword_within hk w' rest hread
    · rw [hnone] at hread
      exact absurd hread (by simp only [reduceCtorEq, not_false_eq_true])
  rcases w with _ | ⟨u, w⟩
  · rw [List.nil_append, spacedKeyword, if_pos (by decide), ht] at hs
    exact hbehind t (.inr rfl) hs
  · rw [List.cons_append, spacedKeyword] at hs
    split at hs
    · exact hbehind _ (dropWhile_within ht w) hs
    · exact absurd hs (by simp only [reduceCtorEq, not_false_eq_true])

theorem fenceOpening_within : Within fenceOpening t := by
  intro w rest hs
  rw [fenceOpening] at hs
  rcases Option.or_eq_some_iff.mp hs with hbegin | ⟨-, hend⟩
  · exact keyword_within (by decide) w rest hbegin
  · exact keyword_within (by decide) w rest hend

/-- The phrase is not read across a break behind which no word starts. -/
theorem fencePhrase_within (ht : t.dropWhile isWhiteSpace = t)
    (hnone : ∀ k ∈ fenceWords, keyword k t = none) : Within fencePhrase t :=
  ((fenceOpening_within.bind (spacedKeyword_within (by decide) ht (hnone _ (by decide)))).bind
    (spacedKeyword_within (by decide) ht (hnone _ (by decide)))).bind
    (spacedKeyword_within (by decide) ht (hnone _ (by decide)))

theorem dropDelimiters_within (w : JsString) :
    ∃ w', dropDelimiters (w ++ 10 :: t) = w' ++ 10 :: t := by
  have hbreak : dropDelimiters (10 :: t) = 10 :: t := by
    rcases t with _ | ⟨v, t⟩
    · rfl
    · rw [dropDelimiters, if_neg (fun hpair => absurd hpair.1 (by decide)), if_neg (by decide)]
  -- What is dropped ends at the line break, wherever in it the walk is.
  induction w using dropDelimiters.induct with
  | case1 => exact ⟨[], hbreak⟩
  | case2 u hu =>
      refine ⟨[], ?_⟩
      rw [List.singleton_append, dropDelimiters, if_neg (fun hpair => absurd hpair.2 (by decide)),
        if_pos hu, hbreak, List.nil_append]
  | case3 u hu =>
      refine ⟨[u], ?_⟩
      rw [List.singleton_append, dropDelimiters, if_neg (fun hpair => absurd hpair.2 (by decide)),
        if_neg hu]
  | case4 u v s hpair ih =>
      rcases ih with ⟨w', hw'⟩
      refine ⟨w', ?_⟩
      rw [List.cons_append, List.cons_append, dropDelimiters, if_pos hpair, hw']
  | case5 u v s hpair hu ih =>
      rcases ih with ⟨w', hw'⟩
      refine ⟨w', ?_⟩
      rw [List.cons_append] at hw'
      rw [List.cons_append, List.cons_append, dropDelimiters, if_neg hpair, if_pos hu, hw']
  | case6 u v s hpair hu =>
      refine ⟨u :: v :: s, ?_⟩
      rw [List.cons_append, List.cons_append, dropDelimiters, if_neg hpair, if_neg hu]

end Within

section Labels

variable {labels : List JsString}

/-- What ends a line is no character to strip. -/
theorem isFormatPair_newline (u : CodeUnit) :
    isFormatPair u 10 = false ∧ isFormatPair 10 u = false := by
  have hlow : isLowSurrogate 10 = false := by decide
  have hhigh : isHighSurrogate 10 = false := by decide
  rw [isFormatPair, isFormatPair, hlow, hhigh, Bool.and_false, Bool.false_and]
  exact ⟨rfl, rfl⟩

theorem keepsLabels_controlAndFormat (h : ∀ label ∈ labels, IsLabel label) :
    KeepsLabels 10 labels controlAndFormat where
  label a x b hmem prev s := by
    -- A unit of a label is neither of the two classes, nor half of a pair.
    have hx := ((h _ hmem).tail rfl).1
    simp only [isLabelUnit, isPlain, Bool.and_eq_true, Bool.not_eq_true'] at hx
    have hpos := controlAndFormat_pos_iff prev x (b ++ s)
    by_contra hne
    rcases hpos.mp (Nat.pos_of_ne_zero hne) with hcontrol | hformat | ⟨v, s', -, hpair⟩
    · rw [hx.1.1.1.1] at hcontrol
      exact absurd hcontrol Bool.false_ne_true
    · rw [hx.1.1.1.2] at hformat
      exact absurd hformat Bool.false_ne_true
    · rw [(surrogates_of_isFormatPair hpair).1] at hx
      exact absurd hx.1.1.2 (by simp only [Bool.true_eq_false, not_false_eq_true])
  line prev w rest hrest := by
    -- A line break is kept, and is no half of a pair.
    have hnewline : ∀ s, controlAndFormat prev (10 :: s) = 0 := by
      intro s
      have hplain : (isControl 10 || isFormat 10) = false := by decide
      rcases s with _ | ⟨v, s⟩
      · simp only [controlAndFormat, hplain, Bool.false_eq_true, if_false]
      · simp only [controlAndFormat, hplain, (isFormatPair_newline v).2, Bool.false_eq_true,
          if_false]
    rcases w with _ | ⟨u, w⟩
    · cases hrest with
      | last => exact Nat.le_refl 0
      | next s => exact Nat.le_of_eq (hnewline _)
    · rw [List.cons_append]
      simp only [controlAndFormat]
      split
      · exact Nat.succ_le_succ (Nat.zero_le _)
      · rcases w with _ | ⟨v, w⟩
        · cases hrest with
          | last => exact Nat.zero_le _
          | next s =>
              simp only [List.nil_append, (isFormatPair_newline u).1, Bool.false_eq_true, if_false]
              exact Nat.zero_le _
        · simp only [List.cons_append, List.length_cons]
          split
          · omega
          · exact Nat.zero_le _

/-- A unit that is neither a delimiter nor white space is where the phrase would
    start. -/
theorem fenceLookalike_eq_zero {x : CodeUnit} {s : JsString} (hdelim : isDelimiter x = false)
    (hspace : isWhiteSpace x = false) (hpair : x ≠ 0xD803) (hphrase : fencePhrase (x :: s) = none)
    (prev : Option CodeUnit) : fenceLookalike prev (x :: s) = 0 := by
  have hdrop : dropDelimiters (x :: s) = x :: s := by
    rcases s with _ | ⟨v, s⟩
    · rw [dropDelimiters, hdelim, if_neg Bool.false_ne_true]
    · rw [dropDelimiters, if_neg (fun h => hpair h.1), hdelim, if_neg Bool.false_ne_true]
  rw [fenceLookalike, hdrop, List.dropWhile_cons, hspace, if_neg Bool.false_ne_true, hphrase]

theorem fencePhrase_eq_none {s : JsString} (h : ∀ k ∈ fenceWords, keyword k s = none) :
    fencePhrase s = none := by
  rw [fencePhrase, fenceOpening, h (js "BEGIN") (by decide), h (js "END") (by decide)]
  rfl

theorem keepsLabels_fenceLookalike (h : ∀ label ∈ labels, IsLabel label) :
    KeepsLabels 10 labels fenceLookalike where
  label a x b hmem prev s := by
    rcases (h _ hmem).tail rfl with ⟨hx, hwords⟩
    simp only [isLabelUnit, Bool.and_eq_true, Bool.not_eq_true'] at hx
    refine fenceLookalike_eq_zero hx.1.2 hx.2 ?_ (fencePhrase_eq_none (fun k hk => hwords k hk s))
      prev
    rintro rfl
    exact absurd hx.1.1.2 (by decide)
  line prev w rest hrest := by
    cases hrest with
    | last =>
        rw [List.append_nil, fenceLookalike]
        split
        · exact Nat.zero_le _
        · split
          · exact Nat.sub_le _ _
          · exact Nat.zero_le _
    | @next label s hmem =>
        rcases (h label hmem).front with ⟨x, b, rfl, hx, hwords⟩
        simp only [isLabelUnit, Bool.and_eq_true, Bool.not_eq_true'] at hx
        have ht : (x :: b ++ s).dropWhile isWhiteSpace = x :: b ++ s := by
          rw [List.cons_append, List.dropWhile_cons, hx.2, if_neg Bool.false_ne_true]
        have hnone : ∀ k ∈ fenceWords, keyword k (x :: b ++ s) = none := fun k hk => hwords k hk s
        rw [fenceLookalike]
        rcases hphrase : fencePhrase ((dropDelimiters (w ++ 10 :: (x :: b ++ s))).dropWhile
          isWhiteSpace) with _ | found
        · exact Nat.zero_le _
        · -- The phrase ends before the break, and so does the match.
          rcases dropDelimiters_within (t := x :: b ++ s) w with ⟨w', hw'⟩
          rw [hw'] at hphrase
          have hfound : ∃ w'', found = w'' ++ 10 :: (x :: b ++ s) := by
            rcases dropWhile_within ht w' with ⟨w'', hw''⟩ | hbehind
            · rw [hw''] at hphrase
              exact fencePhrase_within ht hnone w'' found hphrase
            · rw [hbehind, fencePhrase_eq_none hnone] at hphrase
              exact absurd hphrase (by simp only [reduceCtorEq, not_false_eq_true])
          rcases hfound with ⟨w'', rfl⟩
          have hline : (10 :: (x :: b ++ s)).length ≤
              ((w'' ++ 10 :: (x :: b ++ s)).dropWhile (fun u => u != 10)).length := by
            rw [List.dropWhile_append]
            split
            · rw [List.dropWhile_cons, if_neg (by decide)]
            · rw [List.length_append]
              exact Nat.le_add_left _ _
          simp only
          split
          · rw [List.length_append]
            omega
          · exact Nat.zero_le _

/-- Labelled lines without other line breaks are so when they are sanitised. -/
theorem sanitizeUntrusted_labelled {known : List JsString} (h : ∀ label ∈ known, IsLabel label)
    {text : JsString} (hlabels : ∀ label ∈ labels, label ∈ known)
    (htext : Labelled 10 (fun u => isNewlineOrTab u = false) labels text) :
    Labelled 10 (fun u => isNewlineOrTab u = false) labels
      (sanitizeUntrusted text ⟨false, none⟩) := by
  have hstripped : Labelled 10 (fun u => isNewlineOrTab u = false) labels (stripControls text) :=
    htext.replaceAll (keepsLabels_controlAndFormat h) hlabels
      (fun u hu => absurd hu List.not_mem_nil)
  exact hstripped.replaceAll (keepsLabels_fenceLookalike h) hlabels (by decide)

end Labels

section Pairs

theorem surrogate_range {u : CodeUnit} (h : isHighSurrogate u = true ∨ isLowSurrogate u = true) :
    0xD800 ≤ u.toNat ∧ u.toNat ≤ 0xDFFF := by
  simp only [isHighSurrogate, isLowSurrogate, Bool.and_eq_true, decide_eq_true_eq,
    UInt16.le_iff_toNat_le, UInt16.reduceToNat] at h
  omega

/-- A surrogate is in none of the sanitiser's classes. -/
theorem surrogate_spec {u : CodeUnit} (h : isHighSurrogate u = true ∨ isLowSurrogate u = true) :
    isControl u = false ∧ isFormat u = false ∧ isNewlineOrTab u = false ∧
      isDelimiter u = false ∧ isWhiteSpace u = false := by
  have hrange := surrogate_range h
  simp only [isControl, isFormat, isNewlineOrTab, isDelimiter, isWhiteSpace,
    Bool.or_eq_false_iff, Bool.and_eq_false_iff, decide_eq_false_iff_not, beq_eq_false_iff_ne,
    ne_eq, UInt16.le_iff_toNat_le, ← UInt16.toNat_inj, UInt16.reduceToNat]
  omega

/-- Nor is it a letter of the fence phrase. -/
theorem isPhraseUnit_of_surrogate {u : CodeUnit}
    (h : isHighSurrogate u = true ∨ isLowSurrogate u = true) : isPhraseUnit u = false := by
  have hrange := surrogate_range h
  have hfold : foldCase u = u := by
    rw [foldCase]
    simp only [UInt16.le_iff_toNat_le, ← UInt16.toNat_inj, UInt16.reduceToNat]
    rw [if_neg (by omega), if_neg (by omega), if_neg (by omega)]
  have hletters : ∀ x ∈ js "beginduntrustedresourcedata", x.toNat < 0x80 := by decide
  rw [isPhraseUnit, (surrogate_spec h).2.2.2.2, hfold, Bool.false_or]
  by_contra hmem
  have hlt := hletters u (List.contains_iff_mem.mp (Bool.eq_true_of_not_eq_false hmem))
  omega

theorem not_high_of_low {u : CodeUnit} (h : isLowSurrogate u = true) :
    isHighSurrogate u = false := by
  simp only [isLowSurrogate, Bool.and_eq_true, decide_eq_true_eq, UInt16.le_iff_toNat_le,
    UInt16.reduceToNat] at h
  simp only [isHighSurrogate, Bool.and_eq_false_iff, decide_eq_false_iff_not,
    UInt16.le_iff_toNat_le, UInt16.reduceToNat]
  omega

theorem keepsPairs_controlAndFormat :
    KeepsPairs isHighSurrogate isLowSurrogate controlAndFormat where
  start prev u s hu := by
    rcases surrogate_spec (.inr hu) with ⟨hcontrol, hformat, -⟩
    by_contra hne
    rcases (controlAndFormat_pos_iff prev u s).mp (Nat.pos_of_ne_zero hne) with h | h | ⟨v, s', -, h⟩
    · rw [hcontrol] at h
      exact absurd h Bool.false_ne_true
    · rw [hformat] at h
      exact absurd h Bool.false_ne_true
    · have hhigh := (surrogates_of_isFormatPair h).1
      rw [not_high_of_low hu] at hhigh
      exact absurd hhigh Bool.false_ne_true
  front prev s hs := by
    rcases s with _ | ⟨u, s⟩
    · rfl
    -- A unit of its own that is dropped is no surrogate; a pair is dropped as a whole.
    by_cases hu : (isControl u || isFormat u) = true
    · have hno : isHighSurrogate u = false ∧ isLowSurrogate u = false := by
        constructor
        · by_contra hsurr
          rw [Bool.not_eq_false] at hsurr
          have hspec := surrogate_spec (.inl hsurr)
          rw [hspec.1, hspec.2.1] at hu
          exact absurd hu Bool.false_ne_true
        · by_contra hsurr
          rw [Bool.not_eq_false] at hsurr
          have hspec := surrogate_spec (.inr hsurr)
          rw [hspec.1, hspec.2.1] at hu
          exact absurd hu Bool.false_ne_true
      simp only [controlAndFormat, hu, if_true, List.take_succ_cons, List.take_zero]
      exact isPaired_of_none (fun v hv => List.mem_singleton.mp hv ▸ hno)
    · rcases s with _ | ⟨v, s⟩
      · simp only [controlAndFormat, hu, Bool.false_eq_true, if_false, List.take_zero]
        rfl
      · by_cases hpair : isFormatPair u v = true
        · rcases surrogates_of_isFormatPair hpair with ⟨hhigh, hlow⟩
          simp only [controlAndFormat, hu, hpair, Bool.false_eq_true, if_false, if_true,
            List.take_succ_cons, List.take_zero, isPaired_pair hhigh, hlow, Bool.true_and]
          rfl
        · simp only [controlAndFormat, hu, hpair, Bool.false_eq_true, if_false, List.take_zero]
          rfl

theorem keepsPairs_fenceLookalike : KeepsPairs isHighSurrogate isLowSurrogate fenceLookalike where
  start prev u s hu := by
    rcases surrogate_spec (.inr hu) with ⟨-, -, -, hdelim, hspace⟩
    refine fenceLookalike_eq_zero hdelim hspace ?_ ?_ prev
    · rintro rfl
      exact absurd hu (by decide)
    · by_contra hread
      rcases Option.ne_none_iff_exists'.mp hread with ⟨rest, hrest⟩
      rcases exists_isPhrase hrest with ⟨p, hp, hphrase'⟩
      rcases hphrase'.exists_cons with ⟨v, q, rfl, -⟩
      rw [List.cons_append, List.cons.injEq] at hp
      have hunit := hphrase'.isPhraseUnit List.mem_cons_self
      rw [← hp.1, isPhraseUnit_of_surrogate (.inr hu)] at hunit
      exact absurd hunit Bool.false_ne_true
  front prev s hs := by
    rw [fenceLookalike]
    rcases hphrase : fencePhrase ((dropDelimiters s).dropWhile isWhiteSpace) with _ | rest
    · rfl
    · simp only
      split
      · -- The match ends where the text ends, or before a line break.
        have hsuffix : rest.dropWhile (fun u => u != 10) <:+ s := by
          rcases exists_isPhrase hphrase with ⟨p, hp, -⟩
          have hrest : rest <:+ s := by
            refine List.IsSuffix.trans ⟨p, hp.symm⟩ ?_
            exact (List.dropWhile_suffix _).trans (dropDelimiters_suffix s)
          exact (List.dropWhile_suffix _).trans hrest
        rcases hsuffix with ⟨m, hm⟩
        have hstop := List.head?_dropWhile_not (fun u : CodeUnit => u != 10) rest
        have htake : s.take (s.length - (rest.dropWhile (fun u => u != 10)).length) = m := by
          rw [← hm, List.length_append, Nat.add_sub_cancel, List.take_left]
        rw [htake]
        rcases hback : rest.dropWhile (fun u => u != 10) with _ | ⟨c, t⟩
        · rw [hback, List.append_nil] at hm
          exact hm ▸ hs
        · rw [hback] at hstop
          have hc : c = 10 := bne_eq_false_iff_eq.mp hstop
          rw [← hm, hback, hc] at hs
          exact isPaired_before (by decide) hs
      · rfl

/-- Cutting between the halves of a pair drops the first one as well. -/
theorem dropHighSurrogate_take {s : JsString} (hs : isWellFormed s = true) (n : Nat) :
    isWellFormed (dropHighSurrogate (s.take n)) = true := by
  rw [isWellFormed, ← List.take_append_drop n s] at hs
  rw [isWellFormed, dropHighSurrogate]
  rcases List.eq_nil_or_concat (s.take n) with hnil | ⟨a, u, hlast⟩
  · rw [hnil]
    rfl
  · rw [List.concat_eq_append] at hlast
    rw [hlast] at hs ⊢
    rw [List.getLast?_concat, Option.any_some, List.dropLast_concat]
    split
    · next hu =>
        rw [List.append_assoc, List.singleton_append] at hs
        refine isPaired_before ?_ hs
        by_contra hlow
        rw [not_high_of_low (Bool.eq_true_of_not_eq_false hlow)] at hu
        exact absurd hu Bool.false_ne_true
    · next hu =>
        rcases isPaired_front hs with ha | ⟨a', v, hsplit, hv, -⟩
        · exact ha
        · have heq := List.append_inj_right' hsplit rfl
          rw [List.cons.injEq] at heq
          rw [heq.1, hv] at hu
          exact absurd rfl hu

theorem collapseLines_wellFormed (s : JsString) :
    isWellFormed (collapseLines s) = isWellFormed s := by
  have hkeep : ∀ (f : CodeUnit → Bool), f 32 = false →
      (∀ u, f u = true → isNewlineOrTab u = false) →
      ∀ u, f (if isNewlineOrTab u then 32 else u) = f u := by
    intro f hspace hf u
    by_cases hu : isNewlineOrTab u = true
    · rw [if_pos hu, hspace]
      by_contra hne
      rw [hf u (Bool.eq_true_of_not_eq_false (fun h => hne h.symm))] at hu
      exact absurd hu Bool.false_ne_true
    · rw [if_neg hu]
  exact isPaired_map
    (hkeep isHighSurrogate (by decide) (fun u hu => (surrogate_spec (.inl hu)).2.2.1))
    (hkeep isLowSurrogate (by decide) (fun u hu => (surrogate_spec (.inr hu)).2.2.1)) s

/-- A well-formed line of metadata stays one. -/
theorem sanitizeMetadata_wellFormed {text : JsString} (h : isWellFormed text = true) :
    isWellFormed (sanitizeMetadata text) = true := by
  have hstripped : isWellFormed (stripControls text) = true :=
    isPaired_replaceAll keepsPairs_controlAndFormat rfl h
  have hline : isWellFormed (collapseLines (stripControls text)) = true := by
    rw [collapseLines_wellFormed, hstripped]
  have hscrubbed : isWellFormed (scrubFences (collapseLines (stripControls text))) = true :=
    isPaired_replaceAll keepsPairs_fenceLookalike (by decide) hline
  rw [sanitizeMetadata, sanitizeUntrusted]
  simp only [if_true]
  split
  · rw [isWellFormed, isPaired_append (dropHighSurrogate_take hscrubbed _)]
    decide
  · exact hscrubbed

/-- A text is too long if it has more units than allowed. -/
theorem exceeds_ofNat_iff (length n : Nat) :
    exceeds length (some (JsNum.ofNat n)) = true ↔ n < length := by
  rw [exceeds, Option.any_some, JsNum.ofNat, JsNum.ofNat, JsNum.lt, decide_eq_true_eq,
    Nat.cast_lt]

/-- A line of metadata is bounded, but for the marker of the cut. -/
theorem sanitizeMetadata_length_le (text : JsString) :
    (sanitizeMetadata text).length ≤ metadataMaxChars + clampMarker.length := by
  rw [sanitizeMetadata, sanitizeUntrusted]
  simp only [if_true]
  split
  · have hcut := (prefix_dropHighSurrogate ((scrubFences (collapseLines (stripControls text))).take
      (sliceEnd (scrubFences (collapseLines (stripControls text))).length
        (JsNum.ofNat metadataMaxChars)))).length_le
    have hend : ∀ length, sliceEnd length (JsNum.ofNat metadataMaxChars) ≤ metadataMaxChars := by
      intro length
      simp only [JsNum.ofNat, sliceEnd]
      rw [if_pos (Nat.cast_nonneg _), Int.floor_natCast,
        if_neg (Int.natCast_nonneg _).not_gt, Int.toNat_natCast]
      exact Nat.min_le_left _ _
    have hlen := hend (scrubFences (collapseLines (stripControls text))).length
    rw [List.length_take] at hcut
    rw [List.length_append]
    omega
  · next hshort =>
      have hle := (exceeds_ofNat_iff _ _).not.mp hshort
      omega

end Pairs

end X402

end VellarSdk
