import Mathlib.Data.List.Nodup
import Mathlib.Data.List.Perm.Subperm
import Mathlib.Data.List.SplitBy
import Questionnaire.Proofs.Text.Blank
import Questionnaire.Proofs.Text.Decimal
import Questionnaire.Proofs.Text.Lowercase
import Questionnaire.Submission.Interactive

/-! # Slugs

`slugChars` goes through a text once and remembers whether a run of blanks has begun. What it makes
of a text can be said in two passes instead: what has no part in a slug is left out, and then
every run of blanks becomes an underscore (`slugChars_eq`). `underscored` says the latter of the
longest runs, those of `List.splitBy`. A slug consists of small letters, digits and underscores, and
so it is its own slug (`slugify_exact`).

`uniqueSlug` gives a slug that is not taken, whatever is taken (`uniqueSlug_notMem`). A taken slug
is numbered with the least number from two on that makes it new: among one number more than there
are slugs taken there is a new one, so the search ends with one (`exists_uniqueSlug_eq`). -/

namespace Questionnaire

/-! ### Slugs of their own -/

theorem numberedSlug_injective (base : String) : Function.Injective (numberedSlug base) := by
  intro m n h
  have hdigits := (String.append_right_inj _).1 h
  exact Decimal.print_injective (String.ofList_inj.1 hdigits)

/-- Not every candidate of the search can be taken: there is one more of them. -/
theorem exists_numberedSlug_notMem (taken : List String) (base : String) :
    ∃ n ∈ List.range' 2 (taken.length + 1), numberedSlug base n ∉ taken := by
  by_contra hall
  push Not at hall
  have hnodup : ((List.range' 2 (taken.length + 1)).map (numberedSlug base)).Nodup :=
    List.Nodup.map (numberedSlug_injective base) List.nodup_range'
  have hsub : (List.range' 2 (taken.length + 1)).map (numberedSlug base) ⊆ taken := by
    intro slug hslug
    obtain ⟨n, hn, rfl⟩ := List.mem_map.1 hslug
    exact hall n hn
  have := (List.subperm_of_subset hnodup hsub).length_le
  rw [List.length_map, List.length_range'] at this
  omega

theorem uniqueSlug_of_notMem {taken : List String} {base : String} (h : base ∉ taken) :
    uniqueSlug taken base = base := by
  simp [uniqueSlug, h]

/-- A taken slug gets the least number from two on that makes it new. -/
theorem exists_uniqueSlug_eq {taken : List String} {base : String} (h : base ∈ taken) :
    ∃ n, 2 ≤ n ∧ uniqueSlug taken base = numberedSlug base n ∧ numberedSlug base n ∉ taken ∧
      ∀ m, 2 ≤ m → m < n → numberedSlug base m ∈ taken := by
  obtain ⟨k, hk, hnew⟩ := exists_numberedSlug_notMem taken base
  have hsome : ((List.range' 2 (taken.length + 1)).find?
      fun n => !taken.contains (numberedSlug base n)).isSome := by
    rw [List.find?_isSome]
    exact ⟨k, hk, by simpa using hnew⟩
  obtain ⟨n, hn⟩ := Option.isSome_iff_exists.1 hsome
  have hfirst := List.find?_range'_eq_some.1 hn
  simp only [Bool.not_eq_true', List.contains_eq_mem, decide_eq_false_iff_not, Bool.not_not,
    decide_eq_true_eq, List.mem_range'_1] at hfirst
  refine ⟨n, hfirst.2.1.1, ?_, hfirst.1, hfirst.2.2⟩
  have htaken : taken.contains base = true := by simpa using h
  rw [uniqueSlug, if_pos htaken, List.find?_map]
  exact congrArg (fun found => (found.map (numberedSlug base)).getD base) hn

/-- The slug given is not taken. -/
theorem uniqueSlug_notMem (taken : List String) (base : String) :
    uniqueSlug taken base ∉ taken := by
  by_cases h : base ∈ taken
  · obtain ⟨n, -, heq, hnew, -⟩ := exists_uniqueSlug_eq h
    rw [heq]
    exact hnew
  · rw [uniqueSlug_of_notMem h]
    exact h

example : uniqueSlug ["name", "name_2"] "name" = "name_3" := by decide

/-! ### What has a part in a slug -/

open Text

/-- Whether a character is one of those that slugs are made of. -/
def isSlugLetter (c : Char) : Bool := ('a' ≤ c && c ≤ 'z') || Decimal.isDigit c || c == '_'

/-- Whether a character of a text in lower case has a part in its slug. -/
def countsInSlug (c : Char) : Bool := isBrowserBlank c || isSlugLetter c

/-- The longest runs of blanks in a text, and what stands before, between and after them. -/
def blankRuns (text : List Char) : List (List Char) :=
  text.splitBy fun a b => isBrowserBlank a == isBrowserBlank b

/-- A text with an underscore for every run of blanks. -/
def underscored (text : List Char) : List Char :=
  (blankRuns text).flatMap fun run => if run.all isBrowserBlank then ['_'] else run

variable {c : Char} {text run rest : List Char}

/-! ### Characters -/

theorem isBrowserBlank_eq_false_of_le (hlow : ' ' < c) (hhigh : c ≤ '~') :
    isBrowserBlank c = false := by
  have hmark : c ≠ '\ufeff' := by
    rintro rfl
    exact absurd hhigh (by decide)
  rw [isBrowserBlank, isBlank_eq_false_of_le hlow hhigh]
  simp [hmark]

theorem isSlugLetter_iff : isSlugLetter c = true ↔
    (0x61 ≤ c.toNat ∧ c.toNat ≤ 0x7a) ∨ (0x30 ≤ c.toNat ∧ c.toNat ≤ 0x39) ∨ c.toNat = 0x5f := by
  rw [isSlugLetter, Decimal.isDigit, Bool.or_assoc, Bool.or_eq_true, Bool.or_eq_true,
    Bool.and_eq_true, Bool.and_eq_true, beq_iff_eq, ← Char.toNat_inj]
  simp only [decide_eq_true_eq]
  exact Iff.rfl

theorem isCapital_of_isSlugLetter (h : isSlugLetter c = true) : isCapital c = false := by
  rw [isSlugLetter_iff] at h
  rw [← Bool.not_eq_true, isCapital_eq_true_iff]
  omega

/-- Besides what slugs are made of, capitals would stay. -/
theorem isSlugChar_eq (c : Char) : isSlugChar c = (isCapital c || isSlugLetter c) := by
  rw [isSlugChar, isCapital, isSlugLetter]
  simp only [Bool.or_assoc]
  rw [Bool.or_left_comm]

theorem isSlugChar_of_isSlugLetter (h : isSlugLetter c = true) : isSlugChar c = true := by
  rw [isSlugChar_eq, h, Bool.or_true]

theorem isSlugChar_of_not_capital (h : isCapital c = false) : isSlugChar c = isSlugLetter c := by
  rw [isSlugChar_eq, h, Bool.false_or]

theorem isBrowserBlank_of_isSlugLetter (h : isSlugLetter c = true) : isBrowserBlank c = false := by
  rw [isSlugLetter_iff] at h
  have hlow : 0x20 < c.toNat := by omega
  have hhigh : c.toNat ≤ 0x7e := by omega
  exact isBrowserBlank_eq_false_of_le hlow hhigh

/-! ### Runs -/

/-- A run of characters that are all blank, or all not, ends where another begins. -/
theorem blankRuns_append {blank : Bool} (hne : run ≠ [])
    (hrun : ∀ c ∈ run, isBrowserBlank c = blank)
    (hrest : ∀ c ∈ rest.head?, isBrowserBlank c = !blank) :
    blankRuns (run ++ rest) = run :: blankRuns rest := by
  have hborder : ∀ a ∈ run.getLast?, ∀ b ∈ rest.head?,
      (isBrowserBlank a == isBrowserBlank b) = false := by
    intro a ha b hb
    rw [hrun a (List.mem_of_getLast? ha), hrest b hb]
    cases blank <;> rfl
  have hchain : run.IsChain fun a b => (isBrowserBlank a == isBrowserBlank b) = true := by
    apply List.Pairwise.isChain
    apply List.pairwise_of_forall_mem_list
    intro a ha b hb
    rw [hrun a ha, hrun b hb]
    exact beq_self_eq_true blank
  rw [blankRuns, List.splitBy_append hborder, List.splitBy_of_isChain hne hchain]
  rfl

/-- What is not blank stays. -/
theorem underscored_append (hrun : ∀ c ∈ run, isBrowserBlank c = false)
    (hrest : ∀ c ∈ rest.head?, isBrowserBlank c = true) :
    underscored (run ++ rest) = run ++ underscored rest := by
  cases run with
  | nil => rfl
  | cons first more =>
      have hfirst : (first :: more).all isBrowserBlank = false := by
        rw [List.all_cons, hrun first List.mem_cons_self, Bool.false_and]
      rw [underscored, blankRuns_append (List.cons_ne_nil _ _) hrun hrest, List.flatMap_cons,
        hfirst]
      rfl

theorem underscored_cons (hc : isBrowserBlank c = false) :
    underscored (c :: rest) = c :: underscored rest := by
  have hsplit := @List.takeWhile_append_dropWhile _ (!isBrowserBlank ·) rest
  have hrun : ∀ d ∈ rest.takeWhile (!isBrowserBlank ·), isBrowserBlank d = false := by
    intro d hd
    simpa using List.mem_takeWhile_imp hd
  have hrest : ∀ d ∈ (rest.dropWhile (!isBrowserBlank ·)).head?, isBrowserBlank d = true := by
    intro d hd
    simpa using eq_false_of_mem_head?_dropWhile hd
  have hlonger := underscored_append (List.forall_mem_cons.2 ⟨hc, hrun⟩) hrest
  have hshorter := underscored_append hrun hrest
  rw [List.cons_append, hsplit] at hlonger
  rw [hsplit] at hshorter
  rw [hlonger, hshorter, List.cons_append]

/-- A run of blanks becomes one underscore. -/
theorem underscored_cons_blank (hc : isBrowserBlank c = true) :
    underscored (c :: rest) = '_' :: underscored (rest.dropWhile isBrowserBlank) := by
  have hsplit := @List.takeWhile_append_dropWhile _ isBrowserBlank rest
  have hrun : ∀ d ∈ c :: rest.takeWhile isBrowserBlank, isBrowserBlank d = true := by
    intro d hd
    rcases List.mem_cons.1 hd with rfl | hd
    · exact hc
    · exact List.mem_takeWhile_imp hd
  have hrest : ∀ d ∈ (rest.dropWhile isBrowserBlank).head?, isBrowserBlank d = !true := by
    intro d hd
    exact eq_false_of_mem_head?_dropWhile hd
  have hruns := blankRuns_append (List.cons_ne_nil _ _) hrun hrest
  rw [List.cons_append, hsplit] at hruns
  rw [underscored, hruns, List.flatMap_cons, if_pos (List.all_eq_true.2 hrun)]
  rfl

/-! ### One pass and two -/

/-- What has no part in a slug does not show in it, nor in whether a run has begun. -/
theorem slugChars_filter (afterBlank : Bool)
    (h : ∀ c ∈ text, isCapital c = false) :
    slugChars afterBlank (text.filter countsInSlug) = slugChars afterBlank text := by
  induction text generalizing afterBlank with
  | nil => rfl
  | cons first rest ih =>
      obtain ⟨hfirst, hrest⟩ := List.forall_mem_cons.1 h
      have hletter := isSlugChar_of_not_capital hfirst
      by_cases hcounts : countsInSlug first = true
      · rw [List.filter_cons_of_pos hcounts, slugChars, slugChars, ih true hrest, ih false hrest,
          ih afterBlank hrest]
      · rw [List.filter_cons_of_neg hcounts, ih afterBlank hrest]
        rw [countsInSlug, Bool.or_eq_true, not_or] at hcounts
        rw [slugChars, if_neg hcounts.1, hletter, if_neg hcounts.2]

/-- Of a text of which everything counts, one pass makes what the runs say; after a blank the rest
of its run is passed over. -/
theorem slugChars_eq_underscored (h : ∀ c ∈ text, countsInSlug c = true) :
    slugChars false text = underscored text ∧
      slugChars true text = underscored (text.dropWhile isBrowserBlank) := by
  induction text with
  | nil => exact ⟨rfl, rfl⟩
  | cons first rest ih =>
      obtain ⟨hfirst, hrest⟩ := List.forall_mem_cons.1 h
      obtain ⟨hfresh, hafter⟩ := ih hrest
      by_cases hblank : isBrowserBlank first = true
      · rw [slugChars, slugChars, if_pos hblank, if_pos hblank, hafter,
          underscored_cons_blank hblank, List.dropWhile_cons_of_pos hblank]
        exact ⟨rfl, rfl⟩
      · have hletter : isSlugChar first = true := by
          rw [countsInSlug, Bool.or_eq_true] at hfirst
          exact isSlugChar_of_isSlugLetter (hfirst.resolve_left hblank)
        rw [slugChars, slugChars, if_neg hblank, if_neg hblank, if_pos hletter, if_pos hletter,
          hfresh, List.dropWhile_cons_of_neg hblank, underscored_cons (Bool.eq_false_iff.2 hblank)]
        exact ⟨rfl, rfl⟩

/-- The slug of a text without capitals in two passes. -/
theorem slugChars_eq (h : ∀ c ∈ text, isCapital c = false) :
    slugChars false text = underscored (text.filter countsInSlug) := by
  have hcounts : ∀ c ∈ text.filter countsInSlug, countsInSlug c = true := by
    intro c hc
    exact (List.mem_filter.1 hc).2
  rw [← slugChars_filter false h]
  exact (slugChars_eq_underscored hcounts).1

/-! ### Slugs of slugs -/

theorem isSlugLetter_of_mem_slugChars {afterBlank : Bool} (h : ∀ c ∈ text, isCapital c = false) :
    ∀ c ∈ slugChars afterBlank text, isSlugLetter c = true := by
  induction text generalizing afterBlank with
  | nil =>
      intro c hc
      cases hc
  | cons first rest ih =>
      obtain ⟨hfirst, hrest⟩ := List.forall_mem_cons.1 h
      rw [slugChars]
      split
      · split
        · exact ih hrest
        · exact List.forall_mem_cons.2 ⟨by decide, ih hrest⟩
      · split
        · rename_i hletter
          rw [isSlugChar_of_not_capital hfirst] at hletter
          exact List.forall_mem_cons.2 ⟨hletter, ih hrest⟩
        · exact ih hrest

theorem slugChars_eq_self {afterBlank : Bool} (h : ∀ c ∈ text, isSlugLetter c = true) :
    slugChars afterBlank text = text := by
  induction text generalizing afterBlank with
  | nil => rfl
  | cons first rest ih =>
      obtain ⟨hfirst, hrest⟩ := List.forall_mem_cons.1 h
      have hletter := isSlugChar_of_isSlugLetter hfirst
      have hblank := isBrowserBlank_of_isSlugLetter hfirst
      rw [slugChars, if_neg (Bool.eq_false_iff.1 hblank), if_pos hletter, ih hrest]

theorem lowercase_of_slugLetters (h : ∀ c ∈ text, isSlugLetter c = true) :
    lowercase text = text := by
  apply lowercase_eq_self
  intro c hc
  have hcode := isSlugLetter_iff.1 (h c hc)
  have hascii : c.toNat < 0x80 := by omega
  exact ⟨hascii, isCapital_of_isSlugLetter (h c hc)⟩

theorem isSlugLetter_of_mem_slugify (text : String) :
    ∀ c ∈ (slugify text).toList, isSlugLetter c = true := by
  intro c hc
  rw [slugify, String.toList_ofList] at hc
  exact isSlugLetter_of_mem_slugChars (fun _ => isCapital_of_mem_lowercase) c
    (List.mem_of_mem_take hc)

theorem length_slugify (text : String) : (slugify text).toList.length ≤ slugLimit := by
  rw [slugify, String.toList_ofList]
  exact List.length_take_le _ _

theorem slugify_slugify (text : String) : slugify (slugify text) = slugify text := by
  have hletters := isSlugLetter_of_mem_slugify text
  have hshort := length_slugify text
  rw [slugify, lowercase_of_slugLetters hletters, slugChars_eq_self hletters,
    List.take_of_length_le hshort, String.ofList_toList]

/-- **Slugs.** The slug of a text is the start of what is left of its lower case when all but small
letters, digits, underscores and blanks has been left out and every run of blanks has become
an underscore. It has fifty characters at most, all of them such letters, and is its own slug. -/
theorem slugify_exact (text : String) :
    (slugify text).toList =
        (underscored ((lowercase text.toList).filter countsInSlug)).take 50 ∧
      (slugify text).toList.length ≤ 50 ∧
      (∀ c ∈ (slugify text).toList, isSlugLetter c = true) ∧
      slugify (slugify text) = slugify text := by
  refine ⟨?_, length_slugify text, isSlugLetter_of_mem_slugify text, slugify_slugify text⟩
  rw [slugify, String.toList_ofList, slugChars_eq fun _ => isCapital_of_mem_lowercase]
  rfl

example : slugify "  Date of birth (DD / MM)_" = "_date_of_birth_dd_mm_" := by decide +kernel

end Questionnaire
