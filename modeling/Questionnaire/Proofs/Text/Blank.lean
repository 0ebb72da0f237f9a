import Mathlib.Data.List.Basic
import Mathlib.Data.List.TakeWhile
import Questionnaire.Text.Blank

/-! # Blanks around and between words

Trimming gives back a text from between any blanks (`Text.Trimmed.trim_append`), a text is cut right
behind its first word (`Text.Solid.exists_cutAtBlank`), and into pieces at every separator
(`Text.splitAt_append_cons`). -/

namespace Questionnaire.Text

/-- There is nothing but blanks in a text. -/
def Blanks (text : List Char) : Prop := ∀ c ∈ text, isBlank c = true

/-- There is no blank in a text. -/
def Solid (text : List Char) : Prop := ∀ c ∈ text, isBlank c = false

/-- A text is not empty and has no blank at its two ends. -/
structure Trimmed (text : List Char) : Prop where
  ne_nil : text ≠ []
  head : ∀ c ∈ text.head?, isBlank c = false
  last : ∀ c ∈ text.getLast?, isBlank c = false

instance : DecidablePred Blanks := fun text => List.decidableBAll (isBlank · = true) text

instance : DecidablePred Solid := fun text => List.decidableBAll (isBlank · = false) text

variable {before after text word : List Char}

theorem blanks_append_iff {first second : List Char} :
    Blanks (first ++ second) ↔ Blanks first ∧ Blanks second := List.forall_mem_append

/-- Of the characters up to the tilde, only the blank and those below it are blank. -/
theorem isBlank_eq_false_of_le {c : Char} (hlow : ' ' < c) (hhigh : c ≤ '~') :
    isBlank c = false := by
  have hcodes : ∀ n < 127, 32 < n → isBlank (.ofNat n) = false := by decide
  have := hcodes c.toNat (Nat.lt_succ_of_le hhigh) hlow
  rwa [Char.ofNat_toNat] at this

theorem Solid.trimmed (h : Solid text) (hne : text ≠ []) : Trimmed text where
  ne_nil := hne
  head c hc := h c (List.mem_of_head? hc)
  last c hc := h c (List.mem_of_getLast? hc)

/-- What stands between two texts has no part in the ends of the whole. -/
theorem Trimmed.append {front back : List Char} (hfront : Trimmed front) (hback : Trimmed back)
    (between : List Char) : Trimmed (front ++ (between ++ back)) where
  ne_nil h := hfront.ne_nil (List.append_eq_nil_iff.1 h).1
  head c hc := hfront.head c (by rwa [List.head?_append_of_ne_nil _ hfront.ne_nil] at hc)
  last c hc := hback.last c (by
    rwa [← List.append_assoc, List.getLast?_append_of_ne_nil _ hback.ne_nil] at hc)

theorem Trimmed.dropWhile (h : Trimmed text) (hbefore : Blanks before) (rest : List Char) :
    (before ++ (text ++ rest)).dropWhile isBlank = text ++ rest := by
  rw [List.dropWhile_append_of_pos hbefore]
  cases text with
  | nil => exact absurd rfl h.ne_nil
  | cons c text =>
      have hc : ¬ isBlank c = true := by simp [h.head c rfl]
      rw [List.cons_append, List.dropWhile_cons_of_neg hc]

theorem Trimmed.trimRight_append (h : Trimmed text) (hafter : Blanks after) :
    trimRight (text ++ after) = text := by
  have hreverse : Trimmed text.reverse :=
    ⟨fun hnil => h.ne_nil (List.reverse_eq_nil_iff.1 hnil),
      fun c hc => h.last c (by rwa [List.head?_reverse] at hc),
      fun c hc => h.head c (by rwa [List.getLast?_reverse] at hc)⟩
  have hblanks : Blanks after.reverse := fun c hc => hafter c (List.mem_reverse.1 hc)
  have hdrop := hreverse.dropWhile hblanks []
  rw [List.append_nil] at hdrop
  rw [trimRight, List.reverse_append, hdrop, List.reverse_reverse]

/-- Trimming takes away the blanks around a text. -/
theorem Trimmed.trim_append (h : Trimmed text) (hbefore : Blanks before) (hafter : Blanks after) :
    trim (before ++ (text ++ after)) = text := by
  rw [trim, h.dropWhile hbefore, h.trimRight_append hafter]

theorem trim_eq_nil_iff {text : List Char} : trim text = [] ↔ Blanks text := by
  rw [trim, trimRight, List.reverse_eq_nil_iff, List.dropWhile_eq_nil_iff]
  simp only [List.mem_reverse]
  constructor
  · intro h c hc
    rw [← @List.takeWhile_append_dropWhile _ isBlank text] at hc
    exact (List.mem_append.1 hc).elim List.mem_takeWhile_imp (h c)
  · exact fun h c hc => h c ((List.dropWhile_sublist _).subset hc)

theorem blank_eq_false_iff {text : String} : blank text = false ↔ trim text.toList ≠ [] := by
  rw [← Bool.not_eq_true, blank, List.all_eq_true, Ne, trim_eq_nil_iff, Blanks]

theorem exists_trimRight (text : List Char) :
    ∃ after, Blanks after ∧ trimRight text ++ after = text := by
  refine ⟨(text.reverse.takeWhile isBlank).reverse, fun c hc => ?_, ?_⟩
  · exact List.mem_takeWhile_imp (List.mem_reverse.1 hc)
  · rw [trimRight, ← List.reverse_append, List.takeWhile_append_dropWhile, List.reverse_reverse]

/-- Only blanks are trimmed. -/
theorem exists_trim (text : List Char) :
    ∃ before after, Blanks before ∧ Blanks after ∧ before ++ (trim text ++ after) = text := by
  obtain ⟨after, hafter, htext⟩ := exists_trimRight (text.dropWhile isBlank)
  refine ⟨text.takeWhile isBlank, after, fun c hc => List.mem_takeWhile_imp hc, hafter, ?_⟩
  rw [trim, htext, List.takeWhile_append_dropWhile]

/-- What is left starts with a character that is not dropped. -/
theorem eq_false_of_mem_head?_dropWhile {p : Char → Bool} {c : Char}
    (h : c ∈ (text.dropWhile p).head?) : p c = false := by
  have hhead := List.head?_dropWhile_not p text
  rwa [Option.mem_def.1 h] at hhead

/-- All blanks at the two ends are trimmed. -/
theorem trimmed_trim (h : ¬ Blanks text) : Trimmed (trim text) := by
  have hne : trim text ≠ [] := fun hnil => h (trim_eq_nil_iff.1 hnil)
  refine ⟨hne, fun c hc => ?_, fun c hc => ?_⟩
  · obtain ⟨after, -, htext⟩ := exists_trimRight (text.dropWhile isBlank)
    have hrest : (text.dropWhile isBlank).head? = some c := by
      rw [← htext]
      exact (List.head?_append_of_ne_nil _ hne).trans hc
    exact eq_false_of_mem_head?_dropWhile hrest
  · rw [trim, trimRight, List.getLast?_reverse] at hc
    exact eq_false_of_mem_head?_dropWhile hc

theorem trimmed_of_trim_eq_self (hne : text ≠ []) (h : trim text = text) : Trimmed text := by
  have htrimmed := @trimmed_trim text fun hblanks => hne (h ▸ trim_eq_nil_iff.2 hblanks)
  rwa [h] at htrimmed

/-- A text is cut at the first blank. -/
theorem Solid.cutAtBlank_append (h : Solid word) {c : Char} (hc : isBlank c = true)
    (rest : List Char) : cutAtBlank (word ++ c :: rest) = some (word, rest) := by
  have hword : ∀ d ∈ word, (!isBlank d) = true := fun d hd => by rw [h d hd]; rfl
  rw [cutAtBlank, List.dropWhile_append_of_pos hword, List.takeWhile_append_of_pos hword,
    List.dropWhile_cons_of_neg (by simp [hc]), List.takeWhile_cons_of_neg (by simp [hc]),
    List.append_nil]

/-- Blanks end a word, and the text after them is left. -/
theorem Solid.exists_cutAtBlank {blanks : List Char} (hword : Solid word) (hblanks : Blanks blanks)
    (hne : blanks ≠ []) (htext : Trimmed text) :
    ∃ rest, cutAtBlank (word ++ (blanks ++ text)) = some (word, rest) ∧ trim rest = text := by
  obtain ⟨c, blanks, rfl⟩ := List.exists_cons_of_ne_nil hne
  obtain ⟨hc, hblanks⟩ := List.forall_mem_cons.1 hblanks
  refine ⟨blanks ++ text, hword.cutAtBlank_append hc _, ?_⟩
  have htrim := htext.trim_append hblanks (fun _ h => nomatch h : Blanks [])
  rwa [List.append_nil] at htrim

/-! ### Pieces -/

theorem splitAt_append_cons {separates : Char → Bool} {separator : Char}
    (h : separates separator = true) (before after : List Char) :
    splitAt separates (before ++ separator :: after) =
      splitAt separates before ++ splitAt separates after := by
  induction before with
  | nil => simp [splitAt, h]
  | cons c rest ih =>
      by_cases hc : separates c = true
      · simp [splitAt, hc, ih]
      · obtain ⟨piece, pieces, hrest⟩ := List.exists_cons_of_ne_nil (splitAt_ne_nil separates rest)
        simp [splitAt, hc, ih, hrest]

theorem splitAt_eq_singleton {separates : Char → Bool} {text : List Char}
    (h : ∀ c ∈ text, separates c = false) : splitAt separates text = [text] := by
  induction text with
  | nil => rfl
  | cons c rest ih =>
      rw [splitAt, ih fun d hd => h d (List.mem_cons_of_mem _ hd)]
      simp [h c List.mem_cons_self]

end Questionnaire.Text
