import Mathlib.Data.List.Infix

/-! # Replacing a word in a text

`Text.replaceAll` puts a new word in the place of every occurrence of an old one. A character that
the old word does not have cuts the text: the two sides are replaced apart
(`replaceAll_append_cons`). Replacing passes through an escape that leaves the characters of both
words alone (`replaceAll_flatMap`). -/

namespace Questionnaire.Text

/-- The text with the occurrences of a word replaced, from the left and without overlap. -/
def replaceAll (old new : List Char) : List Char → List Char
  | [] => []
  | c :: rest =>
    if old.isPrefixOf (c :: rest) then new ++ replaceAll old new (rest.drop (old.length - 1))
    else c :: replaceAll old new rest
termination_by text => text.length

variable {old new : List Char} {d : Char}

@[simp] theorem replaceAll_nil : replaceAll old new [] = [] := by rw [replaceAll]

theorem replaceAll_old_append (hold : old ≠ []) (rest : List Char) :
    replaceAll old new (old ++ rest) = new ++ replaceAll old new rest := by
  cases old with
  | nil => exact absurd rfl hold
  | cons c word =>
      have hbegins : (c :: word).isPrefixOf (c :: (word ++ rest)) = true :=
        List.isPrefixOf_iff_prefix.mpr (List.prefix_append (c :: word) rest)
      rw [List.cons_append, replaceAll, if_pos hbegins, List.length_cons, Nat.add_sub_cancel,
        List.drop_left]

theorem replaceAll_cons {c : Char} {rest : List Char} (h : ¬ old <+: c :: rest) :
    replaceAll old new (c :: rest) = c :: replaceAll old new rest := by
  rw [replaceAll, if_neg (mt List.isPrefixOf_iff_prefix.mp h)]

/-- A text is scanned from its front: an occurrence begins there, or the first character stays. -/
theorem replaceAll_induction {motive : List Char → Prop} (hold : old ≠ []) (nil : motive [])
    (word : ∀ rest, motive rest → motive (old ++ rest))
    (cons : ∀ c rest, ¬ old <+: c :: rest → motive rest → motive (c :: rest))
    (text : List Char) : motive text := by
  induction hlength : text.length using Nat.strong_induction_on generalizing text with
  | _ n ih =>
      cases text with
      | nil => exact nil
      | cons c rest =>
          by_cases hbegins : old <+: c :: rest
          · obtain ⟨rest', hrest'⟩ := hbegins
            have hpos := List.length_pos_iff.mpr hold
            have hsum := congrArg List.length hrest'
            rw [List.length_append] at hsum
            rw [← hrest']
            exact word rest' (ih rest'.length (by omega) rest' rfl)
          · exact cons c rest hbegins (ih rest.length (by grind) rest rfl)

/-! ### Cutting a text -/

/-- A word that lacks a character does not reach beyond it. -/
theorem begins_append_cons_iff (hd : d ∉ old) (front rest : List Char) :
    old <+: front ++ d :: rest ↔ old <+: front := by
  refine ⟨fun h => ?_, fun h => h.trans (List.prefix_append _ _)⟩
  have hfront : front ++ [d] <+: front ++ d :: rest := ⟨rest, by simp⟩
  obtain hshort | hlong := List.prefix_or_prefix_of_prefix h hfront
  · obtain heq | hle := List.prefix_concat_iff.mp hshort
    · exact absurd (heq ▸ List.mem_concat_self) hd
    · exact hle
  · exact absurd (hlong.subset (by simp)) hd

theorem replaceAll_append_cons (hold : old ≠ []) (hd : d ∉ old) (front rest : List Char) :
    replaceAll old new (front ++ d :: rest) =
      replaceAll old new front ++ d :: replaceAll old new rest := by
  induction front using replaceAll_induction hold with
  | nil =>
      have h : ¬ old <+: d :: rest := fun h =>
        hold (List.prefix_nil.mp ((begins_append_cons_iff hd [] rest).mp h))
      rw [List.nil_append, replaceAll_cons h, replaceAll_nil, List.nil_append]
  | word front ih =>
      rw [List.append_assoc, replaceAll_old_append hold, replaceAll_old_append hold, ih,
        List.append_assoc]
  | cons c front h ih =>
      have h' : ¬ old <+: c :: (front ++ d :: rest) :=
        mt (begins_append_cons_iff hd (c :: front) rest).mp h
      rw [List.cons_append, replaceAll_cons h', replaceAll_cons h, ih,
        List.cons_append]

theorem replaceAll_append_of_forall (hold : old ≠ []) {front : List Char}
    (h : ∀ c ∈ front, c ∉ old) (rest : List Char) :
    replaceAll old new (front ++ rest) = front ++ replaceAll old new rest := by
  induction front with
  | nil => rfl
  | cons c front ih =>
      rw [List.forall_mem_cons] at h
      have hcut : replaceAll old new (c :: (front ++ rest)) =
          c :: replaceAll old new (front ++ rest) := by
        simpa using replaceAll_append_cons hold h.1 [] (front ++ rest)
      rw [List.cons_append, hcut, ih h.2, List.cons_append]

/-- A text without the word stays. -/
theorem replaceAll_eq_self {text : List Char} (h : ¬ old <:+: text) :
    replaceAll old new text = text := by
  induction text with
  | nil => exact replaceAll_nil
  | cons c rest ih =>
      rw [replaceAll_cons (mt List.IsPrefix.isInfix h),
        ih fun hrest => h (hrest.trans (List.suffix_cons c rest).isInfix)]

/-! ### Escapes -/

theorem flatMap_eq_self {f : Char → List Char} {text : List Char} (h : ∀ c ∈ text, f c = [c]) :
    text.flatMap f = text := (List.flatMap_congr h).trans (List.flatMap_singleton' _)

section escape

variable {f : Char → List Char} (hold : ∀ c ∈ old, f c = [c])
  (hescape : ∀ c ∉ old, f c ≠ [] ∧ ∀ e ∈ f c, e ∉ old)
include hold hescape

/-- An escape that leaves the characters of a word alone brings no occurrence about. -/
theorem begins_of_begins_flatMap {text : List Char} (h : old <+: text.flatMap f) :
    old <+: text := by
  -- the word is consumed together with the text, so its characters are remembered
  suffices hword : ∀ word : List Char, (∀ c ∈ word, c ∈ old) → ∀ text : List Char,
      word <+: text.flatMap f → word <+: text from hword old (fun _ hc => hc) text h
  intro word
  induction word with
  | nil => exact fun _ text _ => List.nil_prefix
  | cons c word ih =>
      intro hmem text h
      cases text with
      | nil => exact h
      | cons first rest =>
          rw [List.flatMap_cons] at h
          by_cases hfirst : first ∈ old
          · rw [hold first hfirst, List.singleton_append, List.cons_prefix_cons] at h
            rw [List.cons_prefix_cons]
            exact ⟨h.1, ih (fun c hc => hmem c (List.mem_cons_of_mem _ hc)) rest h.2⟩
          · obtain ⟨hne, houtside⟩ := hescape first hfirst
            obtain ⟨e, chars, heq⟩ := List.exists_cons_of_ne_nil hne
            rw [heq, List.cons_append, List.cons_prefix_cons] at h
            exact absurd (h.1 ▸ hmem c List.mem_cons_self) (houtside e (by simp [heq]))

theorem replaceAll_flatMap (hne : old ≠ []) (hnew : ∀ c ∈ new, f c = [c]) (text : List Char) :
    replaceAll old new (text.flatMap f) = (replaceAll old new text).flatMap f := by
  induction text using replaceAll_induction hne with
  | nil => rw [List.flatMap_nil, replaceAll_nil, List.flatMap_nil]
  | word rest ih =>
      rw [List.flatMap_append, flatMap_eq_self hold, replaceAll_old_append hne, ih,
        replaceAll_old_append hne, List.flatMap_append, flatMap_eq_self hnew]
  | cons c rest h ih =>
      rw [replaceAll_cons h, List.flatMap_cons, List.flatMap_cons, ← ih]
      by_cases hc : c ∈ old
      · have h' : ¬ old <+: c :: rest.flatMap f := by
          have hflat := mt (begins_of_begins_flatMap hold hescape) h
          rwa [List.flatMap_cons, hold c hc, List.singleton_append] at hflat
        rw [hold c hc, List.singleton_append, replaceAll_cons h',
          List.singleton_append]
      · exact replaceAll_append_of_forall hne (hescape c hc).2 _

end escape

end Questionnaire.Text
