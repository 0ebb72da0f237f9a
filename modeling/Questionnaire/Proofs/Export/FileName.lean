import Questionnaire.Export.Page
import Questionnaire.Proofs.Files.Directory

/-! # Names of exported files

The name of an exported file has a stem of characters that stand in names, which neither starts nor
ends with a hyphen (`exists_fileStem`), so that it is the name of one file in whichever
directory it is exported to (`plainName_exportFileName`). -/

namespace Questionnaire

theorem isFileNameChar_of_mem_hyphenated {before text : List Char}
    (h : ∀ c ∈ before, isFileNameChar c = true) :
    ∀ c ∈ hyphenated before text, isFileNameChar c = true := by
  induction text generalizing before with
  | nil => simpa [hyphenated] using h
  | cons first rest ih =>
      rw [hyphenated]
      split
      · rename_i hfirst
        exact ih (List.forall_mem_cons.2 ⟨hfirst, h⟩)
      · split
        · exact ih h
        · exact ih (List.forall_mem_cons.2 ⟨by decide, h⟩)

theorem mem_of_mem_trimHyphens {c : Char} {text : List Char} (h : c ∈ trimHyphens text) :
    c ∈ text := by
  have hend := (List.dropWhile_sublist _).subset (List.mem_reverse.1 h)
  exact (List.dropWhile_sublist _).subset (List.mem_reverse.1 hend)

theorem head?_dropWhile_hyphen (text : List Char) :
    (text.dropWhile (· == '-')).head? ≠ some '-' := by
  intro h
  exact absurd (Text.eq_false_of_mem_head?_dropWhile h) (by decide)

theorem head?_trimHyphens (text : List Char) : (trimHyphens text).head? ≠ some '-' := by
  obtain ⟨back, hback⟩ : trimHyphens text <+: text.dropWhile (· == '-') := by
    have hsuffix := List.dropWhile_suffix (· == '-') (l := (text.dropWhile (· == '-')).reverse)
    rw [← List.reverse_prefix, List.reverse_reverse] at hsuffix
    exact hsuffix
  intro h
  apply head?_dropWhile_hyphen text
  rw [← hback, List.head?_append, h, Option.some_or]

theorem getLast?_trimHyphens (text : List Char) : (trimHyphens text).getLast? ≠ some '-' := by
  rw [trimHyphens, List.getLast?_reverse]
  exact head?_dropWhile_hyphen _

/-- What the name of an exported file starts with. -/
structure FileStem (stem : List Char) : Prop where
  ne_nil : stem ≠ []
  isFileNameChar : ∀ c ∈ stem, isFileNameChar c = true
  head : stem.head? ≠ some '-'
  last : stem.getLast? ≠ some '-'

theorem exists_fileStem (sourceName : String) :
    ∃ stem, FileStem stem ∧ (exportFileName sourceName).toList = stem ++ "-form.html".toList := by
  rw [exportFileName]
  split
  · exact ⟨"form".toList, ⟨by decide, List.all_eq_true.1 (by decide), by decide, by decide⟩, rfl⟩
  · rename_i hstem
    rw [List.isEmpty_iff] at hstem
    refine ⟨_, ⟨hstem, ?_, head?_trimHyphens _, getLast?_trimHyphens _⟩, ?_⟩
    · intro c hc
      exact isFileNameChar_of_mem_hyphenated (by simp) c (mem_of_mem_trimHyphens hc)
    · rw [String.toList_append, String.toList_ofList]

theorem FileStem.notMem {stem : List Char} (h : FileStem stem) {c : Char}
    (hc : Questionnaire.isFileNameChar c = false) (hending : c ∉ "-form.html".toList) :
    c ∉ stem ++ "-form.html".toList := by
  intro hmem
  rcases List.mem_append.1 hmem with hmem | hmem
  · rw [h.isFileNameChar c hmem] at hc
    cases hc
  · exact hending hmem

theorem head?_exportFileName (sourceName : String) :
    (exportFileName sourceName).toList.head? ≠ some '.' := by
  obtain ⟨stem, hstem, hname⟩ := exists_fileStem sourceName
  obtain ⟨first, rest, rfl⟩ := List.exists_cons_of_ne_nil hstem.ne_nil
  intro hdot
  rw [hname] at hdot
  obtain rfl := Option.some.inj hdot
  exact absurd (hstem.isFileNameChar '.' List.mem_cons_self) (by decide)

theorem plainName_exportFileName (sourceName : String) :
    Directory.PlainName (exportFileName sourceName) := by
  obtain ⟨stem, hstem, hname⟩ := exists_fileStem sourceName
  have hfirst := head?_exportFileName sourceName
  refine ⟨?_, ?_, ?_, ?_⟩
  · intro h
    rw [h] at hname
    exact hstem.ne_nil (List.append_eq_nil_iff.1 hname.symm).1
  · intro h
    exact hfirst (by rw [h]; rfl)
  · intro h
    exact hfirst (by rw [h]; rfl)
  · rw [hname]
    exact hstem.notMem (by decide) (by decide)

end Questionnaire
