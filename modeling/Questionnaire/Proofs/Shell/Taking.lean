import Questionnaire.Proofs.Shell.Typing
import Questionnaire.Proofs.Submission.Reading

/-! # The keys that are taken and the keys that are read

The line that answers a question stores an answer and writes `ok` for the keys of fields, of
sub-questions and of the free texts beside the choices of fields, and for these keys with a zero too
many; for every other key it reports the key and leaves the session alone (`Session.set_exact`).
What forms read is not quite the same: they read the free texts beside the choices of sub-questions,
too, and nothing under a key with a zero too many (`Session.exists_key_misjudged`). -/

namespace Questionnaire

theorem Shell.errorLine_ne_ok (message : String) : Shell.errorLine message ≠ "ok" := by
  intro h
  have hchars := congrArg String.toList h
  rw [Shell.errorLine, String.toList_append] at hchars
  exact absurd (List.cons.inj hchars).1 (by decide)

/-- The line that answers a question leaves the session alone under a key that the shell does not
take, and reports the key. -/
theorem Shell.step_set_malformed (session : Session) (now : String) {key : String}
    (hkey : Shell.checkKey key ≠ .ok ()) (hsolid : Text.Solid key.toList) (hne : key.toList ≠ [])
    {value : List Char} (htrimmed : Text.Trimmed value) (hunbroken : '\n' ∉ value)
    (spacing : Spacing) :
    Shell.Step now session (spacing.line key.toList value)
      [Shell.errorLine (KeyError.malformed key).message] session :=
  spacing.step hsolid hne htrimmed hunbroken
    (by rw [String.ofList_toList, Command.run, Shell.checkKey_eq_error hkey])

/-- The keys that the shell takes are those that some form reads, but not those of the free texts
beside the choices of sub-questions, and beyond them the keys with a zero too many. -/
theorem Shell.checkKey_eq_ok_iff_readSomewhere {key : String} : Shell.checkKey key = .ok () ↔
    (Document.ReadSomewhere key ∧
      ∀ (field : FieldKey) (n m : Nat), key ≠ field.extended ⟨some n, some m⟩) ∨
        FieldKey.Padded key := by
  rw [Shell.checkKey_eq_ok_iff_extended, Document.readSomewhere_iff]
  refine or_congr_left ⟨?_, ?_⟩
  · rintro ⟨field, extension, hfits, hsingle, rfl⟩
    refine ⟨⟨field, extension, hfits, rfl⟩, fun other n m hkey => ?_⟩
    obtain ⟨-, rfl⟩ := FieldKey.extended_inj.1 hkey
    exact hsingle.elim nofun nofun
  · rintro ⟨⟨field, ⟨sub, detail⟩, hfits, rfl⟩, hother⟩
    refine ⟨field, _, hfits, ?_, rfl⟩
    cases sub with
    | none => exact .inl rfl
    | some n =>
        cases detail with
        | none => exact .inr rfl
        | some m => exact absurd rfl (hother field n m)

namespace Session

variable {key : String} {value : List Char}

/-- **The shell takes keys by their form.** A line with a key and a value stores an answer and
writes `ok` if some form reads the key, unless it is that of a free text beside a choice of a
sub-question, and if the key has a zero too many. Any other key is reported, and the session stays
as it is. The keys that some form reads are those of fields with any extension; a key with a zero
too many is not among them. -/
theorem set_exact (session : Session) (now : String) (hsolid : Text.Solid key.toList)
    (hne : key ≠ "") (hvalue : ¬ Text.Blanks value) (hunbroken : '\n' ∉ value)
    (spacing : Spacing) :
    ((∃ next answer, Shell.Step now session (spacing.line key.toList value) ["ok"] next ∧
        next.answer? key = some answer) ↔
      (Document.ReadSomewhere key ∧
        ∀ (field : FieldKey) (n m : Nat), key ≠ field.extended ⟨some n, some m⟩) ∨
          FieldKey.Padded key) ∧
    ((¬ ∃ next answer, Shell.Step now session (spacing.line key.toList value) ["ok"] next ∧
        next.answer? key = some answer) →
      Shell.Step now session (spacing.line key.toList value)
        [Shell.errorLine (KeyError.malformed key).message] session) ∧
    (Document.ReadSomewhere key ↔ ∃ (field : FieldKey) (extension : KeyExtension),
      field.Fits ∧ key = field.extended extension) ∧
    (FieldKey.Padded key → ¬ Document.ReadSomewhere key) := by
  have hnil : key.toList ≠ [] := fun h => hne (String.toList_eq_nil_iff.1 h)
  have htrimmed := Text.trimmed_trim hvalue
  obtain ⟨front, back, -, -, htrim⟩ := Text.exists_trim value
  have hbreak : '\n' ∉ Text.trim value := fun hmem =>
    hunbroken (htrim ▸ List.mem_append_right _ (List.mem_append_left _ hmem))
  obtain ⟨other, hline⟩ := spacing.exists_line_trim hunbroken
  rw [hline]
  have herror (hkey : Shell.checkKey key ≠ .ok ()) :
      Shell.Step now session (other.line key.toList (Text.trim value))
        [Shell.errorLine (KeyError.malformed key).message] session :=
    Shell.step_set_malformed session now hkey hsolid hnil htrimmed hbreak other
  have htaken : (∃ next answer, Shell.Step now session (other.line key.toList (Text.trim value))
      ["ok"] next ∧ next.answer? key = some answer) ↔ Shell.checkKey key = .ok () := by
    constructor
    · rintro ⟨next, answer, hstep, -⟩
      by_contra hkey
      have hwritten := (Prod.mk.inj (hstep.last.symm.trans (herror hkey).last)).1
      exact Shell.errorLine_ne_ok _ (List.cons.inj hwritten).1.symm
    · exact fun hkey => ⟨_, _, Shell.step_set session now hkey hsolid hnil htrimmed hbreak other,
        (Table.get?_insert ..).trans (if_pos rfl)⟩
  refine ⟨htaken.trans Shell.checkKey_eq_ok_iff_readSomewhere, fun hno => herror (mt htaken.2 hno),
    Document.readSomewhere_iff, fun hpadded hread => ?_⟩
  obtain ⟨field, extension, -, rfl⟩ := Document.readSomewhere_iff.1 hread
  exact hpadded.ne_extended field extension rfl

/-- A form with one group whose question has a choice as a sub-question; the choice has an option
that asks for a free text. -/
def petFood : Document := .around ⟨0, 0, 0, 0⟩ ((Question.asking 0).withPart (some 0))

/-- The free text that the form asks for cannot be typed. -/
theorem set_exact_petFood :
    (Text.Solid "p0_s0_g0_q0_i0_sub0_opt0".toList ∧ "p0_s0_g0_q0_i0_sub0_opt0" ≠ "" ∧
      ¬ Text.Blanks " two  rats".toList ∧ '\n' ∉ " two  rats".toList) ∧
    Shell.Step "now" ⟨petFood, .empty, .compact⟩ "set p0_s0_g0_q0_i0_sub0_opt0  two  rats".toList
      ["error: malformed field key 'p0_s0_g0_q0_i0_sub0_opt0'"] ⟨petFood, .empty, .compact⟩ := by
  have hsolid : Text.Solid "p0_s0_g0_q0_i0_sub0_opt0".toList := by decide
  have hne : "p0_s0_g0_q0_i0_sub0_opt0" ≠ "" := by decide
  have hvalue : ¬ Text.Blanks " two  rats".toList := by decide
  have hunbroken : '\n' ∉ " two  rats".toList := by decide
  obtain ⟨htaken, herror, -, hpadded⟩ := set_exact ⟨petFood, .empty, .compact⟩ "now" hsolid hne
    hvalue hunbroken .single
  have hread : Document.ReadSomewhere "p0_s0_g0_q0_i0_sub0_opt0" :=
    Document.readSomewhere_iff.2 ⟨⟨0, 0, 0, 0, 0⟩, ⟨some 0, some 0⟩, by decide, rfl⟩
  refine ⟨⟨hsolid, hne, hvalue, hunbroken⟩, herror fun hstored => ?_⟩
  rcases htaken.1 hstored with ⟨-, hother⟩ | hzero
  · exact hother ⟨0, 0, 0, 0, 0⟩ 0 0 rfl
  · exact hpadded hzero hread

/-- What forms read and what the shell takes differ both ways: a free text that the form reads is
refused, and an answer is stored under a key that no form reads. -/
theorem exists_key_misjudged :
    (petFood.Reads (.upTo ⟨0, 0, 0, 0, 0⟩) "p0_s0_g0_q0_i0_sub0_opt0" ∧
      Shell.Step "now" ⟨petFood, .empty, .compact⟩ "set p0_s0_g0_q0_i0_sub0_opt0 rats".toList
        ["error: malformed field key 'p0_s0_g0_q0_i0_sub0_opt0'"]
        ⟨petFood, .empty, .compact⟩) ∧
    ¬ Document.ReadSomewhere "p0_s0_g0_q0_i0_opt007" ∧
    ∃ next, Shell.Step "now" ⟨petFood, .empty, .compact⟩ "set p0_s0_g0_q0_i0_opt007 rats".toList
        ["ok"] next ∧ next.answer? "p0_s0_g0_q0_i0_opt007" = some (.text "rats") := by
  have hpadded : FieldKey.Padded "p0_s0_g0_q0_i0_opt007" :=
    ⟨⟨0, 0, 0, 0, 0⟩, "_opt", ['0', '0', '7'], by decide, .inr rfl,
      ⟨['0', '7'], by decide, rfl, List.all_eq_true.1 rfl⟩, rfl⟩
  have hrats : AnswerValue.TypedAs (.text "rats") "rats" :=
    .text (Text.Solid.trimmed (by decide) (by decide)) (by decide) (by simp)
  refine ⟨⟨Document.reads_detail ⟨0, 0, 0, 0, 0⟩ (some 0) 0, ?_⟩, fun hread => ?_, ?_⟩
  · have hkey := @Shell.checkKey_extended_ne_ok ⟨some 0, some 0⟩ (by decide) ⟨0, 0, 0, 0, 0⟩
    exact Shell.step_set_malformed _ _ hkey (by decide) (by decide) hrats.trimmed hrats.unbroken
      .single
  · obtain ⟨field, extension, -, hkey⟩ := Document.readSomewhere_iff.1 hread
    exact hpadded.ne_extended field extension hkey
  · have hkey := Shell.checkKey_eq_ok_iff_extended.2 (.inr hpadded)
    have hstep := Shell.step_set ⟨petFood, .empty, .compact⟩ "now" hkey (by decide) (by decide)
      hrats.trimmed hrats.unbroken .single
    rw [String.ofList_toList, hrats.readValue] at hstep
    exact ⟨_, hstep, (Table.get?_insert ..).trans (if_pos rfl)⟩

end Session

end Questionnaire
