import Questionnaire.Answer.Instances
import Questionnaire.Proofs.Address.Extension
import Questionnaire.Proofs.Json.Reading

/-! # Answers in JSON and back

An answer is saved without saying of which shape it is, so that it is read back only because no
shape that is tried before its own fits: above all, choices by person are no file, whatever the
persons are called (`FileDescriptor.decode_choicesJson_ne_ok`). So the answers and the instances of
a form are read back as they were saved (`FormState.decode_saved`), if their numbers have 64 bits
(`FormState.Sized`). -/

namespace Questionnaire

open Decoder

/-! ### Files -/

namespace FileDescriptor

theorem reads_toJson {file : FileDescriptor} (h : file.size < wordLimit) :
    Reads decode file.toJson file := by
  have hfills : Fills fields [some (.string file.name), some (.ofNat file.size),
      file.mediaType.map .string] ⟨"", 0, none⟩ file :=
    .present ((reads_string _).map _) <| .present ((reads_nat h _).map _) <|
      .optional (fun kind _ => ⟨reads_string kind, nofun⟩) rfl <| .nil _
  exact hfills.reads_record (by decide) (by simp [fields, field, entriesOf]) "FileDescriptor"

theorem legible_toJson {file : FileDescriptor} (h : file.size < wordLimit) (levels : Nat) :
    file.toJson.Legible (levels + 1) := by
  refine Json.legible_record ?_
  simp only [List.forall_mem_cons]
  refine ⟨?_, ?_, ?_, nofun⟩
  · rintro _ ⟨⟩
    exact .string _ _
  · rintro _ ⟨⟩
    exact .number _ h
  · exact Json.legible_of_map fun kind _ => .string _ kind

/-- The field for the size takes no text. -/
theorem decode_size_ne_ok {f : Decoder.Field FileDescriptor} (hf : f ∈ fields)
    (hname : f.name = "size") (origin : Origin) (text : String)
    (change : FileDescriptor → FileDescriptor) :
    f.decode origin (.string text) ≠ .ok change := by
  simp only [fields, List.mem_cons, List.not_mem_nil, or_false] at hf
  rcases hf with rfl | rfl | rfl
  · exact absurd hname (by decide)
  · intro h
    cases h
  · exact absurd hname (by decide)

/-- No size is found among texts. -/
theorem size_notMem_of_fillNamed {origin : Origin} {entries : List (String × String)}
    {seen seen' : List String} {first last : FileDescriptor} (hseen : "size" ∉ seen)
    (h : fillNamed fields origin seen first
      (Node.ofEntries (entries.map fun entry => (entry.1, Json.string entry.2))) =
        .ok (seen', last)) : "size" ∉ seen' := by
  induction entries generalizing seen first with
  | nil =>
      obtain ⟨rfl, -⟩ := Prod.mk.inj (Except.ok.inj h)
      exact hseen
  | cons entry entries ih =>
      rw [List.map_cons, Node.ofEntries, fillNamed] at h
      split at h
      · obtain ⟨-, -, h⟩ := bind_eq_ok_iff.1 h
        exact ih hseen h
      · rename_i f hfind
        split at h
        · cases h
        · obtain ⟨change, hchange, h⟩ := bind_eq_ok_iff.1 h
          refine ih (fun hmem => ?_) h
          rcases List.mem_cons.1 hmem with hname | hmem
          · exact decode_size_ne_ok (List.mem_of_find?_eq_some hfind) hname.symm _ _ _ hchange
          · exact hseen hmem

/-- Choices by person are not taken for a file, not even if the persons are called like the parts of
a description. -/
theorem decode_choicesJson_ne_ok (choices : Table String String) (origin : Origin)
    (file : FileDescriptor) :
    decode origin (.ofJson (AnswerValue.choicesJson choices)) ≠ .ok file := by
  intro h
  obtain ⟨⟨seen, filled⟩, hfill, h⟩ := bind_eq_ok_iff.1 h
  obtain ⟨-, -, h⟩ := bind_eq_ok_iff.1 h
  have hsize := size_notMem_of_fillNamed List.not_mem_nil hfill
  have hmissing : (fields.find? fun f => f.required && !seen.contains f.name).isSome = true := by
    rw [List.find?_isSome]
    refine ⟨_, List.mem_cons_of_mem _ List.mem_cons_self, ?_⟩
    simp [hsize]
  split at h
  · cases h
  · rename_i hnone
    rw [hnone] at hmissing
    cases hmissing

end FileDescriptor

/-! ### Answers -/

/-- The size of a file has 64 bits; the other answers hold no numbers. -/
def AnswerValue.Sized : AnswerValue → Prop
  | .file descriptor => descriptor.size < wordLimit
  | _ => True

instance : DecidablePred AnswerValue.Sized
  | .text _ | .multi _ | .perPerson _ => .isTrue trivial
  | .file descriptor => inferInstanceAs (Decidable (descriptor.size < wordLimit))

namespace AnswerValue

/-- An answer is read back in its own shape. -/
theorem reads_toJson {value : AnswerValue} (h : value.Sized) : Reads decode value.toJson value := by
  cases value with
  | text value => exact .anyOf ((reads_string value).map AnswerValue.text) _ _
  | multi values =>
      have hlist : Reads (list Decoder.string) (.strings values) values :=
        reads_list fun value _ => reads_string value
      exact .anyOf_cons (.anyOf (hlist.map AnswerValue.multi) _ _) rfl
  | file descriptor =>
      have hfile := (FileDescriptor.reads_toJson h).map AnswerValue.file
      exact .anyOf_cons (.anyOf_cons (.anyOf hfile _ _) rfl) rfl
  | perPerson choices =>
      have htable : Reads (Decoder.table .ok Decoder.string) (choicesJson choices) choices :=
        reads_table id (fun _ _ => rfl) fun _ _ => reads_string _
      have hlast := (htable.map AnswerValue.perPerson).anyOf "AnswerValue" []
      obtain ⟨error, herror⟩ : ∃ error, FileDescriptor.decode.map AnswerValue.file .value
          (.ofJson (choicesJson choices)) = .error error := by
        cases hfile : FileDescriptor.decode.map AnswerValue.file .value
            (.ofJson (choicesJson choices)) with
        | error error => exact ⟨error, rfl⟩
        | ok value =>
            obtain ⟨file, hdecode, -⟩ := map_eq_ok_iff.1 hfile
            exact absurd hdecode (FileDescriptor.decode_choicesJson_ne_ok choices _ file)
      exact .anyOf_cons (.anyOf_cons (hlast.anyOf_cons herror) rfl) rfl

theorem legible_toJson {value : AnswerValue} (h : value.Sized) (levels : Nat) :
    value.toJson.Legible (levels + 1) := by
  cases value with
  | text value => exact .string _ value
  | multi values => exact Json.legible_map_array fun value _ => .string _ value
  | file descriptor => exact descriptor.legible_toJson h levels
  | perPerson choices => exact .object (List.forall_mem_map.2 fun entry _ => .string _ entry.2)

end AnswerValue

/-! ### States -/

/-- All numbers in a state have 64 bits: the sizes of files, the coordinates of groups and the
counts of their instances. -/
structure FormState.Sized (state : FormState) : Prop where
  answers : ∀ entry ∈ state.answers.toList, entry.2.Sized
  instances : ∀ entry ∈ state.instances.toList, entry.1.Fits ∧ entry.2 < wordLimit

namespace FormState

variable {state : FormState}

theorem reads_toJson (h : state.Sized) : Reads decode state.toJson state := by
  have hanswers : Reads AnswerStore.decode state.answers.toJson state.answers :=
    reads_table id (fun _ _ => rfl) fun entry hentry =>
      AnswerValue.reads_toJson (h.answers entry hentry)
  have hname (group : GroupKey) (hfits : group.Fits) : GroupKey.ofName group.text = .ok group := by
    rw [GroupKey.ofName, GroupKey.parse_eq_ok_iff.2 ⟨rfl, hfits⟩]
    rfl
  have hinstances : Reads InstanceTable.decode state.instances.toJson state.instances :=
    reads_table GroupKey.text (fun entry hentry => hname entry.1 (h.instances entry hentry).1)
      fun entry hentry => reads_nat (h.instances entry hentry).2 _
  have hfills : Fills fields [some state.answers.toJson, some state.instances.toJson] empty state :=
    .given hanswers <| .given hinstances <| .nil _
  exact hfills.reads_record (by decide) (by simp [fields, field]) "PreviewState"

theorem legible_toJson (h : state.Sized) : state.toJson.Legible 3 := by
  have hanswers : state.answers.toJson.Legible 2 :=
    .object (List.forall_mem_map.2 fun entry hentry =>
      AnswerValue.legible_toJson (h.answers entry hentry) 0)
  have hinstances : state.instances.toJson.Legible 2 :=
    .object (List.forall_mem_map.2 fun entry hentry => .number _ (h.instances entry hentry).2)
  refine .object ?_
  simp only [List.forall_mem_cons]
  exact ⟨hanswers, hinstances, nofun⟩

/-- A state is read back from the text in which it is saved. -/
theorem decode_saved (h : state.Sized) : decode.ofText state.toJson.compact = .ok state :=
  (reads_toJson h).ofText (legible_toJson h) (by decide)

end FormState

end Questionnaire
