import Questionnaire.Proofs.Answer.Codec
import Questionnaire.Session

/-! # Going on from a saved state

A state is saved as JSON text. Whoever reads the text back has the state that was saved
(`FormState.decode_saved`), and nothing that is seen of a form depends on anything but its document
and that state, so the form looks as it did (`Session.resume_saved`). The policy for removing
instances is not saved, and it makes no difference to the looks. -/

namespace Questionnaire.Session

/-- Two forms look alike: they show the same fields, have the same faults and are submitted as the
same. -/
structure LooksLike (session other : Session) : Prop where
  visibility : session.visibility = other.visibility
  report : session.validate = other.validate
  submission : ∀ exportedAt, session.submission exportedAt = other.submission exportedAt
  indexed : ∀ exportedAt, session.document.indexedSubmission session.state exportedAt =
    other.document.indexedSubmission other.state exportedAt

theorem looksLike_resumed (session : Session) (policy : RemovalPolicy) :
    LooksLike ⟨session.document, session.state, policy⟩ session :=
  ⟨rfl, rfl, fun _ => rfl, fun _ => rfl⟩

theorem resume_eq_ok {document : Document} (h : document.isUsable = true) (state : FormState)
    (policy : RemovalPolicy) : resume document state policy = .ok ⟨document, state, policy⟩ :=
  if_pos h

/-- The text in which a state is saved is read back as that state, with every answer of the same
shape and content and every count; and a form that goes on from it looks like the one that was
saved. -/
theorem resume_saved {state : FormState} (h : state.Sized) :
    FormState.decode.ofText state.toJson.compact = .ok state ∧
      ∀ (session : Session) (policy : RemovalPolicy), session.state = state →
        session.document.isUsable = true → ∃ decoded resumed,
          FormState.decode.ofText session.state.toJson.compact = .ok decoded ∧
            resume session.document decoded policy = .ok resumed ∧ resumed.LooksLike session := by
  have hdecode := FormState.decode_saved h
  refine ⟨hdecode, fun session policy hstate husable => ?_⟩
  subst hstate
  exact ⟨_, _, hdecode, resume_eq_ok husable _ policy, session.looksLike_resumed policy⟩

/-- A form that asks for a pet's papers. -/
def petForm : Document :=
  ⟨"pet.pdf", [⟨"Pet", 1, [⟨"", [⟨"", true, [
    { Question.blank with id := "papers", answerType := .file }]⟩]⟩]⟩]⟩

/-- The answers to the form, and a few that it does not ask for: persons who are called like the
parts of a file, an empty list next to an empty text, and nobody's choices. -/
def petAnswers : FormState where
  answers := Table.ofList [("p0_s0_g0_q0_i0", .file ⟨"papers.pdf", wordLimit - 1, none⟩),
    ("p0_s0_g0_q0_i1", .file ⟨"chip.pdf", 0, some "application/pdf"⟩),
    ("owners", .perPerson (Table.ofList [("name", "yes"), ("size", "no"), ("type", "no")])),
    ("vets", .perPerson Table.empty), ("toys", .multi []), ("food", .multi ["hay", ""]),
    ("notes", .text "")]
  instances := Table.ofList [(⟨0, 0, 0⟩, 2)]

theorem resume_saved_petAnswers : petAnswers.Sized ∧
    FormState.decode.ofText petAnswers.toJson.compact = .ok petAnswers ∧
      ∃ decoded resumed, FormState.decode.ofText petAnswers.toJson.compact = .ok decoded ∧
        resume petForm decoded .preserve = .ok resumed ∧
          resumed.LooksLike ⟨petForm, petAnswers, .compact⟩ := by
  have hsized : petAnswers.Sized := ⟨by decide, by decide⟩
  obtain ⟨hdecode, hresume⟩ := resume_saved hsized
  exact ⟨hsized, hdecode, hresume ⟨petForm, petAnswers, .compact⟩ .preserve rfl rfl⟩

end Questionnaire.Session
