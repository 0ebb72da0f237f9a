import Mathlib.Data.List.Nodup
import Questionnaire.Export.Body
import Questionnaire.Proofs.Address.Extension
import Questionnaire.Proofs.Document.Order

/-! # Addresses of elements

Labels, reports and scripts find the elements of an export by their addresses: the key of a
question, of a sub-question, of a choice or of a free text beside one, in a given instance or in a
template. An `ElementAddress` says which of them it is, and no two are written alike
(`ElementAddress.text_injective`). Three attributes have addresses for values; those that one of
them has on the page of a document are a list without repetition
(`AddressAttribute.nodup_addresses`). -/

namespace Questionnaire

/-! ### Addresses and how they are written -/

/-- What of a question an address leads to: its field, a choice or the free text beside one. -/
inductive ElementPart where
  | field
  | choice (n : Nat)
  | detail (n : Nat)
  deriving DecidableEq

/-- What a part adds to the key of its question. -/
def ElementPart.text : ElementPart → String
  | field => ""
  | choice n => "-o" ++ natText n
  | detail n => optionDetailKey "" n

/-- What an address leads to, in the instance of a question or of one of its sub-questions. -/
structure ElementAddress where
  coords : QuestionCoords
  slot : InstanceSlot
  sub : Option Nat
  part : ElementPart
  deriving DecidableEq

/-- The text of an address. -/
def ElementAddress.text (address : ElementAddress) : String :=
  slotKey address.coords address.slot ++ (address.sub.elim "" (subKey "") ++ address.part.text)

/-- What may follow a number: anything but a digit. -/
def EndsNumber (rest : List Char) : Prop := ∀ c, rest.head? = some c → Decimal.isDigit c = false

theorem endsNumber_nil : EndsNumber [] := fun _ h => by cases h

theorem endsNumber_cons {c : Char} (h : Decimal.isDigit c = false) (rest : List Char) :
    EndsNumber (c :: rest) := fun _ hc => Option.some.inj hc ▸ h

theorem takeWhile_print_append_of_endsNumber (n : Nat) {rest : List Char} (h : EndsNumber rest) :
    (Decimal.print n ++ rest).takeWhile Decimal.isDigit = Decimal.print n := by
  rw [List.takeWhile_append_of_pos fun c hc => Decimal.isDigit_of_mem_print hc]
  cases rest with
  | nil => simp
  | cons c rest => simp [h c rfl]

/-- A number is told from what follows it. -/
theorem print_append_inj {m n : Nat} {rest rest' : List Char} (hr : EndsNumber rest)
    (hr' : EndsNumber rest') (h : Decimal.print m ++ rest = Decimal.print n ++ rest') :
    m = n ∧ rest = rest' := by
  have hnum : Decimal.print m = Decimal.print n := by
    rw [← takeWhile_print_append_of_endsNumber m hr, h, takeWhile_print_append_of_endsNumber n hr']
  rw [hnum] at h
  exact ⟨Decimal.print_injective hnum, List.append_cancel_left h⟩

theorem InstanceSlot.label_append_inj {a b : InstanceSlot} {rest rest' : List Char}
    (hr : EndsNumber rest) (hr' : EndsNumber rest')
    (h : a.label.toList ++ rest = b.label.toList ++ rest') : a = b ∧ rest = rest' := by
  -- no index begins like the placeholder
  have hne (n : Nat) {first second : List Char} :
      (natText n).toList ++ first ≠ placeholderText.toList ++ second := by
    intro heq
    obtain ⟨c, digits, hprint⟩ := List.exists_cons_of_ne_nil (Decimal.print_ne_nil n)
    have hdigit := Decimal.isDigit_of_mem_print (hprint ▸ List.mem_cons_self : c ∈ Decimal.print n)
    rw [natText, String.toList_ofList, hprint] at heq
    obtain rfl : c = '_' := (List.cons.inj heq).1
    exact absurd hdigit (by decide)
  cases a with
  | index m =>
      cases b with
      | index n =>
          simp only [label, natText, String.toList_ofList] at h
          obtain ⟨rfl, hrest⟩ := print_append_inj hr hr' h
          exact ⟨rfl, hrest⟩
      | placeholder => exact absurd h (hne m)
  | placeholder =>
      cases b with
      | index n => exact absurd h.symm (hne n)
      | placeholder => exact ⟨rfl, List.append_cancel_left h⟩

theorem slotKey_append_inj {a b : QuestionCoords} {slot slot' : InstanceSlot} {rest rest' : String}
    (hr : EndsNumber rest.toList) (hr' : EndsNumber rest'.toList)
    (h : slotKey a slot ++ rest = slotKey b slot' ++ rest') :
    a = b ∧ slot = slot' ∧ rest = rest' := by
  have hchars := congrArg String.toList h
  simp only [slotKey, String.toList_append, String.toList_ofList, List.append_assoc,
    List.cons_append, List.nil_append] at hchars
  obtain ⟨hgroup, hchars⟩ := GroupKey.chars_append_inj (endsCoordinate_cons _)
    (endsCoordinate_cons _) hchars
  obtain ⟨hindex, hchars⟩ := coordinateText_append_inj (endsCoordinate_cons _)
    (endsCoordinate_cons _) (List.cons.inj hchars).2
  obtain ⟨hslot, hrest⟩ := InstanceSlot.label_append_inj hr hr'
    (List.cons.inj (List.cons.inj hchars).2).2
  exact ⟨QuestionCoords.ext_groupKey hgroup hindex, hslot, String.toList_inj.1 hrest⟩

namespace ElementPart

theorem endsNumber_text (part : ElementPart) : EndsNumber part.text.toList := by
  cases part with
  | field => exact endsNumber_nil
  | choice n =>
      rw [text, String.toList_append]
      exact endsNumber_cons (by decide) _
  | detail n =>
      rw [text, toList_optionDetailKey]
      exact endsNumber_cons (by decide) _

theorem text_injective : Function.Injective text := by
  intro a b h
  have hchars := congrArg String.toList h
  cases a <;> cases b <;>
    simp [text, toList_optionDetailKey, natText] at hchars
  · rfl
  · rw [Decimal.print_injective hchars]
  · rw [Decimal.print_injective hchars]

end ElementPart

namespace ElementAddress

/-- The mark of a sub-question is not mistaken for that of a part. -/
theorem subKey_append_ne (n : Nat) (rest : String) (part : ElementPart) :
    subKey "" n ++ rest ≠ part.text := by
  intro h
  have hchars := congrArg String.toList h
  cases part <;> simp [subKey, ElementPart.text, toList_optionDetailKey] at hchars

theorem endsNumber_sub_append (sub : Option Nat) (part : ElementPart) :
    EndsNumber (sub.elim "" (subKey "") ++ part.text).toList := by
  cases sub with
  | none =>
      rw [Option.elim_none, String.empty_append]
      exact part.endsNumber_text
  | some n =>
      simp only [Option.elim_some, subKey, String.toList_append, List.append_assoc]
      exact endsNumber_cons (by decide) _

theorem sub_append_inj {sub sub' : Option Nat} {part part' : ElementPart}
    (h : sub.elim "" (subKey "") ++ part.text = sub'.elim "" (subKey "") ++ part'.text) :
    sub = sub' ∧ part = part' := by
  cases sub with
  | none =>
      rw [Option.elim_none, String.empty_append] at h
      cases sub' with
      | none =>
          rw [Option.elim_none, String.empty_append] at h
          exact ⟨rfl, ElementPart.text_injective h⟩
      | some n => exact absurd h.symm (subKey_append_ne n _ part)
  | some m =>
      cases sub' with
      | none =>
          rw [Option.elim_none, String.empty_append] at h
          exact absurd h (subKey_append_ne m _ part')
      | some n =>
          have hchars := congrArg String.toList h
          simp only [Option.elim_some, subKey, String.toList_append, String.toList_ofList,
            List.append_assoc] at hchars
          obtain ⟨rfl, hpart⟩ := print_append_inj part.endsNumber_text part'.endsNumber_text
            (List.append_cancel_left hchars)
          exact ⟨rfl, ElementPart.text_injective (String.toList_inj.1 hpart)⟩

/-- No two addresses are written alike. -/
theorem text_injective : Function.Injective text := by
  rintro ⟨coords, slot, sub, part⟩ ⟨coords', slot', sub', part'⟩ h
  obtain ⟨rfl, rfl, hrest⟩ := slotKey_append_inj (endsNumber_sub_append sub part)
    (endsNumber_sub_append sub' part') h
  obtain ⟨rfl, rfl⟩ := sub_append_inj hrest
  rfl

end ElementAddress

/-! ### What the attributes lead to -/

/-- The attributes whose values are addresses of elements. -/
inductive AddressAttribute where
  | id
  /-- What a label is for. -/
  | target
  | fieldKey
  deriving DecidableEq

/-- Whether there is a single input, which the label of the question is for. -/
def AnswerType.hasLabelledInput : AnswerType → Bool
  | .text | .email | .tel | .date | .number | .textarea | .dropdown | .file => true
  | .radio | .checkbox | .radioMultiPerson | .displayText => false

namespace Question

/-- The field of a question, if there is a single input for it. -/
def fieldParts (question : Question) : List ElementPart :=
  if question.answerType.hasLabelledInput then [.field] else []

/-- The choices of a question that are inputs of their own. -/
def choiceParts (question : Question) : List ElementPart :=
  if question.answerType = .radio ∨ question.answerType = .checkbox then
    question.options.zipIdx.flatMap fun (_, n) => [.choice n]
  else []

/-- The free texts beside the choices of a question. -/
def detailParts (question : Question) : List ElementPart :=
  if question.answerType = .radio ∨ question.answerType = .checkbox ∨
      question.answerType = .dropdown then
    question.options.zipIdx.flatMap fun (option, n) =>
      if option.requiresInput then [.detail n] else []
  else []

end Question

namespace AddressAttribute

/-- The name of an attribute. -/
def name : AddressAttribute → String
  | id => "id"
  | target => "for"
  | fieldKey => "data-field-key"

/-- The parts of a question that an attribute leads to. -/
def parts (question : Question) : AddressAttribute → List ElementPart
  | id => question.fieldParts ++ question.choiceParts ++ question.detailParts
  | target => question.fieldParts
  | fieldKey => [.field]

/-- What an attribute leads to in an instance of a question. -/
def questionAddresses (kind : AddressAttribute) (coords : QuestionCoords) (slot : InstanceSlot)
    (question : Question) : List ElementAddress :=
  (kind.parts question).map (⟨coords, slot, none, ·⟩) ++
    question.subQuestions.zipIdx.flatMap fun (sub, n) =>
      (kind.parts sub).map (⟨coords, slot, some n, ·⟩)

end AddressAttribute

/-- The instances of a group that are written. -/
def Group.slots (fidelity : InstanceFidelity) (group : Group) : List InstanceSlot :=
  .index 0 :: if group.repeatable ∧ fidelity = .template then [.placeholder] else []

/-- What an attribute leads to on the page of a document. -/
def AddressAttribute.addresses (kind : AddressAttribute) (fidelity : InstanceFidelity)
    (document : Document) : List ElementAddress :=
  document.groups.flatMap fun (key, group) => (group.slots fidelity).flatMap fun slot =>
    (Document.questionsAt key group).flatMap fun (coords, question) =>
      kind.questionAddresses coords slot question

/-! ### No address is listed twice -/

theorem nodup_flatMap_zipIdx {α β : Type} {entries : List α} {list : α × Nat → List β}
    (h : ∀ entry, (list entry).Nodup)
    (hpos : ∀ a b, ∀ x ∈ list a, x ∈ list b → a.2 = b.2) :
    (entries.zipIdx.flatMap list).Nodup := by
  refine List.nodup_flatMap.2 ⟨fun entry _ => h entry, ?_⟩
  refine (pairwise_zipIdx entries).imp fun {a b} hlt x hx hx' => ?_
  have hsame := hpos a b x hx hx'
  omega

namespace Question

variable (question : Question)

theorem nodup_choiceParts : question.choiceParts.Nodup := by
  unfold choiceParts
  split
  · refine nodup_flatMap_zipIdx (fun _ => List.nodup_singleton _) fun a b x hx hx' => ?_
    obtain rfl := List.mem_singleton.1 hx
    exact ElementPart.choice.inj (List.mem_singleton.1 hx')
  · exact List.nodup_nil

theorem nodup_detailParts : question.detailParts.Nodup := by
  unfold detailParts
  split
  · refine nodup_flatMap_zipIdx (fun ⟨option, n⟩ => ?_) fun a b x hx hx' => ?_
    · dsimp only
      split
      · exact List.nodup_singleton _
      · exact List.nodup_nil
    · rw [List.mem_ite_nil_right, List.mem_singleton] at hx hx'
      exact ElementPart.detail.inj (hx.2.symm.trans hx'.2)
  · exact List.nodup_nil

theorem nodup_fieldParts : question.fieldParts.Nodup := by
  unfold fieldParts
  split
  · exact List.nodup_singleton _
  · exact List.nodup_nil

end Question

namespace AddressAttribute

variable (kind : AddressAttribute) (question : Question)

theorem nodup_parts : (kind.parts question).Nodup := by
  cases kind with
  | id =>
      have hfield : ∀ part ∈ question.fieldParts, part = .field := by
        simp [Question.fieldParts]
      have hchoice : ∀ part ∈ question.choiceParts, ∃ n, part = .choice n := by
        simp only [Question.choiceParts, List.mem_ite_nil_right, List.mem_flatMap,
          List.mem_singleton]
        rintro part ⟨-, entry, -, hpart⟩
        exact ⟨entry.2, hpart⟩
      have hdetail : ∀ part ∈ question.detailParts, ∃ n, part = .detail n := by
        simp only [Question.detailParts, List.mem_ite_nil_right, List.mem_flatMap,
          List.mem_singleton]
        rintro part ⟨-, entry, -, -, hpart⟩
        exact ⟨entry.2, hpart⟩
      refine (question.nodup_fieldParts.append question.nodup_choiceParts ?_).append
        question.nodup_detailParts ?_
      · intro part hmem hmem'
        obtain ⟨n, hn⟩ := hchoice part hmem'
        rw [hfield part hmem] at hn
        cases hn
      · intro part hmem hmem'
        obtain ⟨n, hn⟩ := hdetail part hmem'
        rcases List.mem_append.1 hmem with hmem | hmem
        · rw [hfield part hmem] at hn
          cases hn
        · obtain ⟨m, hm⟩ := hchoice part hmem
          rw [hm] at hn
          cases hn
  | target => exact question.nodup_fieldParts
  | fieldKey => exact List.nodup_singleton _

variable (coords : QuestionCoords) (slot : InstanceSlot)

theorem mem_questionAddresses {address : ElementAddress}
    (h : address ∈ kind.questionAddresses coords slot question) :
    address.coords = coords ∧ address.slot = slot := by
  rcases List.mem_append.1 h with h | h
  · obtain ⟨part, -, rfl⟩ := List.mem_map.1 h
    exact ⟨rfl, rfl⟩
  · obtain ⟨entry, -, h⟩ := List.mem_flatMap.1 h
    obtain ⟨part, -, rfl⟩ := List.mem_map.1 h
    exact ⟨rfl, rfl⟩

theorem nodup_questionAddresses : (kind.questionAddresses coords slot question).Nodup := by
  have hmap (sub : Option Nat) (question : Question) : ((kind.parts question).map
      fun part => (⟨coords, slot, sub, part⟩ : ElementAddress)).Nodup :=
    (kind.nodup_parts question).map fun _ _ h => (ElementAddress.mk.inj h).2.2.2
  refine List.Nodup.append (hmap none question) ?_ ?_
  · refine nodup_flatMap_zipIdx (fun entry => hmap (some entry.2) entry.1) fun a b x hx hx' => ?_
    obtain ⟨part, -, rfl⟩ := List.mem_map.1 hx
    obtain ⟨part', -, heq⟩ := List.mem_map.1 hx'
    exact (Option.some.inj (congrArg ElementAddress.sub heq)).symm
  · intro address hown hsub
    obtain ⟨part, -, rfl⟩ := List.mem_map.1 hown
    obtain ⟨entry, -, hsub⟩ := List.mem_flatMap.1 hsub
    obtain ⟨part', -, heq⟩ := List.mem_map.1 hsub
    cases congrArg ElementAddress.sub heq

/-- Addresses in different groups, instances or questions are different. -/
theorem nodup_addresses (fidelity : InstanceFidelity) (document : Document) :
    (kind.addresses fidelity document).Nodup := by
  have hinstance (key : GroupKey) (group : Group) (slot : InstanceSlot) :
      ((Document.questionsAt key group).flatMap fun (coords, question) =>
        kind.questionAddresses coords slot question).Nodup := by
    refine List.nodup_flatMap.2 ⟨fun entry _ => kind.nodup_questionAddresses _ _ _, ?_⟩
    refine List.pairwise_map.2 ((pairwise_zipIdx group.questions).imp fun hlt x hx hx' => ?_)
    have hsame := (kind.mem_questionAddresses _ _ _ hx).1.symm.trans
      (kind.mem_questionAddresses _ _ _ hx').1
    have hindex := congrArg QuestionCoords.questionIndex hsame
    simp only [GroupKey.questionIndex_question] at hindex
    omega
  have hslots (group : Group) : (group.slots fidelity).Nodup := by
    unfold Group.slots
    split <;> decide
  refine List.nodup_flatMap.2 ⟨fun entry _ => List.nodup_flatMap.2
    ⟨fun slot _ => hinstance entry.1 entry.2 slot, (hslots entry.2).imp fun hne x hx hx' => ?_⟩,
    (Document.pairwise_groups document).imp fun hlt x hx hx' => ?_⟩
  · obtain ⟨_, -, hx⟩ := List.mem_flatMap.1 hx
    obtain ⟨_, -, hx'⟩ := List.mem_flatMap.1 hx'
    exact hne ((kind.mem_questionAddresses _ _ _ hx).2.symm.trans
      (kind.mem_questionAddresses _ _ _ hx').2)
  · have hkey {key : GroupKey} {group : Group} (h : x ∈ (group.slots fidelity).flatMap fun slot =>
        (Document.questionsAt key group).flatMap fun (coords, question) =>
          kind.questionAddresses coords slot question) : x.coords.groupKey = key := by
      obtain ⟨slot, -, h⟩ := List.mem_flatMap.1 h
      obtain ⟨entry, hentry, h⟩ := List.mem_flatMap.1 h
      rw [(kind.mem_questionAddresses _ _ _ h).1]
      exact Document.groupKey_of_mem_questionsAt hentry
    rw [← hkey hx, ← hkey hx'] at hlt
    exact absurd hlt (List.lt_irrefl _)

end AddressAttribute

end Questionnaire
