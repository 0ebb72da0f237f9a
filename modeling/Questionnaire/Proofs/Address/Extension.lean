import Questionnaire.Proofs.Address

/-! # Keys and their extensions

Beside the answer to a question stand those to its sub-questions and the free texts that belong to
choices, each under the field's key with an extension. An extension can be told from the key before
it and from every other one (`FieldKey.extended_inj`), so splitting gives both back. Reading a key
accepts exactly what writing one produces, and a longer text is cut where the key at its start ends
(`FieldKey.read_exact`). -/

namespace Questionnaire

/-! ### Written keys -/

theorem endsCoordinate_iff {rest : String} :
    EndsCoordinate rest.toList ↔ rest = "" ∨ rest.toList.head? = some '_' := by
  rw [← String.toList_eq_nil_iff]
  cases rest.toList with
  | nil => simp [endsCoordinate_nil]
  | cons c rest => simp [EndsCoordinate]

theorem GroupKey.text_injective : Function.Injective GroupKey.text := fun a b h => by
  have hchars : a.chars ++ [] = b.chars ++ [] := by rw [String.ofList_inj.1 h]
  exact (chars_append_inj endsCoordinate_nil endsCoordinate_nil hchars).1

/-- A group key is parsed exactly from its written form. -/
theorem GroupKey.parse_eq_ok_iff {text : String} {group : GroupKey} :
    GroupKey.parse text = .ok group ↔ text = group.text ∧ group.Fits := by
  have hread : GroupKey.read text.toList = some (group, []) ↔ text = group.text ∧ group.Fits := by
    rw [read_eq_some_iff, List.append_nil, GroupKey.text, ← String.toList_inj, String.toList_ofList]
    simp [endsCoordinate_nil]
  rw [← hread, parse]
  split
  · rename_i found hfound
    simp [hfound]
  · rename_i hno
    simp only [reduceCtorEq, false_iff]
    exact hno group

/-- A field key is parsed exactly from its written form. -/
theorem FieldKey.parse_eq_ok_iff {text : String} {key : FieldKey} :
    FieldKey.parse text = .ok key ↔ text = key.text ∧ key.Fits := by
  have hread : FieldKey.read text.toList = some (key, []) ↔ text = key.text ∧ key.Fits := by
    rw [read_eq_some_iff, List.append_nil, FieldKey.text, ← String.toList_inj, String.toList_ofList]
    simp [endsCoordinate_nil]
  rw [← hread, parse]
  split
  · rename_i found hfound
    simp [hfound]
  · rename_i hno
    simp only [reduceCtorEq, false_iff]
    exact hno key

/-- What is left of a text after the key at its start is the text from the byte on at which the
key, written again, ends; a character begins there. -/
theorem FieldKey.exists_pos_of_split? {text rest : String} {key : FieldKey}
    (h : FieldKey.split? text = some (key, rest)) :
    ∃ cut : text.Pos, cut.offset = key.text.rawEndPos ∧ (text.sliceFrom cut).copy = rest := by
  obtain ⟨htext, -, -⟩ := split?_eq_some_iff.1 h
  have hvalid : key.text.rawEndPos.IsValid text :=
    String.Pos.Raw.isValid_iff_exists_append.2 ⟨key.text, rest, htext, rfl⟩
  exact ⟨text.pos _ hvalid, rfl,
    String.Pos.Splits.copy_sliceFrom_eq (p := text.pos _ hvalid) ⟨htext, rfl⟩⟩

/-! ### Extensions -/

/-- What the key of a field is extended by: the position of a sub-question, that of a choice with a
free text, both or neither. -/
structure KeyExtension where
  sub : Option Nat
  detail : Option Nat
  deriving DecidableEq

namespace KeyExtension

/-- The text of an extension. -/
def text (extension : KeyExtension) : String :=
  extension.sub.elim "" (subKey "") ++ extension.detail.elim "" (optionDetailKey "")

theorem endsCoordinate_sub (sub : Option Nat) :
    EndsCoordinate (sub.elim "" (subKey "")).toList := by
  cases sub with
  | none => exact endsCoordinate_nil
  | some n => exact endsCoordinate_subKey n

theorem endsCoordinate_detail (detail : Option Nat) :
    EndsCoordinate (detail.elim "" (optionDetailKey "")).toList := by
  cases detail with
  | none => exact endsCoordinate_nil
  | some n => exact endsCoordinate_optionDetailKey n

theorem endsCoordinate_text (extension : KeyExtension) : EndsCoordinate extension.text.toList := by
  rw [text, String.toList_append]
  exact (endsCoordinate_sub _).append (endsCoordinate_detail _)

theorem detail_inj {m n : Option Nat}
    (h : m.elim "" (optionDetailKey "") = n.elim "" (optionDetailKey "")) : m = n := by
  cases m with
  | none =>
      cases n with
      | none => rfl
      | some n => exact absurd h.symm (optionDetailKey_ne_empty n)
  | some m =>
      cases n with
      | none => exact absurd h (optionDetailKey_ne_empty m)
      | some n => exact congrArg some (optionDetailKey_injective h)

/-- The position of a sub-question is not mistaken for that of a choice. -/
theorem subKey_append_ne (n : Nat) (rest : String) (detail : Option Nat) :
    subKey "" n ++ rest ≠ detail.elim "" (optionDetailKey "") := by
  intro h
  have hchars := congrArg String.toList h
  cases detail with
  | none => simp [subKey] at hchars
  | some m => simp [subKey, optionDetailKey] at hchars

theorem sub_append_inj {m n : Nat} {rest rest' : String} (hr : EndsCoordinate rest.toList)
    (hr' : EndsCoordinate rest'.toList) (h : subKey "" m ++ rest = subKey "" n ++ rest') :
    m = n ∧ rest = rest' := by
  have hchars := congrArg String.toList h
  simp only [subKey, String.empty_append, String.toList_append, String.toList_ofList,
    List.append_assoc] at hchars
  -- the last letter of the mark opens the coordinate
  obtain ⟨hnum, hrest⟩ := @coordinateText_append_inj 'b' m n _ _ hr hr'
    (@List.append_cancel_left _ ['_', 's', 'u'] _ _ hchars)
  exact ⟨hnum, String.toList_inj.1 hrest⟩

theorem text_injective : Function.Injective text := by
  rintro ⟨sub, detail⟩ ⟨sub', detail'⟩ h
  simp only [text] at h
  cases sub with
  | none =>
      cases sub' with
      | none =>
          have hdetail : detail = detail' := detail_inj (by simpa using h)
          rw [hdetail]
      | some n => exact absurd h.symm (by simpa using subKey_append_ne n _ detail)
  | some m =>
      cases sub' with
      | none => exact absurd h (by simpa using subKey_append_ne m _ detail')
      | some n =>
          obtain ⟨rfl, hdetail⟩ :=
            sub_append_inj (endsCoordinate_detail _) (endsCoordinate_detail _) h
          rw [detail_inj hdetail]

end KeyExtension

namespace FieldKey

/-- The key of what an extension tells beside a field. -/
def extended (key : FieldKey) : KeyExtension → String
  | ⟨none, none⟩ => key.text
  | ⟨some n, none⟩ => key.sub n
  | ⟨none, some m⟩ => key.optionDetail m
  | ⟨some n, some m⟩ => optionDetailKey (key.sub n) m

theorem extended_eq (key : FieldKey) (extension : KeyExtension) :
    key.extended extension = key.text ++ extension.text := by
  obtain ⟨sub, detail⟩ := extension
  cases sub with
  | none =>
      cases detail with
      | none => simp [extended, KeyExtension.text]
      | some m =>
          simp only [extended, KeyExtension.text, Option.elim_none, Option.elim_some,
            String.empty_append]
          exact optionDetailKey_eq _ _
  | some n =>
      cases detail with
      | none =>
          simp only [extended, KeyExtension.text, Option.elim_none, Option.elim_some,
            String.append_empty]
          exact key.sub_eq n
      | some m =>
          simp only [extended, KeyExtension.text, Option.elim_some]
          rw [optionDetailKey_eq, key.sub_eq, String.append_assoc]

/-- Extended keys are the same only for the same field and extension. -/
theorem extended_inj {a b : FieldKey} {e f : KeyExtension} :
    a.extended e = b.extended f ↔ a = b ∧ e = f := by
  constructor
  · intro h
    rw [extended_eq, extended_eq] at h
    obtain ⟨hkey, htext⟩ := text_append_inj e.endsCoordinate_text f.endsCoordinate_text h
    exact ⟨hkey, KeyExtension.text_injective htext⟩
  · rintro ⟨rfl, rfl⟩
    rfl

/-- An extended key is split into the key and its extension. -/
theorem split?_extended_iff {key : FieldKey} {extension : KeyExtension} :
    FieldKey.split? (key.extended extension) = some (key, extension.text) ↔ key.Fits := by
  rw [split?_eq_some_iff, extended_eq]
  simp [extension.endsCoordinate_text]

/-- **Keys are read exactly as they are written.** Parsing accepts the written forms of keys with
64-bit coordinates and nothing else, and no two keys are written alike. Splitting accepts the texts
that such a field key begins and an underscore goes on with, if anything does, and cuts them at the
byte where the key ends. The keys of a field, its sub-questions and free texts are all different,
and splitting gives back the field of each. -/
theorem read_exact (text : String) :
    (∀ key, FieldKey.parse text = .ok key ↔ text = key.text ∧ key.Fits) ∧
    (∀ group, GroupKey.parse text = .ok group ↔ text = group.text ∧ group.Fits) ∧
    Function.Injective FieldKey.text ∧ Function.Injective GroupKey.text ∧
    (∀ key rest, FieldKey.split? text = some (key, rest) ↔
      text = key.text ++ rest ∧ key.Fits ∧ (rest = "" ∨ rest.toList.head? = some '_')) ∧
    (∀ key rest, FieldKey.split? text = some (key, rest) →
      ∃ cut : text.Pos, cut.offset = key.text.rawEndPos ∧ (text.sliceFrom cut).copy = rest) ∧
    (∀ key other extension extension', FieldKey.extended key extension =
      FieldKey.extended other extension' ↔ key = other ∧ extension = extension') ∧
    ∀ key extension, FieldKey.split? (FieldKey.extended key extension) =
      some (key, extension.text) ↔ key.Fits := by
  refine ⟨fun key => parse_eq_ok_iff, fun group => GroupKey.parse_eq_ok_iff, text_injective,
    GroupKey.text_injective, fun key rest => ?_, fun key rest => exists_pos_of_split?,
    fun key other e f => extended_inj, fun key e => split?_extended_iff⟩
  rw [split?_eq_some_iff, endsCoordinate_iff]

end FieldKey

end Questionnaire
