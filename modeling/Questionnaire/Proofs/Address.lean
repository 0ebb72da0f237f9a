import Questionnaire.Address
import Questionnaire.Proofs.Text.Decimal

/-! # Reading back addresses

A coordinate is followed by an underscore or by nothing (`EndsCoordinate`), so the coordinates of
a key can be told apart and no two keys are written alike, not even if more text follows
(`FieldKey.text_append_inj`). `FieldKey.split?` finds a field key in exactly the texts that
start with one whose coordinates are 64-bit numbers (`FieldKey.split?_eq_some_iff`). -/

namespace Questionnaire

/-- What may follow a coordinate: nothing, or a text that starts with an underscore. -/
def EndsCoordinate (rest : List Char) : Prop := ∀ c, rest.head? = some c → c = '_'

theorem endsCoordinate_nil : EndsCoordinate [] := fun _ h => by cases h

theorem endsCoordinate_cons (rest : List Char) : EndsCoordinate ('_' :: rest) :=
  fun _ h => (Option.some.inj h).symm

theorem EndsCoordinate.append {first second : List Char} (h1 : EndsCoordinate first)
    (h2 : EndsCoordinate second) : EndsCoordinate (first ++ second) := by
  cases first with
  | nil => exact h2
  | cons c rest => exact fun d hd => h1 d hd

theorem endsCoordinate_dropWhile (text : List Char) :
    EndsCoordinate (text.dropWhile (· != '_')) := by
  intro c hc
  have := List.head?_dropWhile_not (· != '_') text
  rw [hc] at this
  simpa using this

/-! ### Coordinates -/

theorem takeWhile_print_append (n : Nat) {rest : List Char} (h : EndsCoordinate rest) :
    (Decimal.print n ++ rest).takeWhile (· != '_') = Decimal.print n := by
  have hprint : ∀ c ∈ Decimal.print n, (c != '_') = true := fun c hc => by
    rw [bne_iff_ne]
    rintro rfl
    exact Decimal.underscore_notMem_print n hc
  rw [List.takeWhile_append_of_pos hprint]
  cases rest with
  | nil => simp
  | cons c rest => simp [h c rfl]

theorem dropWhile_print_append (n : Nat) {rest : List Char} (h : EndsCoordinate rest) :
    (Decimal.print n ++ rest).dropWhile (· != '_') = rest := by
  have htake := takeWhile_print_append n h
  have := List.takeWhile_append_dropWhile (p := (· != '_')) (l := Decimal.print n ++ rest)
  rw [htake] at this
  exact List.append_cancel_left this

theorem coordinateText_append_inj {letter : Char} {m n : Nat} {rest rest' : List Char}
    (hr : EndsCoordinate rest) (hr' : EndsCoordinate rest')
    (h : coordinateText letter m ++ rest = coordinateText letter n ++ rest') :
    m = n ∧ rest = rest' := by
  have hdigit {more : List Char} (hmore : EndsCoordinate more) (c : Char)
      (hc : more.head? = some c) : Decimal.isDigit c = false := by
    rw [hmore c hc]
    rfl
  exact Decimal.print_append_inj (hdigit hr) (hdigit hr') (List.cons.inj h).2

/-- A coordinate is read exactly where it stands written. -/
theorem readCoordinate_eq_some_iff {letter : Char} {text rest : List Char} {n : Nat} :
    readCoordinate letter text = some (n, rest) ↔
      text = coordinateText letter n ++ rest ∧ n < wordLimit ∧ EndsCoordinate rest := by
  cases text with
  | nil => simp [readCoordinate, coordinateText]
  | cons c text =>
      simp only [readCoordinate, coordinateText]
      by_cases hc : c = letter
      · subst hc
        simp only [if_true, Option.map_eq_some_iff, Prod.mk.injEq, Decimal.read?_eq_some_iff,
          List.cons_append, List.cons.injEq, true_and]
        constructor
        · rintro ⟨m, ⟨htake, hlt⟩, rfl, rfl⟩
          refine ⟨?_, hlt, endsCoordinate_dropWhile text⟩
          rw [← htake, List.takeWhile_append_dropWhile]
        · rintro ⟨rfl, hlt, hends⟩
          exact ⟨n, ⟨takeWhile_print_append n hends, hlt⟩, rfl, dropWhile_print_append n hends⟩
      · simp [hc]

theorem readNextCoordinate_eq_some_iff {letter : Char} {text rest : List Char} {n : Nat} :
    readNextCoordinate letter text = some (n, rest) ↔
      text = '_' :: (coordinateText letter n ++ rest) ∧ n < wordLimit ∧ EndsCoordinate rest := by
  unfold readNextCoordinate
  split
  · rw [readCoordinate_eq_some_iff, List.cons.injEq]
    simp
  · rename_i htext
    simp only [reduceCtorEq, false_iff]
    rintro ⟨h, -⟩
    exact htext _ h

/-! ### Keys -/

@[simp] theorem QuestionCoords.instanceIndex_fieldKey (coords : QuestionCoords) (i : Nat) :
    (coords.fieldKey i).instanceIndex = i := rfl

@[simp] theorem QuestionCoords.groupKey_fieldKey (coords : QuestionCoords) (i : Nat) :
    (coords.fieldKey i).groupKey = coords.groupKey := rfl

/-- The coordinates of the group are 64-bit numbers. -/
def GroupKey.Fits (group : GroupKey) : Prop := ∀ n ∈ group.coordinates, n < wordLimit

instance (group : GroupKey) : Decidable group.Fits :=
  inferInstanceAs (Decidable (∀ n ∈ group.coordinates, n < wordLimit))

/-- The coordinates of the field are 64-bit numbers. -/
def FieldKey.Fits (key : FieldKey) : Prop := ∀ n ∈ key.coordinates, n < wordLimit

instance (key : FieldKey) : Decidable key.Fits :=
  inferInstanceAs (Decidable (∀ n ∈ key.coordinates, n < wordLimit))

theorem GroupKey.fits_iff {group : GroupKey} : group.Fits ↔
    group.pageIndex < wordLimit ∧ group.sectionIndex < wordLimit ∧
      group.groupIndex < wordLimit := by
  simp [Fits, coordinates]

theorem FieldKey.fits_iff {key : FieldKey} : key.Fits ↔
    key.groupKey.Fits ∧ key.questionIndex < wordLimit ∧ key.instanceIndex < wordLimit := by
  simp [Fits, coordinates, GroupKey.fits_iff, groupKey, and_assoc]

namespace GroupKey

theorem chars_append (group : GroupKey) (rest : List Char) :
    group.chars ++ rest = coordinateText 'p' group.pageIndex ++ '_' ::
      (coordinateText 's' group.sectionIndex ++ '_' ::
        (coordinateText 'g' group.groupIndex ++ rest)) := by
  simp [chars]

theorem chars_append_inj {a b : GroupKey} {rest rest' : List Char} (hr : EndsCoordinate rest)
    (hr' : EndsCoordinate rest') (h : a.chars ++ rest = b.chars ++ rest') :
    a = b ∧ rest = rest' := by
  rw [chars_append, chars_append] at h
  obtain ⟨hp, h⟩ := coordinateText_append_inj (endsCoordinate_cons _) (endsCoordinate_cons _) h
  obtain ⟨hs, h⟩ := coordinateText_append_inj (endsCoordinate_cons _) (endsCoordinate_cons _)
    (List.cons.inj h).2
  obtain ⟨hg, h⟩ := coordinateText_append_inj hr hr' (List.cons.inj h).2
  refine ⟨?_, h⟩
  cases a
  cases b
  simp_all

/-- A group key is read exactly where one with 64-bit coordinates stands written. -/
theorem read_eq_some_iff {text rest : List Char} {group : GroupKey} :
    GroupKey.read text = some (group, rest) ↔
      text = group.chars ++ rest ∧ group.Fits ∧ EndsCoordinate rest := by
  simp only [GroupKey.read, Option.bind_eq_bind, Option.bind_eq_some_iff, Prod.exists,
    readCoordinate_eq_some_iff, readNextCoordinate_eq_some_iff, Option.pure_def,
    Option.some.injEq, Prod.mk.injEq]
  constructor
  · rintro ⟨p, _, ⟨rfl, hp, -⟩, s, _, ⟨rfl, hs, -⟩, g, _, ⟨rfl, hg, hends⟩, rfl, rfl⟩
    exact ⟨(chars_append ⟨p, s, g⟩ _).symm, fits_iff.2 ⟨hp, hs, hg⟩, hends⟩
  · rintro ⟨rfl, hfits, hends⟩
    obtain ⟨hp, hs, hg⟩ := fits_iff.1 hfits
    exact ⟨_, _, ⟨chars_append group rest, hp, endsCoordinate_cons _⟩, _, _,
      ⟨rfl, hs, endsCoordinate_cons _⟩, _, _, ⟨rfl, hg, hends⟩, rfl, rfl⟩

end GroupKey

namespace FieldKey

theorem chars_append (key : FieldKey) (rest : List Char) :
    key.chars ++ rest = key.groupKey.chars ++ '_' ::
      (coordinateText 'q' key.questionIndex ++ '_' ::
        (coordinateText 'i' key.instanceIndex ++ rest)) := by
  simp [chars]

theorem chars_append_inj {a b : FieldKey} {rest rest' : List Char} (hr : EndsCoordinate rest)
    (hr' : EndsCoordinate rest') (h : a.chars ++ rest = b.chars ++ rest') :
    a = b ∧ rest = rest' := by
  rw [chars_append, chars_append] at h
  obtain ⟨hgroup, h⟩ := GroupKey.chars_append_inj (endsCoordinate_cons _)
    (endsCoordinate_cons _) h
  obtain ⟨hq, h⟩ := coordinateText_append_inj (endsCoordinate_cons _) (endsCoordinate_cons _)
    (List.cons.inj h).2
  obtain ⟨hi, h⟩ := coordinateText_append_inj hr hr' (List.cons.inj h).2
  refine ⟨?_, h⟩
  cases a
  cases b
  simp_all [groupKey]

/-- A field key is read exactly where one with 64-bit coordinates stands written. -/
theorem read_eq_some_iff {text rest : List Char} {key : FieldKey} :
    FieldKey.read text = some (key, rest) ↔
      text = key.chars ++ rest ∧ key.Fits ∧ EndsCoordinate rest := by
  simp only [FieldKey.read, Option.bind_eq_bind, Option.bind_eq_some_iff, Prod.exists,
    GroupKey.read_eq_some_iff, readNextCoordinate_eq_some_iff, Option.pure_def,
    Option.some.injEq, Prod.mk.injEq]
  constructor
  · rintro ⟨group, _, ⟨rfl, hgroup, -⟩, q, _, ⟨rfl, hq, -⟩, i, _, ⟨rfl, hi, hends⟩, rfl, rfl⟩
    exact ⟨(chars_append ((group.question q).fieldKey i) _).symm,
      fits_iff.2 ⟨hgroup, hq, hi⟩, hends⟩
  · rintro ⟨rfl, hfits, hends⟩
    obtain ⟨hgroup, hq, hi⟩ := fits_iff.1 hfits
    exact ⟨_, _, ⟨chars_append key rest, hgroup, endsCoordinate_cons _⟩, _, _,
      ⟨rfl, hq, endsCoordinate_cons _⟩, _, _, ⟨rfl, hi, hends⟩, rfl, rfl⟩

theorem text_append_eq (key : FieldKey) (rest : String) :
    key.text ++ rest = .ofList (key.chars ++ rest.toList) := by
  rw [text, String.ofList_append, String.ofList_toList]

/-- The field key at the start of a text can be told from what follows it. -/
theorem text_append_inj {a b : FieldKey} {rest rest' : String}
    (hr : EndsCoordinate rest.toList) (hr' : EndsCoordinate rest'.toList)
    (h : a.text ++ rest = b.text ++ rest') : a = b ∧ rest = rest' := by
  rw [text_append_eq, text_append_eq, String.ofList_inj] at h
  obtain ⟨hkey, hrest⟩ := chars_append_inj hr hr' h
  exact ⟨hkey, String.toList_inj.1 hrest⟩

theorem text_injective : Function.Injective FieldKey.text := fun _ _ h =>
  (@text_append_inj _ _ "" "" endsCoordinate_nil endsCoordinate_nil (congrArg (· ++ "") h)).1

/-- Splitting finds the field key of exactly the texts that start with one whose coordinates are
64-bit numbers. -/
theorem split?_eq_some_iff {text rest : String} {key : FieldKey} :
    FieldKey.split? text = some (key, rest) ↔
      text = key.text ++ rest ∧ key.Fits ∧ EndsCoordinate rest.toList := by
  simp only [split?, Option.map_eq_some_iff, Prod.exists, Prod.mk.injEq, read_eq_some_iff]
  constructor
  · rintro ⟨_, chars, ⟨htext, hfits, hends⟩, rfl, rfl⟩
    rw [text_append_eq, String.toList_ofList, ← htext, String.ofList_toList]
    exact ⟨rfl, hfits, hends⟩
  · rintro ⟨rfl, hfits, hends⟩
    refine ⟨key, rest.toList, ⟨?_, hfits, hends⟩, rfl, String.ofList_toList⟩
    rw [text_append_eq, String.toList_ofList]

end FieldKey

/-! ### Keys beside the key of a field -/

theorem FieldKey.sub_eq (field : FieldKey) (n : Nat) : field.sub n = field.text ++ subKey "" n := by
  simp only [FieldKey.sub, subKey, String.append_assoc, String.empty_append]

theorem endsCoordinate_subKey (n : Nat) : EndsCoordinate (subKey "" n).toList := by
  simp only [subKey, String.toList_append]
  exact endsCoordinate_cons _

theorem subKey_injective : Function.Injective (subKey "") := by
  intro m n h
  exact Decimal.print_injective (String.ofList_inj.1 ((String.append_right_inj _).1 h))

theorem subKey_ne_empty (n : Nat) : subKey "" n ≠ "" := by
  intro h
  have hchars := congrArg String.toList h
  simp [subKey] at hchars

theorem optionDetailKey_eq (key : String) (n : Nat) :
    optionDetailKey key n = key ++ optionDetailKey "" n := by
  simp only [optionDetailKey, String.append_assoc, String.empty_append]

theorem toList_optionDetailKey (n : Nat) :
    (optionDetailKey "" n).toList = "_opt".toList ++ Decimal.print n := by
  simp [optionDetailKey]

theorem endsCoordinate_optionDetailKey (n : Nat) :
    EndsCoordinate (optionDetailKey "" n).toList := by
  rw [toList_optionDetailKey]
  exact endsCoordinate_cons _

theorem optionDetailKey_injective : Function.Injective (optionDetailKey "") := by
  intro m n h
  have hchars := congrArg String.toList h
  rw [toList_optionDetailKey, toList_optionDetailKey] at hchars
  exact Decimal.print_injective (List.append_cancel_left hchars)

theorem optionDetailKey_ne_empty (n : Nat) : optionDetailKey "" n ≠ "" := by
  intro h
  have hchars := congrArg String.toList h
  rw [toList_optionDetailKey] at hchars
  simp at hchars

end Questionnaire
