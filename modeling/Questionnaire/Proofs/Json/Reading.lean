import Questionnaire.Proofs.Json.Decoding
import Questionnaire.Proofs.Json.Numbers
import Questionnaire.Proofs.Text.Utf8

/-! # Reading back what is written

A value that is written without blanks is read back as it was, from its characters
(`Json.readText_compact`) and from its bytes (`Json.readBytes_compact`), if it is legible: its
integers have 64 bits, its other numbers are read back, and it is not nested too deeply
(`Json.Legible`). -/

namespace Questionnaire

/-- Whether a number is read back. -/
def JsonNumber.Legible : JsonNumber → Prop
  | .natural n => n < wordLimit
  | .negative n => 0 < n ∧ n ≤ wordLimit / 2
  | .double x => x.ReadsBack

namespace Json

/-- Whether a value is read back if it may have so many levels of lists and objects. -/
inductive Legible : Nat → Json → Prop
  | null (levels : Nat) : Legible levels .null
  | bool (levels : Nat) (value : Bool) : Legible levels (.bool value)
  | number (levels : Nat) {value : JsonNumber} (h : value.Legible) : Legible levels (.number value)
  | string (levels : Nat) (value : String) : Legible levels (.string value)
  | array {levels : Nat} {items : List Json} (h : ∀ item ∈ items, Legible levels item) :
    Legible (levels + 1) (.array items)
  | object {levels : Nat} {entries : List (String × Json)}
    (h : ∀ entry ∈ entries, Legible levels entry.2) : Legible (levels + 1) (.object entries)

@[simp] theorem legible_string (levels : Nat) (value : String) :
    (Json.string value).Legible levels :=
  .string levels value

@[simp] theorem legible_number_iff {levels : Nat} {value : JsonNumber} :
    (Json.number value).Legible levels ↔ value.Legible :=
  ⟨fun h => by cases h; assumption, .number levels⟩

@[simp] theorem legible_array_iff {levels : Nat} {items : List Json} :
    (Json.array items).Legible (levels + 1) ↔ ∀ item ∈ items, item.Legible levels :=
  ⟨fun h => by cases h; assumption, .array⟩

@[simp] theorem legible_object_iff {levels : Nat} {entries : List (String × Json)} :
    (Json.object entries).Legible (levels + 1) ↔ ∀ entry ∈ entries, entry.2.Legible levels :=
  ⟨fun h => by cases h; assumption, .object⟩

theorem legible_record {levels : Nat} {fields : List (String × Option Json)}
    (h : ∀ field ∈ fields, ∀ value, field.2 = some value → value.Legible levels) :
    (record fields).Legible (levels + 1) := by
  refine .object fun entry hentry => ?_
  obtain ⟨field, hfield, hmap⟩ := List.mem_filterMap.1 hentry
  obtain ⟨value, hvalue, rfl⟩ := Option.map_eq_some_iff.1 hmap
  exact h field hfield value hvalue

theorem legible_of_map {α : Type} {levels : Nat} {toJson : α → Json} {a : Option α}
    (h : ∀ x, a = some x → (toJson x).Legible levels) (json : Json)
    (hjson : a.map toJson = some json) : json.Legible levels := by
  obtain ⟨x, hx, rfl⟩ := Option.map_eq_some_iff.1 hjson
  exact h x hx

theorem legible_map_array {α : Type} {levels : Nat} {toJson : α → Json} {values : List α}
    (h : ∀ a ∈ values, (toJson a).Legible levels) :
    (Json.array (values.map toJson)).Legible (levels + 1) :=
  .array (List.forall_mem_map.2 h)

/-! ### The first character -/

theorem skipBlanks_cons {s : Symbol} (h : isBlank s = false) (rest : List Symbol) :
    skipBlanks (s :: rest) = s :: rest := by
  rw [skipBlanks, List.dropWhile_cons_of_neg (by rw [h]; exact Bool.false_ne_true)]

theorem isBlank_of_isDigit {c : Char} (h : Decimal.isDigit c = true) :
    isBlank (.char c) = false ∧ c ≠ ']' := by
  have hne (d : Char) (hd : Decimal.isDigit d = false) : c ≠ d := by
    rintro rfl
    rw [h] at hd
    cases hd
  refine ⟨?_, hne _ rfl⟩
  simp [isBlank, hne ' ' rfl, hne '\n' rfl, hne '\r' rfl, hne '\t' rfl]

/-- No value begins with a blank or a closing bracket. -/
theorem exists_compactChars_eq_cons (value : Json) : ∃ c chars,
    compactChars value = c :: chars ∧ isBlank (.char c) = false ∧ c ≠ ']' := by
  have hdigits {digits more : List Char} (hne : digits ≠ [])
      (h : ∀ c ∈ digits, Decimal.isDigit c = true) :
      ∃ c chars, digits ++ more = c :: chars ∧ isBlank (.char c) = false ∧ c ≠ ']' := by
    obtain ⟨c, rest, rfl⟩ := List.exists_cons_of_ne_nil hne
    exact ⟨c, rest ++ more, rfl, isBlank_of_isDigit (h c List.mem_cons_self)⟩
  match value with
  | .null => exact ⟨_, _, rfl, by decide⟩
  | .bool true => exact ⟨_, _, rfl, by decide⟩
  | .bool false => exact ⟨_, _, rfl, by decide⟩
  | .string value => exact ⟨_, _, by rw [compactChars, quote], by decide⟩
  | .array [] => exact ⟨_, _, rfl, by decide⟩
  | .array (_ :: _) => exact ⟨_, _, by rw [compactChars], by decide⟩
  | .object [] => exact ⟨_, _, rfl, by decide⟩
  | .object ((_, _) :: _) => exact ⟨_, _, by rw [compactChars], by decide⟩
  | .number (.natural n) =>
      have := @hdigits _ [] (Decimal.print_ne_nil n) fun _ => Decimal.isDigit_of_mem_print
      rwa [List.append_nil] at this
  | .number (.negative n) => exact ⟨_, _, by rw [compactChars, numberText], by decide⟩
  | .number (.double x) =>
      obtain ⟨layout, hvalid, hlayout⟩ := x.exists_layout
      rw [compactChars, numberText, hlayout, Binary64.signText]
      split
      · exact ⟨_, _, rfl, by decide⟩
      · rw [List.nil_append]
        exact hdigits hvalid.integer.1 hvalid.integer.2

/-! ### Values -/

/-- Whether a value is read back wherever it may stand. The reader goes through at most three levels
of its own for a character. -/
def ReadsBackWithin (levels : Nat) (value : Json) : Prop :=
  ∀ fuel nesting rest, nesting + levels ≤ nestingLimit →
    3 * (compactChars value).length ≤ fuel → Delimited rest →
      readValue fuel nesting (symbols (compactChars value) ++ rest) = (.ofJson value, some rest)

theorem readWord_append (value : Node) (letters : List Char) (rest : List Symbol) :
    readWord value letters (symbols letters ++ rest) = (value, some rest) := by
  induction letters with
  | nil => rfl
  | cons c letters ih =>
      rw [symbols_cons, List.cons_append, readWord, if_pos rfl, ih]

theorem readsBackWithin_number {levels : Nat} {value : JsonNumber} (h : value.Legible) :
    ReadsBackWithin levels (.number value) := by
  intro fuel nesting rest _ hfuel hrest
  obtain ⟨c, chars, hchars, -, -⟩ := exists_compactChars_eq_cons (.number value)
  rw [hchars, List.length_cons] at hfuel
  obtain ⟨fuel, rfl⟩ : ∃ f, fuel = f + 1 := ⟨fuel - 1, by omega⟩
  cases value with
  | natural n =>
      obtain ⟨d, digits, hdigits⟩ := List.exists_cons_of_ne_nil (Decimal.print_ne_nil n)
      have hd := Decimal.isDigit_of_mem_print (hdigits ▸ List.mem_cons_self : d ∈ Decimal.print n)
      have hread := readNumber_print false n hrest
      rw [numberOf?_print h] at hread
      rw [compactChars, numberText]
      rw [hdigits] at hread ⊢
      rw [symbols_cons, List.cons_append, readValue_digit hd]
      exact hread
  | negative n =>
      have hread := readNumber_print true n hrest
      rw [numberOf?_print_negative h.1 h.2] at hread
      rw [compactChars, numberText, symbols_cons, List.cons_append, readValue]
      exact hread
  | double x => exact Binary64.ReadsBack.readValue h fuel nesting hrest

theorem readsBackWithin_string (levels : Nat) (value : String) :
    ReadsBackWithin levels (.string value) := by
  intro fuel nesting rest _ hfuel hrest
  obtain ⟨c, chars, hchars, -, -⟩ := exists_compactChars_eq_cons (.string value)
  rw [hchars, List.length_cons] at hfuel
  obtain ⟨fuel, rfl⟩ : ∃ f, fuel = f + 1 := ⟨fuel - 1, by omega⟩
  rw [compactChars, quote, symbols_cons, symbols_append, List.cons_append, List.append_assoc,
    readValue, skipBlanks_cons rfl]
  simp only [symbols_cons, symbols_nil, List.cons_append, List.nil_append, readString_quote]
  rfl

/-- Items are read back up to the closing bracket. -/
theorem readItem_items {levels : Nat} {items : List Json} {item : Json}
    (h : ∀ value ∈ item :: items, ReadsBackWithin levels value) (fuel : Nat) {nesting : Nat}
    (hnesting : nesting + levels ≤ nestingLimit)
    (hfuel : 3 * ((compactChars item).length + (compactItems items).length) ≤ fuel)
    (rest : List Symbol) :
    readItem fuel nesting (symbols (compactChars item ++ compactItems items) ++ rest) =
      ((Node.ofItems (item :: items), .closed), some rest) := by
  -- the character after each item pays for the turn that reads the item
  induction items generalizing item fuel with
  | nil =>
      simp only [compactItems, List.length_singleton] at hfuel
      obtain ⟨fuel, rfl⟩ : ∃ f, fuel = f + 1 := ⟨fuel - 1, by omega⟩
      have hread := h item List.mem_cons_self fuel nesting (.char ']' :: rest) hnesting (by omega)
        (.bracket rest)
      rw [compactItems, symbols_append, List.append_assoc, symbols_cons, symbols_nil,
        List.singleton_append, readItem, hread]
      rfl
  | cons next items ih =>
      simp only [compactItems, List.length_cons, List.length_append] at hfuel
      obtain ⟨fuel, rfl⟩ : ∃ f, fuel = f + 1 := ⟨fuel - 1, by omega⟩
      have hread := h item List.mem_cons_self fuel nesting
        (.char ',' :: (symbols (compactChars next ++ compactItems items) ++ rest)) hnesting
        (by omega) (.comma _)
      have hrest := ih (fun value hvalue => h value (List.mem_cons_of_mem _ hvalue)) fuel (by omega)
      rw [compactItems, symbols_append, List.append_assoc, symbols_cons, List.cons_append, readItem,
        hread]
      obtain ⟨c, chars, hchars, hblank, hne⟩ := exists_compactChars_eq_cons next
      rw [hchars, List.cons_append, symbols_cons, List.cons_append] at hrest ⊢
      simp only [skipBlanks_cons (show isBlank (.char ',') = false from rfl),
        skipBlanks_cons hblank]
      split
      · rename_i hnil
        cases hnil
      · rename_i hbracket
        exact absurd (Symbol.char.inj (List.cons.inj hbracket).1) hne
      · rw [hrest]
        rfl

/-- Entries are read back up to the closing brace. -/
theorem readEntry_entries {levels : Nat} {entries : List (String × Json)} {key : String}
    {value : Json} (h : ∀ entry ∈ (key, value) :: entries, ReadsBackWithin levels entry.2)
    (fuel : Nat) {nesting : Nat} (hnesting : nesting + levels ≤ nestingLimit)
    (hfuel : 3 * ((quote key).length + (compactChars value).length
      + (compactEntries entries).length) ≤ fuel) (rest : List Symbol) :
    readEntry fuel nesting (symbols (key.toList.flatMap escapeChar) ++ .char '"' :: .char ':' ::
        (symbols (compactChars value ++ compactEntries entries) ++ rest)) =
      ((Node.ofEntries ((key, value) :: entries), .closed), some rest) := by
  induction entries generalizing key value fuel with
  | nil =>
      simp only [compactEntries, quote, List.length_cons, List.length_append] at hfuel
      obtain ⟨fuel, rfl⟩ : ∃ f, fuel = f + 2 := ⟨fuel - 2, by omega⟩
      have hread := h (key, value) List.mem_cons_self fuel nesting (.char '}' :: rest) hnesting
        (by dsimp only; omega) (.brace rest)
      rw [compactEntries, symbols_append, List.append_assoc, symbols_cons, symbols_nil,
        List.singleton_append, readEntry, readString_quote]
      simp only [readAfterColon, skipBlanks_cons (show isBlank (.char ':') = false from rfl), hread]
      rfl
  | cons next entries ih =>
      obtain ⟨nextKey, nextValue⟩ := next
      simp only [compactEntries, quote, List.length_cons, List.length_append] at hfuel
      obtain ⟨fuel, rfl⟩ : ∃ f, fuel = f + 2 := ⟨fuel - 2, by omega⟩
      have hrest := ih (fun entry hentry => h entry (List.mem_cons_of_mem _ hentry)) (fuel + 1) (by
          simp only [quote, List.length_cons, List.length_append]
          omega)
      have hread := h (key, value) List.mem_cons_self fuel nesting
        (.char ',' :: (symbols (quote nextKey ++ ':' :: (compactChars nextValue
          ++ compactEntries entries)) ++ rest)) hnesting (by dsimp only; omega) (.comma _)
      rw [compactEntries, symbols_append, List.append_assoc, symbols_cons, List.cons_append,
        readEntry, readString_quote]
      simp only [readAfterColon, skipBlanks_cons (show isBlank (.char ':') = false from rfl), hread]
      simp only [skipBlanks_cons (show isBlank (.char ',') = false from rfl), quote,
        List.cons_append, symbols_cons, symbols_append, List.append_assoc, List.nil_append,
        skipBlanks_cons (show isBlank (.char '"') = false from rfl)]
      simp only [symbols_append, List.append_assoc] at hrest
      rw [hrest]
      rfl

/-- The items of a list are read back. -/
theorem readItems_array {levels : Nat} {items : List Json}
    (h : ∀ item ∈ items, ReadsBackWithin levels item) (fuel nesting : Nat)
    (hnesting : nesting + levels ≤ nestingLimit)
    (hfuel : 3 * (compactChars (.array items)).length ≤ fuel + 1) (rest : List Symbol) :
    readItems fuel nesting (symbols (compactChars (.array items)).tail ++ rest) =
      ((Node.ofItems items, .closed), some rest) := by
  cases items with
  | nil =>
      simp only [compactChars, List.length_cons, List.length_nil] at hfuel
      obtain ⟨fuel, rfl⟩ : ∃ f, fuel = f + 1 := ⟨fuel - 1, by omega⟩
      rw [compactChars, readItems]
      rfl
  | cons item items =>
      simp only [compactChars, List.length_cons, List.length_append] at hfuel
      obtain ⟨fuel, rfl⟩ : ∃ f, fuel = f + 1 := ⟨fuel - 1, by omega⟩
      have hread := readItem_items h fuel hnesting (by omega) rest
      obtain ⟨c, chars, hchars, hblank, hne⟩ := exists_compactChars_eq_cons item
      rw [compactChars, List.tail_cons]
      rw [hchars, List.cons_append, symbols_cons, List.cons_append] at hread ⊢
      rw [readItems, skipBlanks_cons hblank]
      split
      · rename_i hnil
        cases hnil
      · rename_i hbracket
        exact absurd (Symbol.char.inj (List.cons.inj hbracket).1) hne
      · exact hread

/-- The entries of an object are read back. -/
theorem readEntries_object {levels : Nat} {entries : List (String × Json)}
    (h : ∀ entry ∈ entries, ReadsBackWithin levels entry.2) (fuel nesting : Nat)
    (hnesting : nesting + levels ≤ nestingLimit)
    (hfuel : 3 * (compactChars (.object entries)).length ≤ fuel + 1) (rest : List Symbol) :
    readEntries fuel nesting (symbols (compactChars (.object entries)).tail ++ rest) =
      ((Node.ofEntries entries, .closed), some rest) := by
  cases entries with
  | nil =>
      simp only [compactChars, List.length_cons, List.length_nil] at hfuel
      obtain ⟨fuel, rfl⟩ : ∃ f, fuel = f + 1 := ⟨fuel - 1, by omega⟩
      rw [compactChars, readEntries]
      rfl
  | cons entry entries =>
      obtain ⟨key, value⟩ := entry
      simp only [compactChars, List.length_cons, List.length_append] at hfuel
      obtain ⟨fuel, rfl⟩ : ∃ f, fuel = f + 1 := ⟨fuel - 1, by omega⟩
      have hread := readEntry_entries h fuel hnesting (by omega) rest
      rw [compactChars, List.tail_cons, readEntries]
      simp only [quote, List.cons_append, symbols_cons, symbols_append, List.append_assoc,
        List.nil_append, skipBlanks_cons (show isBlank (.char '"') = false from rfl)] at hread ⊢
      exact hread

/-- Every legible value is read back. -/
theorem Legible.readsBackWithin {levels : Nat} {value : Json} (h : value.Legible levels) :
    ReadsBackWithin levels value := by
  induction h with
  | null levels =>
      intro fuel nesting rest _ hfuel _
      obtain ⟨fuel, rfl⟩ : ∃ f, fuel = f + 1 := ⟨fuel - 1, by simp [compactChars] at hfuel; omega⟩
      rw [compactChars, readValue]
      exact readWord_append .null ['u', 'l', 'l'] rest
  | bool levels value =>
      intro fuel nesting rest _ hfuel _
      cases value with
      | true =>
          obtain ⟨fuel, rfl⟩ : ∃ f, fuel = f + 1 :=
            ⟨fuel - 1, by simp [compactChars] at hfuel; omega⟩
          rw [compactChars, readValue]
          exact readWord_append (.bool true) ['r', 'u', 'e'] rest
      | false =>
          obtain ⟨fuel, rfl⟩ : ∃ f, fuel = f + 1 :=
            ⟨fuel - 1, by simp [compactChars] at hfuel; omega⟩
          rw [compactChars, readValue]
          exact readWord_append (.bool false) ['a', 'l', 's', 'e'] rest
  | number levels h => exact readsBackWithin_number h
  | string levels value => exact readsBackWithin_string levels value
  | @array levels items h ih =>
      intro fuel nesting rest hnesting hfuel _
      have hchars : compactChars (.array items) = '[' :: (compactChars (.array items)).tail := by
        cases items <;> rw [compactChars, List.tail_cons]
      have hlength := congrArg List.length hchars
      rw [List.length_cons] at hlength
      obtain ⟨fuel, rfl⟩ : ∃ f, fuel = f + 1 := ⟨fuel - 1, by omega⟩
      have hitems := readItems_array ih fuel (nesting + 1) (by omega) hfuel rest
      have hlive : nesting < nestingLimit := by omega
      rw [hchars, symbols_cons, List.cons_append, readValue, skipBlanks_cons rfl]
      simp only [hitems, atNesting, if_pos hlive]
      rfl
  | @object levels entries h ih =>
      intro fuel nesting rest hnesting hfuel _
      have hchars : compactChars (.object entries) =
          '{' :: (compactChars (.object entries)).tail := by
        cases entries <;> rw [compactChars, List.tail_cons]
      have hlength := congrArg List.length hchars
      rw [List.length_cons] at hlength
      obtain ⟨fuel, rfl⟩ : ∃ f, fuel = f + 1 := ⟨fuel - 1, by omega⟩
      have hentries := readEntries_object ih fuel (nesting + 1) (by omega) hfuel rest
      have hlive : nesting < nestingLimit := by omega
      rw [hchars, symbols_cons, List.cons_append, readValue, skipBlanks_cons rfl]
      simp only [hentries, atNesting, if_pos hlive]
      rfl

/-- **A value that is written is read back**, if it is legible. -/
theorem readText_compact {value : Json} {levels : Nat} (h : value.Legible levels)
    (hlevels : levels < nestingLimit) : readText value.compact = ⟨.ofJson value, false⟩ := by
  have hread := h.readsBackWithin (3 * (symbols (compactChars value)).length + 3) 1 [] (by omega)
    (by rw [length_symbols]; omega) .nil
  rw [List.append_nil] at hread
  rw [readText, Utf8.ofText, compact, String.toList_ofList, ← symbols, readSymbols, hread]
  rfl

theorem readBytes_compact {value : Json} {levels : Nat} (h : value.Legible levels)
    (hlevels : levels < nestingLimit) :
    readBytes value.compact.toUTF8.data.toList = ⟨.ofJson value, false⟩ := by
  rw [readBytes, Utf8.decode_toUTF8]
  exact readText_compact h hlevels

end Json

/-- What a decoder makes of JSON it makes of the text of the JSON. -/
theorem Decoder.Reads.ofText {α : Type} {decode : Decoder α} {json : Json} {a : α}
    (h : Reads decode json a) {levels : Nat} (hlegible : json.Legible levels)
    (hlevels : levels < Json.nestingLimit) : decode.ofText json.compact = .ok a := by
  rw [Decoder.ofText, Json.readText_compact hlegible hlevels, source, h .text]
  rfl

end Questionnaire
