import Questionnaire.Json.Decode
import Questionnaire.Proofs.Outcome
import Questionnaire.Proofs.Table

/-! # What decoders give

Two things are said of a decoder: that it reads a value back from its JSON (`Decoder.Reads`), and
that everything it gives has some property (`Decoder.Yields`). Either follows for a combinator from
what it is applied to. A record is read back if its fields, taken one after the other, lead from the
blank record to it (`Decoder.Fills`). -/

namespace Questionnaire.Decoder

variable {α β σ : Type}

/-! ### Reading back -/

/-- A decoder makes a value of its JSON, wherever that comes from. -/
def Reads (decode : Decoder α) (json : Json) (a : α) : Prop :=
  ∀ origin, decode origin (.ofJson json) = .ok a

theorem reads_string (value : String) : Reads string (.string value) value := fun _ => rfl

theorem reads_bool (value : Bool) : Reads bool (.bool value) value := fun _ => rfl

theorem reads_nat {limit n : Nat} (h : n < limit) (type : String) :
    Reads (nat limit type) (.ofNat n) n := fun _ => if_pos h

theorem reads_double (x : Binary64) : Reads double (.number (.double x)) x := fun _ => rfl

theorem Reads.map {decode : Decoder α} {json : Json} {a : α} (h : Reads decode json a)
    (f : α → β) : Reads (decode.map f) json (f a) := by
  intro origin
  rw [Decoder.map, h origin]
  rfl

theorem Reads.optional {decode : Decoder α} {json : Json} {a : α} (h : Reads decode json a)
    (hnull : json ≠ .null) : Reads (optional decode) json (some a) := by
  intro origin
  have hread := h origin
  cases json with
  | null => exact absurd rfl hnull
  | bool | number | string | array | object =>
      show (decode origin (.ofJson _)).map some = _
      rw [hread]
      rfl

theorem ofItems_eq_map (items : List Json) : Node.ofItems items = items.map .ofJson := by
  induction items with
  | nil => rfl
  | cons item items ih => rw [Node.ofItems, ih, List.map_cons]

theorem reads_list {decode : Decoder α} {values : List α} {toJson : α → Json}
    (h : ∀ a ∈ values, Reads decode (toJson a) a) :
    Reads (list decode) (.array (values.map toJson)) values := by
  intro origin
  have hitems : (Node.ofItems (values.map toJson)).mapM (decode origin) = .ok values := by
    rw [mapM_eq_ok_iff, ofItems_eq_map, List.map_map]
    refine List.forall₂_map_left_iff.2 (List.forall₂_same.2 fun a ha => h a ha origin)
  show (do
    let values ← (Node.ofItems (values.map toJson)).mapM (decode origin)
    Ending.closed.checkRead
    return values) = _
  rw [hitems]
  rfl

section table

variable {κ υ : Type} {key : String → Except DecodeError κ} {decode : Decoder υ}
  {name : κ → String} {toJson : υ → Json}

theorem entries_ofEntries {items : List (κ × υ)}
    (hkey : ∀ item ∈ items, key (name item.1) = .ok item.1)
    (hvalue : ∀ item ∈ items, Reads decode (toJson item.2) item.2) (origin : Origin) :
    entries key decode origin
      (Node.ofEntries (items.map fun item => (name item.1, toJson item.2))) = .ok items := by
  induction items with
  | nil => rfl
  | cons item items ih =>
      obtain ⟨hname, hnames⟩ := List.forall_mem_cons.1 hkey
      obtain ⟨hread, hreads⟩ := List.forall_mem_cons.1 hvalue
      rw [List.map_cons, Node.ofEntries, entries, hname, hread origin, ih hnames hreads]
      rfl

theorem reads_table [Ord κ] [Std.TransOrd κ] [Std.LawfulEqOrd κ] {table : Table κ υ}
    (name : κ → String) (hkey : ∀ item ∈ table.toList, key (name item.1) = .ok item.1)
    (hvalue : ∀ item ∈ table.toList, Reads decode (toJson item.2) item.2) :
    Reads (Decoder.table key decode)
      (.object (table.toList.map fun item => (name item.1, toJson item.2))) table := by
  intro origin
  rw [Node.ofJson, Decoder.table, entries_ofEntries hkey hvalue origin]
  exact congrArg Except.ok table.ofList_toList

end table

theorem reads_variant {variants : List (String × α)} {name : String} {a : α}
    (h : variants.lookup name = some a) : Reads (variant variants) (.string name) a := by
  intro origin
  have hnamed : variantNamed variants name = .ok a := by rw [variantNamed, h]
  cases origin <;> exact hnamed

mutual

/-- The tree of a value has no faults. -/
theorem readFault?_ofJson : ∀ json : Json, (Node.ofJson json).readFault? = none
  | .null => rfl
  | .bool _ => rfl
  | .number _ => rfl
  | .string _ => rfl
  | .array items => by
      rw [Node.ofJson, Node.readFault?, readItems?_ofItems items]
      rfl
  | .object entries => by
      rw [Node.ofJson, Node.readFault?, readEntries?_ofEntries entries]
      rfl

theorem readItems?_ofItems : ∀ items : List Json, Node.readItems? (Node.ofItems items) = none
  | [] => rfl
  | item :: rest => by
      rw [Node.ofItems, Node.readItems?, readFault?_ofJson item, readItems?_ofItems rest]
      rfl

theorem readEntries?_ofEntries : ∀ entries : List (String × Json),
    Node.readEntries? (Node.ofEntries entries) = none
  | [] => rfl
  | (_, value) :: rest => by
      rw [Node.ofEntries, Node.readEntries?, readFault?_ofJson value, readEntries?_ofEntries rest]
      rfl

end

/-- The first shape is read back. -/
theorem Reads.anyOf {shape : Decoder α} {json : Json} {a : α} (h : Reads shape json a)
    (type : String) (shapes : List (Decoder α)) : Reads (anyOf type (shape :: shapes)) json a := by
  intro origin
  rw [Decoder.anyOf, readFault?_ofJson, firstOk, h .value]
  rfl

/-- A shape that does not fit is passed over. -/
theorem Reads.anyOf_cons {type : String} {shapes : List (Decoder α)} {json : Json} {a : α}
    (h : Reads (Decoder.anyOf type shapes) json a) {shape : Decoder α} {error : DecodeError}
    (hshape : shape .value (.ofJson json) = .error error) :
    Reads (Decoder.anyOf type (shape :: shapes)) json a := by
  intro origin
  rw [← h origin, Decoder.anyOf, Decoder.anyOf, firstOk, hshape]

theorem Reads.asObject {decode : Decoder α} {entries : List (String × Json)} {a : α}
    (h : Reads decode (.object entries) a) : Reads (asObject decode) (.object entries) a :=
  fun origin => h origin

/-! ### Records -/

/-- The fields lead from one record to another, the values of some of them being given. -/
inductive Fills : List (Field σ) → List (Option Json) → σ → σ → Prop
  | nil (record : σ) : Fills [] [] record record
  | absent {f : Field σ} {fields : List (Field σ)} {values : List (Option Json)} {first last : σ} :
    Fills fields values first last → Fills (f :: fields) (none :: values) first last
  | present {f : Field σ} {fields : List (Field σ)} {values : List (Option Json)} {first last : σ}
    {json : Json} {change : σ → σ} : Reads f.decode json change →
    Fills fields values (change first) last → Fills (f :: fields) (some json :: values) first last

theorem Fills.given {decode : Decoder α} {name : String} {set : α → σ → σ} {json : Json} {a : α}
    {fields : List (Field σ)} {values : List (Option Json)} {first last : σ}
    (h : Reads decode json a) (hrest : Fills fields values (set a first) last) :
    Fills (field name decode set :: fields) (some json :: values) first last :=
  .present (h.map set) hrest

/-- A field that is left out of the JSON if it is absent. -/
theorem Fills.optional {decode : Decoder α} {name : String} {set : Option α → σ → σ}
    {toJson : α → Json} {a : Option α} {fields : List (Field σ)} {values : List (Option Json)}
    {first last : σ} (h : ∀ x, a = some x → Reads decode (toJson x) x ∧ toJson x ≠ .null)
    (hblank : set none first = first) (hrest : Fills fields values (set a first) last) :
    Fills (field name (optional decode) set :: fields) (a.map toJson :: values) first last := by
  cases a with
  | none =>
      rw [hblank] at hrest
      exact .absent hrest
  | some x =>
      obtain ⟨hread, hnull⟩ := h x rfl
      exact .given (hread.optional hnull) hrest

/-- A list that is left out of the JSON if it is empty. -/
theorem Fills.list {decode : Decoder α} {name : String} {set : List α → σ → σ}
    {toJson : α → Json} {xs : List α} {fields : List (Field σ)} {values : List (Option Json)}
    {first last : σ} (h : ∀ x ∈ xs, Reads decode (toJson x) x)
    (hblank : set [] first = first) (hrest : Fills fields values (set xs first) last) :
    Fills (field name (list decode) set :: fields)
      ((if xs.isEmpty then none else some (.array (xs.map toJson))) :: values) first last := by
  cases xs with
  | nil =>
      rw [hblank] at hrest
      exact .absent hrest
  | cons x xs => exact .given (reads_list h) hrest

/-- The entries of the JSON of a record. -/
def entriesOf (fields : List (Field σ)) (values : List (Option Json)) : List (String × Json) :=
  ((fields.map (·.name)).zip values).filterMap fun (name, value) => value.map (name, ·)

theorem name_mem_entriesOf {fields : List (Field σ)} {values : List (Option Json)} {f : Field σ}
    {json : Json} (h : (f, some json) ∈ fields.zip values) :
    f.name ∈ (entriesOf fields values).map (·.1) := by
  refine List.mem_map.2 ⟨(f.name, json), List.mem_filterMap.2 ⟨(f.name, some json), ?_, rfl⟩, rfl⟩
  rw [List.zip_map_left]
  exact List.mem_map.2 ⟨(f, some json), h, rfl⟩

/-- No field answers to the name of a later one. -/
def Apart (fields : List (Field σ)) : Prop := fields.Pairwise fun f g => f.answersTo g.name = false

instance (fields : List (Field σ)) : Decidable (Apart fields) :=
  inferInstanceAs (Decidable (fields.Pairwise fun f g => f.answersTo g.name = false))

theorem answersTo_name (f : Field σ) : f.answersTo f.name = true := by
  simp [Field.answersTo]

theorem Apart.find? {fields : List (Field σ)} (h : Apart fields) {f : Field σ} (hf : f ∈ fields) :
    fields.find? (·.answersTo f.name) = some f := by
  induction fields with
  | nil => cases hf
  | cons g fields ih =>
      obtain ⟨hfirst, hrest⟩ := List.pairwise_cons.1 h
      rcases List.mem_cons.1 hf with rfl | hf
      · exact List.find?_cons_of_pos (answersTo_name f)
      · rw [List.find?_cons_of_neg (by rw [hfirst f hf]; exact Bool.false_ne_true)]
        exact ih hrest hf

theorem Apart.nodup {fields : List (Field σ)} (h : Apart fields) :
    (fields.map (·.name)).Nodup := by
  refine List.pairwise_map.2 (List.Pairwise.imp (fun hapart hname => ?_) h)
  rw [← hname, answersTo_name] at hapart
  cases hapart

/-- The entries of a record's JSON lead through its fields. -/
theorem Fills.fillNamed {fields : List (Field σ)} {values : List (Option Json)} {first last : σ}
    (h : Fills fields values first last) {all : List (Field σ)}
    (hfind : ∀ f ∈ fields, all.find? (·.answersTo f.name) = some f)
    (hnames : (fields.map (·.name)).Nodup) {seen : List String}
    (hseen : ∀ f ∈ fields, f.name ∉ seen) (origin : Origin) :
    ∃ seen', Decoder.fillNamed all origin seen first
        (Node.ofEntries (entriesOf fields values)) = .ok (seen', last) ∧
      seen ⊆ seen' ∧ ∀ entry ∈ entriesOf fields values, entry.1 ∈ seen' := by
  -- induction on the fields that are still to come, none of which has been seen
  induction h generalizing seen with
  | nil record => exact ⟨seen, rfl, List.Subset.refl _, fun entry hentry => by cases hentry⟩
  | absent h ih =>
      exact ih (fun g hg => hfind g (List.mem_cons_of_mem _ hg)) (List.nodup_cons.1 hnames).2
        fun g hg => hseen g (List.mem_cons_of_mem _ hg)
  | @present f fields values first last json change hread h ih =>
      obtain ⟨hnew, hrest⟩ := List.nodup_cons.1 hnames
      obtain ⟨seen', hfill, hsub, hmem⟩ := ih (fun g hg => hfind g (List.mem_cons_of_mem _ hg))
        hrest (fun g hg (hgseen : g.name ∈ f.name :: seen) => by
          rcases List.mem_cons.1 hgseen with hname | hgseen
          · exact hnew (List.mem_map.2 ⟨g, hg, hname⟩)
          · exact hseen g (List.mem_cons_of_mem _ hg) hgseen)
      have hnotseen : seen.contains f.name = false := by
        rw [← Bool.not_eq_true, List.contains_iff_mem]
        exact hseen f List.mem_cons_self
      have hentries : entriesOf (f :: fields) (some json :: values) =
          (f.name, json) :: entriesOf fields values := rfl
      refine ⟨seen', ?_, fun name hname => hsub (List.mem_cons_of_mem _ hname), ?_⟩
      · rw [hentries, Node.ofEntries, Decoder.fillNamed, hfind f List.mem_cons_self]
        simp only [hnotseen, Bool.false_eq_true, if_false, hread origin]
        exact hfill
      · rw [hentries, List.forall_mem_cons]
        exact ⟨hsub List.mem_cons_self, hmem⟩

/-- A record is read back if its fields lead to it and every required one is given. -/
theorem Fills.reads_record {fields : List (Field σ)} {values : List (Option Json)}
    {blank record : σ} (h : Fills fields values blank record) (hnames : Apart fields)
    (hrequired : ∀ f ∈ fields, f.required = true →
      f.name ∈ (entriesOf fields values).map (·.1)) (name : String) :
    Reads (Decoder.record name fields blank) (.object (entriesOf fields values)) record := by
  intro origin
  obtain ⟨seen, hfill, -, hmem⟩ := h.fillNamed (fun f hf => hnames.find? hf) hnames.nodup
    (fun f hf => List.not_mem_nil) origin
  have hnone : fields.find? (fun f => f.required && !seen.contains f.name) = none := by
    rw [List.find?_eq_none]
    intro f hf hmissing
    obtain ⟨hreq, hnotseen⟩ := Bool.and_eq_true_iff.1 hmissing
    obtain ⟨entry, hentry, hname⟩ := List.mem_map.1 (hrequired f hf hreq)
    have hseen := hmem entry hentry
    rw [hname] at hseen
    rw [List.contains_iff_mem.2 hseen] at hnotseen
    cases hnotseen
  rw [Node.ofJson, Decoder.record]
  simp only [hfill, bind, Except.bind, Ending.checkRead, hnone]
  rfl

/-! ### What is given -/

/-- Everything that a decoder gives has a property. -/
def Yields (decode : Decoder α) (holds : α → Prop) : Prop :=
  ∀ origin node a, decode origin node = .ok a → holds a

variable {decode : Decoder α} {holds : α → Prop}

theorem yields_true (decode : Decoder α) : Yields decode fun _ => True :=
  fun _ _ _ _ => trivial

theorem mismatch_ne_ok {node : Node} {expected : String} {a : α} :
    node.mismatch expected ≠ (.ok a : Except DecodeError α) := by
  intro h
  obtain ⟨_, -, h⟩ := bind_eq_ok_iff.1 h
  cases h

theorem Yields.map {f : α → β} {other : β → Prop} (h : Yields decode holds)
    (himp : ∀ a, holds a → other (f a)) : Yields (decode.map f) other := by
  intro origin node b hb
  obtain ⟨a, hdecode, rfl⟩ := map_eq_ok_iff.1 hb
  exact himp a (h origin node a hdecode)

theorem yields_nat (limit : Nat) (type : String) : Yields (nat limit type) (· < limit) := by
  intro origin node n hn
  unfold nat at hn
  split at hn
  · split at hn
    · rename_i hlt
      obtain rfl := Except.ok.inj hn
      exact hlt
    · cases hn
  · cases hn
  · exact absurd hn mismatch_ne_ok

theorem Yields.optional (h : Yields decode holds) :
    Yields (optional decode) fun a => ∀ x, a = some x → holds x := by
  intro origin node a ha
  unfold Decoder.optional at ha
  split at ha
  · obtain rfl := Except.ok.inj ha
    exact fun x hx => nomatch hx
  · obtain ⟨found, hdecode, rfl⟩ := map_eq_ok_iff.1 ha
    rintro x hx
    obtain rfl := Option.some.inj hx
    exact h origin node found hdecode

theorem Yields.list (h : Yields decode holds) :
    Yields (list decode) fun values => ∀ a ∈ values, holds a := by
  intro origin node values hvalues
  unfold Decoder.list at hvalues
  split at hvalues
  · rename_i items ending
    obtain ⟨found, hfound, hrest⟩ := bind_eq_ok_iff.1 hvalues
    obtain ⟨-, -, hpure⟩ := bind_eq_ok_iff.1 hrest
    obtain rfl := pure_eq_ok_iff.1 hpure
    exact forall_mem_of_forall₂ (mapM_eq_ok_iff.1 hfound) (fun _ _ => trivial)
      fun node a hread _ => h origin node a hread
  · cases hvalues
  · exact absurd hvalues mismatch_ne_ok

section table

variable {κ υ : Type} {key : String → Except DecodeError κ} {decode : Decoder υ} {holds : υ → Prop}

theorem holds_of_entries (h : Yields decode holds) {origin : Origin} {items : List (Name × Node)}
    {values : List (κ × υ)} (hvalues : entries key decode origin items = .ok values) :
    ∀ value ∈ values, holds value.2 := by
  induction items generalizing values with
  | nil =>
      obtain rfl := Except.ok.inj hvalues
      exact nofun
  | cons item items ih =>
      obtain ⟨name, node⟩ := item
      cases name with
      | faulty read pass => cases hvalues
      | text name =>
          rw [entries] at hvalues
          obtain ⟨k, -, hvalues⟩ := bind_eq_ok_iff.1 hvalues
          obtain ⟨value, hvalue, hvalues⟩ := bind_eq_ok_iff.1 hvalues
          obtain ⟨rest, hrest, hpure⟩ := bind_eq_ok_iff.1 hvalues
          obtain rfl := pure_eq_ok_iff.1 hpure
          exact List.forall_mem_cons.2 ⟨h _ _ _ hvalue, ih hrest⟩

theorem Yields.table [Ord κ] [Std.TransOrd κ] [Std.LawfulEqOrd κ] (h : Yields decode holds) :
    Yields (Decoder.table key decode) (Table.Holds holds) := by
  intro origin node table htable
  unfold Decoder.table at htable
  split at htable
  · obtain ⟨values, hvalues, hrest⟩ := bind_eq_ok_iff.1 htable
    obtain ⟨-, -, hpure⟩ := bind_eq_ok_iff.1 hrest
    obtain rfl := pure_eq_ok_iff.1 hpure
    exact Table.holds_ofList (holds_of_entries h hvalues)
  · cases htable
  · exact absurd htable mismatch_ne_ok

end table

section record

variable {holds : σ → Prop}

/-- Reading a field keeps a property of records. -/
def Keeps (holds : σ → Prop) (f : Field σ) : Prop :=
  Yields f.decode fun change => ∀ record, holds record → holds (change record)

theorem keeps_field {name : String} {set : α → σ → σ} {given : α → Prop}
    (h : Yields decode given) (hset : ∀ a record, given a → holds record → holds (set a record)) :
    Keeps holds (field name decode set) :=
  h.map fun a ha record => hset a record ha

theorem holds_of_fillNamed {fields : List (Field σ)} (hfields : ∀ f ∈ fields, Keeps holds f)
    {origin : Origin} {entries : List (Name × Node)} {seen seen' : List String}
    {first last : σ} (hfirst : holds first)
    (h : Decoder.fillNamed fields origin seen first entries = .ok (seen', last)) : holds last := by
  induction entries generalizing seen first with
  | nil =>
      obtain ⟨-, rfl⟩ := Prod.mk.inj (Except.ok.inj h)
      exact hfirst
  | cons entry entries ih =>
      obtain ⟨name, node⟩ := entry
      cases name with
      | faulty read pass => cases h
      | text key =>
          rw [Decoder.fillNamed] at h
          split at h
          · obtain ⟨-, -, h⟩ := bind_eq_ok_iff.1 h
            exact ih hfirst h
          · rename_i f hfind
            split at h
            · cases h
            · obtain ⟨change, hchange, h⟩ := bind_eq_ok_iff.1 h
              have hkeep := hfields f (List.mem_of_find?_eq_some hfind) _ _ _ hchange
              exact ih (hkeep first hfirst) h

theorem holds_of_fillPositional {fields : List (Field σ)} (hfields : ∀ f ∈ fields, Keeps holds f)
    {type : String} {origin : Origin} {length position : Nat} {ending : Ending}
    {nodes : List Node} {first last : σ} (hfirst : holds first)
    (h : fillPositional type origin length ending position first fields nodes = .ok last) :
    holds last := by
  induction fields generalizing nodes position first with
  | nil =>
      cases nodes with
      | nil =>
          obtain ⟨-, -, h⟩ := bind_eq_ok_iff.1 h
          obtain rfl := pure_eq_ok_iff.1 h
          exact hfirst
      | cons node nodes => cases h
  | cons f fields ih =>
      have hrest : ∀ g ∈ fields, Keeps holds g := fun g hg => hfields g (List.mem_cons_of_mem _ hg)
      cases nodes with
      | nil =>
          rw [fillPositional] at h
          obtain ⟨-, -, h⟩ := bind_eq_ok_iff.1 h
          split at h
          · cases h
          · exact ih hrest hfirst h
      | cons node nodes =>
          rw [fillPositional] at h
          obtain ⟨change, hchange, h⟩ := bind_eq_ok_iff.1 h
          exact ih hrest (hfields f List.mem_cons_self _ _ _ hchange first hfirst) h

/-- What the blank record has and every field keeps, every record has. -/
theorem yields_record {name : String} {fields : List (Field σ)} {blank : σ} (hblank : holds blank)
    (hfields : ∀ f ∈ fields, Keeps holds f) : Yields (Decoder.record name fields blank) holds := by
  intro origin node record hrecord
  unfold Decoder.record at hrecord
  split at hrecord
  · obtain ⟨⟨seen, found⟩, hfill, hrecord⟩ := bind_eq_ok_iff.1 hrecord
    obtain ⟨-, -, hrecord⟩ := bind_eq_ok_iff.1 hrecord
    split at hrecord
    · cases hrecord
    · obtain rfl := pure_eq_ok_iff.1 hrecord
      exact holds_of_fillNamed hfields hblank hfill
  · exact holds_of_fillPositional hfields hblank hrecord
  · cases hrecord
  · cases hrecord
  · exact absurd hrecord mismatch_ne_ok

end record

theorem Yields.source (h : Yields decode holds) {source : Json.Source} {a : α}
    (ha : decode.source source = .ok a) : holds a := by
  obtain ⟨found, hfound, ha⟩ := bind_eq_ok_iff.1 ha
  split at ha
  · cases ha
  · obtain rfl := pure_eq_ok_iff.1 ha
    exact h _ _ _ hfound

end Questionnaire.Decoder
