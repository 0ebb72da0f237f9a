import Mathlib.Data.List.Forall2

/-! # Computations that may fail

A computation that succeeds has succeeded in each of its steps: one after the other
(`bind_eq_ok_iff`), for every entry of a list (`mapM_eq_ok_iff`), with its position
(`mapM_zipIdx_eq_ok_iff`), and along a row of steps (`foldlM_induction`). -/

namespace Questionnaire

variable {ε δ α β γ σ : Type}

theorem bind_eq_ok_iff {first : Except ε α} {rest : α → Except ε β} {result : β} :
    (first >>= rest) = .ok result ↔ ∃ a, first = .ok a ∧ rest a = .ok result := by
  cases first with
  | error error => simp [bind, Except.bind]
  | ok a => simp [bind, Except.bind]

theorem exists_bind_pure_eq_ok {first : Except ε α} {f : α → β} (h : ∃ a, first = .ok a) :
    ∃ b, (first >>= fun a => pure (f a)) = .ok b := by
  obtain ⟨a, ha⟩ := h
  exact ⟨f a, bind_eq_ok_iff.2 ⟨a, ha, rfl⟩⟩

theorem map_eq_ok_iff {f : α → β} {first : Except ε α} {result : β} :
    first.map f = .ok result ↔ ∃ a, first = .ok a ∧ f a = result := by
  cases first with
  | error error => simp [Except.map]
  | ok a => simp [Except.map]

theorem mapError_eq_ok_iff {f : ε → δ} {first : Except ε α} {result : α} :
    first.mapError f = .ok result ↔ first = .ok result := by
  cases first with
  | error error => simp [Except.mapError]
  | ok a => simp [Except.mapError]

theorem pure_eq_ok_iff {a b : α} : (pure a : Except ε α) = .ok b ↔ a = b :=
  ⟨fun h => Except.ok.inj h, fun h => congrArg _ h⟩

/-- The entries of a list are all computed, in their order. -/
theorem mapM_eq_ok_iff {step : α → Except ε β} {entries : List α} {results : List β} :
    entries.mapM step = .ok results ↔
      List.Forall₂ (fun entry result => step entry = .ok result) entries results := by
  induction entries generalizing results with
  | nil => rw [List.mapM_nil, pure_eq_ok_iff, List.forall₂_nil_left_iff, eq_comm]
  | cons entry entries ih =>
      simp only [List.mapM_cons, bind_eq_ok_iff, pure_eq_ok_iff, ih, List.forall₂_cons_left_iff]
      constructor
      · rintro ⟨result, hresult, rest, hrest, rfl⟩
        exact ⟨result, rest, hresult, hrest, rfl⟩
      · rintro ⟨result, rest, hresult, hrest, rfl⟩
        exact ⟨result, hresult, rest, hrest, rfl⟩

/-- The entries of a list can all be computed if each of them can at its position. -/
theorem exists_mapM_zipIdx_eq_ok {entries : List α} {step : α × Nat → Except ε β}
    (h : ∀ n entry, entries[n]? = some entry → ∃ result, step (entry, n) = .ok result) :
    ∃ results, entries.zipIdx.mapM step = .ok results := by
  have hstep : ∀ entry ∈ entries.zipIdx, ∃ result, step entry = .ok result :=
    fun (entry, n) hentry => h n entry (List.mem_zipIdx_iff_getElem?.1 hentry)
  generalize entries.zipIdx = numbered at hstep
  induction numbered with
  | nil => exact ⟨[], rfl⟩
  | cons entry numbered ih =>
      obtain ⟨⟨result, hresult⟩, hrest⟩ := List.forall_mem_cons.1 hstep
      obtain ⟨results, hresults⟩ := ih hrest
      exact ⟨result :: results, mapM_eq_ok_iff.2 (.cons hresult (mapM_eq_ok_iff.1 hresults))⟩

/-- The entries of a list are all computed, each with its position. -/
theorem mapM_zipIdx_eq_ok_iff {step : α × Nat → Except ε β} {entries : List α} {results : List β} :
    entries.zipIdx.mapM step = .ok results ↔ entries.length = results.length ∧
      ∀ i (hi : i < entries.length) (hi' : i < results.length),
        step (entries[i], i) = .ok results[i] := by
  simp only [mapM_eq_ok_iff, List.forall₂_iff_get, List.length_zipIdx, List.get_eq_getElem,
    List.getElem_zipIdx, Nat.zero_add]

/-- What every step ensures of what it is given and of what it makes holds of a whole list. -/
theorem forall₂_of_mapM_zipIdx {step : α × Nat → Except ε β} {entries : List α} {results : List β}
    (h : entries.zipIdx.mapM step = .ok results) {ensured : α → β → Prop}
    (hstep : ∀ i entry result, step (entry, i) = .ok result → ensured entry result) :
    List.Forall₂ ensured entries results := by
  obtain ⟨hlength, hsteps⟩ := mapM_zipIdx_eq_ok_iff.1 h
  exact List.forall₂_iff_get.2 ⟨hlength, fun i hi hi' => hstep i _ _ (hsteps i hi hi')⟩

/-- What holds on the left of a list of pairs is carried over to its right. -/
theorem forall_mem_of_forall₂ {related : α → β → Prop} {entries : List α} {results : List β}
    (h : List.Forall₂ related entries results) {given : α → Prop} {ensured : β → Prop}
    (hgiven : ∀ entry ∈ entries, given entry)
    (hstep : ∀ entry result, related entry result → given entry → ensured result) :
    ∀ result ∈ results, ensured result := by
  intro result hresult
  obtain ⟨i, hi, rfl⟩ := List.mem_iff_getElem.1 hresult
  have hi' : i < entries.length := h.length_eq ▸ hi
  exact hstep _ _ (h.get hi' hi) (hgiven _ (List.getElem_mem hi'))

/-- What every step ensures of what it makes holds of everything that is made. -/
theorem forall_mem_of_mapM_zipIdx {step : α × Nat → Except ε β} {entries : List α}
    {results : List β} (h : entries.zipIdx.mapM step = .ok results) {ensured : β → Prop}
    (hstep : ∀ i entry result, step (entry, i) = .ok result → ensured result) :
    ∀ result ∈ results, ensured result := by
  have hall : List.Forall₂ (fun _ result => ensured result) entries results :=
    forall₂_of_mapM_zipIdx h hstep
  exact forall_mem_of_forall₂ hall (fun _ _ => trivial) fun _ _ hresult _ => hresult

/-- What is listed for every result is what is listed for the entry that it is computed from, if it
is so in every step. -/
theorem flatMap_zipIdx_of_mapM {step : α × Nat → Except ε β} {entries : List α} {results : List β}
    (h : entries.zipIdx.mapM step = .ok results) {given : α × Nat → List γ}
    {made : β × Nat → List γ}
    (hstep : ∀ i entry result, step (entry, i) = .ok result → made (result, i) = given (entry, i)) :
    results.zipIdx.flatMap made = entries.zipIdx.flatMap given := by
  obtain ⟨hlength, hsteps⟩ := mapM_zipIdx_eq_ok_iff.1 h
  have hmap : results.zipIdx.map made = entries.zipIdx.map given := by
    refine List.ext_getElem (by simp [hlength]) fun i hi hi' => ?_
    simp only [List.length_map, List.length_zipIdx] at hi hi'
    simpa using hstep i _ _ (hsteps i hi' hi)
  rw [List.flatMap_def, List.flatMap_def, hmap]

/-- A list of which every step leaves its entry as it is stays as it is. -/
theorem mapM_zipIdx_self {step : α × Nat → Except ε α} {entries : List α}
    (h : ∀ i (hi : i < entries.length), step (entries[i], i) = .ok entries[i]) :
    entries.zipIdx.mapM step = .ok entries :=
  mapM_zipIdx_eq_ok_iff.2 ⟨rfl, fun i hi _ => h i hi⟩

/-- What every step keeps holds after a whole row of steps. -/
theorem foldlM_induction {step : σ → α → Except ε σ} {kept : σ → Prop} {row : List α}
    (hstep : ∀ state entry next, entry ∈ row → kept state → step state entry = .ok next → kept next)
    {first last : σ} (hfirst : kept first) (hrun : row.foldlM step first = .ok last) :
    kept last := by
  induction row generalizing first with
  | nil =>
      obtain rfl := pure_eq_ok_iff.1 hrun
      exact hfirst
  | cons entry row ih =>
      rw [List.foldlM_cons, bind_eq_ok_iff] at hrun
      obtain ⟨next, hnext, hrun⟩ := hrun
      refine ih (fun state entry next hentry => hstep state entry next ?_) ?_ hrun
      · exact List.mem_cons_of_mem _ hentry
      · exact hstep first entry next List.mem_cons_self hfirst hnext

end Questionnaire
