/-
This file says when a step after a computation that may fail succeeds and when it fails.
-/

import Mathlib.Data.List.Forall2

namespace Vscp

variable {Error First Second : Type}

theorem bind_eq_ok_iff {computation : Except Error First} {step : First → Except Error Second}
    {result : Second} :
    computation.bind step = .ok result ↔
      ∃ value, computation = .ok value ∧ step value = .ok result := by
  cases computation <;> simp [Except.bind]

theorem map_eq_ok_iff {computation : Except Error First} {step : First → Second}
    {result : Second} :
    computation.map step = .ok result ↔ ∃ value, computation = .ok value ∧ step value = result := by
  cases computation <;> simp [Except.map]

theorem bind_eq_error_iff {computation : Except Error First} {step : First → Except Error Second}
    {error : Error} :
    computation.bind step = .error error ↔
      computation = .error error ∨
        ∃ value, computation = .ok value ∧ step value = .error error := by
  cases computation <;> simp [Except.bind]

theorem map_eq_error_iff {computation : Except Error First} {step : First → Second}
    {error : Error} : computation.map step = .error error ↔ computation = .error error := by
  cases computation <;> simp [Except.map]

/-- A computation for each element succeeds as a whole when each of them does. -/
theorem mapM_eq_ok_iff {step : First → Except Error Second} {elements : List First}
    {results : List Second} :
    elements.mapM step = .ok results ↔
      List.Forall₂ (fun element result => step element = .ok result) elements results := by
  induction elements generalizing results with
  | nil => cases results <;> simp [pure, Except.pure]
  | cons element rest ih =>
      rw [List.mapM_cons]
      constructor
      · intro computed
        obtain ⟨result, first, computed⟩ := bind_eq_ok_iff.mp computed
        obtain ⟨later, others, computed⟩ := bind_eq_ok_iff.mp computed
        cases computed
        exact .cons first (ih.mp others)
      · rintro (_ | ⟨first, others⟩)
        exact bind_eq_ok_iff.mpr ⟨_, first, bind_eq_ok_iff.mpr ⟨_, ih.mpr others, rfl⟩⟩

theorem exists_of_mapM_eq_error {step : First → Except Error Second} {elements : List First}
    {error : Error} (failed : elements.mapM step = .error error) :
    ∃ element ∈ elements, step element = .error error := by
  induction elements with
  | nil => cases failed
  | cons element rest ih =>
      rw [List.mapM_cons] at failed
      rcases bind_eq_error_iff.mp failed with first | ⟨result, -, failed⟩
      · exact ⟨element, List.mem_cons_self, first⟩
      · rcases bind_eq_error_iff.mp failed with others | ⟨later, -, last⟩
        · obtain ⟨other, member, failed⟩ := ih others
          exact ⟨other, List.mem_cons_of_mem _ member, failed⟩
        · cases last

end Vscp
