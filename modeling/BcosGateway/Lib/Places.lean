import Mathlib.Algebra.GroupWithZero.Nat
import Mathlib.Data.List.Perm.Basic

/-! Lists whose elements are named by their places. -/

namespace Places

variable {α : Type*} {list : List α} {place : Nat} {before : α}

theorem perm_eraseIdx (found : list[place]? = some before) :
    (before :: list.eraseIdx place).Perm list := by
  obtain ⟨inside, rfl⟩ := List.getElem?_eq_some_iff.mp found
  exact List.getElem_cons_eraseIdx_perm inside

theorem perm_set (found : list[place]? = some before) (after : α) :
    (list.set place after).Perm (after :: list.eraseIdx place) := by
  obtain ⟨inside, _⟩ := List.getElem?_eq_some_iff.mp found
  exact List.set_perm_cons_eraseIdx inside after

theorem sum_eraseIdx (found : list[place]? = some before) (amount : α → Nat) :
    (list.map amount).sum = amount before + ((list.eraseIdx place).map amount).sum :=
  ((perm_eraseIdx found).map amount).sum_nat.symm.trans List.sum_cons

theorem sum_set (found : list[place]? = some before) (after : α) (amount : α → Nat) :
    ((list.set place after).map amount).sum + amount before = (list.map amount).sum + amount after := by
  have moved : ((list.set place after).map amount).sum =
      amount after + ((list.eraseIdx place).map amount).sum :=
    ((perm_set found after).map amount).sum_nat.trans List.sum_cons
  have rest := sum_eraseIdx found amount
  omega

/-- The parts of a list amount to no more than the list. -/
theorem sum_filterMap_le {β : Type*} {part : α → Option β} {amount : α → Nat}
    {partAmount : β → Nat} (each : ∀ whole found, part whole = some found →
      partAmount found ≤ amount whole) (list : List α) :
    ((list.filterMap part).map partAmount).sum ≤ (list.map amount).sum := by
  induction list with
  | nil => exact Nat.le_refl _
  | cons whole list ih =>
    cases found : part whole with
    | none =>
      rw [List.filterMap_cons_none found, List.map_cons, List.sum_cons]
      omega
    | some this =>
      have least := each whole this found
      rw [List.filterMap_cons_some found, List.map_cons, List.map_cons, List.sum_cons,
        List.sum_cons]
      omega

theorem mem_eraseIdx_or {other : α} (found : list[place]? = some before) (member : other ∈ list) :
    other = before ∨ other ∈ list.eraseIdx place :=
  List.mem_cons.mp ((perm_eraseIdx found).mem_iff.mpr member)

theorem mem_set_or {other : α} (found : list[place]? = some before) (after : α)
    (member : other ∈ list) : other = before ∨ other ∈ list.set place after := by
  rcases mem_eraseIdx_or found member with this | rest
  · exact .inl this
  · exact .inr ((perm_set found after).mem_iff.mpr (List.mem_cons_of_mem _ rest))

/-- Distinct elements, one from each suffix of a list, are the list. -/
theorem choices_eq {choices : List α} (size : choices.length = list.length)
    (distinct : choices.Nodup)
    (source : ∀ place choice, choices[place]? = some choice → choice ∈ list.drop place) :
    choices = list := by
  induction list generalizing choices with
  | nil => exact List.length_eq_zero_iff.mp size
  | cons first rest ih =>
    cases choices with
    | nil => cases size
    | cons choice others =>
      obtain ⟨absent, apart⟩ := List.nodup_cons.mp distinct
      have same : others = rest := by
        apply ih (Nat.succ.inj size) apart
        intro place other found
        exact source (place + 1) other found
      -- the rest is taken, so that only the first is left
      rw [same] at absent ⊢
      rcases List.mem_cons.mp (source 0 choice rfl) with this | later
      · rw [this]
      · exact absurd later absent

section Count

variable [DecidableEq α] (counted : α)

theorem count_eraseIdx (found : list[place]? = some before) :
    list.count counted =
      (list.eraseIdx place).count counted + if before = counted then 1 else 0 := by
  rw [← (perm_eraseIdx found).count_eq, List.count_cons]
  simp only [beq_iff_eq]

theorem count_set (found : list[place]? = some before) (after : α) :
    (list.set place after).count counted =
      (list.eraseIdx place).count counted + if after = counted then 1 else 0 := by
  rw [(perm_set found after).count_eq, List.count_cons]
  simp only [beq_iff_eq]

end Count

end Places
