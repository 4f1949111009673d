import Mathlib.Data.List.Basic

/-! A stable priority queue: of the elements that no other outranks, the one pushed first is the
next. The list has the elements in the order in which they were pushed. -/

namespace StableQueue

variable {α : Type*} (less : α → α → Bool)

def pop : List α → Option (α × List α)
  | [] => none
  | first :: rest =>
    match pop rest with
    | none => some (first, [])
    | some (top, others) =>
      if less first top then some (top, first :: others) else some (first, rest)

theorem pop_nil_iff (queue : List α) : pop less queue = none ↔ queue = [] := by
  cases queue with
  | nil => simp [pop]
  | cons first rest =>
    unfold pop
    cases pop less rest with
    | none => simp
    | some popped =>
      simp only
      split
      · simp
      · simp

theorem pop_mem {queue others : List α} {top : α} (popped : pop less queue = some (top, others)) :
    top ∈ queue := by
  induction queue generalizing top others with
  | nil => cases popped
  | cons first rest ih =>
    unfold pop at popped
    cases deeper : pop less rest with
    | none =>
      rw [deeper] at popped
      cases popped
      exact List.mem_cons_self
    | some below =>
      rw [deeper] at popped
      simp only at popped
      split at popped
      · cases popped
        exact List.mem_cons_of_mem _ (ih deeper)
      · cases popped
        exact List.mem_cons_self

/-- Elements that compare as equal leave in the order in which they came. -/
theorem pop_cons (first : α) (rest : List α) (equal : ∀ other ∈ rest, less first other = false) :
    pop less (first :: rest) = some (first, rest) := by
  unfold pop
  cases popped : pop less rest with
  | none => rw [(pop_nil_iff less rest).mp popped]
  | some found =>
    obtain ⟨top, others⟩ := found
    simp [equal top (pop_mem less popped)]

end StableQueue
