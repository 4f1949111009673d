import BcosGateway.Lib.Transition
import Mathlib.Logic.Function.Iterate
import Mathlib.Order.Basic

/-! Copies of a store that numbers its changes, where a change may be visible before it is
counted. -/

namespace Versioned

variable {C S : Type*}

/-- A store with the number of the changes it has counted. It is settled unless a change is visible
    that was not counted yet. -/
structure Store (C : Type*) where
  content : C
  changes : Nat
  settled : Prop

def Store.Step (before after : Store C) : Prop :=
  after.changes = before.changes + 1 ∨
    (after.changes = before.changes ∧
      (after.settled → before.settled ∧ after.content = before.content))

/-- A copy with the stamp of a change. If no change was counted since, a settled store has the
    content of the copy. -/
def Store.Dated (store : Store C) (stamp : Nat → S) (mark : S) (copy : C) : Prop :=
  ∃ change ≤ store.changes, mark = stamp change ∧
    (change = store.changes → store.settled → copy = store.content)

variable {store before after : Store C} {stamp : Nat → S} {mark : S} {copy : C}

theorem Store.dated_content (store : Store C) (stamp : Nat → S) :
    store.Dated stamp (stamp store.changes) store.content :=
  ⟨store.changes, Nat.le_refl _, rfl, fun _ _ => rfl⟩

theorem Store.Dated.step (dated : before.Dated stamp mark copy) (step : before.Step after) :
    after.Dated stamp mark copy := by
  obtain ⟨change, bound, same, copied⟩ := dated
  rcases step with counted | ⟨uncounted, kept⟩
  · exact ⟨change, by omega, same, fun last => by omega⟩
  · refine ⟨change, by omega, same, fun last settled => ?_⟩
    obtain ⟨settledBefore, content⟩ := kept settled
    rw [content]
    exact copied (last.trans uncounted) settledBefore

theorem Store.Dated.current (dated : store.Dated stamp mark copy)
    (distinct : ∀ change ≤ store.changes, stamp change = stamp store.changes → change = store.changes)
    (last : mark = stamp store.changes) (settled : store.settled) : copy = store.content := by
  obtain ⟨change, bound, same, copied⟩ := dated
  exact copied (distinct change bound (same.symm.trans last)) settled

/-! A machine whose content changes only when its stamp moves on. -/

section Stamps

variable {σ ε : Type*} (step : σ → ε → Option σ) (counted : ε → Bool) (tick : S → S)
  (stamp : σ → S) (content : σ → C)

def Stamps : Prop := ∀ state event next, step state event = some next →
  (counted event ∧ stamp next = tick (stamp state)) ∨
    (stamp next = stamp state ∧ content next = content state)

variable {step counted tick stamp content}

theorem Stamps.run (stamps : Stamps step counted tick stamp content) {first last : σ}
    {events : List ε} (ran : Transition.run step first events = some last) :
    ∃ changes ≤ events.countP counted, stamp last = tick^[changes] (stamp first) ∧
      (changes = 0 → content last = content first) := by
  induction events generalizing first with
  | nil =>
    cases ran
    exact ⟨0, Nat.le_refl _, rfl, fun _ => rfl⟩
  | cons event events ih =>
    obtain ⟨next, taken, rest⟩ := (Transition.run_cons step).mp ran
    obtain ⟨changes, bound, ticked, unchanged⟩ := ih rest
    rcases stamps first event next taken with ⟨counts, moved⟩ | ⟨kept, same⟩
    · refine ⟨changes + 1, ?_, ?_, fun none => by omega⟩
      · rw [List.countP_cons_of_pos counts]
        omega
      · rw [ticked, moved, Function.iterate_succ_apply]
    · refine ⟨changes, ?_, ?_, fun none => ?_⟩
      · rw [List.countP_cons]
        omega
      · rw [ticked, kept]
      · rw [unchanged none, same]

/-- Two states with the same stamp have the same content, as long as the stamps do not come round
    again. -/
theorem Stamps.content_eq (stamps : Stamps step counted tick stamp content) {first last : σ}
    {events : List ε} (ran : Transition.run step first events = some last)
    (apart : ∀ changes ≤ events.countP counted, tick^[changes] (stamp first) = stamp first →
      changes = 0)
    (same : stamp last = stamp first) : content last = content first := by
  obtain ⟨changes, bound, ticked, unchanged⟩ := stamps.run ran
  exact unchanged (apart changes bound (ticked.symm.trans same))

end Stamps

end Versioned
