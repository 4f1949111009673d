import BcosGateway.Lib.Transition

/-! A machine with a wire that only grows. What is on it may be read at any time, in any order and
more than once. -/

namespace UnderWay

variable {σ ε F : Type*} (step : σ → ε → Option σ) (wire : σ → List F) (reads : ε → Option Nat)

structure Wired (inv : σ → Prop) (condition : σ → ε → Prop) : Prop where
  keeps : ∀ state event next, inv state → condition state event → step state event = some next →
    inv next
  within : ∀ state event next, step state event = some next → ∀ place, reads event = some place →
    place < (wire state).length
  grows : ∀ state event next, inv state → condition state event → step state event = some next →
    ∃ more, wire next = wire state ++ more

def Sent (wire : σ → List F) (awaited : F → Prop) (state next : σ) : Prop :=
  ∃ place flight, (wire state).length ≤ place ∧ (wire next)[place]? = some flight ∧ awaited flight

/-- Whoever reads a message that is `awaited` reaches the goal or sends another such message. -/
structure Leads (inv : σ → Prop) (condition : σ → ε → Prop) (awaited : F → Prop)
    (goal : σ → Prop) : Prop extends Wired step wire reads inv condition where
  reached : ∀ state event next, inv state → condition state event → step state event = some next →
    goal state → goal next
  leads : ∀ state event next, inv state → condition state event → step state event = some next →
    ∀ place flight, reads event = some place → (wire state)[place]? = some flight →
      awaited flight → goal next ∨ Sent wire awaited state next

variable {step wire reads} {inv : σ → Prop} {condition : σ → ε → Prop} {awaited : F → Prop}
  {goal : σ → Prop} {state next last : σ} {event : ε} {events : List ε}

section Wired

variable (wired : Wired step wire reads inv condition)
include wired

theorem Wired.kept (holds : inv state) (met : condition state event)
    (taken : step state event = some next) {place : Nat} {flight : F}
    (found : (wire state)[place]? = some flight) : (wire next)[place]? = some flight := by
  obtain ⟨more, grown⟩ := wired.grows state event next holds met taken
  rw [grown, List.getElem?_append_left (List.getElem?_eq_some_iff.mp found).1]
  exact found

theorem Wired.longer (holds : inv state) (met : condition state event)
    (taken : step state event = some next) : (wire state).length ≤ (wire next).length := by
  obtain ⟨more, grown⟩ := wired.grows state event next holds met taken
  rw [grown, List.length_append]
  exact Nat.le_add_right _ _

end Wired

def Left (wire : σ → List F) (reads : ε → Option Nat) (awaited : F → Prop) (events : List ε)
    (last : σ) (place : Nat) : Prop :=
  (∀ event ∈ events, reads event ≠ some place) ∧
    ∃ flight, (wire last)[place]? = some flight ∧ awaited flight

theorem Left.cons {place : Nat} (left : Left wire reads awaited events last place)
    (unread : reads event ≠ some place) : Left wire reads awaited (event :: events) last place :=
  ⟨List.forall_mem_cons.mpr ⟨unread, left.1⟩, left.2⟩

section Leads

variable (leads : Leads step wire reads inv condition awaited goal)
include leads

theorem Leads.run (holds : inv state) (meets : Transition.Meets step condition state events)
    (ran : Transition.run step state events = some last) (start : goal state) : goal last := by
  have both := @Transition.invariant_of_meets _ _ step _ _ _ condition
    (fun state => inv state ∧ goal state) (fun state event next held met taken =>
      ⟨leads.keeps state event next held.1 met taken,
        leads.reached state event next held.1 met taken held.2⟩) ⟨holds, start⟩ meets ran
  exact both.2

/-- From a message that is under way the goal is reached, or a message is left unread: this one, or
    one that was sent since. -/
theorem Leads.pending (holds : inv state)
    (meets : Transition.Meets step condition state events)
    (ran : Transition.run step state events = some last) {place : Nat} {flight : F}
    (found : (wire state)[place]? = some flight) (waits : awaited flight) :
    goal last ∨ ∃ left, (left = place ∨ (wire state).length ≤ left) ∧
      Left wire reads awaited events last left := by
  induction events generalizing state place flight with
  | nil =>
    cases ran
    exact .inr ⟨place, .inl rfl, fun _ none => (by cases none), flight, found, waits⟩
  | cons event events ih =>
    obtain ⟨next, taken, rest⟩ := (Transition.run_cons step).mp ran
    unfold Transition.Meets at meets
    obtain ⟨met, others⟩ := meets
    rw [taken] at others
    have after := leads.keeps state event next holds met taken
    have longer := leads.longer holds met taken
    -- what the event reads was on the wire before it
    have unread (left : Nat) (new : (wire state).length ≤ left) : reads event ≠ some left :=
      fun now => Nat.not_lt.mpr new (leads.within state event next taken left now)
    by_cases this : reads event = some place
    · rcases leads.leads state event next holds met taken place flight this found waits with
        done | ⟨further, _, since, sent, waits⟩
      · exact .inl (leads.run after others rest done)
      · rcases ih after others rest sent waits with done | ⟨left, here, unreadAfter⟩
        · exact .inl done
        · have new : (wire state).length ≤ left := by
            rcases here with rfl | later
            · exact since
            · exact Nat.le_trans longer later
          exact .inr ⟨left, .inr new, unreadAfter.cons (unread left new)⟩
    · rcases ih after others rest (leads.kept holds met taken found) waits with
        done | ⟨left, rfl | later, unreadAfter⟩
      · exact .inl done
      · exact .inr ⟨left, .inl rfl, unreadAfter.cons this⟩
      · exact .inr ⟨left, .inr (Nat.le_trans longer later),
          unreadAfter.cons (unread left (Nat.le_trans longer later))⟩

/-- Once a message was sent, and all that it leads to was read, the goal is reached. -/
theorem Leads.reaches (holds : inv state) (meets : Transition.Meets step condition state events)
    (ran : Transition.run step state events = some last) {beat : ε} (beaten : beat ∈ events)
    (begins : ∀ state next, step state beat = some next → Sent wire awaited state next)
    (handled : ∀ place flight, (wire state).length ≤ place → (wire last)[place]? = some flight →
      awaited flight → ∃ event ∈ events, reads event = some place) : goal last := by
  have reached : goal last ∨ ∃ left, (wire state).length ≤ left ∧
      Left wire reads awaited events last left := by
    clear handled
    induction events generalizing state with
    | nil => cases beaten
    | cons event events ih =>
      obtain ⟨next, taken, rest⟩ := (Transition.run_cons step).mp ran
      unfold Transition.Meets at meets
      obtain ⟨met, others⟩ := meets
      rw [taken] at others
      have after := leads.keeps state event next holds met taken
      have longer := leads.longer holds met taken
      have unread (left : Nat) (new : (wire state).length ≤ left) : reads event ≠ some left :=
        fun now => Nat.not_lt.mpr new (leads.within state event next taken left now)
      have old : goal last ∨ ∃ left, (wire state).length ≤ left ∧
          Left wire reads awaited events last left := by
        rcases List.mem_cons.mp beaten with rfl | later
        · obtain ⟨place, flight, since, sent, waits⟩ := begins state next taken
          rcases leads.pending after others rest sent waits with done | ⟨left, rfl | later, unread⟩
          · exact .inl done
          · exact .inr ⟨_, since, unread⟩
          · exact .inr ⟨left, Nat.le_trans longer later, unread⟩
        · rcases ih after others rest later with done | ⟨left, since, unread⟩
          · exact .inl done
          · exact .inr ⟨left, Nat.le_trans longer since, unread⟩
      rcases old with done | ⟨left, since, unreadAfter⟩
      · exact .inl done
      · exact .inr ⟨left, since, unreadAfter.cons (unread left since)⟩
  rcases reached with done | ⟨left, since, unread, flight, found, waits⟩
  · exact done
  · obtain ⟨event, member, this⟩ := handled left flight since found waits
    exact absurd this (unread event member)

end Leads

/-! What is on the wire can be read to the end if a message leads to less than it is itself. -/

theorem drains {readAt : Nat → ε} {weight : F → Nat} {oldest : Nat}
    (possible : ∀ state place flight, inv state → oldest ≤ place →
      (wire state)[place]? = some flight →
        ∃ next more, condition state (readAt place) ∧ step state (readAt place) = some next ∧
          inv next ∧ wire next = wire state ++ more ∧ (more.map weight).sum < weight flight)
    (holds : inv state) {first : Nat} (since : oldest ≤ first) :
    ∃ events last, Transition.Meets step condition state events ∧
      Transition.run step state events = some last ∧ inv last ∧
      (∀ event ∈ events, ∃ place, event = readAt place) ∧
      ∀ place, first ≤ place → place < (wire last).length → readAt place ∈ events := by
  generalize total : (((wire state).drop first).map weight).sum = left
  induction left using Nat.strongRecOn generalizing state first with
  | _ left ih =>
    by_cases drained : (wire state).length ≤ first
    · exact ⟨[], state, trivial, rfl, holds, fun _ none => (by cases none),
        fun place since before => absurd before (by omega)⟩
    · have inside : first < (wire state).length := by omega
      have found : (wire state)[first]? = some (wire state)[first] :=
        List.getElem?_eq_getElem inside
      obtain ⟨next, more, met, taken, after, grown, less⟩ := possible state first _ holds since found
      have fewer : (((wire next).drop (first + 1)).map weight).sum < left := by
        rw [← total, List.drop_eq_getElem_cons inside, grown,
          List.drop_append_of_le_length (by omega), List.map_append, List.sum_append,
          List.map_cons, List.sum_cons]
        omega
      have later : oldest ≤ first + 1 := by omega
      obtain ⟨events, last, meets, ran, ends, receives, read⟩ := ih _ fewer after later rfl
      refine ⟨readAt first :: events, last, .cons _ met taken meets,
        (Transition.run_cons _).mpr ⟨next, taken, ran⟩, ends, fun event member => ?_,
        fun place since before => ?_⟩
      · rcases List.mem_cons.mp member with rfl | later
        · exact ⟨first, rfl⟩
        · exact receives event later
      · rcases Nat.eq_or_lt_of_le since with rfl | later
        · exact List.mem_cons_self
        · exact List.mem_cons_of_mem _ (read place later before)

end UnderWay
