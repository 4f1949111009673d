import Mathlib.Algebra.GroupWithZero.Nat
import Mathlib.Data.Option.Basic
import Mathlib.Logic.Basic

/-! Runs of a machine that takes one event after another. -/

namespace Transition

variable {σ ε : Type*} (step : σ → ε → Option σ)

def run : σ → List ε → Option σ
  | state, [] => some state
  | state, event :: events => (step state event).bind fun next => run next events

theorem run_cons {state last : σ} {event : ε} {events : List ε} :
    run step state (event :: events) = some last ↔
      ∃ next, step state event = some next ∧ run step next events = some last :=
  Option.bind_eq_some_iff

theorem run_append {state last : σ} {events more : List ε} :
    run step state (events ++ more) = some last ↔
      ∃ middle, run step state events = some middle ∧ run step middle more = some last := by
  induction events generalizing state with
  | nil => simp [run]
  | cons event events ih =>
    rw [List.cons_append, run_cons]
    constructor
    · rintro ⟨next, taken, rest⟩
      obtain ⟨middle, first, second⟩ := ih.mp rest
      exact ⟨middle, (run_cons step).mpr ⟨next, taken, first⟩, second⟩
    · rintro ⟨middle, first, second⟩
      obtain ⟨next, taken, rest⟩ := (run_cons step).mp first
      exact ⟨next, taken, ih.mpr ⟨middle, rest, second⟩⟩

theorem run_concat {state middle last : σ} {events : List ε} {event : ε}
    (ran : run step state events = some middle) (taken : step middle event = some last) :
    run step state (events ++ [event]) = some last :=
  (run_append step).mpr ⟨middle, ran, (run_cons step).mpr ⟨last, taken, rfl⟩⟩

def Meets (condition : σ → ε → Prop) : σ → List ε → Prop
  | _, [] => True
  | state, event :: events => condition state event ∧
    match step state event with
    | none => True
    | some next => Meets condition next events

instance Meets.decidable (condition : σ → ε → Prop) [∀ state event, Decidable (condition state event)] :
    ∀ state events, Decidable (Meets step condition state events)
  | _, [] => inferInstanceAs (Decidable True)
  | state, event :: events =>
    match taken : step state event with
    | none => decidable_of_iff (condition state event) (by simp [Meets, taken])
    | some next =>
      have := Meets.decidable condition next events
      decidable_of_iff (condition state event ∧ Meets step condition next events)
        (by simp [Meets, taken])

theorem Meets.cons {condition : σ → ε → Prop} {state next : σ} {event : ε} {events : List ε}
    (met : condition state event) (taken : step state event = some next)
    (rest : Meets step condition next events) : Meets step condition state (event :: events) := by
  unfold Meets
  rw [taken]
  exact ⟨met, rest⟩

theorem Meets.append {condition : σ → ε → Prop} {state middle : σ} {events more : List ε}
    (met : Meets step condition state events) (ran : run step state events = some middle)
    (rest : Meets step condition middle more) : Meets step condition state (events ++ more) := by
  induction events generalizing state with
  | nil =>
    cases ran
    exact rest
  | cons event events ih =>
    obtain ⟨next, taken, others⟩ := (run_cons step).mp ran
    unfold Meets at met
    rw [taken] at met
    exact .cons step met.1 taken (ih met.2 others)

theorem Meets.weaken {condition weaker : σ → ε → Prop}
    (weakens : ∀ state event, condition state event → weaker state event) {state : σ}
    {events : List ε} (met : Meets step condition state events) :
    Meets step weaker state events := by
  induction events generalizing state with
  | nil => trivial
  | cons event events ih =>
    unfold Meets at met ⊢
    refine ⟨weakens state event met.1, ?_⟩
    cases taken : step state event with
    | none => trivial
    | some next =>
      rw [taken] at met
      exact ih met.2

section Invariants

variable {state last : σ} {events : List ε}

theorem invariant_of_meets_of_history {condition : σ → ε → Prop} {inv : List ε → σ → Prop}
    (keeps : ∀ past state event next, inv past state → condition state event →
      step state event = some next → inv (past ++ [event]) next)
    {past : List ε} (start : inv past state) (meets : Meets step condition state events)
    (ran : run step state events = some last) : inv (past ++ events) last := by
  induction events generalizing past state with
  | nil =>
    cases ran
    rw [List.append_nil]
    exact start
  | cons event events ih =>
    obtain ⟨next, taken, rest⟩ := (run_cons step).mp ran
    unfold Meets at meets
    obtain ⟨met, others⟩ := meets
    rw [taken] at others
    rw [List.append_cons]
    exact ih (keeps past state event next start met taken) others rest

/-- What every step that meets the condition keeps, a run of such steps keeps. -/
theorem invariant_of_meets {condition : σ → ε → Prop} {inv : σ → Prop}
    (keeps : ∀ state event next, inv state → condition state event →
      step state event = some next → inv next)
    (start : inv state) (meets : Meets step condition state events)
    (ran : run step state events = some last) : inv last :=
  @invariant_of_meets_of_history _ _ step _ _ _ condition (fun _ => inv)
    (fun _ state event next => keeps state event next) [] start meets ran

theorem meets_of_forall {condition : σ → ε → Prop} (always : ∀ state event, condition state event)
    (state : σ) (events : List ε) : Meets step condition state events := by
  induction events generalizing state with
  | nil => trivial
  | cons event events ih =>
    refine ⟨always state event, ?_⟩
    split
    · trivial
    · exact ih _

theorem invariant_of_history {inv : List ε → σ → Prop}
    (keeps : ∀ past state event next, inv past state → step state event = some next →
      inv (past ++ [event]) next)
    {past : List ε} (start : inv past state) (ran : run step state events = some last) :
    inv (past ++ events) last :=
  invariant_of_meets_of_history step
    (fun past state event next held _ => keeps past state event next held) start
    (@meets_of_forall _ _ step (fun _ _ => True) (fun _ _ => trivial) state events) ran

theorem invariant {inv : σ → Prop}
    (keeps : ∀ state event next, inv state → step state event = some next → inv next)
    (start : inv state) (ran : run step state events = some last) : inv last :=
  @invariant_of_history _ _ step _ _ _ (fun _ => inv)
    (fun _ state event next => keeps state event next) [] start ran

end Invariants

/-- Where some events lower a potential and the others raise it by what they are allowed, there are
    no more of the former than the potential had room for. -/
theorem countP_le_potential {state last : σ} {events : List ε} {lowers : ε → Bool}
    {potential : σ → Nat} {allowance : ε → Nat}
    (moves : ∀ state event next, step state event = some next →
      (if lowers event then 1 else 0) + potential next ≤ potential state + allowance event)
    (ran : run step state events = some last) :
    events.countP lowers + potential last ≤ potential state + (events.map allowance).sum := by
  induction events generalizing state with
  | nil =>
    cases ran
    simp
  | cons event events ih =>
    obtain ⟨next, taken, rest⟩ := (run_cons step).mp ran
    have first := moves state event next taken
    have others := ih rest
    rw [List.countP_cons, List.map_cons, List.sum_cons]
    omega

/-! The states that a run passes through. -/

def Passes (first : σ) (events : List ε) (state : σ) : Prop :=
  ∃ before after, events = before ++ after ∧ run step first before = some state

section Passes

variable {step} {first state last : σ} {events : List ε}

theorem Passes.of_run (ran : run step first events = some last) : Passes step first events last :=
  ⟨events, [], (List.append_nil events).symm, ran⟩

theorem Passes.append (passes : Passes step first events state) (more : List ε) :
    Passes step first (events ++ more) state := by
  obtain ⟨before, after, rfl, ran⟩ := passes
  exact ⟨before, after ++ more, List.append_assoc before after more, ran⟩

/-- From there the run takes some of its events. -/
theorem Passes.rest (passes : Passes step first events state)
    (ran : run step first events = some last) :
    ∃ after, after.Sublist events ∧ run step state after = some last := by
  obtain ⟨before, after, rfl, passed⟩ := passes
  obtain ⟨middle, reached, rest⟩ := (run_append step).mp ran
  rw [passed] at reached
  cases reached
  exact ⟨after, List.sublist_append_right before after, rest⟩

theorem passes_cons {event : ε} {next : σ} (taken : step first event = some next) :
    Passes step first (event :: events) state ↔ state = first ∨ Passes step next events state := by
  constructor
  · rintro ⟨before, after, split, ran⟩
    cases before with
    | nil =>
      cases ran
      exact .inl rfl
    | cons head before =>
      cases split
      obtain ⟨middle, reached, rest⟩ := (run_cons step).mp ran
      rw [taken] at reached
      cases reached
      exact .inr ⟨before, after, rfl, rest⟩
  · rintro (rfl | ⟨before, after, rfl, ran⟩)
    · exact ⟨[], event :: events, rfl, rfl⟩
    · exact ⟨event :: before, after, rfl, (run_cons step).mpr ⟨next, taken, ran⟩⟩

/-- Where the condition decides whether a step keeps a property, a run keeps it if and only if its
    steps meet the condition. -/
theorem passes_iff_meets {condition : σ → ε → Prop} {inv prop : σ → Prop}
    (keeps : ∀ state event next, inv state → step state event = some next → inv next)
    (decides : ∀ state event next, inv state → prop state → step state event = some next →
      (prop next ↔ condition state event))
    (start : inv first) (holds : prop first) (ran : run step first events = some last) :
    (∀ state, Passes step first events state → prop state) ↔ Meets step condition first events := by
  induction events generalizing first with
  | nil =>
    refine ⟨fun _ => trivial, fun _ state passes => ?_⟩
    obtain ⟨before, after, split, passed⟩ := passes
    obtain ⟨rfl, _⟩ := List.append_eq_nil_iff.mp split.symm
    cases passed
    exact holds
  | cons event events ih =>
    obtain ⟨next, taken, rest⟩ := (run_cons step).mp ran
    have decided := decides first event next start holds taken
    have later := fun held => ih (keeps first event next start taken) held rest
    simp only [passes_cons taken, Meets, taken]
    constructor
    · intro always
      have held : prop next := always next (.inr ⟨[], events, rfl, rfl⟩)
      exact ⟨decided.mp held, (later held).mp fun state passes => always state (.inr passes)⟩
    · rintro ⟨met, others⟩ state (rfl | passes)
      · exact holds
      · exact (later (decided.mpr met)).mpr others state passes

/-- A property of every state passed may be strengthened step by step. -/
theorem Passes.strengthen {prop strong : σ → Prop} (start : strong first)
    (keeps : ∀ state event next, strong state → step state event = some next → prop next →
      strong next)
    (always : ∀ state, Passes step first events state → prop state)
    (passes : Passes step first events state) : strong state := by
  induction events generalizing first with
  | nil =>
    obtain ⟨before, after, split, passed⟩ := passes
    obtain ⟨rfl, _⟩ := List.append_eq_nil_iff.mp split.symm
    cases passed
    exact start
  | cons event events ih =>
    cases taken : step first event with
    | none =>
      obtain ⟨before, after, split, passed⟩ := passes
      cases before with
      | nil =>
        cases passed
        exact start
      | cons head before =>
        cases split
        obtain ⟨next, reached, _⟩ := (run_cons step).mp passed
        rw [taken] at reached
        cases reached
    | some next =>
      rcases (passes_cons taken).mp passes with rfl | rest
      · exact start
      · have held : prop next := always next ((passes_cons taken).mpr (.inr ⟨[], events, rfl, rfl⟩))
        exact ih (keeps first event next start taken held)
          (fun state passes => always state ((passes_cons taken).mpr (.inr passes))) rest

/-- A property that only steps against the condition destroy, and no step restores, holds at the end
    of a run if and only if all steps meet the condition. -/
theorem last_iff_meets {condition : σ → ε → Prop} {inv prop : σ → Prop}
    (keeps : ∀ state event next, inv state → step state event = some next → inv next)
    (decides : ∀ state event next, inv state → step state event = some next →
      (prop next ↔ prop state ∧ condition state event))
    (start : inv first) (ran : run step first events = some last) :
    prop last ↔ prop first ∧ Meets step condition first events := by
  induction events generalizing first with
  | nil =>
    cases ran
    exact (and_iff_left trivial).symm
  | cons event events ih =>
    obtain ⟨next, taken, rest⟩ := (run_cons step).mp ran
    rw [ih (keeps first event next start taken) rest, decides first event next start taken, and_assoc]
    simp only [Meets, taken]

end Passes

end Transition
