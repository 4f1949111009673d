import Mathlib.Data.List.Infix
import Mathlib.Data.List.Basic

/-! Splitting a list at runs of separators. -/

namespace Split

variable {α : Type*} (isSeparator : α → Bool)

/-- The fields between the separators. Adjacent separators count as one, and a separator at
    either end leaves an empty field there. -/
def split : List α → List (List α)
  | [] => [[]]
  | value :: rest =>
    if isSeparator value then
      if rest.head?.any isSeparator then split rest else [] :: split rest
    else (split rest).modifyHead (value :: ·)

def Free (list : List α) : Prop := ∀ value ∈ list, isSeparator value = false

def Begins (list : List α) : Prop := list.head?.any isSeparator = false

variable {isSeparator}

theorem Free.tail {value : α} {list : List α} (free : Free isSeparator (value :: list)) :
    Free isSeparator list :=
  fun other member => free other (List.mem_cons_of_mem _ member)

theorem Free.begins {list : List α} (free : Free isSeparator list) : Begins isSeparator list := by
  cases list with
  | nil => rfl
  | cons value rest => exact free value List.mem_cons_self

theorem Free.append {front back : List α} (first : Free isSeparator front)
    (second : Free isSeparator back) : Free isSeparator (front ++ back) := by
  intro value member
  rcases List.mem_append.mp member with member | member
  · exact first value member
  · exact second value member

theorem free_beq [BEq α] [LawfulBEq α] {separator : α} {list : List α} :
    Free (· == separator) list ↔ separator ∉ list := by
  constructor
  · intro free member
    simpa using free separator member
  · intro absent value member
    exact beq_false_of_ne fun same => absent (same ▸ member)

theorem begins_beq [BEq α] [LawfulBEq α] {separator : α} {list : List α} :
    Begins (· == separator) list ↔ list.head? ≠ some separator := by
  cases list with
  | nil => simp [Begins]
  | cons value rest => simp [Begins]

theorem split_ne_nil (list : List α) : split isSeparator list ≠ [] := by
  induction list with
  | nil => exact List.cons_ne_nil _ _
  | cons value rest ih =>
    rw [split]
    split
    · split
      · exact ih
      · exact List.cons_ne_nil _ _
    · cases fields : split isSeparator rest with
      | nil => exact absurd fields ih
      | cons field fields => exact List.cons_ne_nil _ _

theorem split_free_append {token : List α} (free : Free isSeparator token) (list : List α) :
    split isSeparator (token ++ list) = (split isSeparator list).modifyHead (token ++ ·) := by
  induction token with
  | nil =>
    cases fields : split isSeparator list with
    | nil => exact absurd fields (split_ne_nil list)
    | cons field fields => simp [fields]
  | cons value token ih =>
    have plain : ¬ isSeparator value = true := by
      rw [free value List.mem_cons_self]
      exact Bool.false_ne_true
    rw [List.cons_append, split, if_neg plain, ih free.tail, List.modifyHead_modifyHead]
    rfl

theorem split_free {token : List α} (free : Free isSeparator token) :
    split isSeparator token = [token] := by
  have whole := split_free_append free []
  rw [List.append_nil] at whole
  rw [whole, split, List.modifyHead_cons, List.append_nil]

theorem split_separators {separators : List α} (nonempty : separators ≠ [])
    (all : ∀ value ∈ separators, isSeparator value = true) {rest : List α}
    (begins : Begins isSeparator rest) :
    split isSeparator (separators ++ rest) = [] :: split isSeparator rest := by
  induction separators with
  | nil => exact absurd rfl nonempty
  | cons value separators ih =>
    rw [List.cons_append, split, if_pos (all value List.mem_cons_self)]
    cases separators with
    | nil =>
      have next : ¬ (([] : List α) ++ rest).head?.any isSeparator = true := by
        rw [List.nil_append, begins]
        exact Bool.false_ne_true
      rw [if_neg next, List.nil_append]
    | cons next separators =>
      have again : ((next :: separators) ++ rest).head?.any isSeparator = true :=
        all next (by simp)
      rw [if_pos again]
      exact ih (List.cons_ne_nil _ _) fun other member => all other (List.mem_cons_of_mem _ member)

/-- A field, the separators behind it, and the rest. -/
theorem split_field {token separators rest : List α} (free : Free isSeparator token)
    (nonempty : separators ≠ []) (all : ∀ value ∈ separators, isSeparator value = true)
    (begins : Begins isSeparator rest) :
    split isSeparator (token ++ (separators ++ rest)) = token :: split isSeparator rest := by
  rw [split_free_append free, split_separators nonempty all begins, List.modifyHead_cons,
    List.append_nil]

theorem split_field_one {token rest : List α} {separator : α} (free : Free isSeparator token)
    (is : isSeparator separator = true) (begins : Begins isSeparator rest) :
    split isSeparator (token ++ separator :: rest) = token :: split isSeparator rest :=
  split_field free (List.cons_ne_nil separator []) (by simpa using is) begins

/-- The first field ends at the first separator. -/
theorem split_head (isSeparator : α → Bool) (list : List α) :
    ∃ fields, split isSeparator list = list.takeWhile (fun value => !isSeparator value) :: fields := by
  induction list with
  | nil => exact ⟨[], rfl⟩
  | cons value rest ih =>
    obtain ⟨fields, same⟩ := ih
    rw [split, List.takeWhile_cons]
    cases separates : isSeparator value with
    | false =>
      refine ⟨fields, ?_⟩
      simp [same]
    | true =>
      cases rest with
      | nil => exact ⟨[[]], rfl⟩
      | cons next rest =>
        cases again : isSeparator next with
        | false => exact ⟨split isSeparator (next :: rest), by simp [again]⟩
        | true =>
          refine ⟨fields, ?_⟩
          have head : (next :: rest).takeWhile (fun value => !isSeparator value) = [] := by
            simp [again]
          rw [head] at same
          simpa [again] using same

/-- Every list is one field, or a field that separators and a rest follow. -/
theorem field_cases (isSeparator : α → Bool) (list : List α) :
    Free isSeparator list ∨
      ∃ token separators rest, list = token ++ (separators ++ rest) ∧ Free isSeparator token ∧
        separators ≠ [] ∧ (∀ value ∈ separators, isSeparator value = true) ∧
        Begins isSeparator rest := by
  induction list with
  | nil => exact .inl nofun
  | cons value list ih =>
    cases separates : isSeparator value with
    | false =>
      rcases ih with free | ⟨token, separators, rest, rfl, free, nonempty, all, begins⟩
      · exact .inl (List.forall_mem_cons.mpr ⟨separates, free⟩)
      · exact .inr ⟨value :: token, separators, rest, rfl,
          List.forall_mem_cons.mpr ⟨separates, free⟩, nonempty, all, begins⟩
    | true =>
      refine .inr ⟨[], ?_⟩
      rcases ih with free | ⟨token, separators, rest, rfl, free, nonempty, all, begins⟩
      · exact ⟨[value], list, rfl, nofun, List.cons_ne_nil _ _, by simpa using separates,
          free.begins⟩
      · cases token with
        | nil =>
          exact ⟨value :: separators, rest, rfl, nofun, List.cons_ne_nil _ _,
            List.forall_mem_cons.mpr ⟨separates, all⟩, begins⟩
        | cons first token =>
          exact ⟨[value], first :: token ++ (separators ++ rest), rfl, nofun,
            List.cons_ne_nil _ _, by simpa using separates, free first List.mem_cons_self⟩

/-- Nonempty fields, each behind one separator. -/
theorem split_flatten {separator : α} (is : isSeparator separator = true)
    {fields : List (List α)} (nonempty : ∀ field ∈ fields, field ≠ [])
    (free : ∀ field ∈ fields, Free isSeparator field) (present : fields ≠ []) :
    split isSeparator (fields.map (separator :: ·)).flatten = [] :: fields := by
  induction fields with
  | nil => exact absurd rfl present
  | cons field fields ih =>
    obtain ⟨own, others⟩ := List.forall_mem_cons.mp free
    obtain ⟨filled, nonempty⟩ := List.forall_mem_cons.mp nonempty
    have begins (rest : List α) : Begins isSeparator (field ++ rest) := by
      cases field with
      | nil => exact absurd rfl filled
      | cons first field => exact own first List.mem_cons_self
    have front : Free isSeparator ([] : List α) := nofun
    rw [List.map_cons, List.flatten_cons, List.cons_append]
    cases fields with
    | nil =>
      have step := split_field_one front is (begins [])
      rw [List.nil_append] at step
      rw [List.map_nil, List.flatten_nil, step, List.append_nil, split_free own]
    | cons next fields =>
      have step := split_field_one front is
        (begins (((next :: fields).map (separator :: ·)).flatten))
      rw [List.nil_append] at step
      rw [step, split_free_append own, ih nonempty others (List.cons_ne_nil _ _),
        List.modifyHead_cons, List.append_nil]

/-- A pattern without the separator is found on one side of it. -/
theorem infix_separated {pattern front back : List α} {separator : α}
    (foreign : separator ∉ pattern) :
    pattern <:+: front ++ separator :: back ↔ pattern <:+: front ∨ pattern <:+: back := by
  constructor
  · rintro ⟨before, after, same⟩
    rw [List.append_assoc] at same
    rcases List.append_eq_append_iff.mp same with ⟨middle, rfl, rest⟩ | ⟨middle, rfl, rest⟩
    · rcases List.append_eq_append_iff.mp rest with ⟨beyond, rfl, _⟩ | ⟨beyond, cut, rest⟩
      · exact .inl ⟨before, beyond, by simp⟩
      · cases beyond with
        | nil =>
          rw [List.append_nil] at cut
          exact .inl ⟨before, [], by simp [cut]⟩
        | cons first beyond =>
          rw [List.cons_append] at rest
          obtain ⟨rfl, _⟩ := List.cons.inj rest
          exact absurd (cut ▸ List.mem_append_right _ List.mem_cons_self) foreign
    · cases middle with
      | nil =>
        rw [List.nil_append] at rest
        cases pattern with
        | nil => exact .inl List.nil_infix
        | cons first pattern =>
          obtain ⟨rfl, _⟩ := List.cons.inj rest
          exact absurd List.mem_cons_self foreign
      | cons first middle =>
        obtain ⟨rfl, rfl⟩ := List.cons.inj rest
        exact .inr ⟨middle, after, by simp⟩
  · rintro (⟨before, after, rfl⟩ | ⟨before, after, rfl⟩)
    · exact ⟨before, after ++ separator :: back, by simp⟩
    · exact ⟨front ++ separator :: before, after, by simp⟩

end Split
