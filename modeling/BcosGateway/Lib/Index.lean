import BcosGateway.Lib.Table

abbrev KeySet (K : Type*) := Table K Unit

/-- A relation between groups, nodes and peers, indexed by group and node. -/
abbrev Index (G N P : Type*) := Table G (Table N (KeySet P))

namespace Table

def isEmpty {K V : Type*} (table : Table K V) : Bool := table.entries.isEmpty

theorem isEmpty_iff {K V : Type*} [DecidableEq K] {table : Table K V} :
    table.isEmpty ↔ ∀ key, table.lookup key = none := by
  constructor
  · intro empty key
    have none : table = ∅ := AList.ext (List.isEmpty_iff.mp empty)
    rw [none, AList.lookup_empty]
  · intro absent
    obtain ⟨entries, distinct⟩ := table
    cases entries with
    | nil => rfl
    | cons entry entries =>
      have found : List.dlookup entry.1 (entry :: entries) = some entry.2 :=
        List.dlookup_cons_eq _ _ _
      exact absurd (absent entry.1) (by
        rw [AList.lookup, found]
        exact Option.some_ne_none _)

def prune {K L V W : Type*} [DecidableEq K] (cut : V → Table L W) (table : Table K V) :
    Table K (Table L W) :=
  Table.filterMap (fun _ value => if isEmpty (cut value) then none else some (cut value)) table

theorem lookup_prune {K L V W : Type*} [DecidableEq K] {cut : V → Table L W} {table : Table K V}
    {key : K} {left : Table L W} :
    (prune cut table).lookup key = some left ↔
      isEmpty left = false ∧ ∃ value, table.lookup key = some value ∧ left = cut value := by
  unfold prune
  rw [Table.lookup_filterMap]
  cases table.lookup key with
  | none => simp
  | some value =>
    simp only [Option.bind_some, Option.some.injEq, exists_eq_left']
    split
    · rename_i empty
      constructor
      · intro none
        cases none
      · rintro ⟨nonempty, rfl⟩
        rw [empty] at nonempty
        cases nonempty
    · rename_i nonempty
      rw [Option.some.injEq]
      constructor
      · rintro rfl
        exact ⟨Bool.eq_false_iff.mpr nonempty, rfl⟩
      · rintro ⟨_, rfl⟩
        rfl

theorem mem_prune {K L V W : Type*} [DecidableEq K] [DecidableEq L] {cut : V → Table L W}
    {table : Table K V} {key : K} {inner : L} :
    inner ∈ ((prune cut table).lookup key).getD ∅ ↔
      inner ∈ ((table.lookup key).map cut).getD ∅ := by
  unfold prune
  rw [Table.lookup_filterMap]
  cases table.lookup key with
  | none => exact Iff.rfl
  | some value =>
    simp only [Option.bind_some, Option.map_some, Option.getD_some]
    split
    · rename_i empty
      have absent := AList.lookup_eq_none.mp (isEmpty_iff.mp empty inner)
      simp [absent]
    · rfl

theorem exists_mem_of_isEmpty {K V : Type*} [DecidableEq K] {table : Table K V}
    (nonempty : isEmpty table = false) : ∃ key, key ∈ table := by
  by_contra none
  rw [not_exists] at none
  have empty : isEmpty table := isEmpty_iff.mpr fun key => AList.lookup_eq_none.mpr (none key)
  rw [empty] at nonempty
  cases nonempty

end Table

namespace Index

set_option linter.unusedSectionVars false

variable {G N P : Type*} [DecidableEq G] [DecidableEq N] [DecidableEq P] (index : Index G N P)

def group (g : G) : Table N (KeySet P) := (index.lookup g).getD ∅
def members (g : G) (n : N) : KeySet P := ((index.group g).lookup n).getD ∅

def Holds (g : G) (n : N) (p : P) : Prop := p ∈ index.members g n

instance (g : G) (n : N) (p : P) : Decidable (index.Holds g n p) :=
  inferInstanceAs (Decidable (_ ∈ _))

def add (g : G) (n : N) (p : P) : Index G N P :=
  index.insert g ((index.group g).insert n ((index.members g n).insert p ()))

def remove (p : P) : Index G N P :=
  Table.prune (Table.prune fun peers : KeySet P => peers.erase p) index

def addAll (p : P) (nodes : Table G (KeySet N)) : Index G N P :=
  nodes.entries.foldl
    (fun index entry => entry.2.keys.foldl (fun index n => index.add entry.1 n p) index) index

structure Pruned : Prop where
  group : ∀ g nodes, index.lookup g = some nodes → ∃ n, n ∈ nodes
  node : ∀ g nodes n peers, index.lookup g = some nodes → nodes.lookup n = some peers →
    ∃ p, p ∈ peers

def Lists (nodes : Table G (KeySet N)) (g : G) (n : N) : Prop := n ∈ (nodes.lookup g).getD ∅

instance (nodes : Table G (KeySet N)) (g : G) (n : N) : Decidable (Lists nodes g n) :=
  inferInstanceAs (Decidable (_ ∈ _))

variable {index}

theorem holds_iff {g : G} {n : N} {p : P} :
    index.Holds g n p ↔
      ∃ nodes peers, index.lookup g = some nodes ∧ nodes.lookup n = some peers ∧ p ∈ peers := by
  unfold Holds members group
  cases index.lookup g with
  | none => simp
  | some nodes =>
    simp only [Option.getD_some, Option.some.injEq, exists_and_left, exists_eq_left']
    cases nodes.lookup n with
    | none => simp
    | some peers => simp

theorem holds_empty (g : G) (n : N) (p : P) : ¬ (∅ : Index G N P).Holds g n p := by
  simp [Holds, members, group]

theorem members_add (g g' : G) (n n' : N) (p : P) :
    (index.add g n p).members g' n' =
      if g' = g ∧ n' = n then (index.members g n).insert p () else index.members g' n' := by
  unfold add members group
  rw [Table.lookup_insert_if]
  by_cases sameGroup : g' = g
  · subst sameGroup
    rw [if_pos rfl, Option.getD_some, Table.lookup_insert_if]
    by_cases sameNode : n' = n
    · subst sameNode
      rw [if_pos rfl, if_pos ⟨rfl, rfl⟩]
      rfl
    · rw [if_neg sameNode, if_neg fun both => sameNode both.2]
  · rw [if_neg sameGroup, if_neg fun both => sameGroup both.1]

theorem holds_add {g g' : G} {n n' : N} {p p' : P} :
    (index.add g n p).Holds g' n' p' ↔
      (g' = g ∧ n' = n ∧ p' = p) ∨ index.Holds g' n' p' := by
  unfold Holds
  rw [members_add]
  by_cases same : g' = g ∧ n' = n
  · obtain ⟨rfl, rfl⟩ := same
    rw [if_pos ⟨rfl, rfl⟩, AList.mem_insert]
    simp
  · rw [if_neg same]
    constructor
    · exact .inr
    · rintro (⟨sameGroup, sameNode, _⟩ | held)
      · exact absurd ⟨sameGroup, sameNode⟩ same
      · exact held

theorem add_pruned (pruned : index.Pruned) (g : G) (n : N) (p : P) : (index.add g n p).Pruned := by
  constructor
  · intro g' nodes found
    unfold add at found
    rw [Table.lookup_insert_if] at found
    split at found
    · cases found
      exact ⟨n, (AList.mem_insert _).mpr (.inl rfl)⟩
    · exact pruned.group g' nodes found
  · intro g' nodes n' peers found inner
    unfold add at found
    rw [Table.lookup_insert_if] at found
    split at found
    · cases found
      rw [Table.lookup_insert_if] at inner
      split at inner
      · cases inner
        exact ⟨p, (AList.mem_insert _).mpr (.inl rfl)⟩
      · unfold group at inner
        cases outer : index.lookup g with
        | none =>
          rw [outer] at inner
          cases inner
        | some nodes =>
          rw [outer] at inner
          exact pruned.node g nodes n' peers outer inner
    · exact pruned.node g' nodes n' peers found inner

theorem holds_remove {p q : P} {g : G} {n : N} :
    (index.remove p).Holds g n q ↔ q ≠ p ∧ index.Holds g n q := by
  rw [holds_iff, holds_iff]
  constructor
  · rintro ⟨nodes, peers, found, inner, member⟩
    obtain ⟨_, before, foundBefore, rfl⟩ := Table.lookup_prune.mp found
    obtain ⟨_, all, innerBefore, rfl⟩ := Table.lookup_prune.mp inner
    obtain ⟨other, member⟩ := AList.mem_erase.mp member
    exact ⟨other, before, all, foundBefore, innerBefore, member⟩
  · rintro ⟨other, before, all, found, inner, member⟩
    have kept : q ∈ all.erase p := AList.mem_erase.mpr ⟨other, member⟩
    have peers : Table.isEmpty (all.erase p) = false := by
      rw [Bool.eq_false_iff]
      intro empty
      exact AList.lookup_eq_none.mp (Table.isEmpty_iff.mp empty q) kept
    have innerAfter : (Table.prune (fun peers : KeySet P => peers.erase p) before).lookup n =
        some (all.erase p) := Table.lookup_prune.mpr ⟨peers, all, inner, rfl⟩
    refine ⟨_, _, Table.lookup_prune.mpr ⟨?_, before, found, rfl⟩, innerAfter, kept⟩
    rw [Bool.eq_false_iff]
    intro empty
    rw [Table.isEmpty_iff.mp empty n] at innerAfter
    cases innerAfter

theorem remove_pruned (p : P) : (index.remove p).Pruned := by
  constructor
  · intro g nodes found
    exact Table.exists_mem_of_isEmpty (Table.lookup_prune.mp found).1
  · intro g nodes n peers found inner
    obtain ⟨_, before, _, rfl⟩ := Table.lookup_prune.mp found
    exact Table.exists_mem_of_isEmpty (Table.lookup_prune.mp inner).1

theorem foldl_add (p : P) (pairs : List (G × N)) (pruned : index.Pruned) :
    (pairs.foldl (fun index pair => index.add pair.1 pair.2 p) index).Pruned ∧
      ∀ g n q, (pairs.foldl (fun index pair => index.add pair.1 pair.2 p) index).Holds g n q ↔
        (q = p ∧ (g, n) ∈ pairs) ∨ index.Holds g n q := by
  induction pairs generalizing index with
  | nil => exact ⟨pruned, by simp⟩
  | cons pair pairs ih =>
    obtain ⟨kept, holds⟩ := ih (add_pruned pruned pair.1 pair.2 p)
    refine ⟨kept, fun g n q => ?_⟩
    rw [List.foldl_cons, holds, holds_add, List.mem_cons, Prod.ext_iff]
    constructor
    · rintro (⟨same, later⟩ | ⟨rfl, rfl, same⟩ | held)
      · exact .inl ⟨same, .inr later⟩
      · exact .inl ⟨same, .inl ⟨rfl, rfl⟩⟩
      · exact .inr held
    · rintro (⟨same, ⟨first, second⟩ | later⟩ | held)
      · exact .inr (.inl ⟨first, second, same⟩)
      · exact .inl ⟨same, later⟩
      · exact .inr (.inr held)

def pairs (nodes : Table G (KeySet N)) : List (G × N) :=
  nodes.entries.flatMap fun entry => entry.2.keys.map fun n => (entry.1, n)

theorem mem_pairs {nodes : Table G (KeySet N)} {g : G} {n : N} :
    (g, n) ∈ pairs nodes ↔ Lists nodes g n := by
  unfold pairs Lists
  simp only [List.mem_flatMap, List.mem_map, Prod.mk.injEq]
  constructor
  · rintro ⟨⟨g, set⟩, member, _, inner, rfl, rfl⟩
    rw [AList.mem_lookup_iff.mpr member]
    exact inner
  · intro listed
    cases found : nodes.lookup g with
    | none =>
      rw [found] at listed
      cases listed
    | some set =>
      rw [found] at listed
      exact ⟨⟨g, set⟩, AList.mem_lookup_iff.mp found, n, listed, rfl, rfl⟩

theorem addAll_eq (p : P) (nodes : Table G (KeySet N)) :
    index.addAll p nodes = (pairs nodes).foldl (fun index pair => index.add pair.1 pair.2 p) index := by
  unfold addAll pairs
  rw [List.foldl_flatMap]
  congr 1
  funext index entry
  rw [List.foldl_map]

theorem holds_addAll {p q : P} {nodes : Table G (KeySet N)} {g : G} {n : N} (pruned : index.Pruned) :
    (index.addAll p nodes).Holds g n q ↔ (q = p ∧ Lists nodes g n) ∨ index.Holds g n q := by
  rw [addAll_eq, (foldl_add p (pairs nodes) pruned).2, mem_pairs]

theorem addAll_pruned (p : P) (nodes : Table G (KeySet N)) (pruned : index.Pruned) :
    (index.addAll p nodes).Pruned := by
  rw [addAll_eq]
  exact (foldl_add p (pairs nodes) pruned).1

theorem empty_pruned : (∅ : Index G N P).Pruned :=
  ⟨fun _ _ found => (by cases found), fun _ _ _ _ found => (by cases found)⟩

theorem Pruned.lookup_group (pruned : index.Pruned) (g : G) :
    index.lookup g = none ↔ ∀ n p, ¬ index.Holds g n p := by
  constructor
  · intro absent n p held
    obtain ⟨nodes, _, found, _⟩ := holds_iff.mp held
    rw [absent] at found
    cases found
  · intro none
    cases found : index.lookup g with
    | none => rfl
    | some nodes =>
      obtain ⟨n, member⟩ := pruned.group g nodes found
      obtain ⟨peers, inner⟩ := Option.isSome_iff_exists.mp (AList.lookup_isSome.mpr member)
      obtain ⟨p, held⟩ := pruned.node g nodes n peers found inner
      exact absurd (holds_iff.mpr ⟨nodes, peers, found, inner, held⟩) (none n p)

theorem Pruned.lookup_node (pruned : index.Pruned) {g : G} {nodes : Table N (KeySet P)}
    (found : index.lookup g = some nodes) (n : N) :
    nodes.lookup n = none ↔ ∀ p, ¬ index.Holds g n p := by
  constructor
  · intro absent p held
    obtain ⟨others, _, foundOthers, inner, _⟩ := holds_iff.mp held
    rw [found] at foundOthers
    cases foundOthers
    rw [absent] at inner
    cases inner
  · intro none
    cases inner : nodes.lookup n with
    | none => rfl
    | some peers =>
      obtain ⟨p, held⟩ := pruned.node g nodes n peers found inner
      exact absurd (holds_iff.mpr ⟨nodes, peers, found, inner, held⟩) (none p)

theorem Pruned.mem_group (pruned : index.Pruned) (g : G) (n : N) :
    n ∈ (index.group g).keys ↔ ∃ p, index.Holds g n p := by
  unfold Index.group
  cases found : index.lookup g with
  | none =>
    have none := (pruned.lookup_group g).mp found n
    constructor
    · exact fun member => absurd member (AList.notMem_empty n)
    · exact fun ⟨p, held⟩ => absurd held (none p)
  | some nodes =>
    have absent := pruned.lookup_node found n
    rw [Option.getD_some, ← AList.mem_keys, ← not_iff_not, ← AList.lookup_eq_none, absent]
    exact not_exists.symm

end Index
