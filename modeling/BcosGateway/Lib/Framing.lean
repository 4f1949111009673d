import Mathlib.Data.List.Infix

/-! Frames on a stream that is received in arbitrary chunks. -/

namespace Framing

variable {α μ ι : Type*}

inductive Outcome (μ : Type*) where
  | complete (size : Nat) (message : μ)
  | incomplete
  | invalid

inductive Drains (decode : List α → Outcome μ) : List α → List μ → List α → Prop
  | rest {buffer : List α} (ended : ∀ size message, decode buffer ≠ .complete size message) :
      Drains decode buffer [] buffer
  | message {buffer : List α} {size : Nat} {message : μ} {messages : List μ} {rest : List α}
      (decoded : decode buffer = .complete size message)
      (drained : Drains decode (buffer.drop size) messages rest) :
      Drains decode buffer (message :: messages) rest

theorem Drains.unique {decode : List α → Outcome μ} {buffer rest left : List α}
    {messages others : List μ} (first : Drains decode buffer messages rest)
    (second : Drains decode buffer others left) : messages = others ∧ rest = left := by
  induction first generalizing others with
  | rest ended =>
    cases second with
    | rest => exact ⟨rfl, rfl⟩
    | message decoded => exact absurd decoded (ended _ _)
  | message decoded drained ih =>
    cases second with
    | rest ended => exact absurd decoded (ended _ _)
    | message decoded' drained' =>
      rw [decoded] at decoded'
      cases decoded'
      obtain ⟨rfl, rfl⟩ := ih drained'
      exact ⟨rfl, rfl⟩

structure FrameCode (decode : List α → Outcome μ) (frame : ι → List α) (value : ι → μ)
    (valid : ι → Prop) : Prop where
  whole : ∀ item suffix, valid item →
    decode (frame item ++ suffix) = .complete (frame item).length (value item)
  partly : ∀ item front, valid item → front <+: frame item →
    front.length < (frame item).length → decode front = .incomplete
  nothing : decode [] = .incomplete

def stream (frame : ι → List α) (items : List ι) : List α := (items.map frame).flatten

/-- The received bytes are the frames of `done`, and `rest` is short of the next one. -/
structure Cut (frame : ι → List α) (items done : List ι) (received rest : List α) : Prop where
  taken : done <+: items
  split : received = stream frame done ++ rest
  short : ∀ next, done ++ [next] <+: items →
    rest <+: frame next ∧ rest.length < (frame next).length
  last : done = items → rest = []

section Stream

variable (frame : ι → List α)

@[simp] theorem stream_cons (item : ι) (items : List ι) :
    stream frame (item :: items) = frame item ++ stream frame items := rfl

@[simp] theorem stream_append (front back : List ι) :
    stream frame (front ++ back) = stream frame front ++ stream frame back := by
  simp [stream]

variable {frame} {items done : List ι} {received rest : List α}

theorem Cut.start (nonempty : ∀ item ∈ items, frame item ≠ []) : Cut frame items [] [] [] := by
  refine ⟨List.nil_prefix, rfl, ?_, fun _ => rfl⟩
  intro next first
  have member : next ∈ items := first.subset (by simp)
  exact ⟨List.nil_prefix, List.length_pos_of_ne_nil (nonempty next member)⟩

theorem Cut.append_left (front : List ι) (cut : Cut frame items done received rest) :
    Cut frame (front ++ items) (front ++ done) (stream frame front ++ received) rest := by
  refine ⟨(List.prefix_append_right_inj front).mpr cut.taken, ?_, ?_, ?_⟩
  · rw [cut.split, stream_append, List.append_assoc]
  · intro next first
    rw [List.append_assoc, List.prefix_append_right_inj] at first
    exact cut.short next first
  · intro all
    exact cut.last (List.append_cancel_left all)

end Stream

section Decoder

variable {decode : List α → Outcome μ} {frame : ι → List α} {value : ι → μ} {valid : ι → Prop}
  (code : FrameCode decode frame value valid)

include code

theorem FrameCode.drains {items : List ι} (sound : ∀ item ∈ items, valid item)
    {buffer : List α} (start : buffer <+: stream frame items) :
    ∃ done rest, Cut frame items done buffer rest ∧ Drains decode buffer (done.map value) rest := by
  induction items generalizing buffer with
  | nil =>
    have empty : buffer = [] := List.prefix_nil.mp start
    subst empty
    have ended : ∀ size message, decode [] ≠ .complete size message := by
      rw [code.nothing]
      intro size message same
      cases same
    exact ⟨[], [], ⟨List.nil_prefix, rfl, fun _ first => by simp at first, fun _ => rfl⟩, .rest ended⟩
  | cons item items ih =>
    rw [stream_cons] at start
    have here : valid item := sound item (by simp)
    -- the buffer reaches past the first frame or ends inside it
    by_cases whole : (frame item).length ≤ buffer.length
    · obtain ⟨later, rfl⟩ : frame item <+: buffer :=
        List.prefix_of_prefix_length_le (List.prefix_append _ _) start whole
      rw [List.prefix_append_right_inj] at start
      obtain ⟨done, rest, cut, drained⟩ :=
        ih (fun item member => sound item (List.mem_cons_of_mem _ member)) start
      refine ⟨item :: done, rest, ?_, .message (code.whole item later here) ?_⟩
      · have extended := cut.append_left [item]
        simpa [stream] using extended
      · rw [List.drop_left]
        exact drained
    · rw [Nat.not_le] at whole
      have partly : buffer <+: frame item :=
        List.prefix_of_prefix_length_le start (List.prefix_append _ _) (Nat.le_of_lt whole)
      have ended : ∀ size message, decode buffer ≠ .complete size message := by
        rw [code.partly item buffer here partly whole]
        intro size message same
        cases same
      refine ⟨[], buffer, ⟨List.nil_prefix, rfl, ?_, fun none => by cases none⟩, .rest ended⟩
      intro next first
      obtain ⟨rfl, _⟩ := List.cons_prefix_cons.mp first
      exact ⟨partly, whole⟩

theorem FrameCode.rest_incomplete {items done : List ι} (sound : ∀ item ∈ items, valid item)
    {received rest : List α} (cut : Cut frame items done received rest) :
    decode rest = .incomplete := by
  obtain ⟨later, rfl⟩ := cut.taken
  cases later with
  | nil =>
    rw [cut.last (by simp)]
    exact code.nothing
  | cons next later =>
    obtain ⟨start, short⟩ := cut.short next (by simp)
    exact code.partly next rest (sound next (by simp)) start short

/-- One more chunk: what was left over is drained together with it. -/
theorem FrameCode.drains_chunk {items done : List ι} (sound : ∀ item ∈ items, valid item)
    {received rest chunk : List α} (cut : Cut frame items done received rest)
    (start : received ++ chunk <+: stream frame items) :
    ∃ more left, Cut frame items (done ++ more) (received ++ chunk) left ∧
      Drains decode (rest ++ chunk) (more.map value) left := by
  obtain ⟨later, rfl⟩ := cut.taken
  rw [cut.split, List.append_assoc, stream_append, List.prefix_append_right_inj] at start
  obtain ⟨more, left, next, drained⟩ :=
    code.drains (fun item member => sound item (List.mem_append_right done member)) start
  refine ⟨more, left, ?_, drained⟩
  rw [cut.split, List.append_assoc]
  exact next.append_left done

end Decoder

end Framing
