import Mathlib.Data.List.Induction
import ShellGateway.Web.Pump

/-!
# What the pumps pass on

The input pump passes on what the frames carry that it meets, in order; the output pump what it
reads, in frames of its own. At any time a pump has passed on everything but the one piece that it
is passing on (`Pumping`). The first event that stops it is the last that it meets (`Stopped`): a
pump that stops between two pieces has passed on all of them, and one whose terminal or connection
fails has passed on all but the piece that was under way, or the rest of it.
-/

namespace ShellGateway.Web

/-- A machine that goes on after an event or is stopped by it, and is deaf then, has gone on through
all of its events or through all but the last. -/
theorem goes_on_or_stopped {σ ε : Type} {step : σ → ε → Option σ} {On : σ → List ε → Prop}
    {Off : σ → List ε → ε → Prop}
    (goesOn : ∀ {s es e s'}, On s es → step s e = some s' → On s' (es ++ [e]) ∨ Off s' es e)
    (deaf : ∀ {s es last}, Off s es last → ∀ e, step s e = none) {first s : σ} (start : On first [])
    {es : List ε} (run : es.foldlM step first = some s) :
    On s es ∨ ∃ before last, es = before ++ [last] ∧ Off s before last := by
  induction es using List.reverseRecOn generalizing s with
  | nil =>
    cases run
    exact .inl start
  | append_singleton es e ih =>
    rw [List.foldlM_append] at run
    obtain ⟨s₁, ran, last⟩ := Option.bind_eq_some_iff.mp run
    obtain ⟨s', stepped, ⟨⟩⟩ := Option.bind_eq_some_iff.mp last
    obtain on | ⟨before, last, rfl, off⟩ := ih ran
    · obtain still | stops := goesOn on stepped
      · exact .inl still
      · exact .inr ⟨es, e, rfl, stops⟩
    · rw [deaf off e] at stepped
      cases stepped

/-! ## Input -/

namespace InputPump

variable {p p' : InputPump} {e last : Event} {es before : List Event}

/-- The terminal input that comes with an event. -/
def Event.payload : Event → Bytes
  | incoming i => i.payload
  | taken _ | refused => []

/-- The event stops the pump. -/
def Event.stops : Event → Bool
  | incoming i => i.isLast
  | taken _ => false
  | refused => true

/-- A pump that has met these events and goes on. -/
structure Pumping (p : InputPump) (met : List Event) : Prop where
  on : p.shutdowns = 0
  quiet : ∀ e ∈ met, e.stops = false
  whole : p.written ++ p.pending = met.flatMap Event.payload
  underWay : p.pending ≠ [] → ∃ earlier i writes, met = earlier ++ .incoming i :: writes ∧
    (∀ e ∈ writes, e.payload = []) ∧ p.pending <:+ i.payload

/-- A pump that has met these events and after them one that stopped it. -/
structure Stopped (p : InputPump) (before : List Event) (last : Event) : Prop where
  once : p.shutdowns = 1
  deaf : ∀ e, p.step e = none
  quiet : ∀ e ∈ before, e.stops = false
  stops : last.stops = true
  whole : last ≠ .refused → p.written = before.flatMap Event.payload
  cut : last = .refused → ∃ earlier i writes part rest, before = earlier ++ .incoming i :: writes ∧
    (∀ e ∈ writes, e.payload = []) ∧ i.payload = part ++ rest ∧ rest ≠ [] ∧
      p.written = earlier.flatMap Event.payload ++ part

/-- A pump that is stopped meets nothing any more. -/
theorem step_stop (on : p.shutdowns = 0) (e : Event) : p.stop.step e = none := by
  have once : p.stop.shutdowns = 1 := by rw [stop, on]
  have nothing : p.stop.pending = [] := rfl
  cases e with
  | incoming i => simp [InputPump.step, once]
  | taken n =>
    rw [InputPump.step, if_neg]
    rw [nothing, List.length_nil]
    omega
  | refused => rw [InputPump.step, if_pos nothing]

/-- An event lets a pump go on or stops it. -/
theorem Pumping.step (pumping : p.Pumping es) (hs : p.step e = some p') :
    p'.Pumping (es ++ [e]) ∨ p'.Stopped es e := by
  have stopped : p.stop.shutdowns = 1 := by rw [stop, pumping.on]
  cases e with
  | incoming i =>
    obtain ⟨⟨-, idle⟩, hp⟩ := Option.ite_none_right_eq_some.mp hs
    have whole : p.written = es.flatMap Event.payload := by
      rw [← pumping.whole, idle, List.append_nil]
    cases isLast : i.isLast with
    | true =>
      rw [isLast, if_pos rfl] at hp
      cases hp
      exact .inr ⟨stopped, step_stop pumping.on, pumping.quiet, isLast, fun _ => whole, nofun⟩
    | false =>
      rw [isLast, if_neg Bool.false_ne_true] at hp
      cases hp
      refine .inl ⟨pumping.on, ?_, ?_, ?_⟩
      · exact List.forall_mem_append.mpr ⟨pumping.quiet, List.forall_mem_singleton.mpr isLast⟩
      · rw [List.flatMap_append, ← whole, List.flatMap_singleton]
        rfl
      · exact fun _ => ⟨es, i, [], rfl, nofun, List.suffix_refl _⟩
  | taken n =>
    obtain ⟨⟨positive, enough⟩, hp⟩ := Option.ite_none_right_eq_some.mp hs
    cases hp
    refine .inl ⟨pumping.on, ?_, ?_, ?_⟩
    · exact List.forall_mem_append.mpr ⟨pumping.quiet, List.forall_mem_singleton.mpr rfl⟩
    · rw [List.flatMap_append, ← pumping.whole, List.append_assoc, List.take_append_drop,
        List.flatMap_singleton]
      exact (List.append_nil _).symm
    · intro more
      have pending : p.pending ≠ [] := fun h => more (by simp [h])
      obtain ⟨earlier, i, writes, rfl, noPayload, suffix⟩ := pumping.underWay pending
      refine ⟨earlier, i, writes ++ [.taken n], by simp, ?_, (List.drop_suffix _ _).trans suffix⟩
      exact List.forall_mem_append.mpr ⟨noPayload, List.forall_mem_singleton.mpr rfl⟩
  | refused =>
    have pending : p.pending ≠ [] := fun h => by
      rw [InputPump.step, if_pos h] at hs
      cases hs
    rw [InputPump.step, if_neg pending] at hs
    cases hs
    refine .inr ⟨stopped, step_stop pumping.on, pumping.quiet, rfl, nofun, fun _ => ?_⟩
    -- What is pending is the rest of the last frame, so the part before it has been written.
    obtain ⟨earlier, i, writes, rfl, noPayload, part, hi⟩ := pumping.underWay pending
    refine ⟨earlier, i, writes, part, p.pending, rfl, noPayload, hi.symm, pending, ?_⟩
    have whole := pumping.whole
    rw [List.flatMap_append, List.flatMap_cons, List.flatMap_eq_nil_iff.mpr noPayload,
      List.append_nil] at whole
    show p.written = _
    refine List.append_cancel_right (whole.trans ?_)
    rw [List.append_assoc, hi]
    rfl

/-- **An input pump has written what it met**, up to the event that stopped it. -/
theorem pumped (run : ({} : InputPump).run es = some p) :
    p.Pumping es ∨ ∃ before last, es = before ++ [last] ∧ p.Stopped before last := by
  have start : ({} : InputPump).Pumping [] := ⟨rfl, nofun, rfl, fun h => absurd rfl h⟩
  exact @goes_on_or_stopped _ _ step Pumping Stopped Pumping.step Stopped.deaf _ _ start _ run

/-- The pump is not stuck: it takes whatever comes, and the terminal may take what is written in
whatever parts. -/
structure Ready (p : InputPump) : Prop where
  incoming : p.pending = [] → ∀ i, (p.step (.incoming i)).isSome
  taken : ∀ n, 0 < n → n ≤ p.pending.length → (p.step (.taken n)).isSome
  refused : p.pending ≠ [] → (p.step .refused).isSome

theorem Pumping.ready (pumping : p.Pumping es) : p.Ready where
  incoming idle i := by
    rw [InputPump.step, if_pos ⟨pumping.on, idle⟩]
    rfl
  taken n positive enough := by
    rw [InputPump.step, if_pos ⟨positive, enough⟩]
    rfl
  refused busy := by
    rw [InputPump.step, if_neg busy]
    rfl

end InputPump

/-! ## Output -/

/-- What frames carry. -/
def carried (frames : List Frame) : Bytes :=
  frames.flatMap fun f => f.payload?.getD []

theorem carried_concat (frames : List Frame) (piece : Bytes) :
    carried (frames ++ [.binary piece]) = carried frames ++ piece := by
  unfold carried
  rw [List.flatMap_append, List.flatMap_singleton]
  rfl

namespace OutputPump

variable {p p' : OutputPump} {e last : Event} {es before : List Event}

/-- The output that comes with an event. -/
def Event.output : Event → Bytes
  | read piece => piece
  | readEnd | sent | sendFailed => []

/-- The event stops the pump. -/
def Event.stops : Event → Bool
  | readEnd | sendFailed => true
  | read _ | sent => false

/-- A frame with a piece of output. -/
def IsPiece (f : Frame) : Prop :=
  ∃ piece, f = .binary piece ∧ 0 < piece.length ∧ piece.length ≤ readLength

/-- A pump that has met these events and goes on. -/
structure Pumping (p : OutputPump) (met : List Event) : Prop where
  on : p.closes = 0
  quiet : ∀ e ∈ met, e.stops = false
  frames : ∀ f ∈ p.sent, IsPiece f
  short : p.piece.length ≤ readLength
  whole : carried p.sent ++ p.piece = met.flatMap Event.output
  underWay : p.piece ≠ [] → ∃ earlier, met = earlier ++ [.read p.piece]

/-- A pump that has met these events and after them one that stopped it. -/
structure Stopped (p : OutputPump) (before : List Event) (last : Event) : Prop where
  once : p.closes = 1
  deaf : ∀ e, p.step e = none
  quiet : ∀ e ∈ before, e.stops = false
  stops : last.stops = true
  frames : ∀ f ∈ p.sent, IsPiece f
  whole : last = .readEnd → carried p.sent = before.flatMap Event.output
  cut : last = .sendFailed → ∃ earlier piece, before = earlier ++ [.read piece] ∧
    carried p.sent = earlier.flatMap Event.output

/-- A pump that is stopped meets nothing any more. -/
theorem step_stop (on : p.closes = 0) (e : Event) : p.stop.step e = none := by
  have once : p.stop.closes = 1 := by rw [stop, on]
  have nothing : p.stop.piece = [] := rfl
  cases e with
  | read piece => simp [OutputPump.step, once]
  | readEnd => simp [OutputPump.step, once]
  | sent => rw [OutputPump.step, if_pos nothing]
  | sendFailed => rw [OutputPump.step, if_pos nothing]

/-- An event lets a pump go on or stops it. -/
theorem Pumping.step (pumping : p.Pumping es) (hs : p.step e = some p') :
    p'.Pumping (es ++ [e]) ∨ p'.Stopped es e := by
  have stopped : p.stop.closes = 1 := by rw [stop, pumping.on]
  have quiet (goesOn : e.stops = false) : ∀ e' ∈ es ++ [e], e'.stops = false :=
    List.forall_mem_append.mpr ⟨pumping.quiet, List.forall_mem_singleton.mpr goesOn⟩
  cases e with
  | read piece =>
    obtain ⟨⟨-, idle, -, short⟩, hp⟩ := Option.ite_none_right_eq_some.mp hs
    cases hp
    refine .inl ⟨pumping.on, quiet rfl, pumping.frames, short, ?_, fun _ => ⟨es, rfl⟩⟩
    rw [List.flatMap_append, ← pumping.whole, idle, List.append_nil, List.flatMap_singleton]
    rfl
  | readEnd =>
    obtain ⟨⟨-, idle⟩, hp⟩ := Option.ite_none_right_eq_some.mp hs
    cases hp
    refine .inr ⟨stopped, step_stop pumping.on, pumping.quiet, rfl, pumping.frames, fun _ => ?_,
      nofun⟩
    rw [← pumping.whole, idle, List.append_nil]
    rfl
  | sent =>
    obtain ⟨idle, hp⟩ := Option.ite_none_left_eq_some.mp hs
    cases hp
    have piece : IsPiece (.binary p.piece) :=
      ⟨_, rfl, List.length_pos_iff.mpr idle, pumping.short⟩
    refine .inl ⟨pumping.on, quiet rfl, ?_, Nat.zero_le _, ?_, fun h => absurd rfl h⟩
    · exact List.forall_mem_append.mpr ⟨pumping.frames, List.forall_mem_singleton.mpr piece⟩
    · rw [List.flatMap_append, ← pumping.whole, carried_concat, List.flatMap_singleton]
      rfl
  | sendFailed =>
    obtain ⟨idle, hp⟩ := Option.ite_none_left_eq_some.mp hs
    cases hp
    refine .inr ⟨stopped, step_stop pumping.on, pumping.quiet, rfl, pumping.frames, nofun,
      fun _ => ?_⟩
    -- The piece that was not sent is the last that was read.
    obtain ⟨earlier, rfl⟩ := pumping.underWay idle
    refine ⟨earlier, p.piece, rfl, ?_⟩
    have whole := pumping.whole
    rw [List.flatMap_append, List.flatMap_singleton] at whole
    exact List.append_cancel_right whole

/-- **An output pump has sent what it read**, up to the event that stopped it. -/
theorem pumped (run : ({} : OutputPump).run es = some p) :
    p.Pumping es ∨ ∃ before last, es = before ++ [last] ∧ p.Stopped before last := by
  have start : ({} : OutputPump).Pumping [] := ⟨rfl, nofun, nofun, Nat.zero_le _, rfl, fun h => absurd rfl h⟩
  exact @goes_on_or_stopped _ _ step Pumping Stopped Pumping.step Stopped.deaf _ _ start _ run

/-- The pump is not stuck: it reads what there is, in whatever pieces, and sends what it has
read. -/
structure Ready (p : OutputPump) : Prop where
  read : p.piece = [] → ∀ piece, piece ≠ [] → piece.length ≤ readLength →
    (p.step (.read piece)).isSome
  readEnd : p.piece = [] → (p.step .readEnd).isSome
  sent : p.piece ≠ [] → (p.step .sent).isSome
  sendFailed : p.piece ≠ [] → (p.step .sendFailed).isSome

theorem Pumping.ready (pumping : p.Pumping es) : p.Ready where
  read idle piece some short := by
    rw [OutputPump.step, if_pos ⟨pumping.on, idle, some, short⟩]
    rfl
  readEnd idle := by
    rw [OutputPump.step, if_pos ⟨pumping.on, idle⟩]
    rfl
  sent busy := by
    rw [OutputPump.step, if_neg busy]
    rfl
  sendFailed busy := by
    rw [OutputPump.step, if_neg busy]
    rfl

end OutputPump

end ShellGateway.Web
