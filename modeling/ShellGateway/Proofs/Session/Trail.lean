import ShellGateway.Session.Schedule

/-!
# Looking back on a schedule

What is claimed about a schedule often speaks of its past: the session that was
registered last, the call that took a session out. `System.trail look` collects
what an observer `look` notes down before each move, in order, and is taken apart
where the schedule is (`trail_append`).
-/

namespace ShellGateway.Session.System

variable {g : Gateway} {s t : System} {α : Type}

/-- The last move of a schedule is made from where the rest of it leads. -/
theorem run_concat (g : Gateway) (s : System) (moves : List Move) (m : Move) :
    s.run g (moves ++ [m]) = s.run g moves >>= fun t => t.move g m := by
  rw [run_append]
  refine congrArg _ (funext fun t => ?_)
  show t.move g m >>= (some ·) = t.move g m
  cases t.move g m <;> rfl

/-- A schedule that can be made in two parts. -/
theorem run_append_eq_some {a b : List Move} {u : System} (h : s.run g (a ++ b) = some u) :
    ∃ t, s.run g a = some t ∧ t.run g b = some u := by
  rw [run_append] at h
  exact Option.bind_eq_some_iff.mp h

theorem run_cons_eq_some {m : Move} {rest : List Move} {u : System}
    (h : s.run g (m :: rest) = some u) : ∃ t, s.move g m = some t ∧ t.run g rest = some u :=
  Option.bind_eq_some_iff.mp h

/-- What an observer notes down along a schedule. -/
def trail (look : System → Move → List α) (g : Gateway) (s : System) : List Move → List α
  | [] => []
  | m :: rest =>
    look s m ++ match s.move g m with
      | some t => t.trail look g rest
      | none => []

theorem trail_append (look : System → Move → List α) {a : List Move} (b : List Move)
    (h : s.run g a = some t) :
    s.trail look g (a ++ b) = s.trail look g a ++ t.trail look g b := by
  induction a generalizing s with
  | nil =>
    obtain rfl := Option.some.inj h
    rfl
  | cons m rest ih =>
    obtain ⟨u, hu, hrest⟩ := run_cons_eq_some h
    simp only [List.cons_append, trail, hu]
    rw [ih hrest, List.append_assoc]

theorem trail_concat (look : System → Move → List α) {moves : List Move} (m : Move)
    (h : s.run g moves = some t) :
    s.trail look g (moves ++ [m]) = s.trail look g moves ++ look t m := by
  rw [trail_append look [m] h]
  simp only [trail]
  cases t.move g m <;> rw [List.append_nil]

/-! ## Turning points -/

/-- A move of a schedule, with the systems before and after it. -/
structure Turn (g : Gateway) (s : System) (moves : List Move) where
  past : List Move
  move : Move
  future : List Move
  before : System
  after : System
  split : moves = past ++ move :: future
  reached : s.run g past = some before
  moved : before.move g move = some after

/-- The schedule up to and with the move. -/
theorem Turn.run_past {moves : List Move} (x : Turn g s moves) :
    s.run g (x.past ++ [x.move]) = some x.after := by
  rw [run_concat, x.reached]
  exact x.moved

/-- A schedule is what leads up to a move and with it, and the rest. -/
theorem Turn.split_after {moves : List Move} (x : Turn g s moves) :
    moves = (x.past ++ [x.move]) ++ x.future := by
  rw [← List.append_cons]
  exact x.split

/-- The rest of the schedule is made after the move. -/
theorem Turn.run_future {moves : List Move} (x : Turn g s moves) (ran : s.run g moves = some t) :
    x.after.run g x.future = some t := by
  rw [x.split_after, run_append, x.run_past] at ran
  exact ran

/-- Another move comes after this one in a schedule. -/
def Turn.IsLater {moves : List Move} (x y : Turn g s moves) : Prop :=
  ∃ between, y.past = x.past ++ x.move :: between

/-- What lies between two moves of a schedule is made from after the first. -/
theorem Turn.run_between {moves : List Move} {x y : Turn g s moves} {between : List Move}
    (h : y.past = x.past ++ x.move :: between) : x.after.run g between = some y.before := by
  have reached := y.reached
  rw [h, List.append_cons, run_append, x.run_past] at reached
  exact reached

/-- Of two moves of a schedule one comes after the other, unless they are the
same. -/
theorem Turn.compare {moves : List Move} (x y : Turn g s moves) :
    y.past = x.past ∨ x.IsLater y ∨ y.IsLater x := by
  -- of two parts before a move, one begins with the other
  rcases List.append_eq_append_iff.mp (x.split.symm.trans y.split) with ⟨r, hy, hr⟩ | ⟨r, hx, hr⟩
  · cases r with
    | nil => exact .inl (by rw [hy, List.append_nil])
    | cons m r =>
      obtain ⟨rfl, -⟩ := List.cons.inj hr
      exact .inr (.inl ⟨r, hy⟩)
  · cases r with
    | nil => exact .inl (by rw [hx, List.append_nil])
    | cons m r =>
      obtain ⟨rfl, -⟩ := List.cons.inj hr
      exact .inr (.inr ⟨r, hx⟩)

/-- A move of a schedule is a move of every schedule that begins with it. -/
def Turn.extend {a b more : List Move} (x : Turn g s a) (h : b = a ++ more) : Turn g s b :=
  { x with
    future := x.future ++ more
    split := by rw [h, ← List.cons_append, ← List.append_assoc, ← x.split] }

/-- So is it of a schedule that leads to where this one begins. -/
def Turn.prepend {a b moves : List Move} (x : Turn g t b) (reached : s.run g a = some t)
    (h : moves = a ++ b) : Turn g s moves :=
  { x with
    past := a ++ x.past
    split := by rw [h, List.append_assoc, ← x.split]
    reached := by
      rw [run_append, reached]
      exact x.reached }

/-- What is lost along a schedule is lost in some move. -/
theorem exists_turn {moves : List Move} {Q : System → Prop} (ran : s.run g moves = some t)
    (hs : Q s) (ht : ¬ Q t) : ∃ x : Turn g s moves, Q x.before ∧ ¬ Q x.after := by
  induction moves generalizing s with
  | nil =>
    obtain rfl := Option.some.inj ran
    exact absurd hs ht
  | cons m rest ih =>
    obtain ⟨u, hm, hrest⟩ := run_cons_eq_some ran
    by_cases hu : Q u
    · obtain ⟨x, hbefore, hafter⟩ := ih hrest hu
      refine ⟨⟨m :: x.past, x.move, x.future, x.before, x.after, ?_, ?_, x.moved⟩, hbefore, hafter⟩
      · rw [List.cons_append, ← x.split]
      · rw [run, hm]
        exact x.reached
    · exact ⟨⟨[], m, rest, s, u, rfl, rfl, hm⟩, hs, hu⟩

/-- What an observer notes down before a move is in the trail of every schedule with
that move. -/
theorem Turn.mem_trail {look : System → Move → List α} {moves : List Move} (x : Turn g s moves)
    {a : α} (h : a ∈ look x.before x.move) : a ∈ s.trail look g moves := by
  rw [x.split, trail_append look _ x.reached]
  exact List.mem_append_right _ (List.mem_append_left _ h)

/-! ## One step -/

/-- The system after a step that changed the hub and the position of a call. -/
def stepped (s : System) (c : CallId) (h : Hub) (call : Call) : System :=
  { hub := h, calls := s.calls.set c call }

/-- A step is a step of one call. -/
theorem move_step_eq_some {c : CallId} {e : Event} (h : s.move g (.step c e) = some t) :
    ∃ call hub call', s.calls[c]? = some call ∧ call.step g e s.hub = some (hub, call') ∧
      t = s.stepped c hub call' := by
  obtain ⟨call, hcall, hrest⟩ := Option.bind_eq_some_iff.mp h
  obtain ⟨⟨hub, call'⟩, hstep, ht⟩ := Option.bind_eq_some_iff.mp hrest
  exact ⟨call, hub, call', hcall, hstep, (Option.some.inj ht).symm⟩

/-- The call that took the step is where the step took it. -/
theorem calls_stepped {c : CallId} {call : Call} (hc : s.calls[c]? = some call) (h : Hub)
    (call' : Call) : (s.stepped c h call').calls[c]? = some call' :=
  List.getElem?_set_self (List.getElem?_eq_some_iff.mp hc).1

/-- The others stand where they stood. -/
theorem calls_stepped_other (s : System) {c d : CallId} (other : d ≠ c) (h : Hub) (call : Call) :
    (s.stepped c h call).calls[d]? = s.calls[d]? :=
  List.getElem?_set_ne other.symm

/-! ## One call along a schedule -/

/-- A move leaves a call where it stands, unless it is a step of that call. -/
theorem calls_move {m : Move} (hm : s.move g m = some t) {c : CallId} {call : Call}
    (hc : s.calls[c]? = some call) :
    t.calls[c]? = some call ∨ ∃ e h call', m = .step c e ∧ call.step g e s.hub = some (h, call') ∧
      t = s.stepped c h call' := by
  cases m with
  | start r =>
    obtain rfl := Option.some.inj hm
    have hlt : c < s.calls.length := (List.getElem?_eq_some_iff.mp hc).1
    exact .inl ((List.getElem?_append_left hlt).trans hc)
  | step d e =>
    obtain ⟨call', h, call'', hd, hstep, rfl⟩ := move_step_eq_some hm
    by_cases hcd : c = d
    · subst hcd
      obtain rfl := Option.some.inj (hd.symm.trans hc)
      exact .inr ⟨e, h, call'', rfl, hstep, rfl⟩
    · exact .inl ((List.getElem?_set_ne (Ne.symm hcd)).trans hc)
  | make | wait =>
    obtain rfl := Option.some.inj hm
    exact .inl hc

/-- A move is a step of call `c`, or it is not. -/
theorem own_or_other {m : Move} (hm : s.move g m = some t) (c : CallId) :
    (∃ e call h call', m = .step c e ∧ s.calls[c]? = some call ∧
      call.step g e s.hub = some (h, call') ∧ t = s.stepped c h call') ∨ ∀ e, m ≠ .step c e := by
  by_cases own : ∃ e, m = .step c e
  · obtain ⟨e, rfl⟩ := own
    obtain ⟨call, h, call', hc, hstep, ht⟩ := move_step_eq_some hm
    exact .inl ⟨e, call, h, call', rfl, hc, hstep, ht⟩
  · exact .inr fun e he => own ⟨e, he⟩

/-- What an observer of call `c` notes down before its steps. -/
def noting (c : CallId) (look : Hub → Call → List α) (t : System) : Move → List α
  | .step d _ => if d = c then ((t.calls[c]?).map (look t.hub)).getD [] else []
  | _ => []

theorem noting_step {c : CallId} {call : Call} (hc : s.calls[c]? = some call)
    (look : Hub → Call → List α) (e : Event) : s.noting c look (.step c e) = look s.hub call := by
  rw [noting, if_pos rfl, hc]
  rfl

/-- Other moves are not noted. -/
theorem noting_other {m : Move} {c : CallId} (hm : ∀ e, m ≠ .step c e)
    (look : Hub → Call → List α) : s.noting c look m = [] := by
  cases m with
  | step d e =>
    refine if_neg ?_
    rintro rfl
    exact hm e rfl
  | _ => rfl

/-- A position that no step of the call leaves is kept along a schedule. -/
theorem call_lasts {P : Call → Prop}
    (kept : ∀ {e h call h' call'}, P call → call.step g e h = some (h', call') → P call')
    {moves : List Move} (ran : s.run g moves = some t) {c : CallId} {call : Call}
    (hc : s.calls[c]? = some call) (hp : P call) : ∃ call', t.calls[c]? = some call' ∧ P call' := by
  induction moves generalizing s call with
  | nil =>
    obtain rfl := Option.some.inj ran
    exact ⟨call, hc, hp⟩
  | cons m rest ih =>
    obtain ⟨u, hm, hrest⟩ := run_cons_eq_some ran
    rcases calls_move hm hc with hu | ⟨e, h, call', -, hstep, rfl⟩
    · exact ih hrest hu hp
    · exact ih hrest (calls_stepped hc h call') (kept hp hstep)

/-- A position that a call has left by the end of a schedule, it has left in some
step. -/
theorem exists_step {P : Call → Prop} {moves : List Move} (ran : s.run g moves = some t)
    {c : CallId} {call last : Call} (hc : s.calls[c]? = some call) (hp : P call)
    (hlast : t.calls[c]? = some last) (left : ¬ P last) :
    ∃ x : Turn g s moves, ∃ e call h' call', x.move = .step c e ∧
      x.before.calls[c]? = some call ∧ P call ∧ call.step g e x.before.hub = some (h', call') ∧
        x.after = x.before.stepped c h' call' ∧ ¬ P call' := by
  obtain ⟨x, ⟨now, hnow, hpnow⟩, hafter⟩ :=
    exists_turn (Q := fun u => ∃ call, u.calls[c]? = some call ∧ P call) ran ⟨call, hc, hp⟩
      (by
        rintro ⟨call', hc', hp'⟩
        obtain rfl := Option.some.inj (hc'.symm.trans hlast)
        exact left hp')
  rcases calls_move x.moved hnow with same | ⟨e, h', call', hm, hstep, hx⟩
  · exact absurd ⟨now, same, hpnow⟩ hafter
  · refine ⟨x, e, now, h', call', hm, hnow, hpnow, hstep, hx, fun hp' => hafter ?_⟩
    rw [hx]
    exact ⟨call', calls_stepped hnow h' call', hp'⟩

/-- Where a call stands after a move it stood before, unless it was just asked for or
took a step. -/
theorem calls_move_back {m : Move} (hm : s.move g m = some t) {c : CallId} {call : Call}
    (hc : t.calls[c]? = some call) :
    s.calls[c]? = some call ∨ (∃ r, call = .asked r) ∨
      ∃ e call₀ h, m = .step c e ∧ s.calls[c]? = some call₀ ∧
        call₀.step g e s.hub = some (h, call) ∧ t = s.stepped c h call := by
  cases m with
  | start r =>
    obtain rfl := Option.some.inj hm
    by_cases hlt : c < s.calls.length
    · exact .inl ((List.getElem?_append_left hlt).symm.trans hc)
    · refine .inr (.inl ⟨r, ?_⟩)
      have new : (s.calls ++ [.asked r])[c]? = some call := hc
      rw [List.getElem?_append_right (Nat.le_of_not_lt hlt)] at new
      exact List.mem_singleton.mp (List.mem_of_getElem? new)
  | step d e =>
    obtain ⟨call', h, call'', hd, hstep, rfl⟩ := move_step_eq_some hm
    by_cases hcd : c = d
    · subst hcd
      obtain rfl := Option.some.inj ((calls_stepped hd h call'').symm.trans hc)
      exact .inr (.inr ⟨e, call', h, rfl, hd, hstep, rfl⟩)
    · exact .inl ((List.getElem?_set_ne (Ne.symm hcd)).symm.trans hc)
  | make | wait =>
    obtain rfl := Option.some.inj hm
    exact .inl hc

/-- A position that a call has come to by the end of a schedule, it has come to in some
step. -/
theorem exists_arrival {P : Call → Prop} (new : ∀ r, ¬ P (.asked r)) {moves : List Move}
    (ran : s.run g moves = some t) {c : CallId}
    (before : ∀ call, s.calls[c]? = some call → ¬ P call) {last : Call}
    (hlast : t.calls[c]? = some last) (hp : P last) :
    ∃ x : Turn g s moves, ∃ e call h' call', x.move = .step c e ∧
      x.before.calls[c]? = some call ∧ ¬ P call ∧ call.step g e x.before.hub = some (h', call') ∧
        x.after = x.before.stepped c h' call' ∧ P call' := by
  obtain ⟨x, hbefore, hafter⟩ :=
    exists_turn (Q := fun u => ∀ call, u.calls[c]? = some call → ¬ P call) ran before
      fun h => h last hlast hp
  obtain ⟨call', hafter⟩ := Classical.not_forall.mp hafter
  obtain ⟨hc', hp'⟩ := Classical.not_imp.mp hafter
  have hp' : P call' := Classical.not_not.mp hp'
  rcases calls_move_back x.moved hc' with same | ⟨r, rfl⟩ | ⟨e, call, h', hm, hc, hstep, hx⟩
  · exact absurd hp' (hbefore call' same)
  · exact absurd hp' (new r)
  · exact ⟨x, e, call, h', call', hm, hc, hbefore call hc, hstep, hx, hp'⟩

/-! ## One call on its own -/

/-- A system comes to be from another by steps of call `c` alone, in which every
release fails or none does. -/
def GoesOn (g : Gateway) (c : CallId) (failed : Bool) (s t : System) : Prop :=
  ∃ moves, (∀ m ∈ moves, m = .step c .go ∨ m = .step c (.released failed)) ∧ s.run g moves = some t

theorem GoesOn.refl (g : Gateway) (c : CallId) (failed : Bool) (s : System) :
    GoesOn g c failed s s :=
  ⟨[], by simp, rfl⟩

theorem GoesOn.trans {c : CallId} {failed : Bool} {u : System} (a : GoesOn g c failed s t)
    (b : GoesOn g c failed t u) : GoesOn g c failed s u := by
  obtain ⟨x, hx, ranx⟩ := a
  obtain ⟨y, hy, rany⟩ := b
  refine ⟨x ++ y, ?_, ?_⟩
  · intro m hm
    exact (List.mem_append.mp hm).elim (hx m) (hy m)
  · rw [run_append, ranx]
    exact rany

/-- A step that the call can take. -/
theorem GoesOn.step {c : CallId} {failed : Bool} {call call' : Call} {h : Hub} {e : Event}
    (hc : s.calls[c]? = some call) (he : e = .go ∨ e = .released failed)
    (hs : call.step g e s.hub = some (h, call')) : GoesOn g c failed s (s.stepped c h call') := by
  refine ⟨[.step c e], ?_, ?_⟩
  · intro m hm
    rw [List.mem_singleton.mp hm]
    exact he.imp (congrArg _) (congrArg _)
  · simp only [run, move, hc, Option.bind_eq_bind, Option.bind_some, hs]
    rfl

end ShellGateway.Session.System
