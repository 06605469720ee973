import ShellGateway.Proofs.Session.Ledger
import ShellGateway.Proofs.Session.Place

/-!
# Sessions are conserved

However the calls of a gateway interleave, no session gets lost and none is
closed twice. A session that is registered is open. It leaves the registry in one
step of one call, never to come back; the call hands it to whoever registered its
successor, or goes on to close it, which closes its transport once.

This holds of every schedule in which sessions are offered to the registry as
they come, and closed through it alone (`Guarded`): a session that is offered was
made by whoever offers it, has not been offered before, and nobody closes a
session by its serial. Given that, the ghost places of sessions are an invariant
of all schedules (`Placed.move`), and the rest is read off from them.
-/

namespace ShellGateway.Session

/-! ## Schedules that go by the registry -/

/-- The session that a move makes for somebody other than the gateway. -/
def System.making (t : System) : Move → List Serial
  | .make _ _ => [t.hub.nextSerial]
  | _ => []

/-- The sessions that were made by others than the gateway. -/
def made (g : Gateway) (moves : List Move) : List Serial :=
  System.initial.trail System.making g moves

/-- Sessions are offered fresh and once, and closed through the registry. -/
structure Guarded (g : Gateway) (moves : List Move) : Prop where
  offered : ∀ past s future, moves = past ++ .start (.put s) :: future →
    s ∈ made g past ∧ .start (.put s) ∉ past
  closing : ∀ s, .start (.closeSession s) ∉ moves

theorem Guarded.take {g : Gateway} {a b : List Move} (h : Guarded g (a ++ b)) : Guarded g a where
  offered past s future ha :=
    h.offered past s (future ++ b) (by rw [ha, List.append_assoc, List.cons_append])
  closing s hs := h.closing s (List.mem_append_left b hs)

/-! ## Places along a schedule -/

/-- A session in its place after a schedule: what was made by others and not yet
offered is outside. -/
structure Placed (g : Gateway) (moves : List Move) (t : System) (s : Serial) (p : Place) : Prop
    extends Kept t s p where
  outside : s ∈ made g moves → .start (.put s) ∉ moves → p = .outside

namespace Placed

variable {g : Gateway} {moves : List Move} {t u : System} {s : Serial} {p : Place}

theorem move {m : Move} (k : Placed g moves t s p) (ran : System.initial.run g moves = some t)
    (guarded : Guarded g (moves ++ [m])) (hm : t.move g m = some u) :
    ∃ p', Placed g (moves ++ [m]) u s p' ∧ Advance s m p p' := by
  have offered : m = .start (.put s) → p = .outside := by
    rintro rfl
    obtain ⟨hmade, hnew⟩ := guarded.offered moves s [] rfl
    exact k.outside hmade hnew
  have closing : m ≠ .start (.closeSession s) := by
    rintro rfl
    exact guarded.closing s (List.mem_append_right _ (List.mem_singleton_self _))
  obtain ⟨p', k', adv⟩ := k.toKept.move hm offered closing
  refine ⟨p', ⟨k', fun hmade hnew => ?_⟩, adv⟩
  rw [made, System.trail_concat _ m ran] at hmade
  have hm' : m ≠ .start (.put s) := by
    rintro rfl
    exact hnew (List.mem_append_right _ (List.mem_singleton_self _))
  rcases List.mem_append.mp hmade with hpast | hnow
  · -- it was outside, and only an offer would have changed that
    obtain rfl := k.outside hpast fun h => hnew (List.mem_append_left _ h)
    cases adv with
    | stay => rfl
    | offer => exact absurd rfl hm'
  · -- it has just been made
    cases m with
    | make info shellHere =>
      obtain rfl := List.mem_singleton.mp hnow
      obtain rfl := k.fresh (Nat.le_refl _)
      cases adv with
      | stay =>
        obtain rfl := Option.some.inj hm
        have life := t.hub.life?_make info shellHere t.hub.nextSerial
        rw [if_pos rfl] at life
        cases life.symm.trans (k'.unmade.mp rfl)
      | make => rfl
    | _ => cases hnow

/-- **Every session has a place after every schedule.** -/
theorem exists_place (ran : System.initial.run g moves = some t) (guarded : Guarded g moves)
    (s : Serial) : ∃ p, Placed g moves t s p := by
  -- from the end: the beginning of a guarded schedule is guarded
  induction moves using List.reverseRecOn generalizing t with
  | nil =>
    obtain rfl := Option.some.inj ran
    exact ⟨.unmade, Kept.initial s, fun h => by cases h⟩
  | append_singleton moves m ih =>
    rw [System.run_concat] at ran
    obtain ⟨u, hu, hm⟩ := Option.bind_eq_some_iff.mp ran
    obtain ⟨p, k⟩ := ih hu guarded.take
    obtain ⟨p', k', -⟩ := k.move hu guarded hm
    exact ⟨p', k'⟩

/-- What no move undoes lasts for the rest of a schedule. -/
theorem lasts {P : Place → Prop} (closed : ∀ m p p', P p → Advance s m p p' → P p')
    {more : List Move} (k : Placed g moves t s p) (ran : System.initial.run g moves = some t)
    (guarded : Guarded g (moves ++ more)) (hu : t.run g more = some u) (hp : P p) :
    ∃ p', Placed g (moves ++ more) u s p' ∧ P p' := by
  induction more generalizing moves t p with
  | nil =>
    obtain rfl := Option.some.inj hu
    rw [List.append_nil]
    exact ⟨p, k, hp⟩
  | cons m rest ih =>
    obtain ⟨v, hm, hrest⟩ := System.run_cons_eq_some hu
    rw [List.append_cons] at guarded ⊢
    obtain ⟨p', k', adv⟩ := k.move ran guarded.take hm
    have ran' : System.initial.run g (moves ++ [m]) = some v := by
      rw [System.run_concat, ran]
      exact hm
    exact ih k' ran' guarded hrest (closed m p p' hp adv)

/-- Only what is registered under some id is in the place for that. -/
theorem holds_iff (k : Placed g moves t s p) : t.hub.Holds s ↔ p = .registered := by
  constructor
  · rintro ⟨id, hid⟩
    exact ((k.registered id).mp hid).1
  · rintro rfl
    obtain ⟨l, hl⟩ := k.exists_life (by simp)
    exact ⟨l.info.id, (k.registered _).mpr ⟨rfl, l, hl, rfl⟩⟩

end Placed

/-! ## Leaving the registry -/

/-- How a call takes session `s` out of the registry: where it stands before the
step, and where it goes. -/
inductive Departure (s : Serial) : Call → Call → Prop where
  /-- A put replaces the session and returns it to whoever asked. -/
  | returned (r : Serial) : Departure s (.asked (.put r)) (.answered (.session (some s)))
  /-- A new session replaces it, and it is to be closed. -/
  | replaced (r : Serial) (next : Next) : Departure s (.registering r) (.closing s .marking next)
  /-- Its id is taken out, and it is to be closed. -/
  | removed (id : String) (next absent : Next) :
      Departure s (.removing id next absent) (.closing s .marking next)
  /-- A sweep takes out its id, and it is to be closed. -/
  | swept (maxIdle : Nat) (id : String) (rest : List String) (evicted : Nat) :
      Departure s (.sweeping maxIdle (id :: rest) evicted)
        (.closing s .marking (.sweep maxIdle rest (evicted + 1)))

/-- What a step takes out of the registry, it takes out in one of these ways. -/
theorem LifeStep.departure {h h' : Hub} {c c' : Call} {s : Serial} (l : LifeStep h c h' c')
    (held : h.Holds s) (lost : ¬ h'.Holds s) : Departure s c c' := by
  have edited : c.edit? h ≠ none := by
    intro none
    obtain ⟨id, hid⟩ := held
    refine lost ⟨id, ?_⟩
    rw [l.find? id, none]
    exact hid
  cases l with
  | offered r =>
    rw [Hub.put_fst_of_lost held lost]
    exact .returned r
  | registered r n =>
    rw [Hub.put_fst_of_lost held lost]
    exact .replaced r n
  | removed id next absent =>
    rw [Hub.remove_fst_of_lost held lost]
    exact .removed id next absent
  | swept maxIdle id rest evicted stale =>
    rw [Hub.remove_fst_of_lost held lost]
    exact .swept maxIdle id rest evicted
  | quiet _ edit => exact absurd edit edited
  | opened _ edit => exact absurd edit edited
  | marked | late | released | intruding => exact absurd rfl edited

/-- A move that takes session `s` out of the registry. -/
structure Exit (g : Gateway) (moves : List Move) (s : Serial)
    extends System.Turn g System.initial moves where
  held : before.hub.Holds s
  lost : ¬ after.hub.Holds s

namespace Exit

variable {g : Gateway} {moves : List Move} {t : System} {s : Serial}

/-- Only the step of a call can take a session out. -/
theorem departs (x : Exit g moves s) :
    ∃ c e call call', x.move = .step c e ∧ x.before.calls[c]? = some call ∧
      x.after.calls[c]? = some call' ∧ Departure s call call' := by
  have moved := x.moved
  have held := x.held
  have lost := x.lost
  cases hm : x.move with
  | step c e =>
    rw [hm] at moved
    obtain ⟨call, h', call', hc, hstep, ht⟩ := System.move_step_eq_some moved
    rw [ht] at lost ⊢
    exact ⟨c, e, call, call', rfl, hc, System.calls_stepped hc h' call',
      (Call.lifeStep hstep).departure held lost⟩
  | _ =>
    rw [hm] at moved
    rw [← Option.some.inj moved] at lost
    exact absurd held lost

/-- The session is gone for good. -/
theorem placed (x : Exit g moves s) (guarded : Guarded g moves) :
    ∃ p, Placed g (x.past ++ [x.move]) x.after s p ∧ p.isGone := by
  have guarded' : Guarded g (x.past ++ [x.move]) := by
    rw [x.split, List.append_cons] at guarded
    exact guarded.take
  obtain ⟨p, k⟩ := Placed.exists_place x.reached guarded'.take s
  obtain ⟨p', k', adv⟩ := k.move x.reached guarded' x.moved
  obtain rfl := k.holds_iff.mp x.held
  exact ⟨p', k', adv.leaves fun hp => x.lost (k'.holds_iff.mpr hp)⟩

/-- It does not leave a second time. -/
theorem not_later (x y : Exit g moves s) (guarded : Guarded g moves) :
    ¬ x.toTurn.IsLater y.toTurn := by
  rintro ⟨between, hy⟩
  obtain ⟨p, k, hp⟩ := x.placed guarded
  have guarded' : Guarded g (x.past ++ [x.move] ++ between) := by
    rw [← List.append_cons, ← hy]
    rw [y.split] at guarded
    exact guarded.take
  obtain ⟨p', k', hp'⟩ := k.lasts (P := (Place.isGone · = true))
    (fun _ _ _ hp adv => adv.isGone hp) x.run_past guarded' (System.Turn.run_between hy) hp
  obtain rfl := k'.holds_iff.mp y.held
  cases hp'

/-- **A session leaves the registry once.** -/
theorem past_unique (x y : Exit g moves s) (guarded : Guarded g moves) : y.past = x.past := by
  rcases x.toTurn.compare y.toTurn with same | later | later
  · exact same
  · exact absurd later (x.not_later y guarded)
  · exact absurd later (y.not_later x guarded)

/-- A session that was registered and is not any more has left. -/
theorem exists_exit {past future : List Move} {u : System}
    (reached : System.initial.run g past = some u) (ran : u.run g future = some t)
    (held : u.hub.Holds s) (lost : ¬ t.hub.Holds s) : Nonempty (Exit g (past ++ future) s) := by
  obtain ⟨x, hbefore, hafter⟩ :=
    System.exists_turn (Q := fun u => u.hub.Holds s) ran held lost
  exact ⟨⟨x.prepend reached rfl, hbefore, hafter⟩⟩

end Exit

/-! ## Closing what has left -/

/-- A call is in the midst of closing a session. -/
def System.IsClosing (t : System) (c : CallId) (s : Serial) : Prop :=
  ∃ stage next, t.calls[c]? = some (.closing s stage next)

/-- A session is closed, and its transport was closed exactly once. -/
def System.IsClosed (t : System) (s : Serial) : Prop :=
  ∃ x, t.hub.sessions.get? s = some x ∧ x.closed = true ∧ x.releaseCount .transport = 1

/-- A call that has come to its end has no duties. -/
theorem Call.duty?_of_answer? {call : Call} (h : call.answer?.isSome) : call.duty? = none := by
  cases call with
  | answered a => rfl
  | _ => cases h

theorem System.Finished.duty?_eq_none {t : System} (h : t.Finished) (c : CallId) :
    t.duty? c = none := by
  unfold System.duty?
  cases hc : t.calls[c]? with
  | none => rfl
  | some call => exact Call.duty?_of_answer? (h call (List.mem_of_getElem? hc))

theorem System.Finished.not_isClosing {t : System} (h : t.Finished) (c : CallId) (s : Serial) :
    ¬ t.IsClosing c s := by
  rintro ⟨stage, next, hc⟩
  have ended := h _ (List.mem_of_getElem? hc)
  cases ended

/-- A session in a call's hands, or closed. -/
theorem Kept.of_isClosing {t : System} {s : Serial} {p : Place} {c : CallId} (k : Kept t s p)
    (hp : p.isClosing c) : t.IsClosing c s ∨ t.IsClosed s := by
  have holding : ∀ d, p = .held c d → d = .marking ∨ d = .releasing → t.IsClosing c s := by
    intro d hpd hd
    obtain ⟨call, hc, hduty⟩ := Option.bind_eq_some_iff.mp ((k.duty c d).mpr hpd)
    obtain ⟨stage, next, rfl⟩ := Call.eq_closing hduty hd
    exact ⟨stage, next, hc⟩
  cases p with
  | held c' d =>
    cases d with
    | marking =>
      obtain rfl : c' = c := of_decide_eq_true hp
      exact .inl (holding _ rfl (.inl rfl))
    | releasing =>
      obtain rfl : c' = c := of_decide_eq_true hp
      exact .inl (holding _ rfl (.inr rfl))
    | _ => cases hp
  | closed =>
    obtain ⟨l, hl⟩ := k.exists_life (by simp)
    obtain ⟨x, hx, rfl⟩ := Hub.life?_eq_some hl
    exact .inr ⟨x, hx, k.closed _ hl, k.transports _ hl⟩
  | _ => cases hp

/-- The call that takes a session out to close it closes it. -/
theorem Exit.closing {g : Gateway} {moves : List Move} {t : System} {s : Serial} {c : CallId}
    {next : Next} (x : Exit g moves s) (ran : System.initial.run g moves = some t)
    (guarded : Guarded g moves) (hc : x.after.calls[c]? = some (.closing s .marking next)) :
    t.IsClosing c s ∨ t.IsClosed s := by
  obtain ⟨p, k, -⟩ := x.placed guarded
  -- the call has the duty right after it took the session out
  have hp : p = .held c .marking := by
    refine (k.duty c .marking).mp ?_
    rw [System.duty?, hc]
    rfl
  have guarded' : Guarded g (x.past ++ [x.move] ++ x.future) := by
    rw [← List.append_cons, ← x.split]
    exact guarded
  obtain ⟨p', k', hp'⟩ := k.lasts (P := (Place.isClosing c · = true))
    (fun _ _ _ hp adv => adv.isClosing hp) x.run_past guarded' (x.run_future ran)
    (by rw [hp]; exact decide_eq_true rfl)
  exact k'.of_isClosing hp'

/-! ## Conservation -/

/-- What is conserved along a schedule that leads to system `t`. -/
structure Conserved (g : Gateway) (moves : List Move) (t : System) : Prop where
  /-- Registered sessions are open. -/
  registered_open : ∀ id s, t.hub.find? id = some s →
    ∃ x, t.hub.sessions.get? s = some x ∧ x.closed = false
  /-- A session that was registered and is not any more has left in some move. -/
  leaves : ∀ past future u s, moves = past ++ future → System.initial.run g past = some u →
    u.hub.Holds s → ¬ t.hub.Holds s → Nonempty (Exit g moves s)
  /-- A session leaves once. -/
  leaves_once : ∀ s, ∀ x y : Exit g moves s, y.past = x.past
  /-- It leaves by a removal or by being replaced, and the call that takes it out
  returns it, or goes on to close it. -/
  departs : ∀ s, ∀ x : Exit g moves s, ∃ c e call call', x.move = .step c e ∧
    x.before.calls[c]? = some call ∧ x.after.calls[c]? = some call' ∧ Departure s call call' ∧
      (call' = .answered (.session (some s)) ∨ t.IsClosing c s ∨ t.IsClosed s)
  /-- Under each id, the last put that was not followed by a removal is registered. -/
  registered_iff : ∀ id s, t.hub.find? id = some s ↔ LastPut (edits g moves) id s
  /-- Once all calls have come to their end, what did not leave by a bare put is
  closed. -/
  leavers_closed : t.Finished → ∀ s, ∀ x : Exit g moves s, ∀ c e, x.move = .step c e →
    (∀ r, x.before.calls[c]? ≠ some (.asked (.put r))) → t.IsClosed s
  /-- By then the transports of closed sessions were closed once, and those of
  the others never. -/
  transports_closed : t.Finished → ∀ s x, t.hub.sessions.get? s = some x →
    x.releaseCount .transport = if x.closed then 1 else 0

/-- **Sessions are conserved**, however calls interleave. -/
theorem conserved {g : Gateway} {moves : List Move} {t : System}
    (ran : System.initial.run g moves = some t) (guarded : Guarded g moves) :
    Conserved g moves t := by
  have departs : ∀ s, ∀ x : Exit g moves s, ∃ c e call call', x.move = .step c e ∧
      x.before.calls[c]? = some call ∧ x.after.calls[c]? = some call' ∧ Departure s call call' ∧
        (call' = .answered (.session (some s)) ∨ t.IsClosing c s ∨ t.IsClosed s) := by
    intro s x
    obtain ⟨c, e, call, call', hm, hc, hc', dep⟩ := x.departs
    refine ⟨c, e, call, call', hm, hc, hc', dep, ?_⟩
    cases dep with
    | returned => exact .inl rfl
    | replaced | removed | swept => exact .inr (x.closing ran guarded hc')
  refine ⟨?_, ?_, fun s x y => x.past_unique y guarded, departs, find?_iff_lastPut ran, ?_, ?_⟩
  · -- sessions in the place of the registered ones are open
    intro id s hid
    obtain ⟨p, k⟩ := Placed.exists_place ran guarded s
    obtain ⟨rfl, l, hl, -⟩ := (k.registered id).mp hid
    obtain ⟨x, hx, rfl⟩ := Hub.life?_eq_some hl
    exact ⟨x, hx, k.closed _ hl⟩
  · rintro past future u s rfl reached held lost
    rw [System.run_append, reached] at ran
    exact Exit.exists_exit reached ran held lost
  · -- nothing is returned but by a bare put, and nothing is still being closed
    intro finished s x c e hm bare
    obtain ⟨c', e', call, call', hm', hc, hc', dep, fate⟩ := departs s x
    obtain ⟨rfl, rfl⟩ := Move.step.inj (hm.symm.trans hm')
    rcases fate with rfl | closing | closed
    · cases dep with
      | returned r => exact absurd hc (bare r)
    · exact absurd closing (finished.not_isClosing c s)
    · exact closed
  · intro finished s x hx
    obtain ⟨p, k⟩ := Placed.exists_place ran guarded s
    have life : t.hub.life? s = some x.life := by
      rw [Hub.life?, hx]
      rfl
    have closed : x.closed = p.isClosed := k.closed _ life
    have transports : x.releaseCount .transport = p.transports := k.transports _ life
    rw [closed, transports]
    -- only in the hands of a call can a session be closed and its transport not
    cases p with
    | held c d =>
      have duty := (k.duty c d).mpr rfl
      rw [finished.duty?_eq_none] at duty
      cases duty
    | _ => rfl

/-! ## A schedule of this kind -/

/-- A gateway to nowhere. -/
def strandedGateway : Gateway :=
  { network := Remote.Network.offline, newId := fun _ => "a" }

/-- A session is registered and replaced, while its successor is deleted. -/
def replacement : List Move :=
  let info : Info :=
    { id := "a", target := { host := "h", port := 22 },
      login := { username := "u", secret := .password "p" }, term := "xterm",
      clientIp := .v4 ⟨127, 0, 0, 1⟩, hasTransfer := false }
  [.make info false, .make info false,
    .start (.put 0), .start (.put 1), .start (.delete "a"),
    .step 0 .go, .step 2 .go, .step 1 .go, .step 2 .go,
    .step 2 .go, .step 2 .go, .step 2 .go, .step 2 .go, .step 2 (.released false)]

theorem guarded_replacement : Guarded strandedGateway replacement where
  offered past s future h := by
    simp only [replacement, List.cons_eq_append_iff] at h
    simp at h
    obtain ⟨_, rfl, ⟨rfl, rfl, -⟩ | ⟨rfl, rfl, -⟩⟩ := h
    · exact ⟨by decide, by decide⟩
    · exact ⟨by decide, by decide⟩
  closing s := by simp [replacement]

theorem conserved_replacement : ∃ t,
    System.initial.run strandedGateway replacement = some t ∧
      Guarded strandedGateway replacement ∧ t.Finished ∧ t.IsClosed 1 ∧
        Conserved strandedGateway replacement t := by
  refine ⟨_, rfl, guarded_replacement, by decide, ⟨_, rfl, rfl, rfl⟩, ?_⟩
  exact conserved rfl guarded_replacement

end ShellGateway.Session
