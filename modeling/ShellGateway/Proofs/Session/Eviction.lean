import ShellGateway.Proofs.Session.Sweeping

/-!
# A sweep evicts what is stale

Under whatever interference, a sweep takes out no session that is not stale in that
very step; it closes each that it takes out, and counts them (`SweptStale`). On its own,
it takes out all that were stale and leaves the others alone, and a second sweep finds
nothing to do (`SweptAlone`).
-/

namespace ShellGateway.Session

variable {g : Gateway} {u t : System} {c : CallId} {moves : List Move} {maxIdle : Nat}

/-! ## A sweep on its own -/

/-- A closing changes nothing about other sessions, nor how long its own has been idle. -/
theorem closing_only {g : Gateway} {e : Event} {h h' : Hub} {c' : Call} {s : Serial}
    {stage : Closing} {next : Next} (hs : (Call.closing s stage next).step g e h = some (h', c')) :
    Hub.Frame Session.idleSince h h' ∧
      ∀ r, r ≠ s → h'.sessions.get? r = h.sessions.get? r := by
  have modified : ∀ f : Session → Session, (∀ x, (f x).idleSince = x.idleSince) →
      Hub.Frame Session.idleSince h (h.modify s f) ∧
        ∀ r, r ≠ s → (h.modify s f).sessions.get? r = h.sessions.get? r := by
    intro f hf
    refine ⟨h.frame_modify s hf, fun r hr => ?_⟩
    rw [h.get?_modify, if_neg hr]
  cases stage with
  | marking =>
    obtain ⟨-, rfl, -⟩ := Call.step_marking hs
    exact modified _ fun _ => rfl
  | takingControl =>
    simp only [Call.step, Call.stepClosing, Option.ite_none_right_eq_some, Option.some.injEq,
      Prod.mk.injEq] at hs
    obtain ⟨-, rfl, -⟩ := hs
    exact modified _ fun _ => rfl
  | signalling q =>
    simp only [Call.step, Call.stepClosing, Option.ite_none_right_eq_some, Option.some.injEq,
      Prod.mk.injEq] at hs
    obtain ⟨-, rfl, -⟩ := hs
    -- a step on a queue shows in nothing about any session
    have framed : ∀ {α : Type} (view : Session → α),
        Hub.Frame view h ((h.trySend q .close).dropSender q) := fun view =>
      (h.frame_trySend q .close).trans (Hub.frame_dropSender _ q)
    refine ⟨framed _, fun r _ => ?_⟩
    simpa using (framed fun x => x).sessions r
  | releasingTransfer =>
    simp only [Call.step, Call.stepClosing] at hs
    split at hs
    · cases e with
      | released failed =>
        obtain ⟨rfl, -⟩ := Prod.mk.inj (Option.some.inj hs)
        exact modified _ fun _ => rfl
      | _ => cases hs
    · simp only [Option.ite_none_right_eq_some, Option.some.injEq, Prod.mk.injEq] at hs
      obtain ⟨-, rfl, -⟩ := hs
      exact ⟨Hub.Frame.refl _ h, fun _ _ => rfl⟩
  | takingShell =>
    simp only [Call.step, Call.stepClosing, Option.ite_none_right_eq_some, Option.some.injEq,
      Prod.mk.injEq] at hs
    obtain ⟨-, rfl, -⟩ := hs
    exact modified _ fun _ => rfl
  | releasingShell | releasingTransport =>
    cases e with
    | released failed =>
      obtain ⟨rfl, -⟩ := Prod.mk.inj (Option.some.inj hs)
      exact modified _ fun _ => rfl
    | _ => cases hs

/-- What a sweep has left of hub `u` by the time it has the ids `stale` before it, if
nothing else goes on. -/
structure Spared (u : Hub) (maxIdle : Nat) (stale : List String) (h : Hub) : Prop where
  clock : h.clock = u.clock
  since : ∀ s, (h.sessions.get? s).map (·.idleSince) = (u.sessions.get? s).map (·.idleSince)
  fresh : ∀ s x, u.sessions.get? s = some x → x.idle u.clock ≤ maxIdle →
    h.sessions.get? s = some x
  left : ∀ id, h.find? id = u.find? id ∨ h.find? id = none
  kept : ∀ id, u.staleAt maxIdle id = false → h.find? id = u.find? id
  gone : ∀ id, u.staleAt maxIdle id = true → id ∉ stale → h.find? id = none

namespace Spared

variable {h h' u : Hub} {stale : List String}

/-- Every session has been idle for as long as it had been. -/
theorem idle_eq (sp : Spared u maxIdle stale h) (s : Serial) :
    (h.sessions.get? s).map (·.idle h.clock) = (u.sessions.get? s).map (·.idle u.clock) := by
  have idles : ∀ v : Hub, v.clock = u.clock → (v.sessions.get? s).map (·.idle v.clock) =
      ((v.sessions.get? s).map (·.idleSince)).map ((u.clock : Int) - ·) := by
    intro v same
    rw [Option.map_map, same]
    rfl
  rw [idles h sp.clock, idles u rfl, sp.since s]

/-- What is still registered is as stale as it was. -/
theorem staleAt_eq (sp : Spared u maxIdle stale h) {id : String} (same : h.find? id = u.find? id)
    (allowed : Nat) : h.staleAt allowed id = u.staleAt allowed id := by
  refine Bool.eq_iff_iff.mpr ?_
  rw [Hub.staleAt_eq_true, Hub.staleAt_eq_true, same]
  refine exists_congr fun s => ?_
  have idle := sp.idle_eq s
  constructor
  · rintro ⟨x, hs, hx, hidle⟩
    rw [hx] at idle
    obtain ⟨y, hy, hyx⟩ := Option.map_eq_some_iff.mp idle.symm
    exact ⟨y, hs, hy, hyx ▸ hidle⟩
  · rintro ⟨y, hs, hy, hidle⟩
    rw [hy] at idle
    obtain ⟨x, hx, hxy⟩ := Option.map_eq_some_iff.mp idle
    exact ⟨x, hs, hx, hxy ▸ hidle⟩

theorem start (u : Hub) (maxIdle : Nat) : Spared u maxIdle (u.staleIds maxIdle) u where
  clock := rfl
  since _ := rfl
  fresh _ _ hx _ := hx
  left _ := .inl rfl
  kept _ _ := rfl
  gone _ stale notListed := absurd (Hub.mem_staleIds stale) notListed

/-- An id that is not stale any more is passed over. -/
theorem skip {id : String} (sp : Spared u maxIdle (id :: stale) h)
    (notStale : h.staleAt maxIdle id = false) : Spared u maxIdle stale h where
  clock := sp.clock
  since := sp.since
  fresh := sp.fresh
  left := sp.left
  kept := sp.kept
  gone id' old notListed := by
    by_cases hid : id' = id
    · subst hid
      rcases sp.left id' with same | none
      · rw [sp.staleAt_eq same, old] at notStale
        cases notStale
      · exact none
    · exact sp.gone id' old (by simp [hid, notListed])

/-- An id that is stale is taken out, and the others are left. -/
theorem remove {id : String} (sp : Spared u maxIdle (id :: stale) h)
    (hstale : h.staleAt maxIdle id = true) : Spared u maxIdle stale (h.remove id).2 := by
  obtain ⟨s, x, hs, -, -⟩ := Hub.staleAt_eq_true.mp hstale
  have removed : (h.remove id).2 = { h with registered := h.registered.erase id } := by
    unfold Hub.remove
    rw [hs]
  have found := h.find?_remove id
  rw [removed] at found ⊢
  refine ⟨sp.clock, sp.since, sp.fresh, ?_, ?_, ?_⟩
  · intro id'
    rw [found]
    by_cases hid : id' = id
    · exact .inr (if_pos hid)
    · rw [if_neg hid]
      exact sp.left id'
  · intro id' young
    rw [found]
    by_cases hid : id' = id
    · -- it was stale from the start
      subst hid
      rw [sp.staleAt_eq (sp.kept id' young), young] at hstale
      cases hstale
    · rw [if_neg hid]
      exact sp.kept id' young
  · intro id' old listed
    rw [found]
    by_cases hid : id' = id
    · exact if_pos hid
    · rw [if_neg hid]
      exact sp.gone id' old (by simp [hid, listed])

/-- Closing a session that was stale does not show in the others. -/
theorem closing {s : Serial} {x : Session} (sp : Spared u maxIdle stale h)
    (found : u.sessions.get? s = some x) (old : (maxIdle : Int) < x.idle u.clock)
    (frame : Hub.Frame Session.idleSince h h')
    (others : ∀ r, r ≠ s → h'.sessions.get? r = h.sessions.get? r) : Spared u maxIdle stale h' where
  clock := frame.clock.trans sp.clock
  since r := (frame.sessions r).trans (sp.since r)
  fresh r y hy hidle := by
    have other : r ≠ s := by
      rintro rfl
      obtain rfl := Option.some.inj (found.symm.trans hy)
      exact absurd old (Int.not_lt.mpr hidle)
    rw [others r other]
    exact sp.fresh r y hy hidle
  left id := by
    rw [frame.find?]
    exact sp.left id
  kept id := by
    rw [frame.find?]
    exact sp.kept id
  gone id := by
    rw [frame.find?]
    exact sp.gone id

end Spared

/-- Where a sweep stands that nothing interferes with. -/
inductive Undisturbed (u : Hub) (maxIdle : Nat) (h : Hub) : Call → Prop where
  | asked (same : h = u) : Undisturbed u maxIdle h (.asked (.sweep maxIdle))
  | looking {stale : List String} (evicted : Nat) (sp : Spared u maxIdle stale h) :
      Undisturbed u maxIdle h (.sweeping maxIdle stale evicted)
  | closing {stale : List String} (evicted : Nat) (sp : Spared u maxIdle stale h) (s : Serial)
      (stage : Closing) {x : Session} (found : u.sessions.get? s = some x)
      (old : (maxIdle : Int) < x.idle u.clock) :
      Undisturbed u maxIdle h (.closing s stage (.sweep maxIdle stale evicted))
  | answered (a : Answer) (sp : Spared u maxIdle [] h) : Undisturbed u maxIdle h (.answered a)

theorem Undisturbed.step {g : Gateway} {e : Event} {u h h' : Hub} {call call' : Call}
    (un : Undisturbed u maxIdle h call) (hs : call.step g e h = some (h', call')) :
    Undisturbed u maxIdle h' call' := by
  cases un with
  | asked same =>
    obtain ⟨rfl, rfl⟩ := Prod.mk.inj (Call.onGo_eq hs)
    subst same
    exact .looking 0 (Spared.start h maxIdle)
  | @looking stale evicted sp =>
    cases stale with
    | nil =>
      obtain ⟨rfl, rfl⟩ := Prod.mk.inj (Call.onGo_eq hs)
      exact .answered _ sp
    | cons id rest =>
      rcases Call.step_sweeping hs with
        ⟨young, -, rfl, rfl⟩ | ⟨hstale, s, -, hfound, -, -, -, rfl, rfl⟩
      · exact .looking evicted (sp.skip young)
      · -- what it takes out was stale from the start
        have same : h.find? id = u.find? id := (sp.left id).resolve_right (by simp [hfound])
        obtain ⟨s', y, hfound', hy, hidle⟩ :=
          Hub.staleAt_eq_true.mp ((sp.staleAt_eq same maxIdle).symm.trans hstale)
        obtain rfl := Option.some.inj (hfound'.symm.trans (same.symm.trans hfound))
        exact .closing (evicted + 1) (sp.remove hstale) s' .marking hy hidle
  | @closing stale evicted sp s stage x found old =>
    obtain ⟨frame, others⟩ := closing_only hs
    have spared := sp.closing found old frame others
    rcases closing_cases hs with rfl | ⟨stage', -, rfl⟩
    · exact .looking evicted spared
    · exact .closing evicted spared s stage' found old
  | answered a sp => cases hs

theorem Undisturbed.run {u t : System} (ran : u.run g moves = some t)
    (alone : ∀ m ∈ moves, ∃ e, m = .step c e) {call : Call} {v : Hub}
    (hc : u.calls[c]? = some call) (un : Undisturbed v maxIdle u.hub call) :
    ∃ call', t.calls[c]? = some call' ∧ Undisturbed v maxIdle t.hub call' := by
  induction moves generalizing u call with
  | nil =>
    obtain rfl := Option.some.inj ran
    exact ⟨call, hc, un⟩
  | cons m rest ih =>
    obtain ⟨w, hm, hrest⟩ := System.run_cons_eq_some ran
    obtain ⟨e, rfl⟩ := alone m List.mem_cons_self
    obtain ⟨call', h', call'', hc', hstep, rfl⟩ := System.move_step_eq_some hm
    obtain rfl := Option.some.inj (hc'.symm.trans hc)
    exact ih hrest (fun m hm => alone m (List.mem_cons_of_mem _ hm))
      (System.calls_stepped hc h' call'') (un.step hstep)

/-- What a sweep of system `u` has done that has ended in system `t`, if nothing else has
happened. -/
structure SweptAlone (g : Gateway) (u : System) (maxIdle : Nat) (t : System) : Prop where
  /-- What is left are the sessions that have not been idle for too long. -/
  left : ∀ id s, t.hub.find? id = some s ↔
    u.hub.find? id = some s ∧ ∀ x, u.hub.sessions.get? s = some x → x.idle u.hub.clock ≤ maxIdle
  /-- They are as they were. -/
  untouched : ∀ s x, u.hub.sessions.get? s = some x → x.idle u.hub.clock ≤ maxIdle →
    t.hub.sessions.get? s = some x
  /-- Another sweep that allows as much evicts nothing, and changes nothing. -/
  again : ∀ maxIdle', maxIdle ≤ maxIdle' →
    t.run g [.start (.sweep maxIdle'), .step t.calls.length .go, .step t.calls.length .go] =
      some { t with calls := t.calls ++ [.answered (.count 0)] }

/-- A sweep that finds nothing stale is over at once. -/
theorem run_sweep_of_staleIds (g : Gateway) {t : System} (nothing : t.hub.staleIds maxIdle = []) :
    t.run g [.start (.sweep maxIdle), .step t.calls.length .go, .step t.calls.length .go] =
      some { t with calls := t.calls ++ [.answered (.count 0)] } := by
  have replaced : ∀ a b : Call, (t.calls ++ [a]).set t.calls.length b = t.calls ++ [b] := by
    intro a b
    rw [List.set_append_right _ _ (Nat.le_refl _), Nat.sub_self]
    rfl
  -- the call that was started last takes a step that leaves the hub alone
  have stepped : ∀ {a b : Call}, a.step g .go t.hub = some (t.hub, b) →
      System.move g { t with calls := t.calls ++ [a] } (.step t.calls.length .go) =
        some { t with calls := t.calls ++ [b] } := by
    intro a b hab
    simp only [System.move, List.getElem?_concat_length, Option.bind_eq_bind, Option.bind_some, hab,
      replaced]
    rfl
  have scans : (Call.asked (.sweep maxIdle)).step g .go t.hub =
      some (t.hub, .sweeping maxIdle [] 0) := by
    show some (t.hub, Call.sweeping maxIdle (t.hub.staleIds maxIdle) 0) = _
    rw [nothing]
  have ends : (Call.sweeping maxIdle [] 0).step g .go t.hub =
      some (t.hub, .answered (.count 0)) := rfl
  have asks : t.move g (.start (.sweep maxIdle)) =
      some { t with calls := t.calls ++ [.asked (.sweep maxIdle)] } := rfl
  simp only [System.run, asks, stepped scans, stepped ends, Option.bind_eq_bind, Option.bind_some]

theorem Spared.sweptAlone {u t : System} (g : Gateway) (sp : Spared u.hub maxIdle [] t.hub) :
    SweptAlone g u maxIdle t := by
  have gone : ∀ id s x, u.hub.find? id = some s → u.hub.sessions.get? s = some x →
      (maxIdle : Int) < x.idle u.hub.clock → t.hub.find? id = none := by
    intro id s x hs hx hidle
    exact sp.gone id (Hub.staleAt_eq_true.mpr ⟨s, x, hs, hx, hidle⟩) List.not_mem_nil
  refine ⟨fun id s => ⟨fun hs => ?_, fun ⟨hs, young⟩ => ?_⟩, sp.fresh, fun maxIdle' hle => ?_⟩
  · have before : u.hub.find? id = some s :=
      ((sp.left id).resolve_right (by simp [hs])).symm.trans hs
    refine ⟨before, fun x hx => Int.not_lt.mp fun hidle => ?_⟩
    cases hs.symm.trans (gone id s x before hx hidle)
  · refine (sp.kept id (Bool.eq_false_iff.mpr fun stale => ?_)).trans hs
    obtain ⟨r, x, hr, hx, hidle⟩ := Hub.staleAt_eq_true.mp stale
    obtain rfl := Option.some.inj (hr.symm.trans hs)
    exact absurd hidle (Int.not_lt.mpr (young x hx))
  · refine run_sweep_of_staleIds g (List.filter_eq_nil_iff.mpr fun id _ stale => ?_)
    -- what is stale now was stale before, by a smaller allowance
    obtain ⟨s, -, hs, -, -⟩ := Hub.staleAt_eq_true.mp stale
    have same : t.hub.find? id = u.hub.find? id := (sp.left id).resolve_right (by simp [hs])
    obtain ⟨r, x, hr, hx, hidle⟩ :=
      Hub.staleAt_eq_true.mp ((sp.staleAt_eq same maxIdle').symm.trans stale)
    cases hs.symm.trans (gone id r x hr hx (by omega))

/-! ## Sweeping -/

/-- What call `c`, which was asked for a sweep in system `u`, does along a schedule that
leads from there to system `t`. -/
structure SweptStale (g : Gateway) (u : System) (c : CallId) (maxIdle : Nat) (moves : List Move)
    (t : System) : Prop where
  /-- A session that it takes out of the registry has been idle for too long in the very
  step that takes it out. -/
  stale : ∀ y : System.Turn g u moves, ∀ e, y.move = .step c e → ∀ id s,
    y.before.hub.find? id = some s → y.after.hub.find? id ≠ some s →
    y.before.noting c Call.evicts y.move = [s] ∧ ∃ x, y.before.hub.sessions.get? s = some x ∧
      (maxIdle : Int) < x.idle y.before.hub.clock
  /-- It notes down nothing that it does not take out. -/
  taken_out : ∀ y : System.Turn g u moves, ∀ s ∈ y.before.noting c Call.evicts y.move,
    ∃ id, y.before.hub.find? id = some s ∧ y.after.hub.find? id = none
  /-- It answers how many it has taken out. -/
  count : ∀ a, t.answer? c = some a → a = .count (evictions g u c moves).length
  /-- By then it has seen to the closing of each of them, in this order. -/
  closes : (t.answer? c).isSome → closings g u c moves = evictions g u c moves ∧
    ∀ s ∈ evictions g u c moves, ∃ x, t.hub.sessions.get? s = some x ∧ x.closed = true
  /-- If sessions go by the registry, nobody closes them before it does, and by the time
  it answers their transports were closed once. -/
  closes_itself : ∀ past, System.initial.run g past = some u → Guarded g (past ++ moves) →
    (∀ y : System.Turn g u moves, ∀ s next,
      y.before.calls[c]? = some (.closing s .marking next) →
        (y.before.hub.markClosed s).1 = false) ∧
    ((t.answer? c).isSome → ∀ s ∈ evictions g u c moves, t.IsClosed s)
  /-- It can answer, whatever fails. -/
  can_answer : ∀ failed, ∃ v, System.GoesOn g c failed t v ∧ (v.answer? c).isSome
  /-- What it leaves if nothing else goes on. -/
  alone : (∀ m ∈ moves, ∃ e, m = .step c e) → (t.answer? c).isSome → SweptAlone g u maxIdle t

/-- **A sweep evicts what is stale**, however it interleaves with other calls. -/
theorem swept_stale (ran : u.run g moves = some t)
    (hc : u.calls[c]? = some (.asked (.sweep maxIdle))) (numbered : u.hub.Numbered) :
    SweptStale g u c maxIdle moves t := by
  obtain ⟨call, hcall, sw⟩ := Sweeping.run ran hc
  -- where it stands once it has answered
  have ended : ∀ a, t.answer? c = some a → call = .answered a := by
    intro a ha
    rw [System.answer?, hcall] at ha
    cases call with
    | answered b =>
      obtain rfl := Option.some.inj ha
      rfl
    | _ => cases ha
  constructor
  case stale =>
    intro y e hm id s found lost
    obtain ⟨now, hnow, swNow⟩ := Sweeping.run y.reached hc
    have moved := y.moved
    rw [hm] at moved ⊢
    obtain ⟨_, h', call', hcall', hstep, hafter⟩ := System.move_step_eq_some moved
    obtain rfl := Option.some.inj (hcall'.symm.trans hnow)
    rw [hafter] at lost
    rw [System.noting_step hnow]
    exact swNow.stale hstep found lost
  case taken_out =>
    intro y s hs
    rcases System.own_or_other y.moved c with ⟨e, now, h', call', hm, hnow, hstep, hafter⟩ | other
    · rw [hm, System.noting_step hnow] at hs
      obtain ⟨id, found, gone, -⟩ := Call.of_mem_evicts hstep hs
      rw [hafter]
      exact ⟨id, found, gone⟩
    · rw [System.noting_other other] at hs
      cases hs
  case count =>
    intro a ha
    obtain rfl := ended a ha
    cases sw with
    | answered even => rfl
  case closes =>
    intro answered
    obtain ⟨a, ha⟩ := Option.isSome_iff_exists.mp answered
    obtain rfl := ended a ha
    have even : closings g u c moves = evictions g u c moves := by
      cases sw with
      | answered even => exact even
    refine ⟨even, fun s hs => ?_⟩
    rw [← even] at hs
    obtain ⟨l, hl, closed⟩ := shut_closed ran hc numbered s hs
    obtain ⟨x, hx, rfl⟩ := Hub.life?_eq_some hl
    exact ⟨x, hx, closed⟩
  case closes_itself =>
    intro past reached guarded
    refine ⟨fun y s next marking => ?_, fun answered s hs => ?_⟩
    · have reached' : System.initial.run g (past ++ y.past) = some y.before := by
        rw [System.run_append, reached]
        exact y.reached
      rw [y.split, ← List.append_assoc] at guarded
      exact open_of_marking reached' guarded.take marking
    · obtain ⟨a, ha⟩ := Option.isSome_iff_exists.mp answered
      obtain rfl := ended a ha
      obtain ⟨p, k, hp⟩ := evicted_isClosing reached ran guarded s hs
      refine (k.of_isClosing hp).resolve_left ?_
      rintro ⟨stage, next, hclosing⟩
      cases hcall.symm.trans hclosing
  case can_answer => exact sw.can_answer g hcall
  case alone =>
    intro own answered
    obtain ⟨a, ha⟩ := Option.isSome_iff_exists.mp answered
    obtain ⟨call', hcall', un⟩ := Undisturbed.run ran own hc (.asked rfl)
    obtain rfl := Option.some.inj (hcall'.symm.trans hcall)
    obtain rfl := ended a ha
    cases un with
    | answered _ sp => exact sp.sweptAlone g

/-! ## A session that comes in between -/

/-- Sessions `a` and `b` have been idle for 20 when a sweep for those over 10 is asked
for. -/
def beforeSweep : List Move :=
  [.make (someInfo "a") true, .make (someInfo "b") true, .start (.put 0), .start (.put 1),
    .step 0 .go, .step 1 .go, .wait 20, .make (someInfo "b") true, .start (.sweep 10)]

/-- Another session is put under `b` after the sweep has looked for stale ones. The
sweep leaves it alone, and evicts `a`; all releases fail. -/
def sweepRace : List Move :=
  [.step 2 .go, .start (.put 2), .step 3 .go, .step 2 .go, .step 2 .go, .step 2 .go, .step 2 .go,
    .step 2 (.released true), .step 2 .go, .step 2 (.released true), .step 2 (.released true),
    .step 2 .go]

theorem swept_stale_sweepRace : ∃ u t, System.initial.run strandedGateway beforeSweep = some u ∧
    u.run strandedGateway sweepRace = some t ∧ u.calls[2]? = some (.asked (.sweep 10)) ∧
      u.hub.Numbered ∧ t.answer? 2 = some (.count 1) ∧ t.hub.find? "b" = some 2 ∧
        SweptStale strandedGateway u 2 10 sweepRace t := by
  have reached : System.initial.run strandedGateway beforeSweep = some _ := rfl
  have numbered := System.numbered reached System.numbered_initial
  exact ⟨_, _, rfl, rfl, rfl, numbered, rfl, by decide, swept_stale rfl rfl numbered⟩

end ShellGateway.Session
