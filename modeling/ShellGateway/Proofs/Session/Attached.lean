import ShellGateway.Proofs.Session.Release

/-!
# One terminal has the shell

Any number of terminals may be attached to a session, while others disconnect it,
sweep it or send it windows. One of them at most gets the shell; those that find it
gone fail, and leave everything as it was. The one that got it takes the session's id
out of the registry before it returns, however it ended, so that the session is
registered no longer, and closed once everybody is done.

As in the conservation of sessions, schedules are those that offer sessions to the
registry as they come and close them through it alone (`Guarded`).
-/

namespace ShellGateway

open Session

/-- Two hubs in which the same is to be found. -/
structure Hub.Same (h h' : Hub) : Prop where
  clock : h'.clock = h.clock
  registered : h'.registered = h.registered
  sessions : ∀ s, h'.sessions.get? s = h.sessions.get? s
  queues : h'.queues = h.queues
  replies : h'.replies = h.replies
  nextSerial : h'.nextSerial = h.nextSerial
  nextQueue : h'.nextQueue = h.nextQueue
  nextTicket : h'.nextTicket = h.nextTicket

namespace Hub

theorem Same.refl (h : Hub) : h.Same h :=
  ⟨rfl, rfl, fun _ => rfl, rfl, rfl, rfl, rfl, rfl⟩

/-- Taking a shell that is not there changes nothing. -/
theorem same_takeShell {h : Hub} {s : Serial} (gone : (h.takeShell s).1 = false) :
    h.Same (h.takeShell s).2 := by
  cases hx : h.sessions.get? s with
  | none =>
    have unchanged : (h.takeShell s).2 = h := by
      show h.modify s _ = h
      unfold modify
      rw [hx]
    rw [unchanged]
    exact Same.refl h
  | some x =>
    have notHere : x.shellHere = false := by
      rw [takeShell, hx] at gone
      exact gone
    have moved : (h.takeShell s).2 =
        { h with sessions := h.sessions.insert s { x with shellHere := false } } := by
      show h.modify s _ = _
      unfold modify
      rw [hx]
    have kept : { x with shellHere := false } = x := by
      cases x
      cases notHere
      rfl
    rw [moved]
    refine ⟨rfl, rfl, fun r => ?_, rfl, rfl, rfl, rfl, rfl⟩
    show (h.sessions.insert s _).get? r = _
    rw [Dictionary.get?_insert, kept]
    by_cases hr : r = s
    · rw [if_pos hr, hr, hx]
    · rw [if_neg hr]

end Hub

namespace Session

/-! ## The course of a terminal -/

/-- The call has not got past asking for a shell. -/
def Call.isBoarding : Call → Bool
  | asked _ | takingShell _ _ _ => true
  | _ => false

/-- Whoever goes on after a removal neither asks for a shell nor has one. -/
theorem Call.at_ofNext (n : Next) : (ofNext n).isBoarding = false ∧ (ofNext n).aboard? = none := by
  cases n <;> exact ⟨rfl, rfl⟩

theorem Call.at_closeRemoved (removed : Option Serial) (n n' : Next) :
    (closeRemoved removed n n').isBoarding = false ∧
      (closeRemoved removed n n').aboard? = none := by
  cases removed with
  | some s => exact ⟨rfl, rfl⟩
  | none => exact at_ofNext n'

/-- A call that comes to ask for a shell has just found the session in the
registry. -/
theorem Piece.lookup {h h' : Hub} {c c' : Call} (piece : Piece h c h' c') (hc : c'.isBoarding) :
    ∃ id s w, c = .asked (.terminal id w) ∧ c' = .takingShell id s w ∧ h' = h ∧
      h.find? id = some s := by
  cases piece with
  | found id s w here => exact ⟨id, s, w, rfl, rfl, rfl, here⟩
  | plain keeps before after =>
    cases c' with
    | asked | takingShell => cases after
    | _ => cases hc
  | aboard id s keeps before after =>
    obtain ⟨w, rfl⟩ | ⟨q, task, rfl⟩ := Call.eq_of_aboard? after
    · cases hc
    · cases hc
  | registered | removed | swept =>
    rw [(Call.at_closeRemoved _ _ _).1] at hc
    cases hc
  | late | transportReleased =>
    rw [(Call.at_ofNext _).1] at hc
    cases hc
  | _ => cases hc

/-- A call that comes to have a shell has just taken it. -/
theorem Piece.boards {h h' : Hub} {c c' : Call} (piece : Piece h c h' c') {id : String} {s : Serial}
    (before : c.aboard? ≠ some (id, s)) (after : c'.aboard? = some (id, s)) :
    ∃ w, c = .takingShell id s w ∧ (h.takeShell s).1 = true := by
  cases piece with
  | boarded id' s' w there =>
    cases after
    exact ⟨w, rfl, there⟩
  | aboard id' s' keeps aboard aboard' =>
    cases after.symm.trans aboard'
    exact absurd aboard before
  | plain keeps plain free =>
    obtain ⟨w, rfl⟩ | ⟨q, task, rfl⟩ := Call.eq_of_aboard? after
    · cases free
    · cases free
  | registered | removed | swept =>
    rw [(Call.at_closeRemoved _ _ _).2] at after
    cases after
  | late | transportReleased =>
    rw [(Call.at_ofNext _).2] at after
    cases after
  | _ => cases after

/-- A call that has a shell keeps it until its terminal has ended, and then gives the
session up. -/
theorem Piece.leaves {h h' : Hub} {c c' : Call} (piece : Piece h c h' c') {id : String} {s : Serial}
    (before : c.aboard? = some (id, s)) (after : c'.aboard? ≠ some (id, s)) :
    ∃ how, c' = .giveUp id (.ofTerminal how) := by
  obtain ⟨w, rfl⟩ | ⟨q, task, rfl⟩ := Call.eq_of_aboard? before
  all_goals
    cases piece with
    | plain keeps plain => cases plain
    | opened info plain => cases plain
    | aboard id' s' keeps aboard aboard' =>
      cases before.symm.trans aboard
      exact absurd aboard' after
    | ashore id' s' how keeps aboard =>
      cases before.symm.trans aboard
      exact ⟨how, rfl⟩

/-- A call that gives a session up and then answers, in all that it does from then
on. -/
inductive Call.Leaving (a : Answer) : Call → Prop where
  | removing (id : String) : Leaving a (removing id (.answer a) (.answer a))
  | closing (s : Serial) (stage : Closing) : Leaving a (closing s stage (.answer a))
  | answered : Leaving a (answered a)

/-- It does nothing else any more. -/
theorem Call.Leaving.step {g : Gateway} {e : Event} {h h' : Hub} {c c' : Call} {a : Answer}
    (leaving : Leaving a c) (hs : c.step g e h = some (h', c')) : Leaving a c' := by
  cases leaving with
  | answered => cases hs
  | removing id =>
    have after : ∀ removed, Leaving a (closeRemoved removed (.answer a) (.answer a)) := by
      intro removed
      cases removed with
      | some s => exact .closing s .marking
      | none => exact .answered
    obtain ⟨-, rfl⟩ := Prod.mk.inj (onGo_eq hs)
    exact after _
  | closing s stage =>
    cases Call.piece hs with
    | plain keeps plain => cases plain
    | opened info plain => cases plain
    | aboard id s keeps aboard => cases aboard
    | ashore id s how keeps aboard => cases aboard
    | late | transportReleased => exact .answered
    | _ => exact .closing s _

/-- A call that gives a session up takes the id out before it returns, and returns
what it meant to. -/
theorem System.exists_removal {g : Gateway} {t u : System} {moves : List Move} {c : CallId}
    {id : String} {a a' : Answer} (ran : t.run g moves = some u)
    (hc : t.calls[c]? = some (.giveUp id a)) (answered : u.answer? c = some a') :
    a' = a ∧ ∃ z : System.Turn g t moves, z.move = .step c .go ∧
      z.before.calls[c]? = some (.removing id (.answer a') (.answer a')) ∧
      z.after.hub = (z.before.hub.remove id).2 := by
  obtain ⟨last, hlast, hanswer⟩ := Option.bind_eq_some_iff.mp answered
  obtain ⟨last', hlast', left⟩ := System.call_lasts Call.Leaving.step ran hc (.removing id)
  obtain rfl := Option.some.inj (hlast.symm.trans hlast')
  obtain rfl : a' = a := by
    cases left with
    | answered => exact (Option.some.inj hanswer).symm
    | _ => cases hanswer
  obtain ⟨z, e, call, h', call', hm, hz, rfl, hstep, hafter, -⟩ := System.exists_step
    (P := (· = .giveUp id a')) ran hc rfl hlast (by rintro rfl; cases hanswer)
  obtain ⟨rfl, -⟩ := Prod.mk.inj (Call.onGo_eq hstep)
  obtain rfl : e = .go := (Option.ite_none_right_eq_some.mp hstep).1
  exact ⟨rfl, z, hm, hz, congrArg System.hub hafter⟩

/-! ## Sessions that were found -/

/-- Sessions in this place are registered, or have been. -/
def Place.wasRegistered (p : Place) : Bool :=
  p = .registered || p.isGone

/-- What has been registered is registered or has left. -/
theorem Advance.wasRegistered {s : Serial} {m : Move} {p p' : Place} (adv : Advance s m p p')
    (hp : p.wasRegistered) : p'.wasRegistered := by
  by_cases registered : p = .registered
  · subst registered
    by_cases still : p' = .registered
    · rw [still]
      rfl
    · rw [Place.wasRegistered, adv.leaves still, Bool.or_true]
  · have gone : p.isGone := by
      unfold Place.wasRegistered at hp
      simpa [registered] using hp
    rw [Place.wasRegistered, adv.isGone gone, Bool.or_true]

variable {g : Gateway} {moves : List Move} {t u : System} {s : Serial} {id : String}

/-- A session that was found under an id has that id for good, and is registered under
it or has left the registry. -/
theorem Guarded.found_lasts {past more : List Move} (guarded : Guarded g (past ++ more))
    (reached : System.initial.run g past = some u) (here : u.hub.find? id = some s)
    (ran : u.run g more = some t) :
    ∃ p, Placed g (past ++ more) t s p ∧ p.wasRegistered ∧
      ∃ l, t.hub.life? s = some l ∧ l.info.id = id := by
  obtain ⟨p, k⟩ := Placed.exists_place reached guarded.take s
  obtain ⟨hp, l, hl, hid⟩ := (k.registered id).mp here
  have made : p ≠ .unmade := by
    rw [hp]
    simp
  obtain ⟨p', k', hp'⟩ := k.lasts (P := (Place.wasRegistered · = true))
    (fun _ _ _ hp adv => adv.wasRegistered hp) reached guarded ran (by rw [hp]; rfl)
  obtain ⟨-, l', hl', info, -⟩ := System.life_lasts ran hl (k.lt_nextSerial made)
  exact ⟨p', k', hp', l', hl', by rw [info, hid]⟩

/-- A session is registered under its own id only: when that is taken out, it has
left. -/
theorem Kept.not_holds_of_removed {p : Place} (k : Kept t s p) {l : Life}
    (hl : t.hub.life? s = some l) (hid : l.info.id = id) : ¬ (t.hub.remove id).2.Holds s := by
  rintro ⟨id', h⟩
  rw [t.hub.find?_remove] at h
  by_cases hi : id' = id
  · rw [if_pos hi] at h
    cases h
  · rw [if_neg hi] at h
    obtain ⟨-, l', hl', hid'⟩ := (k.registered id').mp h
    cases hl.symm.trans hl'
    exact hi (hid'.symm.trans hid)

/-! ## Boarding -/

/-- A move in which a terminal asks for the shell of the session that it has found. -/
structure Boarding (g : Gateway) (moves : List Move)
    extends System.Turn g System.initial moves where
  caller : CallId
  id : String
  session : Serial
  window : Window
  isStep : move = .step caller .go
  stood : before.calls[caller]? = some (.takingShell id session window)

namespace Boarding

/-- The terminal goes on to attend to the shell, or is refused. -/
theorem after_eq (r : Boarding g moves) :
    r.after = r.before.stepped r.caller (r.before.hub.takeShell r.session).2
      (if (r.before.hub.takeShell r.session).1 then .attending r.id r.session r.window
        else .answered (.failed shellTaken)) := by
  have moved := r.moved
  rw [r.isStep] at moved
  obtain ⟨call, h', call', hc, hstep, hafter⟩ := System.move_step_eq_some moved
  obtain rfl := Option.some.inj (hc.symm.trans r.stood)
  obtain ⟨rfl, rfl⟩ := Prod.mk.inj (Call.onGo_eq hstep)
  exact hafter

/-- The terminal has found the session in the registry, and has changed nothing so
far. -/
theorem exists_lookup (r : Boarding g moves) :
    ∃ (x : System.Turn g System.initial r.past) (e : Event), x.move = .step r.caller e ∧
      x.before.calls[r.caller]? = some (.asked (.terminal r.id r.window)) ∧
      x.before.hub.find? r.id = some r.session ∧
      x.after = x.before.stepped r.caller x.before.hub (.takingShell r.id r.session r.window) := by
  obtain ⟨x, e, call, h', call', hm, hc, -, hstep, hx, rfl⟩ := System.exists_arrival
    (P := (· = .takingShell r.id r.session r.window)) (by simp) r.reached
    (fun call hc => by cases hc) r.stood rfl
  obtain ⟨id, s, w, rfl, hcall, rfl, here⟩ := (Call.piece hstep).lookup rfl
  cases hcall
  exact ⟨x, e, hm, hc, here, hx⟩

/-- From then on the session has the id under which it was found, and is registered
under it or has left. -/
theorem found_lasts (r : Boarding g moves) {more : List Move}
    (guarded : Guarded g (r.past ++ [r.move] ++ more)) (ran : r.after.run g more = some t) :
    ∃ p, Placed g (r.past ++ [r.move] ++ more) t r.session p ∧ p.wasRegistered ∧
      ∃ l, t.hub.life? r.session = some l ∧ l.info.id = r.id := by
  obtain ⟨x, e, -, -, here, -⟩ := r.exists_lookup
  have split : r.past ++ [r.move] ++ more =
      x.past ++ (x.move :: x.future ++ [r.move] ++ more) := by
    simpa using congrArg (· ++ [r.move] ++ more) x.split
  have whole : System.initial.run g (r.past ++ [r.move] ++ more) = some t := by
    rw [System.run_append, r.run_past]
    exact ran
  rw [split] at guarded whole ⊢
  obtain ⟨u, hu, hrest⟩ := System.run_append_eq_some whole
  obtain rfl := Option.some.inj (x.reached.symm.trans hu)
  exact guarded.found_lasts x.reached here hrest

/-- A terminal that has the shell returns what its task came to, after it has taken the
session's id out of the registry. -/
theorem exists_removal (r : Boarding g moves) (ran : System.initial.run g moves = some t)
    (there : (r.before.hub.takeShell r.session).1 = true) {a : Answer}
    (answered : t.answer? r.caller = some a) :
    (∃ how, a = .ofTerminal how) ∧ ∃ y : System.Turn g System.initial moves,
      r.toTurn.IsLater y ∧ y.move = .step r.caller .go ∧
      y.before.calls[r.caller]? = some (.removing r.id (.answer a) (.answer a)) ∧
      y.after.hub = (y.before.hub.remove r.id).2 := by
  have boarded := r.after_eq
  rw [if_pos there] at boarded
  have attending : r.after.calls[r.caller]? = some (.attending r.id r.session r.window) := by
    rw [boarded]
    exact System.calls_stepped r.stood _ _
  obtain ⟨last, hlast, hanswer⟩ := Option.bind_eq_some_iff.mp answered
  have returned : last.aboard? ≠ some (r.id, r.session) := by
    intro aboard
    obtain ⟨w, rfl⟩ | ⟨q, task, rfl⟩ := Call.eq_of_aboard? aboard
    · cases hanswer
    · cases hanswer
  -- the terminal ends in some step, and gives the session up from then on
  obtain ⟨x, e, call, h', call', -, hc, aboard, hstep, hx, ashore⟩ := System.exists_step
    (P := fun call => call.aboard? = some (r.id, r.session)) (r.run_future ran) attending rfl hlast
    returned
  obtain ⟨how, rfl⟩ := (Call.piece hstep).leaves aboard ashore
  have leaving : x.after.calls[r.caller]? = some (.giveUp r.id (.ofTerminal how)) := by
    rw [hx]
    exact System.calls_stepped hc _ _
  obtain ⟨rfl, z, hm, hz, hhub⟩ :=
    System.exists_removal (x.run_future (r.run_future ran)) leaving answered
  refine ⟨⟨how, rfl⟩, (z.prepend x.run_past x.split_after).prepend r.run_past r.split_after,
    ⟨x.past ++ [x.move] ++ z.past, ?_⟩, hm, hz, hhub⟩
  show r.past ++ [r.move] ++ (x.past ++ [x.move] ++ z.past) = _
  rw [List.append_assoc]
  rfl

/-- Once the id has been taken out, the session is registered no longer. -/
theorem not_holds_of_removed (r : Boarding g moves) (ran : System.initial.run g moves = some t)
    (guarded : Guarded g moves) {y : System.Turn g System.initial moves}
    (later : r.toTurn.IsLater y) (hy : y.after.hub = (y.before.hub.remove r.id).2) :
    ¬ y.after.hub.Holds r.session ∧ ¬ t.hub.Holds r.session := by
  obtain ⟨between, hpast⟩ := later
  have guarded' : Guarded g (y.past ++ [y.move] ++ y.future) := by
    rw [← y.split_after]
    exact guarded
  have past : r.past ++ [r.move] ++ between = y.past := by
    rw [hpast, List.append_assoc]
    rfl
  obtain ⟨p, k, hp, l, hl, hid⟩ :=
    r.found_lasts (past ▸ guarded'.take.take) (System.Turn.run_between hpast)
  have gone : ¬ y.after.hub.Holds r.session := by
    rw [hy]
    exact k.toKept.not_holds_of_removed hl hid
  refine ⟨gone, ?_⟩
  -- what was registered and is not any more has left for good
  rw [past] at k
  obtain ⟨p', k', adv⟩ := k.move y.reached guarded'.take y.moved
  have left : p'.isGone := by
    have was := adv.wasRegistered hp
    have not : p' ≠ .registered := fun h => gone (k'.holds_iff.mpr h)
    simpa [Place.wasRegistered, not] using was
  obtain ⟨p'', k'', left'⟩ := k'.lasts (P := (Place.isGone · = true))
    (fun _ _ _ hp adv => adv.isGone hp) y.run_past guarded' (y.run_future ran) left
  intro held
  obtain rfl := k''.holds_iff.mp held
  cases left'

/-- A session that a terminal has found and that is registered no longer has left in some
move. -/
theorem exists_exit (r : Boarding g moves) (ran : System.initial.run g moves = some t)
    (lost : ¬ t.hub.Holds r.session) : Nonempty (Exit g moves r.session) := by
  obtain ⟨x, e, -, -, here, -⟩ := r.exists_lookup
  let x' := x.extend r.split
  have rest : x'.before.run g (x'.move :: x'.future) = some t := by
    rw [x'.split, System.run_append, x'.reached] at ran
    exact ran
  have exit := Exit.exists_exit x'.reached rest ⟨r.id, here⟩ lost
  rw [← x'.split] at exit
  exact exit

/-- Whatever else a terminal does that is refused, it leaves everything as it was. -/
theorem same_of_refused (r : Boarding g moves)
    (gone : (r.before.hub.takeShell r.session).1 = false)
    (y : System.Turn g System.initial moves) {e : Event} (hy : y.move = .step r.caller e) :
    y.before.hub.Same y.after.hub := by
  have refused := r.after_eq
  rw [if_neg (by simp [gone])] at refused
  have answered : r.after.calls[r.caller]? = some (.answered (.failed shellTaken)) := by
    rw [refused]
    exact System.calls_stepped r.stood _ _
  have moved := y.moved
  rw [hy] at moved
  obtain ⟨call, h', call', hc, hstep, hafter⟩ := System.move_step_eq_some moved
  rcases r.toTurn.compare y with same | ⟨between, later⟩ | ⟨between, earlier⟩
  · -- it is the step in which it was refused
    have here : y.before = r.before := by
      have reached := y.reached
      rw [same] at reached
      exact Option.some.inj (reached.symm.trans r.reached)
    rw [here] at hc hstep
    obtain rfl := Option.some.inj (hc.symm.trans r.stood)
    obtain ⟨rfl, -⟩ := Prod.mk.inj (Call.onGo_eq hstep)
    rw [hafter, here]
    exact Hub.same_takeShell gone
  · -- after that it has no step
    obtain ⟨call₁, hc₁, rfl⟩ := System.call_lasts (P := (· = .answered (.failed shellTaken)))
      (fun hp hs => by cases hp; cases hs) (System.Turn.run_between later) answered rfl
    obtain rfl := Option.some.inj (hc.symm.trans hc₁)
    cases hstep
  · -- before that it can only have looked the session up
    have boarding : call'.isBoarding := by
      refine Classical.byContradiction fun past => ?_
      obtain ⟨call₁, hc₁, past₁⟩ := System.call_lasts (P := fun call => ¬ call.isBoarding)
        (fun past hs now => by
          obtain ⟨id, s, w, rfl, -⟩ := (Call.piece hs).lookup now
          exact past rfl)
        (System.Turn.run_between earlier) (hafter ▸ System.calls_stepped hc h' call') past
      obtain rfl := Option.some.inj (hc₁.symm.trans r.stood)
      exact past₁ rfl
    obtain ⟨id, s, w, -, -, rfl, -⟩ := (Call.piece hstep).lookup boarding
    rw [hafter]
    exact Hub.Same.refl _

end Boarding

/-! ## One terminal has the shell -/

/-- Nobody gets a shell that another call got. -/
theorem Guarded.one_taker (guarded : Guarded g moves) (ran : System.initial.run g moves = some t)
    (s : Serial) : (shellTakers g System.initial moves s).length ≤ 1 := by
  cases hx : t.hub.sessions.get? s with
  | none =>
    rw [guarded.shellTakers_eq_nil ran (congrArg (Option.map Session.life) hx)]
    exact Nat.zero_le _
  | some x =>
    -- from when the session was made, the shell is in one place at a time
    obtain ⟨past, future, u, y, rfl, hu, unclosed, nobody⟩ := guarded.exists_unclosed ran hx
    rw [System.run_append, hu] at ran
    obtain ⟨k, gr, -⟩ := unclosed.gripped.run ran
    obtain ⟨own, -, ho⟩ := gr.owned
    have shells := ho.shells
    have shell := Bool.toNat_le y.shellHere
    rw [shellTakers] at nobody
    rw [shellTakers, System.trail_append _ _ hu, nobody, List.nil_append]
    omega

/-- Whoever is at a terminal got the shell. -/
theorem mem_shellTakers (ran : System.initial.run g moves = some t) {c : CallId}
    (aboard : (t.calls[c]? >>= Call.aboard?) = some (id, s)) :
    c ∈ shellTakers g System.initial moves s := by
  obtain ⟨last, hlast, haboard⟩ := Option.bind_eq_some_iff.mp aboard
  obtain ⟨x, e, call, h', call', hm, hc, before, hstep, -, after⟩ := System.exists_arrival
    (P := fun call => call.aboard? = some (id, s)) (fun r h => by cases h) ran
    (fun call hc => by cases hc) hlast haboard
  obtain ⟨w, rfl, there⟩ := (Call.piece hstep).boards before after
  refine x.mem_trail ?_
  have wanted : (x.before.calls[c]? >>= Call.wants?) = some s := by
    rw [hc]
    rfl
  rw [hm, System.handing, if_pos ⟨wanted, there⟩]
  exact List.mem_singleton_self c

/-- What holds of terminals along a schedule that leads to system `t`. -/
structure OneTerminal (g : Gateway) (moves : List Move) (t : System) : Prop where
  /-- At most one call ever gets the shell of a session. -/
  one_taker : ∀ s, (shellTakers g System.initial moves s).length ≤ 1
  /-- Whoever is at a terminal of the session is that call. -/
  at_terminal : ∀ c id s, (t.calls[c]? >>= Call.aboard?) = some (id, s) →
    shellTakers g System.initial moves s = [c]
  /-- A terminal that finds the shell gone fails for that reason, and none of its steps has
  changed anything. -/
  refused : ∀ r : Boarding g moves, (r.before.hub.takeShell r.session).1 = false →
    t.answer? r.caller = some (.failed shellTaken) ∧
      ∀ (y : System.Turn g System.initial moves) (e : Event), y.move = .step r.caller e →
        y.before.hub.Same y.after.hub
  /-- A terminal that got the shell returns what became of it. It has taken the id out of
  the registry before, and the session is registered no longer. -/
  returned : ∀ r : Boarding g moves, (r.before.hub.takeShell r.session).1 = true →
    ∀ a, t.answer? r.caller = some a →
      (∃ how, a = .ofTerminal how) ∧
      (∃ y : System.Turn g System.initial moves, r.toTurn.IsLater y ∧
        y.move = .step r.caller .go ∧
        y.before.calls[r.caller]? = some (.removing r.id (.answer a) (.answer a)) ∧
        y.after.hub = (y.before.hub.remove r.id).2 ∧ ¬ y.after.hub.Holds r.session) ∧
      ¬ t.hub.Holds r.session
  /-- Once all calls have come to their end, the session is closed, unless it was replaced
  by a bare put. -/
  closed : t.Finished → ∀ r : Boarding g moves,
    (r.before.hub.takeShell r.session).1 = true →
    (∀ x : Exit g moves r.session, ∀ c e, x.move = .step c e →
      ∀ p, x.before.calls[c]? ≠ some (.asked (.put p))) → t.IsClosed r.session

/-- **One terminal has the shell, and cleans up**, however terminals interleave with
each other and with whatever else goes on. -/
theorem one_terminal (ran : System.initial.run g moves = some t) (guarded : Guarded g moves) :
    OneTerminal g moves t := by
  constructor
  case one_taker => exact fun s => guarded.one_taker ran s
  case at_terminal =>
    intro c id s aboard
    have taker := mem_shellTakers ran aboard
    cases htakers : shellTakers g System.initial moves s with
    | nil =>
      rw [htakers] at taker
      cases taker
    | cons d rest =>
      have one := guarded.one_taker ran s
      rw [htakers] at taker one
      obtain rfl : rest = [] :=
        List.eq_nil_of_length_eq_zero (Nat.le_zero.mp (Nat.le_of_succ_le_succ one))
      rw [List.mem_singleton.mp taker]
  case refused =>
    intro r gone
    refine ⟨?_, fun y e hy => r.same_of_refused gone y hy⟩
    have refused := r.after_eq
    rw [if_neg (by simp [gone])] at refused
    obtain ⟨call, hc, rfl⟩ := System.call_lasts (P := (· = .answered (.failed shellTaken)))
      (fun hp hs => by cases hp; cases hs) (r.run_future ran)
      (refused ▸ System.calls_stepped r.stood _ _) rfl
    rw [System.answer?, hc]
    rfl
  case returned =>
    intro r there a answered
    obtain ⟨how, y, later, hm, hc, hy⟩ := r.exists_removal ran there answered
    obtain ⟨gone, lost⟩ := r.not_holds_of_removed ran guarded later hy
    exact ⟨how, ⟨y, later, hm, hc, hy, gone⟩, lost⟩
  case closed =>
    intro finished r there bare
    obtain ⟨call, hcall, -⟩ := System.call_lasts (P := fun _ => True) (fun h _ => h)
      (r.run_future ran) (r.after_eq ▸ System.calls_stepped r.stood _ _) trivial
    obtain ⟨a, ha⟩ := Option.isSome_iff_exists.mp (finished call (List.mem_of_getElem? hcall))
    have answered : t.answer? r.caller = some a := by
      rw [System.answer?, hcall]
      exact ha
    obtain ⟨-, y, later, -, -, hy⟩ := r.exists_removal ran there answered
    obtain ⟨-, lost⟩ := r.not_holds_of_removed ran guarded later hy
    -- the session has left in some move, and whoever took it out has closed it
    obtain ⟨x⟩ := r.exists_exit ran lost
    obtain ⟨c, e, call, call', hm, hc, hc', departure⟩ := x.departs
    cases departure with
    | returned p => exact absurd hc (bare x c e hm p)
    | replaced | removed | swept =>
      exact (x.closing ran guarded hc').resolve_left (finished.not_isClosing c r.session)

/-! ## Two terminals -/

/-- Two terminals are attached to one session. The task of the one that gets the shell
breaks down. -/
def twoTerminals : List Move :=
  [.make (someInfo "a") true, .start (.put 0), .step 0 .go,
    .start (.terminal "a" { width := 80, height := 24 }),
    .start (.terminal "a" { width := 80, height := 24 }),
    .step 1 .go, .step 2 .go, .step 1 .go, .step 2 .go, .step 1 .go, .step 1 (.terminal .brokeDown),
    .step 1 .go, .step 1 .go, .step 1 .go, .step 1 (.released false), .step 1 .go,
    .step 1 (.released false)]

theorem guarded_twoTerminals : Guarded strandedGateway twoTerminals where
  offered past s future h := by
    simp only [twoTerminals, List.cons_eq_append_iff] at h
    simp at h
    obtain ⟨rfl, rfl, -⟩ := h
    exact ⟨by decide, by decide⟩
  closing s := by simp [twoTerminals]

theorem one_terminal_twoTerminals : ∃ t,
    System.initial.run strandedGateway twoTerminals = some t ∧
      Guarded strandedGateway twoTerminals ∧ t.Finished ∧ t.IsClosed 0 ∧
        t.answer? 1 = some (.failed (.session "terminal bridge panicked")) ∧
          t.answer? 2 = some (.failed shellTaken) ∧ OneTerminal strandedGateway twoTerminals t := by
  refine ⟨_, rfl, guarded_twoTerminals, by decide, ⟨_, rfl, rfl, rfl⟩, rfl, rfl, ?_⟩
  exact one_terminal rfl guarded_twoTerminals

end Session

end ShellGateway
