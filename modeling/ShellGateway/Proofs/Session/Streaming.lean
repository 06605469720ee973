import ShellGateway.Proofs.Session.Touching
import ShellGateway.Proofs.Terminal.Transparency

/-!
# Which traffic keeps a session

A terminal relays in both directions, and a sweep goes by when activity was recorded last.
Input from the web client makes the session active in the very step that sends it on; output
of the remote host is written to the stream, and changes nothing in the hub.

So input keeps a session for as long as sweeps allow, and output does not. A sweep that comes
to a session takes it out exactly if more time than it allows has passed since activity was
recorded last (`rousings`), neither earlier nor later, whatever output was relayed meanwhile.
`input_keeps` says so for every schedule. A session can thus be evicted in the very moment in
which its terminal relays (`streaming_evicted`).
-/

namespace ShellGateway.Session

variable {g : Gateway} {u t v : System} {moves : List Move} {s : Serial}

/-! ## Activity along a schedule -/

/-- The sessions whose activity is recorded along a schedule, one after the other. -/
def rousings (g : Gateway) (u : System) (moves : List Move) : List Serial :=
  u.trail (fun t m => (t.rouses? m).toList) g moves

/-- A step that records no activity of a session leaves it idle since when it was. -/
theorem Stirring.keeps_idleSince {e : Event} {h h' : Hub} {c : Call} (stirring : Stirring e h c h')
    (numbered : h.Numbered) (quiet : c.rouses? e ≠ some s) {k : Conduct}
    (hk : h.conduct? s = some k) :
    ∃ k', h'.conduct? s = some k' ∧ k'.idleSince = k.idleSince := by
  cases stirring with
  | calm calm => exact ⟨k, (calm.conduct s).trans hk, rfl⟩
  | made info shellHere =>
    obtain ⟨x, hx, rfl⟩ := Option.map_eq_some_iff.mp hk
    -- a session that is made has a serial of its own
    have old : s ≠ h.nextSerial := Nat.ne_of_lt (numbered s x hx)
    refine ⟨x.conduct, ?_, rfl⟩
    unfold Hub.conduct? Hub.make
    dsimp only
    rw [Dictionary.get?_insert, if_neg old]
    exact hk
  | roused r rouses calm =>
    have other : s ≠ r := by
      rintro rfl
      exact quiet rouses
    refine ⟨k, ?_, rfl⟩
    rw [calm.conduct, h.conduct?_touch, if_neg other]
    exact hk
  | detached r next =>
    rw [h.conduct?_takeControl]
    split
    · rename_i same
      subst same
      exact ⟨_, congrArg (Option.map _) hk, rfl⟩
    · exact ⟨k, hk, rfl⟩
  | installed r installs calm =>
    rw [calm.conduct, h.conduct?_attach]
    split
    · rename_i same
      subst same
      exact ⟨_, congrArg (Option.map _) hk, rfl⟩
    · exact ⟨k, hk, rfl⟩

/-- So does a move. -/
theorem System.keeps_idleSince_move {m : Move} (hm : u.move g m = some t)
    (numbered : u.hub.Numbered) (quiet : u.rouses? m ≠ some s) {k : Conduct}
    (hk : u.hub.conduct? s = some k) :
    ∃ k', t.hub.conduct? s = some k' ∧ k'.idleSince = k.idleSince := by
  cases m with
  | start | wait =>
    cases hm
    exact ⟨k, hk, rfl⟩
  | step c e =>
    obtain ⟨call, h', call', hcall, hstep, rfl⟩ := System.move_step_eq_some hm
    refine (Call.stirring hstep).keeps_idleSince numbered (fun own => quiet ?_) hk
    rw [System.rouses?, hcall]
    exact own
  | make info shellHere =>
    cases hm
    exact (Stirring.made (e := .go) (c := .answered .done) info shellHere).keeps_idleSince
      numbered (Option.some_ne_none s).symm hk

/-- **While no activity of a session is recorded, it stays idle since when it was.** -/
theorem System.keeps_idleSince (ran : u.run g moves = some t) (numbered : u.hub.Numbered)
    (quiet : s ∉ rousings g u moves) {k : Conduct} (hk : u.hub.conduct? s = some k) :
    ∃ k', t.hub.conduct? s = some k' ∧ k'.idleSince = k.idleSince := by
  induction moves generalizing u k with
  | nil =>
    cases ran
    exact ⟨k, hk, rfl⟩
  | cons m rest ih =>
    obtain ⟨v, hm, hrest⟩ := System.run_cons_eq_some ran
    have parts : rousings g u (m :: rest) = (u.rouses? m).toList ++ rousings g v rest := by
      simp only [rousings, System.trail, hm]
    rw [parts, List.mem_append, not_or, Option.mem_toList] at quiet
    have once : u.run g [m] = some v := by
      rw [System.run, hm]
      rfl
    obtain ⟨k₁, hk₁, same₁⟩ := System.keeps_idleSince_move hm numbered quiet.1 hk
    obtain ⟨k₂, hk₂, same₂⟩ := ih hrest (System.numbered once numbered) quiet.2 hk₁
    exact ⟨k₂, hk₂, same₂.trans same₁⟩

/-! ## Sweeps that come to a session -/

/-- A move in which a sweep comes to session `s`, which is registered. -/
structure Visit (g : Gateway) (u : System) (moves : List Move) (s : Serial)
    extends System.Turn g u moves where
  sweeper : CallId
  event : Event
  maxIdle : Nat
  id : String
  rest : List String
  evicted : Nat
  isStep : move = .step sweeper event
  stood : before.calls[sweeper]? = some (.sweeping maxIdle (id :: rest) evicted)
  found : before.hub.find? id = some s

/-- A sweep takes out what has been idle for too long when it comes to it, and nothing
else. -/
theorem Visit.evicts_iff (w : Visit g u moves s) {k : Conduct}
    (hk : w.before.hub.conduct? s = some k) :
    w.after.hub.find? w.id = none ↔ (w.maxIdle : Int) < w.before.hub.clock - k.idleSince := by
  obtain ⟨x, hx, rfl⟩ := Option.map_eq_some_iff.mp hk
  have moved := w.moved
  rw [w.isStep] at moved
  obtain ⟨call, h', call', hcall, hstep, hafter⟩ := System.move_step_eq_some moved
  cases hcall.symm.trans w.stood
  have swept : (w.before.hub.removeStale w.maxIdle w.id).2 = h' :=
    congrArg Prod.fst (Call.onGo_eq hstep)
  have stale : w.before.hub.staleAt w.maxIdle w.id = true ↔
      (w.maxIdle : Int) < w.before.hub.clock - x.idleSince := by
    rw [Hub.staleAt_eq_true]
    constructor
    · rintro ⟨r, y, hr, hy, idle⟩
      cases hr.symm.trans w.found
      cases hy.symm.trans hx
      exact idle
    · intro idle
      exact ⟨s, x, w.found, hx, idle⟩
  show w.after.hub.find? w.id = none ↔ (w.maxIdle : Int) < w.before.hub.clock - x.idleSince
  rw [← stale, hafter]
  show h'.find? w.id = none ↔ _
  rw [← swept]
  rcases w.before.hub.removeStale_cases w.maxIdle w.id with
    ⟨young, passed⟩ | ⟨old, r, y, -, -, -, removed⟩
  · rw [passed, young, w.found]
    exact ⟨nofun, nofun⟩
  · rw [removed, old, w.before.hub.find?_remove, if_pos rfl]
    exact ⟨fun _ => rfl, fun _ => rfl⟩

/-! ## What terminals relay -/

/-- A move in which the terminal that a call runs for session `s` meets something while it
relays. -/
structure Relay (g : Gateway) (u : System) (moves : List Move) (s : Serial)
    extends System.Turn g u moves where
  call : CallId
  id : String
  queue : Option QueueId
  task : TerminalTask
  met : Terminal.Event
  isStep : move = .step call (.terminal met)
  stood : before.calls[call]? = some (.bridging id s queue task)
  relaying : task.stage = .relaying

namespace Relay

variable (y : Relay g u moves s)

/-- The system after the move, if the terminal has relayed and the hub has come to be `h`. -/
def leaves (h : Hub) : System :=
  y.before.stepped y.call h (.bridging y.id s y.queue (y.task.after y.met))

/-- A terminal that relays has not ended with the next event, even if that ends the relay. -/
theorem bridged_after (h : Hub) :
    Call.bridged h y.id s y.queue (y.task.after y.met) =
      (h, .bridging y.id s y.queue (y.task.after y.met)) := by
  have goesOn : (y.task.after y.met).end? = none := by
    unfold TerminalTask.end? TerminalTask.after
    dsimp only
    rw [y.relaying]
    cases y.met.verdict? <;> rfl
  unfold Call.bridged
  rw [goesOn]

/-- What the move has done is what the step of the terminal does. -/
theorem after_eq {h : Hub} {call : Call}
    (stepped : Call.stepTerminal y.before.hub y.id s y.queue y.task (.terminal y.met) =
      some (h, call)) : y.after = y.before.stepped y.call h call := by
  have moved := y.moved
  rw [y.isStep] at moved
  obtain ⟨now, h', call', hcall, hstep, hafter⟩ := System.move_step_eq_some moved
  cases hcall.symm.trans y.stood
  have same : some (h', call') = some (h, call) := hstep.symm.trans stepped
  cases same
  exact hafter

/-- Activity is recorded for input, and for nothing else that is met. -/
theorem rouses?_eq : y.before.rouses? y.move = if y.met.isInput then some s else none := by
  rw [y.isStep, System.rouses?, y.stood]
  show Call.rouses? (.terminal y.met) (.bridging y.id s y.queue y.task) = _
  cases y.met <;> rfl

/-- Input is sent on, and makes the session active. -/
theorem after_input (typed : y.met.isInput = true) : y.after = y.leaves (y.before.hub.touch s) := by
  refine y.after_eq ?_
  have bridged := y.bridged_after (y.before.hub.touch s)
  generalize y.met = met at typed bridged ⊢
  cases met with
  | input chunk fault =>
    have steps := TerminalTask.step_relaying (e := .input chunk fault) y.relaying rfl
    simp only [Call.stepTerminal, steps, Option.bind_eq_bind, Option.bind_some, bridged]
    rfl
  | _ => cases typed

/-- Output is written to the stream, and nobody else hears of it. -/
theorem after_output (some : y.met.delivered ≠ []) : y.after = y.leaves y.before.hub := by
  refine y.after_eq ?_
  have bridged := y.bridged_after y.before.hub
  generalize y.met = met at some bridged ⊢
  cases met with
  | message m fault =>
    have steps := TerminalTask.step_relaying (e := .message m fault) y.relaying rfl
    simp only [Call.stepTerminal, steps, Option.bind_eq_bind, Option.bind_some, bridged]
    rfl
  | _ => exact absurd rfl some

/-- What is not input is not sent on, so the other bytes are output. -/
theorem isInput_of_conveyed (some : y.met.conveyed ≠ []) : y.met.isInput = true := by
  generalize y.met = met at some
  cases met with
  | input => rfl
  | _ => exact absurd rfl some

end Relay

/-! ## What keeps a session -/

/-- How long the traffic of its terminals keeps session `s` along a schedule, whatever sweeps
and other calls come in between. -/
structure InputKeeps (g : Gateway) (u : System) (moves : List Move) (s : Serial) : Prop where
  /-- Of what terminals meet, input counts as activity, and nothing else does. -/
  counts : ∀ y : Relay g u moves s,
    y.before.rouses? y.move = if y.met.isInput then some s else none
  /-- Input is sent on, and makes the session active as of then. -/
  input : ∀ y : Relay g u moves s, y.met.conveyed ≠ [] →
    y.met.isInput = true ∧ y.after = y.leaves (y.before.hub.touch s)
  /-- From then on, no sweep takes the session out before more time has passed than it
  allows. -/
  kept : ∀ y : Relay g u moves s, y.met.isInput = true → ∀ z : Eviction g u moves s,
    y.toTurn.IsLater z.toTurn → (z.maxIdle : Int) < z.before.hub.clock - y.before.hub.clock
  /-- Output is written to the stream, and changes nothing in the hub. -/
  output : ∀ y : Relay g u moves s, y.met.delivered ≠ [] → y.after = y.leaves y.before.hub
  /-- So a sweep that comes to the session takes it out exactly if more time than it allows
  has passed since activity was recorded last, by input or otherwise. -/
  last : ∀ y : System.Turn g u moves, y.before.rouses? y.move = some s →
    (y.before.hub.conduct? s).isSome → ∀ w : Visit g u moves s, ∀ between,
      w.past = y.past ++ y.move :: between → s ∉ rousings g y.after between →
        (w.after.hub.find? w.id = none ↔
          (w.maxIdle : Int) < w.before.hub.clock - y.before.hub.clock)

/-- **Input keeps a session, and output does not**, however terminals, sweeps and other calls
interleave. -/
theorem input_keeps (numbered : u.hub.Numbered) (s : Serial) : InputKeeps g u moves s := by
  have typed : ∀ y : Relay g u moves s, y.met.isInput = true →
      y.before.rouses? y.move = some s := by
    intro y input
    rw [y.rouses?_eq, input]
    rfl
  constructor
  case counts => exact Relay.rouses?_eq
  case input =>
    intro y some
    have input := y.isInput_of_conveyed some
    exact ⟨input, y.after_input input⟩
  case kept => exact fun y input z later => z.since_active (typed y input) later
  case output => exact Relay.after_output
  case last =>
    intro y rouses there w between hbetween quiet
    obtain ⟨k, hk⟩ := Option.isSome_iff_exists.mp there
    have active := System.active_move y.moved rouses
    rw [hk] at active
    -- the session is idle since the move when the sweep comes, and the sweep goes by that
    obtain ⟨k', hk', same⟩ := System.keeps_idleSince (System.Turn.run_between hbetween)
      (System.numbered y.run_past numbered) quiet active
    rw [w.evicts_iff hk', same]

/-! ## A terminal that relays -/

/-- A terminal relays for session `a`, which has been idle for 20 since it was attached. -/
def bridgedSession : List Move :=
  [.make (someInfo "a") true, .start (.put 0), .step 0 .go,
    .start (.terminal "a" { width := 80, height := 24 }), .step 1 .go, .step 1 .go, .step 1 .go,
    .step 1 (.terminal (.requested none)), .step 1 (.terminal (.message .success none)),
    .step 1 (.terminal (.requested none)), .step 1 (.terminal (.message .success none)),
    .step 1 (.terminal .attached), .wait 20]

/-- Output of the remote host. -/
def someOutput : Move :=
  .step 1 (.terminal (.message (.data [104, 105]) none))

/-- A command is typed, and there is output 5 later; a sweep of those idle for more than 10
passes the session over. Another one takes it out, 6 after the output and 11 after the
command. -/
def conversation : List Move :=
  [.step 1 (.terminal (.input [108, 115] none)), .wait 5, someOutput, .start (.sweep 10),
    .step 2 .go, .step 2 .go, .wait 6, .start (.sweep 10), .step 3 .go, .step 3 .go]

theorem input_keeps_conversation : ∃ u t,
    System.initial.run strandedGateway bridgedSession = some u ∧ u.hub.Numbered ∧
      u.run strandedGateway conversation = some t ∧ t.answer? 2 = some (.count 0) ∧
        t.hub.find? "a" = none ∧ InputKeeps strandedGateway u conversation 0 := by
  have reached : System.initial.run strandedGateway bridgedSession = some _ := rfl
  have numbered := System.numbered reached System.numbered_initial
  exact ⟨_, _, rfl, numbered, rfl, by decide, by decide, input_keeps numbered 0⟩

/-- **A session can be evicted in the moment in which its terminal relays output**, although
sweeps are to evict only what has been idle for more than 10. -/
theorem streaming_evicted : ∃ u v t task,
    System.initial.run strandedGateway bridgedSession = some u ∧ u.hub.find? "a" = some 0 ∧
      u.calls[1]? = some (.bridging "a" 0 (some 0) task) ∧ task.written = [] ∧
        u.run strandedGateway [someOutput] = some v ∧
          v.calls[1]? = some (.bridging "a" 0 (some 0) { task with written := [104, 105] }) ∧
            v.run strandedGateway [.start (.sweep 10), .step 2 .go, .step 2 .go] = some t ∧
              t.hub.clock = v.hub.clock ∧ t.hub.find? "a" = none :=
  ⟨_, _, _, _, rfl, by decide, rfl, rfl, rfl, rfl, rfl, rfl, by decide⟩

end ShellGateway.Session
