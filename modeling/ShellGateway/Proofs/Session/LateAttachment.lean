import ShellGateway.Proofs.Session.Conduct
import ShellGateway.Proofs.Session.Resizing
import ShellGateway.Proofs.Session.Release

/-!
# Terminals that attach too late

Closing a session takes its control queue out, so that no terminal drives it, and takes
its shell, so that no terminal gets it any more. But a terminal has the shell for some
time before it has a control queue: it asks the remote host for a terminal and a shell
first, and waits for the answers. It does not look at the session in between. If the
session is closed by then, the terminal installs its queue in the closed session and
relays all the same (`attached_after_closing`).

Nothing else goes wrong. Once the closing has returned, a queue can still come to be in
the session exactly if one is there by then or a terminal is on its way: nobody else gets
as far, since the shell is gone (`late_attachment`).

A queue can also be installed by somebody who is no terminal. Whether such a request is
under way is asked for where it matters.
-/

namespace ShellGateway

open Session

/-- Whether a session has a control queue. -/
def Hub.attached (h : Hub) (s : Serial) : Bool :=
  (h.sessions.get? s).any (·.shellAttached)

/-- It shows in the session's conduct. -/
theorem Hub.attached_eq (h : Hub) (s : Serial) :
    h.attached s = (h.conduct? s).any (·.control.isSome) := by
  unfold attached conduct?
  rw [Option.any_map]
  rfl

/-- How many stages are left until the control queue is installed. -/
def Terminal.Stage.ahead : Terminal.Stage → Nat
  | asking .pty => 4
  | awaiting .pty => 3
  | asking .shell => 2
  | awaiting .shell => 1
  | _ => 0

namespace Session

variable {g : Gateway} {u t v : System} {moves : List Move} {s : Serial}

/-! ## Terminals on their way -/

/-- The session in which a terminal is yet to install its control queue. -/
def Call.attaches? : Call → Option Serial
  | attending _ s _ => some s
  | bridging _ s _ task => if task.isStarting then some s else none
  | _ => none

/-- How many steps a terminal is from installing its control queue, if all goes well. -/
def Call.ahead : Call → Nat
  | attending _ _ _ => 5
  | bridging _ _ _ task => task.stage.ahead
  | _ => 0

namespace Call

variable {e : Event} {h h' : Hub} {c c' : Call}

/-- A terminal that is on its way was so before, or has just taken the shell. -/
theorem attaches_step (hs : c.step g e h = some (h', c')) (after : c'.attaches? = some s) :
    c.attaches? = some s ∨ ∃ id w, c = takingShell id s w ∧ (h.takeShell s).1 = true := by
  cases c' with
  | attending id s' w =>
    cases after
    by_cases before : c.aboard? = some (id, s)
    · obtain ⟨w', rfl⟩ | ⟨q, task, rfl⟩ := eq_of_aboard? before
      · exact .inl rfl
      · obtain ⟨m, q', met, task', -, hb, -⟩ := stepTerminal_cases hs
        obtain goesOn | ⟨how, ended⟩ := bridged_cases hb
        · cases goesOn
        · cases ended
    · obtain ⟨w', rfl, there⟩ := (piece hs).boards before rfl
      exact .inr ⟨id, w', rfl, there⟩
  | bridging id s' q' task' =>
    obtain ⟨starting, same⟩ := Option.ite_none_right_eq_some.mp after
    cases same
    obtain ⟨w, rfl, -⟩ | ⟨q, task, met, rfl, ht, -⟩ := bridging_cases hs
    · exact .inl rfl
    · refine .inl (if_pos ?_)
      by_contra started
      rw [TerminalTask.isStarting_step ht (Bool.eq_false_iff.mpr started)] at starting
      cases starting
  | _ => cases after

/-- Whoever installs a control queue is a terminal on its way, or was asked to do just
that. -/
theorem attaches_of_installs (hs : c.step g e h = some (h', c'))
    (installs : c.installs? e = some s) :
    c.attaches? = some s ∨ c = .asked (.attachControl s) := by
  cases c with
  | asked r =>
    cases r with
    | attachControl s' =>
      cases installs
      exact .inr rfl
    | _ => cases installs
  | bridging id s' q task =>
    obtain ⟨rfl, same⟩ := Option.ite_none_right_eq_some.mp installs
    cases same
    obtain ⟨task', ht, -⟩ := Option.bind_eq_some_iff.mp hs
    exact .inl (if_pos (TerminalTask.step_attached ht).1)
  | _ => cases installs

end Call

/-- A session that comes to have a control queue has just got it. -/
theorem Stirring.installs {e : Event} {h h' : Hub} {c : Call} (stirring : Stirring e h c h')
    (before : h.attached s = false) (after : h'.attached s = true) : c.installs? e = some s := by
  rw [Hub.attached_eq] at before after
  -- what leaves the session's queue alone does not give it one
  have same : h'.conduct? s = h.conduct? s → c.installs? e = some s := by
    intro same
    rw [same, before] at after
    cases after
  cases stirring with
  | calm calm => exact same (calm.conduct s)
  | made info shellHere =>
    unfold Hub.conduct? Hub.make at after
    dsimp only at after
    rw [Dictionary.get?_insert] at after
    split at after
    · cases after
    · exact absurd (before.symm.trans after) Bool.false_ne_true
  | roused r rouses calm =>
    rw [calm.conduct, h.conduct?_touch] at after
    split at after
    · rename_i hs
      rw [← hs, Option.any_map] at after
      exact absurd (before.symm.trans after) Bool.false_ne_true
    · exact absurd (before.symm.trans after) Bool.false_ne_true
  | detached r next =>
    rw [h.conduct?_takeControl] at after
    split at after
    · rw [Option.any_map] at after
      cases hk : h.conduct? r with
      | none =>
        rw [hk] at after
        cases after
      | some k =>
        rw [hk] at after
        cases after
    · exact absurd (before.symm.trans after) Bool.false_ne_true
  | installed r installs calm =>
    rw [calm.conduct, h.conduct?_attach] at after
    split at after
    · rename_i hs
      exact hs ▸ installs
    · exact absurd (before.symm.trans after) Bool.false_ne_true

/-! ## Nobody else attaches -/

/-- No terminal is on its way to session `s`, and nobody was asked to install a control
queue in it. -/
def System.Quiescent (t : System) (s : Serial) : Prop :=
  ∀ call ∈ t.calls, call.attaches? ≠ some s ∧ call ≠ .asked (.attachControl s)

/-- A session without a control queue gets none in a move, if its shell is gone and no
terminal is on its way. -/
theorem System.Quiescent.move {m : Move} (quiescent : t.Quiescent s) (hm : t.move g m = some u)
    (gone : (t.hub.takeShell s).1 = false) (other : m ≠ .start (.attachControl s))
    (detached : t.hub.attached s = false) : u.Quiescent s ∧ u.hub.attached s = false := by
  cases m with
  | start r =>
    cases hm
    refine ⟨fun call hcall => ?_, detached⟩
    rcases List.mem_append.mp hcall with old | new
    · exact quiescent call old
    · rw [List.mem_singleton.mp new]
      refine ⟨by simp [Call.attaches?], fun same => other ?_⟩
      rw [Call.asked.inj same]
  | step c e =>
    obtain ⟨call, h', call', hc, hstep, rfl⟩ := System.move_step_eq_some hm
    obtain ⟨idle, notAsked⟩ := quiescent call (List.mem_of_getElem? hc)
    refine ⟨fun d hd => ?_, Bool.eq_false_iff.mpr fun attached => ?_⟩
    · rcases List.mem_or_eq_of_mem_set hd with old | rfl
      · exact quiescent d old
      · constructor
        · intro after
          rcases Call.attaches_step hstep after with before | ⟨_, _, _, there⟩
          · exact idle before
          · rw [gone] at there
            cases there
        · -- no step leads back to a request
          rintro rfl
          obtain ⟨_, _, _, -, boarding, -⟩ := (Call.piece hstep).lookup rfl
          cases boarding
    · have installs := (Call.stirring hstep).installs detached attached
      exact (Call.attaches_of_installs hstep installs).elim idle notAsked
  | make info shellHere =>
    cases hm
    refine ⟨quiescent, Bool.eq_false_iff.mpr fun attached => ?_⟩
    have made : Stirring .go t.hub (.answered .done) (t.hub.make info shellHere).2 :=
      .made info shellHere
    cases made.installs detached attached
  | wait time =>
    cases hm
    exact ⟨quiescent, detached⟩

/-- So it has none after any schedule, if the shell stays gone. -/
theorem System.Quiescent.run {more : List Move} (quiescent : t.Quiescent s)
    (ran : t.run g more = some v)
    (gone : ∀ past w, t.run g past = some w → (w.hub.takeShell s).1 = false)
    (other : .start (.attachControl s) ∉ more) (detached : t.hub.attached s = false) :
    v.hub.attached s = false := by
  induction more generalizing t with
  | nil =>
    cases ran
    exact detached
  | cons m rest ih =>
    obtain ⟨w, hm, hrest⟩ := System.run_cons_eq_some ran
    obtain ⟨still, without⟩ := quiescent.move hm (gone [] t rfl)
      (fun same => other (same ▸ List.mem_cons_self)) detached
    refine ih still hrest (fun past x hx => gone (m :: past) x ?_)
      (fun h => other (List.mem_cons_of_mem _ h)) without
    rw [System.run, hm]
    exact hx

/-! ## Whoever is on the way can attach -/

/-- A terminal on its way can go on until it installs its queue. -/
theorem Call.attaches_goes_on (g : Gateway) {h : Hub} {call : Call}
    (attaches : call.attaches? = some s)
    (there : (h.sessions.get? s).isSome) :
    ∃ e h' call', call.step g e h = some (h', call') ∧
      (h'.attached s = true ∨
        call'.attaches? = some s ∧ (h'.sessions.get? s).isSome ∧ call'.ahead < call.ahead) := by
  cases call with
  | attending id s' w =>
    cases attaches
    refine ⟨.go, _, _, rfl, .inr ⟨rfl, ?_, Nat.lt_succ_self 4⟩⟩
    show ((h.modify s _).sessions.get? s).isSome
    rw [h.get?_modify, if_pos rfl, Option.isSome_map]
    exact there
  | bridging id s' q task =>
    obtain ⟨starting, same⟩ := Option.ite_none_right_eq_some.mp attaches
    cases same
    -- a step that leaves the hub alone, and brings the terminal to the next stage
    have goesOn : ∀ (met : Terminal.Event) (stage : Terminal.Stage),
        stepTerminal h id s q task (.terminal met) =
          some (bridged h id s q { task with stage }) →
        ({ task with stage } : TerminalTask).isStarting = true →
        stage.ahead < task.stage.ahead →
        ∃ e h' call', (bridging id s q task).step g e h = some (h', call') ∧
          (h'.attached s = true ∨ call'.attaches? = some s ∧ (h'.sessions.get? s).isSome ∧
            call'.ahead < (bridging id s q task).ahead) := by
      intro met stage hstep goes closer
      have ongoing : ({ task with stage } : TerminalTask).end? = none := by
        unfold TerminalTask.isStarting at goes
        unfold TerminalTask.end?
        cases stage <;> first | rfl | cases goes
      rw [bridged_of_end? ongoing] at hstep
      exact ⟨_, _, _, hstep, .inr ⟨if_pos goes, there, closer⟩⟩
    obtain ⟨terminal, stage, written, sent, forwarded, activities, shutdowns, closes⟩ := task
    cases stage with
    | asking what =>
      refine goesOn (.requested none) (.awaiting what) rfl rfl ?_
      cases what <;> exact Nat.lt_succ_self _
    | awaiting what =>
      cases what with
      | pty => exact goesOn (.message .success none) (.asking .shell) rfl rfl (Nat.lt_succ_self _)
      | shell => exact goesOn (.message .success none) .attaching rfl rfl (Nat.lt_succ_self _)
    | attaching =>
      refine ⟨.terminal .attached, _, _, rfl, .inl ?_⟩
      show (h.attach s).2.attached s = true
      obtain ⟨x, hx⟩ := Option.isSome_iff_exists.mp there
      rw [Hub.attached_eq, h.conduct?_attach, if_pos rfl, Hub.conduct?, hx]
      rfl
    | _ => cases starting
  | _ => cases attaches

/-- **Whoever is on the way to a session can attach to it**, by steps of its own. -/
theorem System.exists_attached (g : Gateway) {t : System} {c : CallId} {call : Call}
    (hc : t.calls[c]? = some call) (attaches : call.attaches? = some s)
    (there : (t.hub.sessions.get? s).isSome) :
    ∃ more v, (∀ m ∈ more, ∃ e, m = .step c e) ∧ t.run g more = some v ∧
      v.hub.attached s = true := by
  -- each step brings it closer
  induction left : call.ahead using Nat.strongRecOn generalizing t call with
  | ind n ih =>
    subst left
    obtain ⟨e, h', call', hstep, progress⟩ := Call.attaches_goes_on g attaches there
    have moved : t.move g (.step c e) = some (t.stepped c h' call') := by
      simp only [System.move, hc, Option.bind_eq_bind, Option.bind_some, hstep]
      rfl
    rcases progress with attached | ⟨attaches', there', closer⟩
    · refine ⟨[.step c e], t.stepped c h' call', fun m hm => ⟨e, List.mem_singleton.mp hm⟩, ?_,
        attached⟩
      rw [System.run, moved]
      rfl
    · obtain ⟨more, v, own, ran, attached⟩ :=
        ih call'.ahead closer (System.calls_stepped hc h' call') attaches' there' rfl
      refine ⟨.step c e :: more, v, fun m hm => ?_, ?_, attached⟩
      · rcases List.mem_cons.mp hm with rfl | later
        · exact ⟨e, rfl⟩
        · exact own m later
      · rw [System.run, moved]
        exact ran

/-! ## A closing that has returned -/

namespace Swap

variable {x : Session}

/-- A closing that has returned leaves the session closed, and its shell gone for good. -/
theorem shell_gone (a : Swap g u moves s) (unclosed : Unclosed u s x)
    (ran : u.run g moves = some t) (returned : ¬ t.IsReleasing a.closer s) :
    (∃ y, t.hub.sessions.get? s = some y ∧ y.closed = true) ∧
      ∀ more v, t.run g more = some v → (v.hub.takeShell s).1 = false := by
  obtain ⟨k, gr, closer⟩ := a.lasts unclosed (a.run_future ran)
  rw [← a.split_after] at gr
  -- whoever has closed the session and does not release its handles has released them
  obtain rfl : k = .released a.closer := by
    cases k with
    | unclosed => cases closer
    | released c => rw [Option.some.inj closer]
    | held c p =>
      obtain rfl := Option.some.inj closer
      exact absurd (System.isReleasing_iff.mpr ⟨p, (gr.pending _ p).mpr rfl⟩) returned
  constructor
  · obtain ⟨own, hown, ho⟩ := gr.owned
    obtain ⟨y, hy, rfl⟩ := Option.map_eq_some_iff.mp hown
    exact ⟨y, hy, ho.closed⟩
  · intro more v hv
    obtain ⟨k', gr', -, released⟩ := gr.run hv
    obtain ⟨own, hown, ho⟩ := gr'.owned
    have past : k'.pastShell := by
      cases k' with
      | released => rfl
      | _ => cases released rfl
    rw [← ho.gone past]
    exact Hub.any_of_holdings? hown fun _ => rfl

/-- It has taken the control queue out. -/
theorem exists_detachment (a : Swap g u moves s) (ran : u.run g moves = some t)
    (returned : ¬ t.IsReleasing a.closer s) :
    ∃ y : System.Turn g u moves, a.toTurn.IsLater y ∧ y.move = .step a.closer .go ∧
      y.before.calls[a.closer]? = some (.closing s .takingControl a.next) ∧
      y.after.hub = (y.before.hub.takeControl s).2 := by
  have moved := a.moved
  rw [a.isStep] at moved
  obtain ⟨call, h', call', hc, hstep, hafter⟩ := System.move_step_eq_some moved
  obtain rfl := Option.some.inj (hc.symm.trans a.stood)
  obtain ⟨-, -, rfl⟩ := Call.step_marking hstep
  rw [if_neg (by simp [a.isOpen])] at hafter
  have closing : a.after.calls[a.closer]? = some (.closing s .takingControl a.next) := by
    rw [hafter]
    exact System.calls_stepped hc _ _
  obtain ⟨last, hlast, -⟩ := System.call_lasts (P := fun _ => True) (fun h _ => h)
    (a.run_future ran) closing trivial
  obtain ⟨y, e, call, h'', call'', hm, hcall, rfl, hstep', hafter', -⟩ := System.exists_step
    (P := (· = .closing s .takingControl a.next)) (a.run_future ran) closing rfl hlast (by
      rintro rfl
      exact returned ⟨_, _, hlast, by simp⟩)
  obtain ⟨rfl, taken⟩ := Option.ite_none_right_eq_some.mp hstep'
  obtain ⟨rfl, -⟩ := Prod.mk.inj (Option.some.inj taken)
  exact ⟨y.prepend a.run_past a.split_after, ⟨y.past, (List.append_cons _ _ _).symm⟩, hm, hcall,
    congrArg System.hub hafter'⟩

end Swap

/-- A session that has got a control queue along a schedule has got it in some step. -/
theorem System.exists_installation (ran : u.run g moves = some t)
    (before : u.hub.attached s = false) (after : t.hub.attached s = true) :
    ∃ z : System.Turn g u moves, ∃ c e call, z.move = .step c e ∧
      z.before.calls[c]? = some call ∧
        (call.attaches? = some s ∨ call = .asked (.attachControl s)) ∧
          call.installs? e = some s := by
  obtain ⟨z, without, attached⟩ :=
    System.exists_turn (Q := fun u => u.hub.attached s = false) ran before (by simp [after])
  have attached : z.after.hub.attached s = true := (Bool.not_eq_false _).mp attached
  have moved := z.moved
  cases hm : z.move with
  | step c e =>
    rw [hm] at moved
    obtain ⟨call, h', call', hc, hstep, hafter⟩ := System.move_step_eq_some moved
    rw [hafter] at attached
    have installs := (Call.stirring hstep).installs without attached
    exact ⟨z, c, e, call, hm, hc, Call.attaches_of_installs hstep installs, installs⟩
  | start | wait =>
    rw [hm] at moved
    rw [← Option.some.inj moved] at attached
    exact absurd (without.symm.trans attached) Bool.false_ne_true
  | make info shellHere =>
    rw [hm] at moved
    rw [← Option.some.inj moved] at attached
    have made : Stirring .go z.before.hub (.answered .done) (z.before.hub.make info shellHere).2 :=
      .made info shellHere
    cases made.installs without attached

/-- What can be said of the control queue of session `s` once its closing has returned, by
system `t`. -/
structure LateAttachment {g : Gateway} {u : System} {moves : List Move} {s : Serial}
    (a : Swap g u moves s) (t : System) : Prop where
  /-- The session is closed. -/
  closed : ∃ y, t.hub.sessions.get? s = some y ∧ y.closed = true
  /-- The closing has taken out what control queue there was. If there is one now, it was
  installed since, by a terminal or by somebody who was asked to. -/
  detached : ∃ y : System.Turn g u moves, a.toTurn.IsLater y ∧ y.move = .step a.closer .go ∧
    y.after.hub.attached s = false ∧
    (t.hub.attached s = true → ∃ z : System.Turn g u moves, y.IsLater z ∧
      ∃ c e call, z.move = .step c e ∧ z.before.calls[c]? = some call ∧
        (call.attaches? = some s ∨ call = .asked (.attachControl s)) ∧ call.installs? e = some s)
  /-- If nobody is asked to install one without a terminal, the session can have a control
  queue from now on exactly if it has one or a terminal is on its way. -/
  attaches_iff : .asked (.attachControl s) ∉ t.calls →
    ((∃ more v, .start (.attachControl s) ∉ more ∧ t.run g more = some v ∧
        v.hub.attached s = true) ↔
      t.hub.attached s = true ∨ ∃ call ∈ t.calls, call.attaches? = some s)

/-- **A session that was closed is attached to by those terminals only that had its shell
before**, and by any of them that goes on. -/
theorem late_attachment {x : Session} (ran : u.run g moves = some t) (unclosed : Unclosed u s x)
    (a : Swap g u moves s) (returned : ¬ t.IsReleasing a.closer s) : LateAttachment a t := by
  obtain ⟨closed, gone⟩ := a.shell_gone unclosed ran returned
  refine ⟨closed, ?_, fun bare => ⟨?_, ?_⟩⟩
  · obtain ⟨y, later, hm, -, hafter⟩ := a.exists_detachment ran returned
    have without : y.after.hub.attached s = false := by
      rw [hafter, Hub.attached_eq, Hub.conduct?_takeControl, if_pos rfl, Option.any_map]
      cases y.before.hub.conduct? s <;> rfl
    refine ⟨y, later, hm, without, fun attached => ?_⟩
    obtain ⟨z, c, e, call, hz, hc, who, installs⟩ :=
      System.exists_installation (y.run_future ran) without attached
    exact ⟨z.prepend y.run_past y.split_after, ⟨z.past, (List.append_cons _ _ _).symm⟩, c, e, call,
      hz, hc, who, installs⟩
  · rintro ⟨more, v, other, hv, attached⟩
    by_contra nobody
    obtain ⟨without, idle⟩ := not_or.mp nobody
    have quiescent : t.Quiescent s := fun call hcall =>
      ⟨fun attaches => idle ⟨call, hcall, attaches⟩, fun asked => bare (asked ▸ hcall)⟩
    have still := quiescent.run hv gone other (Bool.eq_false_iff.mpr without)
    exact absurd (still.symm.trans attached) Bool.false_ne_true
  · rintro (attached | ⟨call, hcall, attaches⟩)
    · exact ⟨[], t, List.not_mem_nil, rfl, attached⟩
    · obtain ⟨c, hc⟩ := List.mem_iff_getElem?.mp hcall
      obtain ⟨y, hy, -⟩ := closed
      obtain ⟨more, v, own, hv, attached⟩ :=
        System.exists_attached g hc attaches (Option.isSome_iff_exists.mpr ⟨y, hy⟩)
      refine ⟨more, v, fun h => ?_, hv, attached⟩
      obtain ⟨e, he⟩ := own _ h
      cases he

/-! ## A slow terminal -/

/-- A terminal has the session's shell and waits for the remote host when somebody closes
the session. -/
def slowTerminal : List Move :=
  [.start (.put 0), .step 0 .go, .start (.terminal "a" { width := 80, height := 24 }),
    .start (.closeSession 0), .step 1 .go, .step 1 .go, .step 1 .go,
    .step 1 (.terminal (.requested none)), .step 2 .go, .step 2 .go, .step 2 .go,
    .step 2 (.released false), .step 2 .go, .step 2 (.released false)]

/-- The remote host answers, and the terminal relays what comes. -/
def slowTerminalGoesOn : List Move :=
  [.step 1 (.terminal (.message .success none)), .step 1 (.terminal (.requested none)),
    .step 1 (.terminal (.message .success none)), .step 1 (.terminal .attached),
    .step 1 (.terminal (.input [108, 115] none))]

theorem late_attachment_slowTerminal : ∃ x t,
    untouchedSession.run strandedGateway slowTerminal = some t ∧ Unclosed untouchedSession 0 x ∧
      ∃ a : Swap strandedGateway untouchedSession slowTerminal 0,
        ¬ t.IsReleasing a.closer 0 ∧ LateAttachment a t := by
  have unclosed : Unclosed untouchedSession 0 _ :=
    ⟨rfl, rfl, rfl, Nat.zero_lt_one, fun c ⟨_, _, hc, _⟩ => by simp [untouchedSession] at hc⟩
  obtain ⟨w, marked, closing⟩ : ∃ w,
      untouchedSession.run strandedGateway (slowTerminal.take 10) = some w ∧
        w.calls[2]? = some (.closing 0 .takingControl (.answer .done)) := ⟨_, rfl, rfl⟩
  obtain ⟨t, ran, ended⟩ : ∃ t, untouchedSession.run strandedGateway slowTerminal = some t ∧
      t.calls[2]? = some (.answered .done) := ⟨_, rfl, rfl⟩
  obtain ⟨a, closer⟩ := unclosed.exists_swap marked ⟨_, _, closing, by simp⟩
  have whole : slowTerminal = slowTerminal.take 10 ++ slowTerminal.drop 10 := rfl
  have returned : ¬ t.IsReleasing (a.extend whole).closer 0 := by
    rintro ⟨stage, next, hc, -⟩
    have two : (a.extend whole).closer = 2 := closer
    rw [two, ended] at hc
    cases hc
  exact ⟨_, t, ran, unclosed, a.extend whole, returned,
    late_attachment ran unclosed (a.extend whole) returned⟩

/-- **A terminal can attach to a session after its closing has returned, and relay.** -/
theorem attached_after_closing : ∃ t v,
    System.initial.run strandedGateway (.make (someInfo "a") true :: slowTerminal) = some t ∧
      t.answer? 2 = some .done ∧ t.IsClosed 0 ∧ t.hub.attached 0 = false ∧
        t.run strandedGateway slowTerminalGoesOn = some v ∧ v.IsClosed 0 ∧
          v.hub.attached 0 = true ∧ ∃ q task, v.calls[1]? = some (.bridging "a" 0 (some q) task) ∧
            task.stage = .relaying ∧ task.sent = [108, 115] :=
  ⟨_, _, rfl, rfl, ⟨_, rfl, rfl, rfl⟩, rfl, rfl, ⟨_, rfl, rfl, rfl⟩, rfl, _, _, rfl, rfl, rfl⟩

end Session

end ShellGateway
