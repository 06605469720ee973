import ShellGateway.Proofs.Session.Resizing
import ShellGateway.Proofs.Terminal.Transparency

/-!
# What a terminal finds in its queue

A terminal that relays looks at its control queue when it pleases. It finds the command that
has waited longest there, or that the queue has ended: a window is passed on, anything else
makes it leave. `Hearing` lists what one step of a call can find in a queue, and
`Call.hearing` says that the list is complete.

Every queue has one terminal at most, and is read as long as it has one (`System.Driven`). So
what was sent through it and not passed on waits in it (`Traffic.flow`).
-/

namespace ShellGateway

/-- A terminal that relays did so before, or its queue was just installed. -/
theorem TerminalTask.relaying_before {t t' : TerminalTask} {e : Terminal.Event}
    (hs : t.step e = some t') (after : t'.stage = .relaying) :
    t.stage = .relaying ∨ e = .attached := by
  obtain ⟨-, how, rfl⟩ | own := step_cases hs
  · cases after
  · unfold advance at own
    split at own
    case h_2 what stage =>
      unfold stepAwaiting at own
      split at own
      case h_1 =>
        cases own
        cases what with
        | pty => cases after
        | shell => cases after
      case h_4 =>
        cases own
        cases stage.symm.trans after
      case h_6 => cases own
      all_goals
        cases own
        cases after
    case h_3 => exact .inr (Option.ite_none_right_eq_some.mp own).1
    case h_4 stage => exact .inl stage
    case h_6 result hadShell _ =>
      split at own
      · cases own
        cases hadShell with
        | true => cases after
        | false => cases after
      · cases own
    case h_8 => cases own
    all_goals
      split at own
      all_goals cases own
      all_goals cases after

/-- Word to stop and the end of its queue make a terminal leave. -/
theorem TerminalTask.leaves {t t' : TerminalTask} {e : Terminal.Event}
    (parting : (∃ fault, e = .command .close fault) ∨ e = .queueEnd) (hs : t.step e = some t') :
    t'.stage ≠ .relaying := by
  have relaying : t.stage = .relaying := by
    refine (step_fromQueue ?_ hs).1
    exact parting.imp_left fun ⟨fault, same⟩ => ⟨.close, fault, same⟩
  obtain ⟨fault, rfl⟩ | rfl := parting
  · rw [step_relaying relaying rfl] at hs
    cases hs
    exact nofun
  · rw [step_relaying relaying rfl] at hs
    cases hs
    exact nofun

namespace Session

variable {g : Gateway} {h h' : Hub} {c c' : Call} {e : Event} {q : QueueId}

/-! ## Terminals and their queues -/

namespace Call

/-- The queue of a terminal. -/
def drives? : Call → Option QueueId
  | bridging _ _ q _ => q
  | _ => none

/-- The queue that a terminal looks at while it relays. -/
def relays? : Call → Option QueueId
  | bridging _ _ q task => if task.stage = .relaying then q else none
  | _ => none

theorem drives_of_relays (relays : c.relays? = some q) : c.drives? = some q := by
  cases c with
  | bridging id s q' task =>
    have found : (if task.stage = .relaying then q' else none) = some q := relays
    split at found
    · exact found
    · cases found
  | _ => cases relays

theorem reads_of_drives (drives : c.drives? = some q) : c.reads? = some q := by
  cases c with
  | bridging id s q' task => exact drives
  | _ => cases drives

/-- Who reads a queue and takes a step is a terminal. -/
theorem drives_of_reads (hs : c.step g e h = some (h', c')) (reads : c.reads? = some q) :
    c.drives? = some q := by
  cases c with
  | bridging id s q' task => exact reads
  | answered a => cases hs
  | _ => cases reads

/-- A terminal that goes on is as it was said to be. -/
theorem bridged_goes_on {m : Hub} {id id' : String} {s s' : Serial} {q q' : Option QueueId}
    {task task' : TerminalTask} (hb : bridged m id s q task = (h', bridging id' s' q' task')) :
    h' = m ∧ q' = q ∧ task' = task := by
  unfold bridged at hb
  split at hb
  · cases hb
    exact ⟨rfl, rfl, rfl⟩
  · cases hb

/-- A terminal that goes on has the queue that it had, or has just got a fresh one. -/
theorem stepTerminal_goes_on {id id' : String} {s s' : Serial} {q q' : Option QueueId}
    {task task' : TerminalTask}
    (hs : stepTerminal h id s q task e = some (h', bridging id' s' q' task')) :
    q' = q ∧ (task'.stage = .relaying → task.stage = .relaying) ∨
      q' = some h.desk.nextQueue ∧ h'.desk = h.desk.install := by
  -- an event that leaves the queue as it is
  have goesOn : ∀ {m met task₁}, task.step met = some task₁ → met ≠ .attached →
      bridged m id s q task₁ = (h', bridging id' s' q' task') →
        q' = q ∧ (task'.stage = .relaying → task.stage = .relaying) := by
    intro m met task₁ ht other hb
    obtain ⟨-, rfl, rfl⟩ := bridged_goes_on hb
    exact ⟨rfl, fun after => (TerminalTask.relaying_before ht after).resolve_right other⟩
  cases e with
  | terminal met =>
    cases met with
    | attached =>
      obtain ⟨task₁, -, hb⟩ := Option.bind_eq_some_iff.mp hs
      obtain ⟨rfl, rfl, rfl⟩ := bridged_goes_on (Option.some.inj hb)
      exact .inr ⟨congrArg (some ·.nextQueue) (Hub.desk_detach h s), Hub.desk_attach h s⟩
    -- these two come through the queue only
    | command _ _ | queueEnd => cases hs
    | _ =>
      obtain ⟨task₁, ht, hb⟩ := Option.bind_eq_some_iff.mp hs
      exact .inl (goesOn ht nofun (Option.some.inj hb))
  | control fault =>
    obtain ⟨queue, rfl, hs⟩ := Option.bind_eq_some_iff.mp hs
    split at hs
    · cases hs
    all_goals
      obtain ⟨task₁, ht, hb⟩ := Option.bind_eq_some_iff.mp hs
      exact .inl (goesOn ht nofun (Option.some.inj hb))
  | _ => cases hs

/-- A terminal has had its queue before, or it is a fresh one. -/
theorem drives_before (hs : c.step g e h = some (h', c')) (after : c'.drives? = some q) :
    c.drives? = some q ∨ q = h.desk.nextQueue ∧ h'.desk = h.desk.install := by
  cases c' with
  | bridging id s q' task' =>
    obtain rfl : q' = some q := after
    obtain ⟨w, -, nothing, -⟩ | ⟨q₀, task, met, rfl, -⟩ := bridging_cases hs
    · cases nothing
    · obtain ⟨same, -⟩ | ⟨fresh, installed⟩ := stepTerminal_goes_on hs
      · exact .inl same.symm
      · exact .inr ⟨Option.some.inj fresh, installed⟩
  | _ => cases after

/-- A terminal that relays did so before, or has just got a fresh queue. -/
theorem relays_before (hs : c.step g e h = some (h', c')) (after : c'.relays? = some q) :
    c.relays? = some q ∨ q = h.desk.nextQueue := by
  cases c' with
  | bridging id s q' task' =>
    have relaying : task'.stage = .relaying ∧ q' = some q := by
      have found : (if task'.stage = .relaying then q' else none) = some q := after
      split at found
      · rename_i stage
        exact ⟨stage, found⟩
      · cases found
    obtain ⟨stage, rfl⟩ := relaying
    obtain ⟨w, -, nothing, -⟩ | ⟨q₀, task, met, rfl, -⟩ := bridging_cases hs
    · cases nothing
    · obtain ⟨rfl, before⟩ | ⟨fresh, -⟩ := stepTerminal_goes_on hs
      · exact .inl (if_pos (before stage))
      · exact .inr (Option.some.inj fresh)
  | _ => cases after

end Call

/-! ## What is found -/

/-- What a step finds that looks at queue `q`. -/
def Call.finds (q : QueueId) (h : Hub) (e : Event) : Call → List Hub.Received
  | bridging _ _ (some q') _ =>
    match e with
    | .control _ => if q' = q then [(h.receive q).1] else []
    | _ => []
  | _ => []

/-- All that one step of a call can find in queue `q`, with the windows that it passes on from
there. -/
inductive Hearing (h : Hub) (q : QueueId) (c c' : Call) :
    List Hub.Received → List (Ticket × Window) → Prop where
  /-- It does not look at the queue. -/
  | nothing (relays : c'.relays? = some q → c.relays? = some q ∨ q = h.desk.nextQueue) :
      Hearing h q c c' [] []
  /-- It finds a window, and passes that on. -/
  | window (t : Ticket) (w : Window) (relays : c.relays? = some q) :
      Hearing h q c c' [.command (.resize t w)] [(t, w)]
  /-- It finds word to stop or the end of the queue, and leaves. -/
  | word {last : Hub.Received} (parting : last = .command .close ∨ last = .ended)
      (relays : c.relays? = some q) (leaves : c'.relays? = none) : Hearing h q c c' [last] []

namespace Call

/-- What happens to a terminal other than through its queue makes it pass nothing on. -/
theorem passes_terminal {id : String} {s : Serial} {q : Option QueueId} {task : TerminalTask}
    {met : Terminal.Event} (hs : stepTerminal h id s q task (.terminal met) = some (h', c')) :
    (bridging id s q task).passes c' = [] := by
  have quiet : ∀ {m q' task'}, task.step met = some task' → met.windows = [] →
      bridged m id s q' task' = (h', c') → (bridging id s q task).passes c' = [] := by
    intro m q' task' ht windows hb
    have account := TerminalTask.forwarded_step ht
    rw [windows] at account
    obtain rfl | ⟨how, rfl⟩ := bridged_cases hb
    · cases q with
      | none => rfl
      | some q => exact passes_bridging id s q q' account
    · cases q <;> rfl
  cases met with
  | attached =>
    obtain ⟨task', ht, hb⟩ := Option.bind_eq_some_iff.mp hs
    exact quiet ht rfl (Option.some.inj hb)
  | command _ _ | queueEnd => cases hs
  | _ =>
    obtain ⟨task', ht, hb⟩ := Option.bind_eq_some_iff.mp hs
    exact quiet ht rfl (Option.some.inj hb)

/-- A terminal that meets what comes through its queue relays, and then goes on or sets out to
end. It passes on the windows that it finds. -/
theorem bridged_fromQueue {met : Terminal.Event} {m : Hub} {id : String} {s : Serial}
    {task task' : TerminalTask} (fromQueue : TerminalTask.FromQueue met)
    (ht : task.step met = some task') (hb : bridged m id s (some q) task' = (h', c')) :
    (bridging id s (some q) task).relays? = some q ∧ c' = bridging id s (some q) task' ∧
      passedFrom q ((bridging id s (some q) task).passes c') =
        met.windows.map fun x => (x.ticket, x.window) := by
  obtain ⟨relaying, goesOn⟩ := TerminalTask.step_fromQueue fromQueue ht
  obtain ⟨-, rfl⟩ := Prod.mk.inj ((bridged_of_end? goesOn).symm.trans hb)
  refine ⟨if_pos relaying, rfl, ?_⟩
  rw [passes_bridging id s q (some q) (TerminalTask.forwarded_step ht)]
  unfold passedFrom
  rw [List.filter_eq_self.mpr ?_, List.map_map]
  · rfl
  · intro p hp
    obtain ⟨x, -, rfl⟩ := List.mem_map.mp hp
    exact decide_eq_true rfl

/-- A terminal looks at its queue. -/
theorem hearing_control {id : String} {s : Serial} {task : TerminalTask} {fault : Option String}
    (hs : stepTerminal h id s (some q) task (.control fault) = some (h', c')) :
    Hearing h q (bridging id s (some q) task) c' [(h.receive q).1]
      (passedFrom q ((bridging id s (some q) task).passes c')) := by
  have leaves : ∀ {met m task'}, (∃ fault, met = .command .close fault) ∨ met = .queueEnd →
      task.step met = some task' → bridged m id s (some q) task' = (h', c') →
        (bridging id s (some q) task).relays? = some q ∧ c'.relays? = none ∧
          passedFrom q ((bridging id s (some q) task).passes c') = [] := by
    intro met m task' parting ht hb
    obtain ⟨relays, rfl, passes⟩ := bridged_fromQueue
      (parting.imp_left fun ⟨fault, same⟩ => ⟨.close, fault, same⟩) ht hb
    refine ⟨relays, if_neg (TerminalTask.leaves parting ht), passes.trans ?_⟩
    obtain ⟨fault, rfl⟩ | rfl := parting
    · rfl
    · rfl
  simp only [stepTerminal, Option.bind_eq_bind, Option.bind_some] at hs
  cases received : h.receive q with
  | mk r m =>
    rw [received] at hs
    cases r with
    | nothingYet => cases hs
    | ended =>
      obtain ⟨task', ht, hb⟩ := Option.bind_eq_some_iff.mp hs
      obtain ⟨relays, after, passes⟩ := leaves (.inr rfl) ht (Option.some.inj hb)
      rw [passes]
      exact .word (.inr rfl) relays after
    | command command =>
      cases command with
      | close =>
        obtain ⟨task', ht, hb⟩ := Option.bind_eq_some_iff.mp hs
        obtain ⟨relays, after, passes⟩ := leaves (.inl ⟨_, rfl⟩) ht (Option.some.inj hb)
        rw [passes]
        exact .word (.inl rfl) relays after
      | resize t w =>
        obtain ⟨task', ht, hb⟩ := Option.bind_eq_some_iff.mp hs
        obtain ⟨relays, -, passes⟩ :=
          bridged_fromQueue (.inl ⟨_, _, rfl⟩) ht (Option.some.inj hb)
        rw [passes]
        exact .window t w relays

/-- A terminal passes on what comes from its own queue. -/
theorem passedFrom_other {id : String} {s : Serial} {q' : QueueId} (other : q' ≠ q)
    (task : TerminalTask) (c' : Call) :
    passedFrom q ((bridging id s (some q') task).passes c') = [] := by
  have nothing : ∀ windows : List Terminal.Forwarded,
      passedFrom q (windows.map fun x => (q', x)) = [] := by
    intro windows
    unfold passedFrom
    rw [List.filter_eq_nil_iff.mpr ?_]
    · rfl
    · intro p hp
      obtain ⟨x, -, rfl⟩ := List.mem_map.mp hp
      simpa using other
  cases c' with
  | bridging id' s' q'' task' => exact nothing _
  | _ => rfl

/-- **Every step finds one of the listed things.** -/
theorem hearing (q : QueueId) (hs : c.step g e h = some (h', c')) :
    Hearing h q c c' (c.finds q h e) (passedFrom q (c.passes c')) := by
  have relays := relays_before (q := q) hs
  cases c with
  | bridging id s q' task =>
    cases q' with
    | none => exact .nothing relays
    | some q' =>
      cases e with
      | control fault =>
        by_cases own : q' = q
        · subst own
          have finds : (bridging id s (some q') task).finds q' h (.control fault) =
              [(h.receive q').1] := if_pos rfl
          rw [finds]
          exact hearing_control hs
        · rw [passedFrom_other own]
          have finds : (bridging id s (some q') task).finds q h (.control fault) = [] := if_neg own
          rw [finds]
          exact .nothing relays
      | terminal met =>
        have passes := passes_terminal hs
        rw [passes]
        exact .nothing relays
      | _ => cases hs
  | _ => exact .nothing relays

end Call

/-! ## What waits -/

/-- The windows that wait in a queue. -/
def Desk.waiting (d : Desk) (q : QueueId) : List (Ticket × Window) :=
  ((d.lanes q).map fun l => l.queued.filterMap Command.window?).getD []

section

variable {d d' : Desk} {r r' : Option QueueId} {s : List Errand}
  {p : List (QueueId × Terminal.Forwarded)}

theorem Desk.waiting_of_lane {l : Lane} (lane : d.lanes q = some l) :
    d.waiting q = l.queued.filterMap Command.window? := by
  unfold waiting
  rw [lane]
  rfl

/-- What happens to another queue does not show in what waits in this one. -/
theorem Desk.waiting_congr (same : d'.lanes q = d.lanes q) : d'.waiting q = d.waiting q := by
  unfold waiting
  rw [same]

/-- **What waited in a queue and was sent through it was passed on from it or waits in it**, as
long as it is read. -/
theorem Traffic.flow (traffic : Traffic d r s p r' d') (old : q < d.nextQueue)
    (attended : d'.Attended q) :
    d.waiting q ++ sentThrough q s = passedFrom q p ++ d'.waiting q := by
  cases traffic with
  | quiet | vanished => exact List.append_nil _
  | installed =>
    have other : q ≠ d.nextQueue := Nat.ne_of_lt old
    have same : d.install.waiting q = d.waiting q := Desk.waiting_congr (if_neg other)
    rw [same]
    exact List.append_nil _
  | submitted q' w lane =>
    rw [sentThrough_singleton]
    by_cases own : q = q'
    · subst own
      rw [if_pos rfl, Desk.waiting_of_lane lane,
        Desk.waiting_of_lane (d := d.submit _ _ _) (if_pos rfl), List.filterMap_append]
      rfl
    · rw [if_neg own, List.append_nil]
      exact (Desk.waiting_congr (if_neg own)).symm
  | told q' lane =>
    show d.waiting q ++ [] = (d.put q' _).waiting q
    rw [List.append_nil]
    by_cases own : q = q'
    · subst own
      rw [Desk.waiting_of_lane lane, Desk.waiting_of_lane (d := d.put _ _) (if_pos rfl),
        List.filterMap_append]
      exact (List.append_nil _).symm
    · exact (Desk.waiting_congr (if_neg own)).symm
  | stopped q' lane head =>
    show d.waiting q ++ [] = (d.put q' _).waiting q
    rw [List.append_nil]
    by_cases own : q = q'
    · subst own
      rw [Desk.waiting_of_lane lane, Desk.waiting_of_lane (d := d.put _ _) (if_pos rfl), head]
      rfl
    · exact (Desk.waiting_congr (if_neg own)).symm
  | passed q' result lane head =>
    rw [passedFrom_singleton]
    by_cases own : q = q'
    · subst own
      rw [if_pos rfl, Desk.waiting_of_lane lane,
        Desk.waiting_of_lane (d := (d.put _ _).answer _ _) (if_pos rfl), head]
      exact List.append_nil _
    · rw [if_neg own]
      exact (List.append_nil _).trans (Desk.waiting_congr (if_neg own)).symm
  | abandoned q' lane =>
    rw [Desk.abandon_eq] at attended ⊢
    by_cases own : q = q'
    · obtain ⟨l, there, reading⟩ := attended
      cases (if_pos own).symm.trans there
      cases reading
    · exact (List.append_nil _).trans (Desk.waiting_congr (if_neg own)).symm

/-- Queues are numbered as they are set up. -/
theorem Traffic.nextQueue_le (traffic : Traffic d r s p r' d') : d.nextQueue ≤ d'.nextQueue := by
  cases traffic with
  | installed => exact Nat.le_succ _
  | abandoned q' lane =>
    rw [Desk.abandon_eq]
    exact Nat.le_refl _
  | _ => exact Nat.le_refl _

/-- A queue that was set up before and is read now was read before. -/
theorem Traffic.attended_before (traffic : Traffic d r s p r' d') (old : q < d.nextQueue)
    (attended : d'.Attended q) : d.Attended q := by
  cases traffic with
  | quiet | vanished => exact attended
  | installed =>
    obtain ⟨l, there, reading⟩ := attended
    exact ⟨l, (if_neg (Nat.ne_of_lt old)).symm.trans there, reading⟩
  | submitted q' w found | told q' found | stopped q' found | passed q' result found =>
    exact attended.of_put (fun _ => rfl) found rfl
  | abandoned q' found =>
    rw [Desk.abandon_eq] at attended
    obtain ⟨l, there, reading⟩ := attended
    by_cases own : q = q'
    · cases (if_pos own).symm.trans there
      cases reading
    · exact ⟨l, (if_neg own).symm.trans there, reading⟩

/-- The reader of a queue stays there, unless it is the one that takes the step and leaves. -/
theorem Traffic.attended_after (traffic : Traffic d r s p r' d') (attended : d.Attended q) :
    d'.Attended q ∨ r = some q ∧ r' = none ∧ p = [] := by
  have put : ∀ {d' : Desk} {q' : QueueId} {l l' : Lane}, d.lanes q' = some l →
      (∀ q, d'.lanes q = if q = q' then some l' else d.lanes q) → l'.reading = l.reading →
        d'.Attended q := by
    intro d' q' l l' lane lanes same
    obtain ⟨l₁, there, reading⟩ := attended
    by_cases own : q = q'
    · subst own
      cases lane.symm.trans there
      exact ⟨l', (lanes q).trans (if_pos rfl), same.trans reading⟩
    · exact ⟨l₁, ((lanes q).trans (if_neg own)).trans there, reading⟩
  cases traffic with
  | quiet | vanished => exact .inl attended
  | installed =>
    obtain ⟨l, there, reading⟩ := attended
    by_cases new : q = d.nextQueue
    · exact .inl ⟨{}, if_pos new, rfl⟩
    · exact .inl ⟨l, (if_neg new).trans there, reading⟩
  | submitted q' w lane | told q' lane | stopped q' lane | passed q' result lane =>
    exact .inl (put lane (fun _ => rfl) rfl)
  | abandoned q' lane =>
    rw [Desk.abandon_eq]
    by_cases own : q = q'
    · exact .inr ⟨congrArg some own.symm, rfl, rfl⟩
    · obtain ⟨l, there, reading⟩ := attended
      exact .inl ⟨l, (if_neg own).trans there, reading⟩

end

/-! ## Every queue has one terminal -/

namespace System

variable {t u : System} {moves : List Move}

/-- Every queue has one terminal at most, and is read as long as it has one. -/
structure Driven (t : System) : Prop where
  numbered : ∀ (c : CallId) (call : Call) (q : QueueId), t.calls[c]? = some call →
    call.drives? = some q → q < t.hub.desk.nextQueue
  alone : ∀ (c d : CallId) (call call' : Call) (q : QueueId), t.calls[c]? = some call →
    t.calls[d]? = some call' → call.drives? = some q → call'.drives? = some q → c = d
  attended : ∀ (c : CallId) (call : Call) (q : QueueId), t.calls[c]? = some call →
    call.drives? = some q → t.hub.desk.Attended q

namespace Driven

/-- What changes neither the desk nor the terminals. -/
theorem still (driven : t.Driven) (same : u.hub.desk = t.hub.desk)
    (calls : ∀ {c : CallId} {call : Call} {q : QueueId}, u.calls[c]? = some call →
      call.drives? = some q → t.calls[c]? = some call) : u.Driven := by
  constructor
  case numbered =>
    intro c call q hc drives
    rw [same]
    exact driven.numbered c call q (calls hc drives) drives
  case alone =>
    intro c d call call' q hc hd drives drives'
    exact driven.alone c d call call' q (calls hc drives) (calls hd drives') drives drives'
  case attended =>
    intro c call q hc drives
    rw [same]
    exact driven.attended c call q (calls hc drives) drives

theorem step (driven : t.Driven) {c : CallId} {call call' : Call} (hc : t.calls[c]? = some call)
    (orderly : call.IsOrderly) (hs : call.step g e t.hub = some (h', call')) :
    (t.stepped c h' call').Driven := by
  have traffic := Call.traffic orderly hs
  -- whose terminal a queue has after the step
  have before : ∀ {d : CallId} {call₁ : Call} {q : QueueId},
      (t.stepped c h' call').calls[d]? = some call₁ → call₁.drives? = some q →
        (∃ call₀, t.calls[d]? = some call₀ ∧ call₀.drives? = some q) ∨
          d = c ∧ q = t.hub.desk.nextQueue ∧ h'.desk = t.hub.desk.install := by
    intro d call₁ q hd drives
    by_cases own : d = c
    · subst own
      obtain rfl := Option.some.inj ((calls_stepped hc h' call').symm.trans hd)
      obtain old | new := Call.drives_before hs drives
      · exact .inl ⟨call, hc, old⟩
      · exact .inr ⟨rfl, new⟩
    · rw [calls_stepped_other t own] at hd
      exact .inl ⟨call₁, hd, drives⟩
  constructor
  case numbered =>
    intro d call₁ q hd drives
    show q < h'.desk.nextQueue
    obtain ⟨call₀, hd₀, old⟩ | ⟨-, rfl, installed⟩ := before hd drives
    · exact Nat.lt_of_lt_of_le (driven.numbered d call₀ q hd₀ old) traffic.nextQueue_le
    · rw [installed]
      exact Nat.lt_succ_self _
  case alone =>
    intro d d' call₁ call₂ q hd hd' drives drives'
    obtain ⟨call₀, hd₀, old⟩ | ⟨rfl, new, -⟩ := before hd drives
    · obtain ⟨call₀', hd₀', old'⟩ | ⟨-, new', -⟩ := before hd' drives'
      · exact driven.alone d d' call₀ call₀' q hd₀ hd₀' old old'
      · exact absurd new' (Nat.ne_of_lt (driven.numbered d call₀ q hd₀ old))
    · obtain ⟨call₀', hd₀', old'⟩ | ⟨rfl, -⟩ := before hd' drives'
      · exact absurd new (Nat.ne_of_lt (driven.numbered d' call₀' q hd₀' old'))
      · rfl
  case attended =>
    intro d call₁ q hd drives
    show h'.desk.Attended q
    obtain ⟨call₀, hd₀, old⟩ | ⟨-, rfl, installed⟩ := before hd drives
    · obtain still | ⟨reads, gone, -⟩ := traffic.attended_after (driven.attended d call₀ q hd₀ old)
      · exact still
      · -- it was the terminal itself that took the step, and it is no terminal any more
        obtain rfl := driven.alone d c call₀ call q hd₀ hc old (Call.drives_of_reads hs reads)
        obtain rfl := Option.some.inj ((calls_stepped hc h' call').symm.trans hd)
        cases gone.symm.trans (Call.reads_of_drives drives)
    · rw [installed]
      exact ⟨{}, if_pos rfl, rfl⟩

end Driven

/-- **Along every schedule each queue has one terminal at most.** -/
theorem driven (ran : initial.run g moves = some t) : t.Driven := by
  induction moves using List.reverseRecOn generalizing t with
  | nil =>
    obtain rfl := Option.some.inj ran
    constructor
    case alone =>
      intro c d call call' q hc
      cases hc
    case numbered | attended =>
      intro c call q hc
      cases hc
  | append_singleton past m ih =>
    obtain ⟨u, hu, -⟩ := run_append_eq_some ran
    have orderly := (Balanced.run hu).orderly
    rw [run_concat, hu] at ran
    cases m with
    | start r =>
      obtain rfl := Option.some.inj ran
      refine (ih hu).still rfl fun {c call q} hc drives => ?_
      obtain old | ⟨r, rfl⟩ | ⟨e, call₀, h, hm, -⟩ :=
        calls_move_back (g := g) (s := u) (m := .start r) rfl hc
      · exact old
      · cases drives
      · cases hm
    | step c e =>
      obtain ⟨call, h', call', hc, hs, rfl⟩ := move_step_eq_some ran
      exact (ih hu).step hc (orderly call (List.mem_of_getElem? hc)) hs
    | make | wait =>
      obtain rfl := Option.some.inj ran
      exact (ih hu).still rfl fun hc _ => hc

end System

end Session

end ShellGateway
