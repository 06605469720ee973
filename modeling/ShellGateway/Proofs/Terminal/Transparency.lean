import Mathlib.Data.List.Induction
import ShellGateway.Proofs.Session.Frame
import ShellGateway.Proofs.Terminal.Windows
import ShellGateway.Session.Call

/-!
# The relay adds nothing and keeps nothing back

From when its shell has started a terminal meets one event after the other. What the remote
host puts out goes to the stream, what the web client types goes to the remote host, and a
window goes on as often as it was asked for; everything else that is met leaves no trace. So
what a terminal has done is told by the list of what it met: `Relayed` reads one from the
other.

`Event.verdict?` says which events end the relay, and with what result. The first of them is
the last event that is relayed, as far as it can be: a write that fails may have taken a
part (`Event.delivered`). After it the terminal takes nothing more, shuts the stream down and
closes the channel, each once (`Ended`).

Activity and answers are the hub's. `Call.enacts` says that a terminal's call does there what
the terminal puts down in its own account, and at no other time.
-/

namespace ShellGateway

open Terminal

namespace Terminal.Event

/-! ## What events carry -/

/-- The terminal can meet the event while it relays. -/
def isRelayed : Event → Bool
  | message _ _ | channelEnd | input _ _ | inputEnd | inputFailed _ | command _ _ | queueEnd => true
  | requested _ | attached | reported _ | released _ | brokeDown | stopped _ => false

/-- The event is input from the web client. -/
@[simp]
def isInput : Event → Bool
  | input _ _ => true
  | _ => false

/-- The output of the remote host that comes with an event. -/
@[simp]
def payload : Event → Bytes
  | message m _ => m.payload?.getD []
  | _ => []

/-- How much of it reaches the stream. -/
@[simp]
def delivered : Event → Bytes
  | message m (some (.writing taken _)) => (m.payload?.getD []).take taken
  | e => e.payload

/-- The input of the web client that comes with an event. -/
@[simp]
def chunk : Event → Bytes
  | input bytes _ => bytes
  | _ => []

/-- How much of it is sent on the channel. -/
@[simp]
def conveyed : Event → Bytes
  | input bytes (some fault) => bytes.take fault.taken
  | e => e.chunk

/-- The result with which an event ends the relay, if it does: either side has ended, the
terminal is told to stop or nobody can tell it anything any more, or the stream or the
channel fails. -/
@[simp]
def verdict? : Event → Option (Except Failure Unit)
  | message .close _ | channelEnd | inputEnd | command .close _ | queueEnd => some (.ok ())
  | message m (some (.writing _ detail)) => m.payload?.map fun _ => .error (.io detail)
  | message m (some (.flushing detail)) => m.payload?.map fun _ => .error (.io detail)
  | inputFailed detail => some (.error (.io detail))
  | input _ (some fault) => some (.error (.link fault.detail))
  | _ => none

variable {e : Event} {result : Except Failure Unit}

/-- What does not end the relay is delivered whole. -/
theorem delivered_of_quiet (quiet : e.verdict? = none) : e.delivered = e.payload := by
  cases e with
  | message m fault =>
    cases fault with
    | none => rfl
    | some fault =>
      cases fault with
      | flushing detail => rfl
      | writing taken detail =>
        -- a message that carries output would have ended the relay
        cases m <;> first | rfl | exact List.take_nil | cases quiet
  | _ => rfl

theorem conveyed_of_quiet (quiet : e.verdict? = none) : e.conveyed = e.chunk := by
  cases e with
  | input bytes fault =>
    cases fault with
    | none => rfl
    | some fault => cases quiet
  | _ => rfl

theorem delivered_isPrefix (e : Event) : e.delivered <+: e.payload := by
  unfold delivered
  split
  · exact List.take_prefix _ _
  · exact List.prefix_refl _

/-- No window ends the relay. -/
theorem windows_of_verdict (ends : e.verdict? = some result) : e.windows = [] := by
  cases e with
  | command c fault =>
    cases c with
    | resize ticket window => cases ends
    | close => rfl
  | _ => rfl

end Terminal.Event

namespace TerminalTask

variable {t t' : TerminalTask} {e last : Event} {met es : List Event} {result : Except Failure Unit}

/-! ## One event -/

/-- A terminal that relays, after an event. -/
def after (t : TerminalTask) (e : Event) : TerminalTask :=
  { t with
    stage := match e.verdict? with
      | none => t.stage
      | some result => .shuttingDown result true
    written := t.written ++ e.delivered
    sent := t.sent ++ e.conveyed
    forwarded := t.forwarded ++ e.windows
    activities := t.activities + if e.isInput then 1 else 0 }

/-- **Whatever a terminal meets while it relays, it takes up.** -/
theorem step_relaying (relaying : t.stage = .relaying) (met : e.isRelayed = true) :
    t.step e = some (t.after e) := by
  have own : t.step e = t.stepRelaying e := by
    unfold step end? advance
    rw [relaying]
    cases e <;> first | rfl | cases met
  rw [own]
  cases e with
  | message m fault =>
    cases m with
    | data bytes | extendedData code bytes =>
      obtain _ | ⟨taken, detail⟩ | detail := fault <;>
        simp [after, stepRelaying, relayOutput, leave, Event.windows, Remote.Message.payload?,
          StreamFault.failure]
    | _ =>
      obtain _ | ⟨taken, detail⟩ | detail := fault <;>
        simp [after, stepRelaying, leave, Event.windows, Remote.Message.payload?]
  | input chunk fault =>
    cases fault <;> simp [after, stepRelaying, relayInput, leave, Event.windows]
  | command c fault =>
    cases c with
    | resize ticket window => cases fault <;> simp [after, stepRelaying, relayWindow, Event.windows]
    | close => simp [after, stepRelaying, leave, Event.windows]
  | channelEnd | inputEnd | inputFailed | queueEnd =>
    simp [after, stepRelaying, leave, Event.windows]
  | _ => cases met

theorem run_append (t : TerminalTask) (a b : List Event) :
    t.run (a ++ b) = t.run a >>= fun t => t.run b := by
  induction a generalizing t with
  | nil => rfl
  | cons e rest ih =>
    show (t.step e >>= fun t => t.run (rest ++ b)) = _
    cases hs : t.step e with
    | none => simp [run, hs]
    | some t' => simp [run, hs, ih]

/-! ## Many events -/

/-- What a terminal has done that relays and has met the events given. -/
structure Relayed (t : TerminalTask) (met : List Event) : Prop where
  relaying : t.stage = .relaying
  written : t.written = met.flatMap Event.payload
  sent : t.sent = met.flatMap Event.chunk
  forwarded : t.forwarded = met.flatMap Event.windows
  activities : t.activities = met.countP Event.isInput
  shutdowns : t.shutdowns = 0
  closes : t.closes = 0

/-- What one has done that met the events given, and after them one that ended the relay. -/
structure Ended (t : TerminalTask) (met : List Event) (last : Event)
    (result : Except Failure Unit) : Prop where
  ended : t.stage = .ended (.finished result)
  written : t.written = met.flatMap Event.payload ++ last.delivered
  sent : t.sent = met.flatMap Event.chunk ++ last.conveyed
  forwarded : t.forwarded = met.flatMap Event.windows
  activities : t.activities = (met ++ [last]).countP Event.isInput
  shutdowns : t.shutdowns = 1
  closes : t.closes = 1

/-- What does not end the relay is relayed. -/
theorem Relayed.step (relayed : t.Relayed met) (here : e.isRelayed = true)
    (quiet : e.verdict? = none) : ∃ t', t.step e = some t' ∧ t'.Relayed (met ++ [e]) := by
  refine ⟨_, step_relaying relayed.relaying here, ?_, ?_, ?_, ?_, ?_, ?_, ?_⟩
  · show (match e.verdict? with | none => t.stage | some result => _) = _
    rw [quiet]
    exact relayed.relaying
  · show t.written ++ e.delivered = _
    rw [relayed.written, Event.delivered_of_quiet quiet, List.flatMap_append, List.flatMap_singleton]
  · show t.sent ++ e.conveyed = _
    rw [relayed.sent, Event.conveyed_of_quiet quiet, List.flatMap_append, List.flatMap_singleton]
  · show t.forwarded ++ e.windows = _
    rw [relayed.forwarded, List.flatMap_append, List.flatMap_singleton]
  · show t.activities + _ = _
    rw [relayed.activities, List.countP_append, List.countP_singleton]
  · exact relayed.shutdowns
  · exact relayed.closes

theorem Relayed.run (relayed : t.Relayed met) (here : ∀ e ∈ es, e.isRelayed = true)
    (quiet : ∀ e ∈ es, e.verdict? = none) : ∃ t', t.run es = some t' ∧ t'.Relayed (met ++ es) := by
  induction es generalizing t met with
  | nil =>
    rw [List.append_nil]
    exact ⟨t, rfl, relayed⟩
  | cons e rest ih =>
    obtain ⟨t₁, step, relayed₁⟩ := relayed.step (here e List.mem_cons_self)
      (quiet e List.mem_cons_self)
    obtain ⟨t₂, run, relayed₂⟩ := ih relayed₁ (fun e he => here e (List.mem_cons_of_mem _ he))
      fun e he => quiet e (List.mem_cons_of_mem _ he)
    refine ⟨t₂, ?_, ?_⟩
    · rw [TerminalTask.run, step]
      exact run
    · rw [List.append_assoc] at relayed₂
      exact relayed₂

/-! ## The beginning -/

/-- A terminal that has done nothing yet. -/
structure Idle (t : TerminalTask) : Prop where
  written : t.written = []
  sent : t.sent = []
  forwarded : t.forwarded = []
  activities : t.activities = 0
  shutdowns : t.shutdowns = 0
  closes : t.closes = 0

/-- Asking for a shell changes nothing but where the terminal stands. -/
theorem step_starting (hs : t.step e = some t') (starting : t'.isStarting = true) :
    t.isStarting = true ∧ ∃ stage, t' = { t with stage } := by
  have before : t.isStarting = true := by
    cases h : t.isStarting with
    | true => rfl
    | false => exact absurd (starting.symm.trans (isStarting_step hs h)) Bool.noConfusion
  refine ⟨before, ?_⟩
  obtain ⟨-, how, rfl⟩ | own := step_cases hs
  · exact ⟨_, rfl⟩
  · unfold advance at own
    split at own
    case h_1 =>
      split at own <;> cases own <;> exact ⟨_, rfl⟩
    case h_2 =>
      unfold stepAwaiting at own
      split at own <;> cases own <;> exact ⟨_, rfl⟩
    case h_3 =>
      obtain ⟨-, here⟩ := Option.ite_none_right_eq_some.mp own
      cases here
      exact ⟨_, rfl⟩
    all_goals
      rename_i stage
      unfold isStarting at before
      rw [stage] at before
      cases before

/-- A terminal whose shell is still to be started, or has just been, has done nothing. -/
theorem Idle.run (idle : t.Idle) (hr : t.run es = some t') (starting : t'.isStarting = true) :
    t'.Idle := by
  -- a step that leads to such a terminal comes from such a one, so the induction is at the end
  induction es using List.reverseRecOn generalizing t' with
  | nil =>
    cases hr
    exact idle
  | append_singleton es e ih =>
    rw [run_append] at hr
    obtain ⟨t₁, ran, hs⟩ := Option.bind_eq_some_iff.mp hr
    obtain ⟨t₂, step, last⟩ := Option.bind_eq_some_iff.mp hs
    cases last
    obtain ⟨before, stage, rfl⟩ := step_starting step starting
    obtain ⟨written, sent, forwarded, activities, shutdowns, closes⟩ := ih ran before
    exact ⟨written, sent, forwarded, activities, shutdowns, closes⟩

/-- The relay begins with nothing done. -/
theorem Idle.attached (idle : t.Idle) (ready : t.stage = .attaching) :
    ∃ t', t.step .attached = some t' ∧ t'.Relayed [] := by
  have own : t.step .attached = t.advance .attached := by
    unfold step end?
    rw [ready]
  refine ⟨{ t with stage := .relaying }, ?_, ⟨rfl, ?_, ?_, ?_, ?_, ?_, ?_⟩⟩
  · rw [own]
    unfold advance
    rw [ready]
    rfl
  · exact idle.written
  · exact idle.sent
  · exact idle.forwarded
  · exact idle.activities
  · exact idle.shutdowns
  · exact idle.closes

/-! ## The end -/

/-- The terminal has met the event that ends the relay: nothing more is relayed, and once the
stream has been shut down and the channel closed, it has ended. -/
structure Leaving (t : TerminalTask) (met : List Event) (last : Event)
    (result : Except Failure Unit) : Prop where
  deaf : ∀ e, e.isRelayed = true → t.step e = none
  leaves : ∀ streamFails channelFails : Bool,
    ∃ t', t.run [.released streamFails, .released channelFails] = some t' ∧
      t'.Ended met last result

theorem Relayed.leaves (relayed : t.Relayed met) (here : last.isRelayed = true)
    (ends : last.verdict? = some result) :
    ∃ t', t.step last = some t' ∧ t'.Leaving met last result := by
  have stage : (t.after last).stage = .shuttingDown result true := by
    show (match last.verdict? with | none => t.stage | some result => _) = _
    rw [ends]
  refine ⟨_, step_relaying relayed.relaying here, fun e he => ?_, fun streamFails channelFails => ?_⟩
  · unfold TerminalTask.step end? advance
    rw [stage]
    cases e <;> first | rfl | cases he
  · refine ⟨{ t.after last with
      stage := .ended (.finished result)
      shutdowns := t.shutdowns + 1
      closes := t.closes + 1 }, ?_, ⟨rfl, ?_, ?_, ?_, ?_, ?_, ?_⟩⟩
    · simp [TerminalTask.run, TerminalTask.step, end?, advance, stage]
      exact ⟨rfl, rfl⟩
    · show t.written ++ last.delivered = _
      rw [relayed.written]
    · show t.sent ++ last.conveyed = _
      rw [relayed.sent]
    · show t.forwarded ++ last.windows = _
      rw [relayed.forwarded, Event.windows_of_verdict ends, List.append_nil]
    · show t.activities + _ = _
      rw [relayed.activities, List.countP_append, List.countP_singleton]
    · show t.shutdowns + 1 = 1
      rw [relayed.shutdowns]
    · show t.closes + 1 = 1
      rw [relayed.closes]

/-- What becomes of events that a terminal meets from when its shell has started: all of them
are relayed, or the first that ends the relay is the last that is. -/
def Relays (t : TerminalTask) (es : List Event) : Prop :=
  (∀ e ∈ es, e.verdict? = none) ∧ (∃ t', t.run (.attached :: es) = some t' ∧ t'.Relayed es) ∨
    ∃ met last rest result, es = met ++ last :: rest ∧ (∀ e ∈ met, e.verdict? = none) ∧
      last.verdict? = some result ∧
        ∃ t', t.run (.attached :: met ++ [last]) = some t' ∧ t'.Leaving met last result

theorem Idle.relays (idle : t.Idle) (ready : t.stage = .attaching)
    (here : ∀ e ∈ es, e.isRelayed = true) : t.Relays es := by
  obtain ⟨t₁, attached, relayed⟩ := idle.attached ready
  cases stopped : es.find? (·.verdict?.isSome) with
  | none =>
    have quiet : ∀ e ∈ es, e.verdict? = none := fun e he =>
      Option.not_isSome_iff_eq_none.mp (List.find?_eq_none.mp stopped e he)
    obtain ⟨t₂, run, relayed⟩ := relayed.run here quiet
    refine .inl ⟨quiet, t₂, ?_, relayed⟩
    rw [TerminalTask.run, attached]
    exact run
  | some last =>
    obtain ⟨stops, met, rest, rfl, before⟩ := List.find?_eq_some_iff_append.mp stopped
    obtain ⟨result, ends⟩ := Option.isSome_iff_exists.mp stops
    have quiet : ∀ e ∈ met, e.verdict? = none := by
      intro e he
      simpa using before e he
    obtain ⟨t₂, run, relayed⟩ := relayed.run (fun e he => here e (List.mem_append_left _ he)) quiet
    obtain ⟨t₃, step, leaving⟩ := relayed.leaves
      (here last (List.mem_append_right _ List.mem_cons_self)) ends
    refine .inr ⟨met, last, rest, result, rfl, quiet, ends, t₃, ?_, leaving⟩
    rw [run_append, TerminalTask.run, attached]
    show (t₁.run met >>= fun t => t.run [last]) = some t₃
    rw [run]
    show (t₂.step last >>= fun t => t.run []) = some t₃
    rw [step]
    rfl

end TerminalTask

/-! ## What the hub hears of it -/

namespace Session

/-- What the call of a terminal does to the hub when the terminal meets an event: activity is
recorded for input, and a window that is passed on is answered for. -/
structure Enacts (h : Hub) (s : Serial) (met : Terminal.Event) (h' : Hub) : Prop where
  touched : met.isInput = true → (h.touch s).SameSessions h'
  untouched : met.isInput = false → met ≠ .attached → h.SameSessions h'
  answered : ∀ f ∈ met.windows, h'.replies.get? f.ticket = some (.given f.result)

namespace Call

variable {h h' m : Hub} {c' : Call} {id : String} {s : Serial} {q : Option QueueId}
  {task : TerminalTask}

/-- A terminal that goes on or has ended changes no session. -/
theorem frame_bridged (hs : bridged m id s q task = (h', c')) : m.SameSessions h' := by
  unfold bridged at hs
  split at hs
  · cases hs
    exact Hub.Frame.refl _ h'
  · cases hs
    split
    · exact m.frame_abandon _
    · exact Hub.Frame.refl _ m

/-- **A terminal's call does to the hub what the terminal puts down in its account.** -/
theorem enacts {e : Event} (hs : stepTerminal h id s q task e = some (h', c')) :
    ∃ met m q' task', task.step met = some task' ∧ bridged m id s q' task' = (h', c') ∧
      Enacts h s met h' := by
  cases e with
  | terminal e =>
    cases e with
    | attached =>
      obtain ⟨task', ht, hs⟩ := Option.bind_eq_some_iff.mp hs
      exact ⟨_, _, _, task', ht, Option.some.inj hs, nofun, fun _ other => absurd rfl other, nofun⟩
    | input chunk fault =>
      obtain ⟨task', ht, hs⟩ := Option.bind_eq_some_iff.mp hs
      have given := Option.some.inj hs
      exact ⟨_, _, q, task', ht, given, fun _ => frame_bridged given, nofun, nofun⟩
    -- these two come through the queue only
    | command _ _ | queueEnd => cases hs
    | _ =>
      obtain ⟨task', ht, hs⟩ := Option.bind_eq_some_iff.mp hs
      have given := Option.some.inj hs
      exact ⟨_, h, q, task', ht, given, nofun, fun _ _ => frame_bridged given, nofun⟩
  | control fault =>
    obtain ⟨queue, rfl, hs⟩ := Option.bind_eq_some_iff.mp hs
    have received : h.SameSessions (h.receive queue).2 := h.frame_receive queue
    cases hr : h.receive queue with
    | mk r m =>
      rw [hr] at hs received
      cases r with
      | nothingYet => cases hs
      | ended =>
        obtain ⟨task', ht, hs⟩ := Option.bind_eq_some_iff.mp hs
        have given := Option.some.inj hs
        exact ⟨_, m, _, task', ht, given, nofun, fun _ _ => received.trans (frame_bridged given),
          nofun⟩
      | command command =>
        cases command with
        | close =>
          obtain ⟨task', ht, hs⟩ := Option.bind_eq_some_iff.mp hs
          have given := Option.some.inj hs
          exact ⟨_, m, _, task', ht, given, nofun,
            fun _ _ => received.trans (frame_bridged given), nofun⟩
        | resize ticket w =>
          obtain ⟨task', ht, hs⟩ := Option.bind_eq_some_iff.mp hs
          have goesOn := (TerminalTask.step_fromQueue (.inl ⟨_, _, rfl⟩) ht).2
          have account := TerminalTask.forwarded_step ht
          obtain ⟨result, one, -⟩ := Terminal.Event.windows_resize ticket w fault
          have given := Option.some.inj hs
          refine ⟨_, _, _, task', ht, given, nofun, fun _ _ =>
            (received.trans (m.frame_reply ticket _)).trans (frame_bridged given), fun f hf => ?_⟩
          rw [one] at hf account
          cases List.mem_singleton.mp hf
          unfold bridged at given
          rw [goesOn, account, List.getLast?_concat] at given
          cases given
          exact Dictionary.get?_insert_self _ _ _
  | _ => cases hs

end Call

end Session

namespace TerminalTask

/-- **The relay is transparent.** From when the shell has started, what a terminal writes,
sends, passes on and records is what the events that it meets carry, in their order, up to
the first that ends the relay; that one decides the result, and after it the stream is shut
down and the channel closed. Activity and answers reach the hub as the terminal has them. -/
theorem transparent_relay {terminal : Terminal} {start es : List Event} {t : TerminalTask}
    (ran : ({ terminal } : TerminalTask).run start = some t) (ready : t.stage = .attaching)
    (here : ∀ e ∈ es, e.isRelayed = true) :
    t.Relays es ∧
      ∀ {h h' : Hub} {id : String} {s : Session.Serial} {q : Option Session.QueueId}
        {task : TerminalTask} {e : Session.Event} {c' : Session.Call},
        Session.Call.stepTerminal h id s q task e = some (h', c') →
          ∃ met m q' task', task.step met = some task' ∧
            Session.Call.bridged m id s q' task' = (h', c') ∧ Session.Enacts h s met h' := by
  have starting : t.isStarting = true := by
    unfold isStarting
    rw [ready]
  have untouched : ({ terminal } : TerminalTask).Idle := ⟨rfl, rfl, rfl, rfl, rfl, rfl⟩
  exact ⟨(untouched.run ran starting).relays ready here, Session.Call.enacts⟩

/-- The remote host greets, a command is typed, the window changes, and the stream breaks when
half of the answer is written; what is typed after that is not sent any more. -/
theorem transparent_relay_brokenStream :
    let terminal : Terminal := ⟨"xterm", ⟨80, 24⟩⟩
    let start : List Event :=
      [.requested none, .message .success none, .requested none, .message .success none]
    let es : List Event :=
      [.message (.data [72, 105]) none, .input [108, 115, 10] none,
        .command (.resize 0 ⟨100, 40⟩) none, .message (.exitStatus 0) none,
        .message (.extendedData 1 [97, 98]) (some (.writing 1 "broken pipe")), .input [113] none]
    ({ terminal } : TerminalTask).run start = some { terminal, stage := .attaching } ∧
      (∀ e ∈ es, e.isRelayed = true) ∧ ({ terminal, stage := .attaching } : TerminalTask).Relays es := by
  intro terminal start es
  have ran : ({ terminal } : TerminalTask).run start = some { terminal, stage := .attaching } := rfl
  have here : ∀ e ∈ es, e.isRelayed = true := by decide
  exact ⟨ran, here, (transparent_relay ran rfl here).1⟩

end TerminalTask

end ShellGateway
