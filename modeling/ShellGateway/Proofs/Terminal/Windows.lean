import ShellGateway.Terminal.Relay

/-!
# Which windows a terminal passes on

A terminal passes a window on when a command from its control queue says so, and at no
other time (`TerminalTask.forwarded_step`). Commands are taken off the queue while the
terminal relays, and none of them ends it at once: there is still the stream to shut down
and the channel to close (`TerminalTask.step_fromQueue`).
-/

namespace ShellGateway

open Terminal
open Session (Ticket)

/-- The windows that a terminal passes on when it meets an event. -/
def Terminal.Event.windows : Event → List Forwarded
  | .command (.resize ticket window) fault =>
    [⟨ticket, window, match fault with
      | none => .ok ()
      | some detail => .error (.link detail)⟩]
  | _ => []

/-- A window is passed on once, or the link breaks. -/
theorem Terminal.Event.windows_resize (ticket : Ticket) (window : Window)
    (fault : Option String) :
    ∃ result, (Event.command (.resize ticket window) fault).windows = [⟨ticket, window, result⟩] ∧
      (result = .ok () ∨ ∃ detail, result = .error (.link detail)) := by
  cases fault with
  | none => exact ⟨_, rfl, .inl rfl⟩
  | some detail => exact ⟨_, rfl, .inr ⟨detail, rfl⟩⟩

namespace TerminalTask

variable {t t' : TerminalTask} {e : Event}

/-- The terminal has not been asked to relay yet. -/
def isStarting (t : TerminalTask) : Bool :=
  match t.stage with
  | .asking _ | .awaiting _ | .attaching => true
  | _ => false

/-- A step is one of the terminal's own course, or it is brought down. -/
theorem step_cases (hs : t.step e = some t') :
    (e = .brokeDown ∨ ∃ task, e = .stopped task) ∧ (∃ how, t' = { t with stage := .ended how }) ∨
      t.advance e = some t' := by
  unfold step at hs
  cases h : t.end? with
  | some how =>
    rw [h] at hs
    cases hs
  | none =>
    rw [h] at hs
    cases e with
    | brokeDown =>
      cases hs
      exact .inl ⟨.inl rfl, _, rfl⟩
    | stopped task =>
      cases hs
      exact .inl ⟨.inr ⟨task, rfl⟩, _, rfl⟩
    | _ => exact .inr hs

/-- A terminal that relays goes on, or sets out to end; it passes on the windows that it is
told to pass on. -/
theorem relaying_cases (hs : t.stepRelaying e = some t') :
    t'.forwarded = t.forwarded ++ e.windows ∧
      (t'.stage = t.stage ∨ ∃ result, t'.stage = .shuttingDown result true) := by
  have nothing : t.forwarded = t.forwarded ++ [] := (List.append_nil _).symm
  cases e with
  | command c fault =>
    cases c with
    | resize ticket w =>
      cases hs
      exact ⟨rfl, .inl rfl⟩
    | close =>
      cases hs
      exact ⟨nothing, .inr ⟨_, rfl⟩⟩
  | message m fault =>
    cases m with
    | close =>
      cases hs
      exact ⟨nothing, .inr ⟨_, rfl⟩⟩
    | _ =>
      simp only [stepRelaying] at hs
      split at hs
      · cases hs
        cases fault with
        | none => exact ⟨nothing, .inl rfl⟩
        | some fault => cases fault <;> exact ⟨nothing, .inr ⟨_, rfl⟩⟩
      · cases hs
        exact ⟨nothing, .inl rfl⟩
  | input chunk fault =>
    cases hs
    cases fault with
    | none => exact ⟨nothing, .inl rfl⟩
    | some detail => exact ⟨nothing, .inr ⟨_, rfl⟩⟩
  | channelEnd | inputEnd | inputFailed | queueEnd =>
    cases hs
    exact ⟨nothing, .inr ⟨_, rfl⟩⟩
  | _ => cases hs

/-- What happens before and after relaying passes nothing on. -/
theorem forwarded_advance (hs : t.advance e = some t') :
    t'.forwarded = t.forwarded ++ e.windows := by
  have nothing : t.forwarded = t.forwarded ++ [] := (List.append_nil _).symm
  unfold advance at hs
  split at hs
  case h_2 =>
    unfold stepAwaiting at hs
    split at hs <;> cases hs <;> exact nothing
  case h_3 =>
    obtain ⟨rfl, attached⟩ := Option.ite_none_right_eq_some.mp hs
    cases attached
    exact nothing
  case h_4 => exact (relaying_cases hs).1
  case h_8 => cases hs
  all_goals
    split at hs
    all_goals cases hs
    all_goals exact nothing

/-- **A terminal passes on the windows that it is told to pass on.** -/
theorem forwarded_step (hs : t.step e = some t') : t'.forwarded = t.forwarded ++ e.windows := by
  obtain ⟨down, how, rfl⟩ | hs := step_cases hs
  · obtain rfl | ⟨task, rfl⟩ := down
    · exact (List.append_nil _).symm
    · exact (List.append_nil _).symm
  · exact forwarded_advance hs

theorem terminal_relaying (hs : t.stepRelaying e = some t') : t'.terminal = t.terminal := by
  unfold stepRelaying at hs
  split at hs
  case h_2 =>
    split at hs
    · cases hs
      unfold relayOutput
      split <;> rfl
    · cases hs
      rfl
  case h_4 fault =>
    cases hs
    cases fault <;> rfl
  all_goals cases hs
  all_goals rfl

/-- **What a terminal asks for stays the same.** -/
theorem terminal_step (hs : t.step e = some t') : t'.terminal = t.terminal := by
  obtain ⟨-, how, rfl⟩ | own := step_cases hs
  · rfl
  · unfold advance at own
    split at own
    case h_2 =>
      unfold stepAwaiting at own
      split at own <;> cases own <;> rfl
    case h_3 =>
      obtain ⟨-, attached⟩ := Option.ite_none_right_eq_some.mp own
      cases attached
      rfl
    case h_4 => exact terminal_relaying own
    case h_8 => cases own
    all_goals
      split at own
      all_goals cases own
      all_goals rfl

/-- An event that comes through the control queue. -/
def FromQueue (e : Event) : Prop :=
  (∃ c fault, e = .command c fault) ∨ e = .queueEnd

/-- What comes through the control queue is met by a terminal that relays, which goes on, or
sets out to end. -/
theorem step_fromQueue (fromQueue : FromQueue e) (hs : t.step e = some t') :
    t.stage = .relaying ∧ t'.end? = none := by
  have own : t.advance e = some t' := by
    obtain ⟨rfl | ⟨task, rfl⟩, -⟩ | own := step_cases hs
    · obtain ⟨c, fault, h⟩ | h := fromQueue <;> cases h
    · obtain ⟨c, fault, h⟩ | h := fromQueue <;> cases h
    · exact own
  have relaying : t.stage = .relaying := by
    unfold advance at own
    obtain ⟨c, fault, rfl⟩ | rfl := fromQueue
    · split at own
      case h_4 stage => exact stage
      all_goals cases own
    · split at own
      case h_4 stage => exact stage
      all_goals cases own
  unfold advance at own
  rw [relaying] at own
  refine ⟨relaying, ?_⟩
  unfold end?
  obtain stage | ⟨result, stage⟩ := (relaying_cases own).2
  · rw [stage, relaying]
  · rw [stage]

/-- A terminal relays from when its queue is installed. -/
theorem step_attached (hs : t.step .attached = some t') :
    t.isStarting = true ∧ t'.stage = .relaying := by
  obtain ⟨down | ⟨_, down⟩, -⟩ | own := step_cases hs
  · cases down
  · cases down
  · unfold advance at own
    split at own
    case h_3 stage =>
      rw [if_pos rfl] at own
      cases own
      unfold isStarting
      rw [stage]
      exact ⟨rfl, rfl⟩
    all_goals cases own

/-- A terminal that has been asked to relay does not start again. -/
theorem isStarting_step (hs : t.step e = some t') (started : t.isStarting = false) :
    t'.isStarting = false := by
  obtain ⟨-, how, rfl⟩ | own := step_cases hs
  · rfl
  · unfold advance at own
    split at own
    case h_1 stage | h_2 stage | h_3 stage =>
      unfold isStarting at started
      rw [stage] at started
      cases started
    case h_4 =>
      unfold isStarting at started ⊢
      obtain stage | ⟨result, stage⟩ := (relaying_cases own).2
      · rw [stage]
        exact started
      · rw [stage]
    case h_6 result hadShell stage =>
      split at own
      · cases own
        cases hadShell <;> rfl
      · cases own
    case h_8 => cases own
    all_goals
      split at own
      all_goals cases own
      all_goals rfl

end TerminalTask

end ShellGateway
