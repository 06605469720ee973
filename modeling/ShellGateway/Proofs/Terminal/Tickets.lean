import ShellGateway.Terminal.Relay

/-!
# Terminals and tickets

A terminal keeps with every window that it passed on the ticket of whoever asked
for it. Tickets are names, handed out in the order in which windows are sent, and
another order gives out others; nothing that a terminal does depends on them.
`TerminalTask.anonymous` is a terminal without the names, and
`TerminalTask.anonymous_step` says that leaving them out before an event or after
it comes to the same.
-/

namespace ShellGateway

open Session (Command)

/-- The command with no name on it. -/
def Session.Command.anonymous : Command → Command
  | resize _ window => resize 0 window
  | close => close

namespace Terminal

/-- The window that was passed on, with no name on it. -/
def Forwarded.anonymous (f : Forwarded) : Forwarded :=
  { f with ticket := 0 }

/-- The event with no name on the command that it brings. -/
def Event.anonymous : Event → Event
  | .command c fault => .command c.anonymous fault
  | e => e

end Terminal

namespace TerminalTask

open Terminal

/-- The terminal with no names on the windows that it passed on. -/
def anonymous (t : TerminalTask) : TerminalTask :=
  { t with forwarded := t.forwarded.map Forwarded.anonymous }

theorem anonymous_end? (t : TerminalTask) : t.anonymous.end? = t.end? := rfl

theorem anonymous_relayOutput (t : TerminalTask) (bytes : Bytes) (fault : Option StreamFault) :
    (t.relayOutput bytes fault).anonymous = t.anonymous.relayOutput bytes fault := by
  obtain _ | ⟨_ | _⟩ := fault <;> rfl

theorem anonymous_relayInput (t : TerminalTask) (chunk : Bytes) (fault : Option SendFault) :
    (t.relayInput chunk fault).anonymous = t.anonymous.relayInput chunk fault := by
  cases fault <;> rfl

/-- Passing a window on is the one thing that puts a name down. -/
theorem anonymous_relayWindow (t : TerminalTask) (ticket : Session.Ticket) (window : Window)
    (fault : Option String) :
    (t.relayWindow ticket window fault).anonymous = t.anonymous.relayWindow 0 window fault := by
  simp [relayWindow, anonymous, Forwarded.anonymous]

theorem anonymous_stepAwaiting (t : TerminalTask) (what : Asking) (e : Event) :
    (t.stepAwaiting what e).map anonymous = t.anonymous.stepAwaiting what e.anonymous := by
  cases e with
  | message m fault => cases m <;> rfl
  | _ => rfl

theorem anonymous_stepRelaying (t : TerminalTask) (e : Event) :
    (t.stepRelaying e).map anonymous = t.anonymous.stepRelaying e.anonymous := by
  cases e with
  | message m fault =>
    cases m with
    | close => rfl
    | _ =>
      simp only [stepRelaying, Event.anonymous]
      split <;> simp [anonymous_relayOutput]
  | input chunk fault => simp [stepRelaying, Event.anonymous, anonymous_relayInput]
  | command c fault =>
    cases c with
    | resize ticket window =>
      simp [stepRelaying, Event.anonymous, Command.anonymous, anonymous_relayWindow]
    | close => rfl
  | _ => rfl

theorem anonymous_advance (t : TerminalTask) (e : Event) :
    (t.advance e).map anonymous = t.anonymous.advance e.anonymous := by
  have stage : t.anonymous.stage = t.stage := rfl
  unfold advance
  rw [stage]
  cases t.stage with
  | awaiting what => exact anonymous_stepAwaiting t what e
  | relaying => exact anonymous_stepRelaying t e
  | asking what =>
    cases e with
    | requested fault => cases fault <;> rfl
    | _ => rfl
  | attaching => cases e <;> rfl
  | _ => cases e <;> rfl

/-- **A terminal does the same whatever the windows that it passes on are called.** -/
theorem anonymous_step (t : TerminalTask) (e : Event) :
    (t.step e).map anonymous = t.anonymous.step e.anonymous := by
  unfold step
  rw [anonymous_end?]
  cases t.end? with
  | some how => rfl
  | none =>
    cases e with
    | brokeDown => rfl
    | stopped => rfl
    | _ => exact anonymous_advance t _

/-- Of two terminals that differ in names alone, one takes an event exactly if the
other does, and they differ in names alone after it. -/
theorem step_of_anonymous_eq {t u : TerminalTask} (same : t.anonymous = u.anonymous)
    {e e' : Event} (events : e.anonymous = e'.anonymous) :
    (t.step e).map anonymous = (u.step e').map anonymous := by
  rw [anonymous_step, anonymous_step, same, events]

/-- How the last window went does not depend on its name either. -/
theorem lastResult_eq {t u : TerminalTask} (same : t.anonymous = u.anonymous) :
    (t.forwarded.getLast?.map (·.result)).getD (.ok ()) =
      (u.forwarded.getLast?.map (·.result)).getD (.ok ()) := by
  have result : ∀ t : TerminalTask, t.forwarded.getLast?.map (·.result) =
      t.anonymous.forwarded.getLast?.map (·.result) := by
    intro t
    simp only [anonymous, List.getLast?_map, Option.map_map]
    rfl
  rw [result t, result u, same]

end TerminalTask

end ShellGateway
