import ShellGateway.Session.Basic

/-!
# Sweepers

A sweeper is a task that sweeps the registry again and again. The registry has a
slot for the sweeper in charge. Starting one puts its task into the slot and
stops the task that it finds there; stopping takes the task out of the slot and
stops it. Both take several steps, and other starts and stops may come in
between: a task is running before it is in the slot, and may still be running
when it has just been taken out.

A task goes by a timer, which comes from outside. It asks the timer for a tick,
sweeps when there is one, and gives way when there is none. A sweep takes its
time: it waits for each session that it closes. Ticks that fall due meanwhile are
found when it has ended.
-/

namespace ShellGateway.Session

/-- A timer that ticks over and over, as far as a sweeper has to do with it. -/
structure Timer (τ : Type) where
  /-- A timer of the given period, in microseconds, that starts at that time. -/
  start : Nat → Moment → τ
  period : τ → Nat
  /-- From when on the next tick is there. -/
  next : τ → Moment
  /-- The timer after its tick was taken at that time. -/
  tick : τ → Moment → τ

/-- By how much a tick may be late without putting off those that follow it. -/
def Timer.tolerance : Nat := 5000

/-- What a timer is expected to do. The first tick is there at once. A tick that
is not taken late is followed by one a period after it was due; a tick that is
taken late, by one a period after it was taken. -/
structure Timer.IsPeriodic {τ : Type} (T : Timer τ) : Prop where
  period_start : ∀ period now, T.period (T.start period now) = period
  period_tick : ∀ t now, T.period (T.tick t now) = T.period t
  first : ∀ period now, T.next (T.start period now) = now
  in_time : ∀ t now, T.next t ≤ now → now ≤ T.next t + tolerance →
    T.next (T.tick t now) = T.next t + T.period t
  late : ∀ t now, T.next t + tolerance < now → T.next (T.tick t now) = now + T.period t

/-- Where a sweeper's task stands. -/
inductive SweeperStage where
  /-- It has given way, and has to be woken to go on. -/
  | resting
  /-- It is about to ask its timer for a tick. -/
  | asking
  | sweeping
  deriving DecidableEq, Repr

/-- What a sweeper's task does next. -/
inductive SweeperTurn where
  /-- It asks its timer for a tick. -/
  | ask (now : Moment)
  /-- Its sweep is at an end. -/
  | finish (now : Moment)
  deriving DecidableEq, Repr

/-- A sweeper's task: the period of its timer, for how long sessions may be idle,
its timer once it has run, where it stands, and how often it has been stopped. -/
structure SweeperTask (τ : Type) where
  interval : Nat
  maxIdle : Nat
  timer : Option τ := none
  stage : SweeperStage := .resting
  aborts : Nat := 0
  deriving DecidableEq, Repr

/-- The shortest period that a sweeper's timer has. -/
def SweeperTask.shortestInterval : Duration := ⟨100⟩

namespace SweeperTask

variable {τ : Type}

/-- A task as it is started. It has not run yet. -/
def make (interval maxIdle : Duration) : SweeperTask τ where
  interval := max interval.micros shortestInterval.micros
  maxIdle := maxIdle.micros

/-- Whether the task has not been stopped. -/
def isLive (t : SweeperTask τ) : Bool :=
  t.aborts == 0

/-- The timer of a task that runs at the given time. It is started when the task
runs for the first time. -/
def timerAt (T : Timer τ) (t : SweeperTask τ) (now : Moment) : τ :=
  t.timer.getD (T.start t.interval now)

/-- From when on a task that runs at the given time finds a tick. -/
def dueAt (T : Timer τ) (t : SweeperTask τ) (now : Moment) : Moment :=
  T.next (t.timerAt T now)

/-- The task takes a tick and sweeps, or gives way until there is one. -/
def asked (T : Timer τ) (t : SweeperTask τ) (now : Moment) : SweeperTask τ :=
  if t.dueAt T now ≤ now then
    { t with timer := some (T.tick (t.timerAt T now) now), stage := .sweeping }
  else { t with timer := some (t.timerAt T now), stage := .resting }

/-- Whether a task can ask its timer. A task that has been stopped is not woken
any more, but goes on until it gives way. -/
def canAsk (t : SweeperTask τ) : Bool :=
  match t.stage with
  | .resting => t.isLive
  | .asking => true
  | .sweeping => false

/-- What a task does next, if it can. A task that is cut off in its sweep, or
breaks down, does nothing any more. -/
def turn (T : Timer τ) (t : SweeperTask τ) : SweeperTurn → Option (SweeperTask τ)
  | .ask now => if t.canAsk then some (t.asked T now) else none
  | .finish _ => if t.stage = .sweeping then some { t with stage := .asking } else none

end SweeperTask

/-- Names a sweeper's task; tasks are numbered as they are started. -/
abbrev SweeperId := Nat

/-- The tasks that have been started, and the one in charge. -/
structure Sweepers (τ : Type) where
  tasks : List (SweeperTask τ) := []
  slot : Option SweeperId := none
  deriving DecidableEq, Repr

namespace Sweepers

/-- How far a start or a stop has come. -/
inductive Call where
  | starting (interval maxIdle : Duration)
  | storing (t : SweeperId)
  | aborting (t : SweeperId)
  /-- A stop; so does the registry when it goes away. -/
  | stopping
  | finished
  deriving DecidableEq, Repr

/-- Goes on to stop a task that was taken out of the slot, if there was one. -/
def Call.abortTaken : Option SweeperId → Call
  | some t => aborting t
  | none => finished

variable {τ : Type}

/-- A task is stopped. -/
def abort (s : Sweepers τ) (t : SweeperId) : Sweepers τ :=
  { s with tasks := s.tasks.modify t fun task => { task with aborts := task.aborts + 1 } }

/-- One step of a start or a stop. -/
def step (s : Sweepers τ) : Call → Option (Sweepers τ × Call)
  | .starting interval maxIdle =>
    some ({ s with tasks := s.tasks ++ [.make interval maxIdle] }, .storing s.tasks.length)
  | .storing t => some ({ s with slot := some t }, .abortTaken s.slot)
  | .aborting t => some (s.abort t, .finished)
  | .stopping => some ({ s with slot := none }, .abortTaken s.slot)
  | .finished => none

/-- A task does something, if it can. -/
def turn (T : Timer τ) (s : Sweepers τ) (t : SweeperId) (what : SweeperTurn) :
    Option (Sweepers τ) := do
  let task ← s.tasks[t]?
  let task ← task.turn T what
  return { s with tasks := s.tasks.set t task }

/-- What can happen next: a call takes a step, or a task does something. -/
inductive Act where
  | step (call : Nat)
  | turn (t : SweeperId) (what : SweeperTurn)
  deriving DecidableEq, Repr

/-- Sweepers and the starts and stops that are under way, by number. -/
structure System (τ : Type) where
  sweepers : Sweepers τ := {}
  calls : List Call
  deriving DecidableEq, Repr

namespace System

/-- The calls that are asked for, when nothing has been started yet. -/
def initial (asked : List Call) : System τ where
  calls := asked

/-- Lets one call take a step. -/
def move (s : System τ) (call : Nat) : Option (System τ) := do
  let c ← s.calls[call]?
  let (sweepers, c) ← s.sweepers.step c
  return { sweepers, calls := s.calls.set call c }

/-- The system after something has happened, if it can happen. -/
def act (T : Timer τ) (s : System τ) : Act → Option (System τ)
  | .step call => s.move call
  | .turn t what => do
    let sweepers ← s.sweepers.turn T t what
    return { s with sweepers }

/-- The system after one thing after the other has happened, if all of it can. -/
def after (T : Timer τ) (s : System τ) : List Act → Option (System τ)
  | [] => some s
  | a :: rest => s.act T a >>= fun t => t.after T rest

end System

/-- A call from beginning to end, with nothing in between. No call takes more
than three steps. -/
def alone (s : Sweepers τ) (c : Call) : Sweepers τ :=
  go 3 s c
where
  go : Nat → Sweepers τ → Call → Sweepers τ
    | 0, s, _ => s
    | steps + 1, s, c =>
      match s.step c with
      | some (s, c) => go steps s c
      | none => s

/-- Starts a sweeper. -/
def start (s : Sweepers τ) (interval maxIdle : Duration) : Sweepers τ :=
  s.alone (.starting interval maxIdle)

/-- Stops the sweeper in charge. -/
def stop (s : Sweepers τ) : Sweepers τ :=
  s.alone .stopping

/-- The task that finds a tick first, of those that can ask for one from now on,
if one does by the given time; and when. -/
def firstDue? (T : Timer τ) (s : Sweepers τ) (now time : Moment) :
    Option (SweeperId × SweeperTask τ × Moment) :=
  let due := s.tasks.zipIdx.filterMap fun (t, i) =>
    if t.canAsk && t.dueAt T now ≤ time then some (i, t, t.dueAt T now) else none
  due.foldl (fun best d =>
    match best with
    | some b => if d.2.2 < b.2.2 then some d else best
    | none => some d) none

end Sweepers

end ShellGateway.Session
