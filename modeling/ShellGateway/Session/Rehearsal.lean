import ShellGateway.Session.Call
import ShellGateway.Session.Sweeper

/-!
# Rehearsals

A rehearsal runs calls one after the other, each to its end, with a script in
place of the outside: a session's script says how its remote host behaves, a
control queue is read by a script in place of a terminal, and sweepers go by
metronomes. Nothing here adds to what calls do; every step is a step of
`Call.step`, and the scripts only choose what the outside contributes.

Calls take a little time, so that a session that was active before a call is
idle, if only just, when the call begins.
-/

namespace ShellGateway.Session

/-- How a remote host behaves. -/
structure Script where
  exec : String → Except Failure Bytes
  closeFails : Bool := false

/-- How the reader of a control queue behaves. -/
inductive Manner where
  /-- It answers every window in the same way. -/
  | answering (result : Except Failure Unit)
  /-- It takes windows and never answers. -/
  | silent
  /-- It has gone before anything is sent. -/
  | gone
  deriving DecidableEq

/-- A scripted reader of a control queue and what it has read. -/
structure Reader where
  manner : Manner
  log : List Command := []

/-- A timer by the clock of the hub: its period, and when its next tick is due. -/
structure Metronome where
  period : Nat
  next : Moment
  deriving DecidableEq, Repr

/-- A metronome that has ticked at the given time. -/
def Metronome.ticked (m : Metronome) (now : Moment) : Metronome :=
  let due := if m.next + Timer.tolerance < now then now else m.next
  { m with next := due + m.period }

/-- The timers of a rehearsal. -/
def metronome : Timer Metronome where
  start period now := ⟨period, now⟩
  period := Metronome.period
  next := Metronome.next
  tick := Metronome.ticked

/-- A hub with its gateway and sweepers, and the scripts. `attached` names the
queue that was installed last in a session. -/
structure Rehearsal where
  gateway : Gateway
  hub : Hub := {}
  sweepers : Sweepers Metronome := {}
  scripts : Dictionary Serial Script := .empty
  readers : Dictionary QueueId Reader := .empty
  attached : Dictionary Serial QueueId := .empty

namespace Rehearsal

/-- The time that a call takes. -/
def callTime : Nat := 20

/-- What the outside contributes to the next step of a call. -/
def contribution (r : Rehearsal) : Call → Event
  | .closing s stage _ =>
    let failed := (r.scripts.get? s).any (·.closeFails)
    match stage with
    | .releasingTransfer =>
      if (r.hub.sessions.get? s).any (·.info.hasTransfer) then .released failed else .go
    | .releasingShell | .releasingTransport => .released failed
    | .marking | .takingControl | .signalling _ | .takingShell => .go
  | .underway s (.exec command) =>
    match r.scripts.get? s with
    | some script => .ran (script.exec command)
    | none => .ran (.error (.link "Disconnected"))
  | .underway _ .transfer => .transferred (.error noTransfer)
  | .bridging _ _ _ _ => .terminal (.stopped 0)
  | _ => .go

/-- A reader deals with a command. -/
def obey (h : Hub) (q : QueueId) (reader : Reader) : Command → Hub
  | .close => h.abandon q
  | .resize ticket _ =>
    match reader.manner with
    | .answering result => h.reply ticket (.given result)
    | .silent | .gone => h.reply ticket .dropped

/-- The reader of a queue deals with what it finds there, one command. -/
def readOne (r : Rehearsal) (q : QueueId) : Rehearsal :=
  match r.readers.get? q, r.hub.receive q with
  | some reader, (.command c, hub) =>
    { r with
      hub := obey hub q reader c
      readers := r.readers.insert q { reader with log := reader.log ++ [c] } }
  | _, _ => r

/-- Every reader deals with one command, if it finds one. -/
def readAll (r : Rehearsal) : Rehearsal :=
  r.readers.keys.foldl readOne r

/-- Runs a call, the readers in step with it. The first argument bounds the
number of steps. -/
def finish : Nat → Rehearsal → Call → Option Answer × Rehearsal
  | 0, r, _ => (none, r)
  | steps + 1, r, c =>
    match c.answer? with
    | some a => (some a, r)
    | none =>
      match c.step r.gateway (r.contribution c) r.hub with
      | some (hub, c) => finish steps ({ r with hub }.readAll) c
      | none => finish steps r.readAll c

/-- Enough steps for any call: no session takes more than ten to be removed and
closed, and the rest of a call takes fewer than twenty. -/
def stepsEnough (r : Rehearsal) : Nat :=
  10 * (r.hub.size + 1) + 20

/-- Runs a request from beginning to end. -/
def perform (r : Rehearsal) (request : Request) : Option Answer × Rehearsal :=
  let r := { r with hub := r.hub.later callTime }
  finish r.stepsEnough r (.asked request)

/-- Makes a session with a script, without registering it. -/
def make (r : Rehearsal) (info : Info) (script : Script) : Serial × Rehearsal :=
  let (s, hub) := r.hub.make info false
  (s, { r with hub, scripts := r.scripts.insert s script })

/-- Installs a control queue in a session, read in the given manner. -/
def attach (r : Rehearsal) (s : Serial) (manner : Manner) : Rehearsal :=
  let (q, hub) := r.hub.attach s
  let hub := if manner = .gone then hub.abandon q else hub
  { r with
    hub
    readers := r.readers.insert q { manner }
    attached := r.attached.insert s q }

/-- What has been read from the queue that was installed last in a session. -/
def log? (r : Rehearsal) (s : Serial) : Option (List Command) := do
  let q ← r.attached.get? s
  let reader ← r.readers.get? q
  return reader.log

/-- Makes a session idle for longer. -/
def backdate (r : Rehearsal) (s : Serial) (time : Duration) : Rehearsal :=
  { r with hub := r.hub.modify s (·.backdated time.micros) }

/-- A sweeper's task does something, if it can. -/
def turn (r : Rehearsal) (t : SweeperId) (what : SweeperTurn) : Rehearsal :=
  { r with sweepers := (r.sweepers.turn metronome t what).getD r.sweepers }

/-- Lets time pass until the given moment; sweepers sweep when they are due, and
then look at their timers again. The first argument bounds the number of
sweeps. -/
def passUntil : Nat → Moment → Rehearsal → Rehearsal
  | 0, _, r => r
  | sweeps + 1, time, r =>
    match r.sweepers.firstDue? metronome r.hub.clock time with
    | none => { r with hub := { r.hub with clock := max r.hub.clock time } }
    | some (id, task, due) =>
      let r := { r with hub := { r.hub with clock := max r.hub.clock due } }
      let r := ((r.turn id (.ask r.hub.clock)).perform (.sweep task.maxIdle)).2
      passUntil sweeps time ((r.turn id (.finish r.hub.clock)).turn id (.ask r.hub.clock))

/-- Lets time pass. -/
def wait (r : Rehearsal) (time : Duration) : Rehearsal :=
  let tasks := r.sweepers.tasks.length
  let sweeps := (time.micros / SweeperTask.shortestInterval.micros + 2) * tasks + 1
  passUntil sweeps (r.hub.clock + time.micros) r

/-- Starts a sweeper. -/
def startSweeper (r : Rehearsal) (interval maxIdle : Duration) : Rehearsal :=
  { r with sweepers := r.sweepers.start interval maxIdle }

/-- Stops the sweeper in charge. -/
def stopSweeper (r : Rehearsal) : Rehearsal :=
  { r with sweepers := r.sweepers.stop }

end Rehearsal

end ShellGateway.Session
