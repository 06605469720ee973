import ShellGateway.Session.Call

/-!
# Schedules

Any number of calls run at the same time. A schedule says in which order: it
starts calls, lets one of them take a step, makes a session that somebody means
to register, or lets time pass. Every order in which the steps can come is a
schedule, and what holds after every schedule holds however the calls happen to
run.
-/

namespace ShellGateway.Session

/-- Names a call; calls are numbered as they are started. -/
abbrev CallId := Nat

/-- The hub and the calls that have been started, by number. -/
structure System where
  hub : Hub
  calls : List Call := []

/-- One move of a schedule. -/
inductive Move where
  | start (r : Request)
  | step (c : CallId) (e : Event)
  /-- A session is made by somebody other than the gateway. -/
  | make (info : Info) (shellHere : Bool)
  | wait (time : Nat)
  deriving DecidableEq

namespace System

/-- Nothing is registered, and nothing has been asked for. -/
def initial : System :=
  { hub := {} }

/-- The system after a move, if the move can be made. -/
def move (g : Gateway) (s : System) : Move → Option System
  | .start r => some { s with calls := s.calls ++ [.asked r] }
  | .step c e => do
    let call ← s.calls[c]?
    let (hub, call) ← call.step g e s.hub
    return { hub, calls := s.calls.set c call }
  | .make info shellHere => some { s with hub := (s.hub.make info shellHere).2 }
  | .wait time => some { s with hub := s.hub.later time }

/-- The system after a schedule, if every move of it can be made. -/
def run (g : Gateway) (s : System) : List Move → Option System
  | [] => some s
  | m :: rest => s.move g m >>= fun s => s.run g rest

/-- A system can come to be from another. -/
def Reaches (g : Gateway) (s t : System) : Prop :=
  ∃ moves, s.run g moves = some t

/-- Every call has come to its end. -/
def Finished (s : System) : Prop :=
  ∀ c ∈ s.calls, c.answer?.isSome

instance (s : System) : Decidable s.Finished := by
  unfold Finished
  infer_instance

/-- The answer of a call that has come to its end. -/
def answer? (s : System) (c : CallId) : Option Answer :=
  s.calls[c]? >>= Call.answer?

theorem run_append (g : Gateway) (s : System) (a b : List Move) :
    s.run g (a ++ b) = s.run g a >>= fun t => t.run g b := by
  induction a generalizing s with
  | nil => rfl
  | cons m rest ih =>
    simp only [List.cons_append, run]
    cases s.move g m with
    | none => rfl
    | some t => exact ih t

theorem Reaches.refl (g : Gateway) (s : System) : Reaches g s s :=
  ⟨[], rfl⟩

theorem Reaches.trans {g : Gateway} {s t u : System} (h : Reaches g s t) (k : Reaches g t u) :
    Reaches g s u := by
  obtain ⟨a, ha⟩ := h
  obtain ⟨b, hb⟩ := k
  exact ⟨a ++ b, by simp [run_append, ha, hb]⟩

end System

end ShellGateway.Session
