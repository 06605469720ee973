import ShellGateway.Proofs.Session.Piece

/-!
# What steps do to activity and control queues

`Piece` says what a step of a call does to what sessions are for and what they own.
The rest of a session is its `Conduct`: when it was last active, since when it counts
as idle, and which control queue it has. Four kinds of steps have to do with it: some
make a session, some record activity, one takes the control queue out, and some install
one. `Stirring` lists them, and `Call.stirring` says that the list is complete.

None of them moves the clock (`Stirring.clock`), so whatever activity is recorded is
recorded as of when it happens.
-/

namespace ShellGateway

namespace Session

/-- The part of a session that is neither fixed nor owned: its activity and its control
queue. -/
structure Conduct where
  lastActive : Moment
  idleSince : Moment
  control : Option QueueId
  deriving DecidableEq

/-- The part of a session that activity and terminals change. -/
def conduct (x : Session) : Conduct :=
  ⟨x.lastActive, x.idleSince, x.control⟩

end Session

open Session

namespace Hub

/-- The conduct of a session. -/
def conduct? (h : Hub) (s : Serial) : Option Conduct :=
  (h.sessions.get? s).map Session.conduct

/-- A step that shows in no session's conduct. -/
structure Calm (h h' : Hub) : Prop where
  clock : h'.clock = h.clock
  conduct : ∀ s, h'.conduct? s = h.conduct? s

namespace Calm

variable {h h' h'' : Hub}

theorem refl (h : Hub) : Calm h h :=
  ⟨rfl, fun _ => rfl⟩

theorem trans (a : Calm h h') (b : Calm h' h'') : Calm h h'' :=
  ⟨b.clock.trans a.clock, fun s => (b.conduct s).trans (a.conduct s)⟩

/-- What is framed is calm. -/
theorem of_frame (frame : Frame Session.conduct h h') : Calm h h' :=
  ⟨frame.clock, frame.sessions⟩

end Calm

theorem calm_put (h : Hub) (s : Serial) : Calm h (h.put s).2 := by
  unfold put
  split
  · exact ⟨rfl, fun _ => rfl⟩
  · exact Calm.refl h

theorem calm_remove (h : Hub) (id : String) : Calm h (h.remove id).2 := by
  unfold remove
  split
  · exact ⟨rfl, fun _ => rfl⟩
  · exact Calm.refl h

theorem calm_removeStale (h : Hub) (maxIdle : Nat) (id : String) :
    Calm h (h.removeStale maxIdle id).2 := by
  unfold removeStale
  split
  · exact h.calm_remove id
  · exact Calm.refl h

theorem conduct?_modify (h : Hub) (s s' : Serial) (f : Session → Session) :
    (h.modify s f).conduct? s' =
      if s' = s then (h.sessions.get? s).map fun x => (f x).conduct else h.conduct? s' := by
  unfold conduct?
  rw [get?_modify]
  split
  · rw [Option.map_map]
    rfl
  · rfl

/-- Activity is recorded for one session, and as of now. -/
theorem conduct?_touch (h : Hub) (s s' : Serial) :
    (h.touch s).conduct? s' =
      if s' = s then (h.conduct? s).map fun k => ⟨h.clock, h.clock, k.control⟩
      else h.conduct? s' := by
  unfold touch
  rw [conduct?_modify]
  unfold conduct?
  rw [Option.map_map]
  rfl

theorem conduct?_takeControl (h : Hub) (s s' : Serial) :
    (h.takeControl s).2.conduct? s' =
      if s' = s then (h.conduct? s).map fun k => { k with control := none }
      else h.conduct? s' := by
  unfold takeControl
  rw [conduct?_modify]
  unfold conduct?
  rw [Option.map_map]
  rfl

theorem conduct?_detach (h : Hub) (s s' : Serial) :
    (h.detach s).conduct? s' = (h.takeControl s).2.conduct? s' := by
  unfold detach
  cases hq : h.takeControl s with
  | mk q? m =>
    cases q? with
    | none => rfl
    | some q => exact (Calm.of_frame (m.frame_dropSender q)).conduct s'

/-- A control queue is installed in one session. -/
theorem conduct?_attach (h : Hub) (s s' : Serial) :
    (h.attach s).2.conduct? s' =
      if s' = s then
        (h.conduct? s).map fun k => { k with control := some (h.detach s).nextQueue }
      else h.conduct? s' := by
  have installed : (h.attach s).2.conduct? s' =
      ((h.detach s).modify s fun x => { x with control := some (h.detach s).nextQueue }).conduct?
        s' := rfl
  rw [installed, conduct?_modify]
  by_cases hs : s' = s
  · -- what was taken out before does not show in what is left
    have detached : (h.detach s).conduct? s = _ :=
      (h.conduct?_detach s s).trans (h.conduct?_takeControl s s)
    rw [if_pos rfl] at detached
    rw [if_pos hs, if_pos hs]
    have set : ((h.detach s).sessions.get? s).map
        (fun x => ({ x with control := some (h.detach s).nextQueue } : Session).conduct) =
          ((h.detach s).conduct? s).map
            fun k => { k with control := some (h.detach s).nextQueue } := by
      unfold conduct?
      rw [Option.map_map]
      rfl
    rw [set, detached, Option.map_map]
    rfl
  · rw [if_neg hs, if_neg hs, conduct?_detach, conduct?_takeControl, if_neg hs]

end Hub

namespace Session

/-! ## The list -/

/-- The session whose activity the next step of a call records. -/
def Call.rouses? (e : Event) : Call → Option Serial
  | touching s _ | beginning s _ | applied s _ | attending _ s _ => some s
  | bridging _ s _ _ =>
    match e with
    | .terminal (.input _ _) => some s
    | _ => none
  | _ => none

/-- The session in which the next step of a call installs a fresh control queue. -/
def Call.installs? (e : Event) : Call → Option Serial
  | asked (.attachControl s) => some s
  | bridging _ s _ _ => if e = .terminal .attached then some s else none
  | _ => none

/-- What a step of a call does to the conduct of sessions. -/
inductive Stirring (e : Event) (h : Hub) : Call → Hub → Prop where
  /-- Nothing. -/
  | calm {h' : Hub} {c : Call} (calm : h.Calm h') : Stirring e h c h'
  /-- A session is made. -/
  | made {c : Call} (info : Info) (shellHere : Bool) : Stirring e h c (h.make info shellHere).2
  /-- Activity is recorded. -/
  | roused {h' : Hub} {c : Call} (s : Serial) (rouses : c.rouses? e = some s)
      (calm : (h.touch s).Calm h') : Stirring e h c h'
  /-- A closing takes the control queue out. -/
  | detached (s : Serial) (next : Next) :
      Stirring e h (.closing s .takingControl next) (h.takeControl s).2
  /-- A control queue is installed. -/
  | installed {h' : Hub} {c : Call} (s : Serial) (installs : c.installs? e = some s)
      (calm : (h.attach s).2.Calm h') : Stirring e h c h'

/-! ## Every step is one of the list -/

namespace Call

variable {g : Gateway} {e : Event} {h h' : Hub} {c c' : Call}

/-- A request that begins with a look-up changes nothing. -/
theorem stirring_found {p : Hub × Call} {found : Serial → Call} {id : String}
    (hp : (∃ s, h.find? id = some s ∧ p = (h, found s)) ∨ ∃ why, p = (h, answered (.failed why))) :
    Stirring e h c p.1 := by
  obtain ⟨s, -, rfl⟩ | ⟨why, rfl⟩ := hp
  · exact .calm (.refl h)
  · exact .calm (.refl h)

theorem stirring_start (g : Gateway) (e : Event) (h : Hub) (r : Request) :
    Stirring e h (asked r) (start g h r).1 := by
  cases r with
  | put s => exact .calm (h.calm_put s)
  | touch id =>
    unfold start
    dsimp only
    split
    · exact .calm (.refl h)
    · exact .calm (.refl h)
  | create =>
    unfold start
    dsimp only
    split
    · exact .calm (.refl h)
    · exact .calm (.refl h)
  | keepAlive id => exact stirring_found (lookUp_cases h id _)
  | view id => exact stirring_found (lookUp_cases h id _)
  | exec id command => exact stirring_found (lookUp_cases h id _)
  | transfer id => exact stirring_found (lookUp_cases h id _)
  | resize id w => exact stirring_found (lookUpFor_cases h id w _)
  | terminal id w => exact stirring_found (lookUpFor_cases h id w _)
  | takeShell s => exact .calm (.of_frame (h.frame_takeShell s fun _ => rfl))
  | attachControl s => exact .installed s rfl (.refl _)
  | _ => exact .calm (.refl h)

theorem stirring_stepClosing {s : Serial} {next : Next} {stage : Closing}
    (hs : stepClosing h s next e stage = some (h', c')) :
    Stirring e h (closing s stage next) h' := by
  cases stage with
  | marking =>
    obtain ⟨rfl, -⟩ := Prod.mk.inj (onGo_eq hs)
    exact .calm (.of_frame (h.frame_markClosed s fun _ => rfl))
  | takingControl =>
    obtain ⟨rfl, -⟩ := Prod.mk.inj (onGo_eq hs)
    exact .detached s next
  | signalling q =>
    obtain ⟨rfl, -⟩ := Prod.mk.inj (onGo_eq hs)
    exact .calm (.of_frame ((h.frame_trySend q .close).trans (Hub.frame_dropSender _ q)))
  | releasingTransfer =>
    simp only [stepClosing] at hs
    split at hs
    · cases e with
      | released failed =>
        cases hs
        exact .calm (.of_frame (h.frame_release s .transfer failed fun _ => rfl))
      | _ => cases hs
    · obtain ⟨rfl, -⟩ := Prod.mk.inj (onGo_eq hs)
      exact .calm (.refl h)
  | takingShell =>
    obtain ⟨rfl, -⟩ := Prod.mk.inj (onGo_eq hs)
    exact .calm (.of_frame (h.frame_takeShell s fun _ => rfl))
  | releasingShell | releasingTransport =>
    cases e with
    | released failed =>
      cases hs
      exact .calm (.of_frame (h.frame_release s _ failed fun _ => rfl))
    | _ => cases hs

theorem calm_resizeFailed (h : Hub) (q : QueueId) (evict : Option String) (why : Failure) :
    h.Calm (resizeFailed h q evict why).1 := by
  have dropped : h.Calm (h.dropSender q) := .of_frame (h.frame_dropSender q)
  unfold resizeFailed
  cases evict with
  | none => exact dropped
  | some id => exact dropped

theorem calm_send {s : Serial} {q : QueueId} {w : Window} {evict : Option String}
    (hs : send h s q w evict = some (h', c')) : h.Calm h' := by
  have failed := calm_resizeFailed h q evict terminalGone
  unfold send at hs
  split at hs
  · rw [Option.some.inj hs] at failed
    exact failed
  · split at hs
    · rw [Option.some.inj hs] at failed
      exact failed
    · split at hs
      · cases hs
        exact .of_frame (h.frame_newTicket.trans (Hub.frame_trySend _ q _))
      · cases hs

theorem calm_await {s : Serial} {q : QueueId} {ticket : Ticket} {evict : Option String}
    (hs : await h s q ticket evict = some (h', c')) : h.Calm h' := by
  have failed : ∀ why, some (resizeFailed h q evict why) = some (h', c') → h.Calm h' := by
    intro why hp
    have calm := calm_resizeFailed h q evict why
    rw [Option.some.inj hp] at calm
    exact calm
  unfold await at hs
  split at hs
  · cases hs
    exact .refl h
  · exact failed _ hs
  · exact failed _ hs
  · cases hs
  · cases hs

/-- A terminal that goes on or has ended. -/
theorem calm_bridged {m : Hub} {id : String} {s : Serial} {q : Option QueueId}
    {task : TerminalTask} (hb : bridged m id s q task = (h', c')) : m.Calm h' := by
  unfold bridged at hb
  split at hb
  · obtain ⟨rfl, -⟩ := Prod.mk.inj hb
    exact .refl m
  · cases q with
    | none =>
      obtain ⟨rfl, -⟩ := Prod.mk.inj hb
      exact .refl m
    | some q =>
      obtain ⟨rfl, -⟩ := Prod.mk.inj hb
      exact .of_frame (m.frame_abandon q)

theorem stirring_stepTerminal {id : String} {s : Serial} {q : Option QueueId}
    {task : TerminalTask} (hs : stepTerminal h id s q task e = some (h', c')) :
    Stirring e h (bridging id s q task) h' := by
  cases e with
  | terminal met =>
    cases met with
    | attached =>
      obtain ⟨task', -, hb⟩ := Option.bind_eq_some_iff.mp hs
      exact .installed s rfl (calm_bridged (Option.some.inj hb))
    | input chunk fault =>
      obtain ⟨task', -, hb⟩ := Option.bind_eq_some_iff.mp hs
      exact .roused s rfl (calm_bridged (Option.some.inj hb))
    -- these two come through the queue only
    | command _ _ | queueEnd => cases hs
    | _ =>
      obtain ⟨task', -, hb⟩ := Option.bind_eq_some_iff.mp hs
      exact .calm (calm_bridged (Option.some.inj hb))
  | control fault =>
    obtain ⟨queue, rfl, hs⟩ := Option.bind_eq_some_iff.mp hs
    have received : h.Calm (h.receive queue).2 := .of_frame (h.frame_receive queue)
    cases hr : h.receive queue with
    | mk r m =>
      rw [hr] at hs received
      cases r with
      | nothingYet => cases hs
      | ended =>
        obtain ⟨task', -, hb⟩ := Option.bind_eq_some_iff.mp hs
        exact .calm (received.trans (calm_bridged (Option.some.inj hb)))
      | command command =>
        cases command with
        | close =>
          obtain ⟨task', -, hb⟩ := Option.bind_eq_some_iff.mp hs
          exact .calm (received.trans (calm_bridged (Option.some.inj hb)))
        | resize ticket w =>
          obtain ⟨task', -, hb⟩ := Option.bind_eq_some_iff.mp hs
          have replied : ∀ r, h.Calm (m.reply ticket r) := fun r =>
            received.trans (.of_frame (m.frame_reply ticket r))
          exact .calm ((replied _).trans (calm_bridged (Option.some.inj hb)))
  | _ => cases hs

/-- A step that records activity does nothing else that shows in a session's conduct. -/
theorem calm_of_rouses (hs : c.step g e h = some (h', c')) {s : Serial}
    (rouses : c.rouses? e = some s) : (h.touch s).Calm h' := by
  cases c with
  | touching =>
    cases rouses
    obtain ⟨rfl, -⟩ := Prod.mk.inj (onGo_eq hs)
    exact .refl _
  | beginning =>
    cases rouses
    have begun := onGo_eq hs
    unfold begin at begun
    dsimp only at begun
    split at begun
    · cases begun
      exact .refl _
    · cases begun
      exact .refl _
  | applied _ q =>
    cases rouses
    obtain ⟨rfl, -⟩ := Prod.mk.inj (onGo_eq hs)
    exact .of_frame (Hub.frame_dropSender _ q)
  | attending =>
    cases rouses
    obtain ⟨rfl, -⟩ := Prod.mk.inj (onGo_eq hs)
    exact .refl _
  | bridging id r q task =>
    cases e with
    | terminal met =>
      cases met with
      | input chunk fault =>
        cases rouses
        obtain ⟨task', -, hb⟩ := Option.bind_eq_some_iff.mp hs
        exact calm_bridged (Option.some.inj hb)
      | _ => cases rouses
    | _ => cases rouses
  | _ => cases rouses

/-- **Every step is one of the list.** -/
theorem stirring (hs : c.step g e h = some (h', c')) : Stirring e h c h' := by
  cases c with
  | asked r =>
    have piece := stirring_start g e h r
    rw [onGo_eq hs] at piece
    exact piece
  | connecting client target login term =>
    have made := onGo_eq hs
    unfold connect at made
    split at made
    · cases made
      exact .calm (.refl h)
    · cases made
      exact .made _ true
  | registering s =>
    obtain ⟨rfl, -⟩ := Prod.mk.inj (onGo_eq hs)
    exact .calm (h.calm_put s)
  | touching s a => exact .roused s rfl (calm_of_rouses hs rfl)
  | viewing s =>
    obtain ⟨rfl, -⟩ := Prod.mk.inj (onGo_eq hs)
    exact .calm (.refl h)
  | beginning s u => exact .roused s rfl (calm_of_rouses hs rfl)
  | underway s u =>
    obtain ⟨rfl, -⟩ := step_underway hs
    exact .calm (.refl h')
  | removing id next absent =>
    obtain ⟨rfl, -⟩ := Prod.mk.inj (onGo_eq hs)
    exact .calm (h.calm_remove id)
  | closing s stage next => exact stirring_stepClosing hs
  | sweeping maxIdle stale evicted =>
    have swept := onGo_eq hs
    cases stale with
    | nil =>
      cases swept
      exact .calm (.refl h)
    | cons id rest =>
      obtain ⟨rfl, -⟩ := Prod.mk.inj swept
      exact .calm (h.calm_removeStale maxIdle id)
  | sharing s w evict =>
    have shared : h.Calm (h.shareControl s).2 := .of_frame (h.frame_shareControl s)
    have hp := onGo_eq hs
    cases hq : h.shareControl s with
    | mk q? m =>
      rw [hq] at hp shared
      cases q? with
      | some q =>
        cases hp
        exact .calm shared
      | none =>
        cases hp
        exact .calm shared
  | sending s q w evict => exact .calm (calm_send (Option.ite_none_right_eq_some.mp hs).2)
  | awaiting s q ticket evict => exact .calm (calm_await (Option.ite_none_right_eq_some.mp hs).2)
  | applied s q => exact .roused s rfl (calm_of_rouses hs rfl)
  | takingShell id s w =>
    obtain ⟨rfl, -⟩ := Prod.mk.inj (onGo_eq hs)
    exact .calm (.of_frame (h.frame_takeShell s fun _ => rfl))
  | attending id s w => exact .roused s rfl (calm_of_rouses hs rfl)
  | bridging id s q task => exact stirring_stepTerminal hs
  | answered a => cases hs

end Call

/-- Time passes between the steps of calls, not in them. -/
theorem Stirring.clock {e : Event} {h h' : Hub} {c : Call} (stirring : Stirring e h c h') :
    h'.clock = h.clock := by
  cases stirring with
  | calm calm => exact calm.clock
  | made => rfl
  | roused s rouses calm =>
    have touched : Hub.Frame (fun _ => ()) h (h.touch s) := h.frame_touch s fun _ => rfl
    exact calm.clock.trans touched.clock
  | detached s next =>
    have taken : Hub.Frame (fun _ => ()) h (h.takeControl s).2 := h.frame_takeControl s fun _ => rfl
    exact taken.clock
  | installed s installs calm =>
    have attached : Hub.Frame (fun _ => ()) h (h.attach s).2 := h.frame_attach s fun _ _ => rfl
    exact calm.clock.trans attached.clock

end Session

end ShellGateway
