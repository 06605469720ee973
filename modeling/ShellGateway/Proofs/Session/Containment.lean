import ShellGateway.Proofs.Session.Bounds
import ShellGateway.Proofs.Session.Solitude

/-!
# What failed calls leave behind

A call that nobody else calls beside fails without a trace when its window is not admissible, when
no session has its id, when a session is refused or cannot be opened, and when a session has no
shell or no terminal for it (`Hopeless`): it always comes to its end, with the failure that fits,
and the hub is then what it would be without the call (`Harmless`).

Others fail later. A command or a file operation has counted as activity of its session by then,
and that is all that is seen of it (`Used`). A window that a terminal could not pass on costs the
session its place in the registry, and its handles, if the connection is unusable from then on, and
nothing otherwise (`Resized`).
-/

namespace ShellGateway

/-! ## Connections that are not made -/

namespace Remote.Network

open Net (Target)

/-- Why no connection is made. -/
inductive Fault (n : Network) (t : Target) (l : Login) : Failure → Prop where
  | dial {why : Failure} (dialled : n.dialTarget t = .error why) : Fault n t l why
  | handshake {host : Host} {why : String} (dialled : n.dialTarget t = .ok host)
      (handshake : host.handshake = .error why) :
      Fault n t l (.transport ("handshake with " ++ t.toText ++ ": " ++ why))
  | login {host : Host} {why : Failure} (dialled : n.dialTarget t = .ok host)
      (handshake : host.handshake = .ok ()) (presented : n.present host l = .error why) :
      Fault n t l why
  | shell {host : Host} {why : String} (dialled : n.dialTarget t = .ok host)
      (handshake : host.handshake = .ok ()) (presented : n.present host l = .ok ())
      (shell : host.opensShell = .error why) : Fault n t l (.link why)

/-- **A connection is made unless one of its steps fails.** -/
theorem connect_eq_error_iff {n : Network} {t : Target} {l : Login} {why : Failure} :
    n.connect t l = .error why ↔ n.Fault t l why := by
  unfold connect
  constructor
  · intro failed
    cases dialled : n.dialTarget t with
    | error fault =>
      rw [dialled] at failed
      cases failed
      exact .dial dialled
    | ok host =>
      rw [dialled] at failed
      cases handshake : host.handshake with
      | error fault =>
        simp only [bind, Except.bind, handshake] at failed
        cases failed
        exact .handshake dialled handshake
      | ok u =>
        cases presented : n.present host l with
        | error fault =>
          simp only [bind, Except.bind, handshake, presented] at failed
          cases failed
          exact .login dialled handshake presented
        | ok u =>
          cases shell : host.opensShell with
          | error fault =>
            simp only [bind, Except.bind, handshake, presented, shell, onLink] at failed
            cases failed
            exact .shell dialled handshake presented shell
          | ok u =>
            simp only [bind, Except.bind, handshake, presented, shell, onLink] at failed
            cases failed
  · intro fault
    cases fault with
    | dial dialled => simp [bind, Except.bind, dialled]
    | handshake dialled handshake => simp [bind, Except.bind, dialled, handshake]
    | login dialled handshake presented =>
      simp [bind, Except.bind, dialled, handshake, presented]
    | shell dialled handshake presented shell =>
      simp [bind, Except.bind, dialled, handshake, presented, shell, onLink]

end Remote.Network

namespace Session

open Call (Comes)

variable {g : Gateway} {h h' k : Hub} {c c' : Call} {a : Answer} {id : String} {s : Serial}

/-! ## Requests that leave no trace -/

/-- The request needs the session that has this id. -/
inductive Request.Needs (id : String) : Request → Prop where
  | keepAlive : Needs id (.keepAlive id)
  | view : Needs id (.view id)
  | exec (command : String) : Needs id (.exec id command)
  | transfer : Needs id (.transfer id)
  | resize {w : Window} (admissible : w.Admissible) : Needs id (.resize id w)
  | terminal {w : Window} (admissible : w.Admissible) : Needs id (.terminal id w)

/-- The request comes to nothing, and to what answer. -/
inductive Hopeless (g : Gateway) (h : Hub) : Request → Answer → Prop where
  | resizeWindow (id : String) {w : Window} (inadmissible : ¬ w.Admissible) :
      Hopeless g h (.resize id w) (.failed (.invalidWindow w))
  | terminalWindow (id : String) {w : Window} (inadmissible : ¬ w.Admissible) :
      Hopeless g h (.terminal id w) (.failed (.invalidWindow w))
  | unknown {id : String} {r : Request} (needs : r.Needs id) (unknown : h.find? id = none) :
      Hopeless g h r (.failed (.sessionNotFound id))
  | unknownDisconnect {id : String} (unknown : h.find? id = none) :
      Hopeless g h (.disconnect id) .done
  | notAdmitted {client : Net.IpAddress} (target : Net.Target) (login : Login) (term : String)
      (refused : g.admission.admits client = false) :
      Hopeless g h (.create client target login term) (.failed (.notAdmitted client))
  | unconnected {client : Net.IpAddress} {target : Net.Target} {login : Login} (term : String)
      {why : Failure} (admitted : g.admission.admits client = true)
      (fault : g.network.Fault target login why) :
      Hopeless g h (.create client target login term) (.failed why)
  | shellTaken {id : String} {s : Serial} {w : Window} (admissible : w.Admissible)
      (found : h.find? id = some s) (gone : (h.sessions.get? s).any (·.shellHere) = false) :
      Hopeless g h (.terminal id w) (.failed shellTaken)
  | noTerminal {id : String} {s : Serial} {w : Window} (admissible : w.Admissible)
      (found : h.find? id = some s) (none : (h.sessions.get? s).bind (·.control) = none) :
      Hopeless g h (.resize id w) (.failed noTerminal)

/-- However the call is run, it comes to this answer, and the hub is then what it would be without
the call; and the call gets there by itself. -/
structure Harmless (g : Gateway) (h : Hub) (r : Request) (a : Answer) : Prop where
  traceless : ∀ {moves h' a'}, Comes g h r moves h' a' →
    a' = a ∧ (h.besideAll (asides moves)).Same h'
  comes : ∃ steps h', Comes g h r (List.replicate steps (.step .go)) h' a

/-- Where a call stands that comes to nothing. -/
inductive Doomed (g : Gateway) (h : Hub) : Call → Answer → Prop where
  | asked {r : Request} {a : Answer} (hopeless : Hopeless g h r a) : Doomed g h (.asked r) a
  | connecting {client : Net.IpAddress} {target : Net.Target} {login : Login} {term : String}
      {why : Failure} (fault : g.network.Fault target login why) :
      Doomed g h (.connecting client target login term) (.failed why)
  | removing {id : String} (unknown : h.find? id = none) :
      Doomed g h (.giveUp id .done) .done
  | takingShell (id : String) {s : Serial} (w : Window)
      (gone : (h.sessions.get? s).any (·.shellHere) = false) :
      Doomed g h (.takingShell id s w) (.failed shellTaken)
  | sharing {s : Serial} (w : Window) (evict : Option String)
      (none : (h.sessions.get? s).bind (·.control) = none) :
      Doomed g h (.sharing s w evict) (.failed noTerminal)
  | answered (a : Answer) : Doomed g h (.answered a) a

/-- What makes a request hopeless is in the registry and in the sessions. -/
theorem Hopeless.carry {r : Request} (hopeless : Hopeless g h r a)
    (registered : ∀ id, h'.find? id = h.find? id)
    (sessions : ∀ s, h'.sessions.get? s = h.sessions.get? s) : Hopeless g h' r a := by
  cases hopeless with
  | resizeWindow id inadmissible => exact .resizeWindow id inadmissible
  | terminalWindow id inadmissible => exact .terminalWindow id inadmissible
  | unknown needs unknown => exact .unknown needs ((registered _).trans unknown)
  | unknownDisconnect unknown => exact .unknownDisconnect ((registered _).trans unknown)
  | notAdmitted target login term refused => exact .notAdmitted target login term refused
  | unconnected term admitted fault => exact .unconnected term admitted fault
  | shellTaken admissible found gone =>
    exact .shellTaken admissible ((registered _).trans found) (by rw [sessions]; exact gone)
  | noTerminal admissible found none =>
    exact .noTerminal admissible ((registered _).trans found) (by rw [sessions]; exact none)

theorem Doomed.carry (doomed : Doomed g h c a) (registered : ∀ id, h'.find? id = h.find? id)
    (sessions : ∀ s, h'.sessions.get? s = h.sessions.get? s) : Doomed g h' c a := by
  cases doomed with
  | asked hopeless => exact .asked (hopeless.carry registered sessions)
  | connecting fault => exact .connecting fault
  | removing unknown => exact .removing ((registered _).trans unknown)
  | takingShell id w gone => exact .takingShell id w (by rw [sessions]; exact gone)
  | sharing w evict none => exact .sharing w evict (by rw [sessions]; exact none)
  | answered => exact .answered a

theorem Call.lookUp_found (found : h.find? id = some s) (next : Serial → Call) :
    lookUp h id next = (h, next s) := by
  rw [lookUp, found]

theorem Call.lookUp_unknown (unknown : h.find? id = none) (next : Serial → Call) :
    lookUp h id next = (h, answered (.failed (.sessionNotFound id))) := by
  rw [lookUp, unknown]

theorem Call.lookUpFor_admissible {w : Window} (admissible : w.Admissible) (h : Hub) (id : String)
    (next : Serial → Call) : lookUpFor h id w next = lookUp h id next := by
  rw [lookUpFor, Window.checked, if_pos admissible]

theorem Call.lookUpFor_inadmissible {w : Window} (inadmissible : ¬ w.Admissible) (h : Hub)
    (id : String) (next : Serial → Call) :
    lookUpFor h id w next = (h, answered (.failed (.invalidWindow w))) := by
  rw [lookUpFor, Window.checked, if_neg inadmissible]

/-- How many steps a call that comes to nothing takes at most. -/
def Call.stepsLeft : Call → Nat
  | asked _ => 2
  | answered _ => 0
  | _ => 1

/-- A hopeless request is looked into, which changes nothing. -/
theorem Hopeless.start {r : Request} (hopeless : Hopeless g h r a) :
    ∃ c', Call.start g h r = (h, c') ∧ Doomed g h c' a ∧ c'.stepsLeft < 2 := by
  cases hopeless with
  | resizeWindow id inadmissible | terminalWindow id inadmissible =>
    exact ⟨_, Call.lookUpFor_inadmissible inadmissible h id _, .answered _, Nat.zero_lt_two⟩
  | unknown needs unknown =>
    cases needs with
    | keepAlive | view | exec | transfer =>
      exact ⟨_, Call.lookUp_unknown unknown _, .answered _, Nat.zero_lt_two⟩
    | resize admissible | terminal admissible =>
      refine ⟨_, (Call.lookUpFor_admissible admissible h _ _).trans ?_, .answered _, Nat.zero_lt_two⟩
      exact Call.lookUp_unknown unknown _
  | unknownDisconnect unknown => exact ⟨_, rfl, .removing unknown, Nat.one_lt_two⟩
  | notAdmitted target login term refused =>
    exact ⟨_, if_neg (Bool.eq_false_iff.mp refused), .answered _, Nat.zero_lt_two⟩
  | unconnected term admitted fault =>
    exact ⟨_, if_pos admitted, .connecting fault, Nat.one_lt_two⟩
  | @shellTaken id s w admissible found gone =>
    refine ⟨.takingShell id s w, ?_, .takingShell id w gone, Nat.one_lt_two⟩
    exact (Call.lookUpFor_admissible admissible h id _).trans (Call.lookUp_found found _)
  | @noTerminal id s w admissible found none =>
    refine ⟨.sharing s w (some id), ?_, .sharing w _ none, Nat.one_lt_two⟩
    exact (Call.lookUpFor_admissible admissible h id _).trans (Call.lookUp_found found _)

/-- **A call that comes to nothing has one way to go on, and changes nothing on it.** -/
theorem Doomed.go (doomed : Doomed g h c a) :
    c = .answered a ∨ ∃ h' c', (∀ e, c.step g e h = Call.onGo e (h', c')) ∧ h.Same h' ∧
      Doomed g h' c' a ∧ c'.stepsLeft < c.stepsLeft := by
  have same := Hub.Same.refl h
  cases doomed with
  | asked hopeless =>
    obtain ⟨c', started, doomed', less⟩ := hopeless.start
    exact .inr ⟨h, c', fun e => congrArg (Call.onGo e) started, same, doomed', less⟩
  | @connecting client target login term why fault =>
    have failed : Call.connect g h client target login term = (h, .answered (.failed why)) := by
      rw [Call.connect, Remote.Network.connect_eq_error_iff.mpr fault]
    exact .inr ⟨h, _, fun e => congrArg (Call.onGo e) failed, same, .answered _, Nat.one_pos⟩
  | @removing id unknown =>
    have absent : h.remove id = (none, h) := by
      rw [Hub.remove, unknown]
    refine .inr ⟨h, .answered .done, fun e => ?_, same, .answered _, Nat.one_pos⟩
    simp only [Call.step, Call.giveUp, absent]
    rfl
  | @takingShell id s w gone =>
    have gone : (h.takeShell s).1 = false := gone
    have refused : Call.takeShellFor h id s w =
        ((h.takeShell s).2, .answered (.failed Session.shellTaken)) := by
      show ((h.takeShell s).2, if (h.takeShell s).1 then _ else _) = _
      rw [if_neg (Bool.eq_false_iff.mp gone)]
    exact .inr ⟨_, _, fun e => congrArg (Call.onGo e) refused, Hub.same_takeShell gone, .answered _,
      Nat.one_pos⟩
  | @sharing s w evict none =>
    have unshared : h.shareControl s = (Option.none, h) := by
      rw [Hub.shareControl, none]
    refine .inr ⟨h, .answered (.failed Session.noTerminal), fun e => ?_, same, .answered _,
      Nat.one_pos⟩
    rw [Call.step, unshared]
  | answered => exact .inl rfl

theorem Doomed.step {e : Event} (doomed : Doomed g h c a) (hs : c.step g e h = some (h', c')) :
    h.Same h' ∧ Doomed g h' c' a := by
  obtain rfl | ⟨h₁, c₁, go, same, doomed', -⟩ := doomed.go
  · cases hs
  · rw [go] at hs
    cases Call.onGo_eq hs
    exact ⟨same, doomed'⟩

/-- It comes to its end by itself. -/
theorem Doomed.comes {steps : Nat} (doomed : Doomed g h c a) (enough : c.stepsLeft ≤ steps) :
    ∃ steps h', c.alone g h (List.replicate steps (.step .go)) = some (h', .answered a) := by
  induction steps generalizing h c with
  | zero =>
    obtain rfl | ⟨h', c', -, -, -, less⟩ := doomed.go
    · exact ⟨0, h, rfl⟩
    · omega
  | succ n ih =>
    obtain rfl | ⟨h', c', go, -, doomed', less⟩ := doomed.go
    · exact ⟨0, h, rfl⟩
    · obtain ⟨steps, h'', ran⟩ := ih doomed' (by omega)
      refine ⟨steps + 1, h'', ?_⟩
      rw [List.replicate_succ, Call.alone, go]
      exact ran

/-- Along every run of it nothing is changed. -/
theorem Doomed.alone {moves : List Solo} (doomed : Doomed g h c a)
    (ran : c.alone g h moves = some (h', c')) :
    (h.besideAll (asides moves)).Same h' ∧ Doomed g h' c' a := by
  refine Call.alone_induction (R := fun k h c => k.Same h ∧ Doomed g h c a) ?_ ?_
    ⟨Hub.Same.refl h, doomed⟩ ran
  · intro k h c aside ⟨same, doomed⟩
    refine ⟨same.beside aside, doomed.carry (Hub.find?_beside h aside) fun s => ?_⟩
    rw [Hub.sessions_beside]
  · intro k h c e h' c' ⟨same, doomed⟩ stepped
    obtain ⟨same', doomed'⟩ := doomed.step stepped
    exact ⟨same.trans same', doomed'⟩

/-- **A hopeless request fails without a trace.** -/
theorem Hopeless.harmless {r : Request} (hopeless : Hopeless g h r a) : Harmless g h r a where
  traceless := by
    intro moves h' a' came
    obtain ⟨same, doomed⟩ := (Doomed.asked hopeless).alone came
    cases doomed
    exact ⟨rfl, same⟩
  comes := (Doomed.asked hopeless).comes (Nat.le_refl 2)

/-- A client that is not admitted is turned away before anything is dialled. -/
theorem Hopeless.undialled {client : Net.IpAddress} {target : Net.Target} {login : Login}
    {term : String} {moves : List Solo} (refused : g.admission.admits client = false)
    (ran : (Call.asked (.create client target login term)).alone g h moves = some (h', c')) :
    c' = .asked (.create client target login term) ∨ c' = .answered (.failed (.notAdmitted client)) := by
  refine Call.alone_induction (R := fun _ _ c => c = .asked (.create client target login term) ∨
    c = .answered (.failed (.notAdmitted client))) ?_ ?_ (k := h) (.inl rfl) ran
  · exact fun k h c aside stands => stands
  · rintro k h c e h' c' (rfl | rfl) stepped
    · have turned : Call.start g h (.create client target login term) =
          (h, .answered (.failed (.notAdmitted client))) := if_neg (Bool.eq_false_iff.mp refused)
      rw [Call.step, turned] at stepped
      cases Call.onGo_eq stepped
      exact .inr rfl
    · cases stepped

/-! ## Commands and file operations -/

/-- The request uses the session that has this id for something that the remote host does. -/
inductive Request.Uses (id : String) : Request → Prop where
  | exec (command : String) : Uses id (.exec id command)
  | transfer : Uses id (.transfer id)

/-- What a call that uses a session has done to the hub, by where it stands. -/
inductive Using (id : String) (s : Serial) (k h : Hub) : Call → Prop where
  | asked {r : Request} (uses : r.Uses id) (same : k.Same h) : Using id s k h (.asked r)
  | beginning (u : Use) (same : k.Same h) : Using id s k h (.beginning s u)
  | underway (u : Use) (now : Moment) (active : (k.activeAt s now).Same h) :
      Using id s k h (.underway s u)
  | answered (a : Answer) (now : Moment) (active : (k.activeAt s now).Same h) :
      Using id s k h (.answered a)

theorem Using.beside (using' : Using id s k h c) (a : Aside) :
    Using id s (k.beside a) (h.beside a) c := by
  have still : ∀ {now}, (k.activeAt s now).Same h →
      ((k.beside a).activeAt s now).Same (h.beside a) := by
    intro now active
    rw [Hub.activeAt, Hub.modify_beside]
    exact active.beside a
  cases using' with
  | asked uses same => exact .asked uses (same.beside a)
  | beginning u same => exact .beginning u (same.beside a)
  | underway u now active => exact .underway u now (still active)
  | answered a now active => exact .answered a now (still active)

theorem Using.step {e : Event} (found : k.find? id = some s) (using' : Using id s k h c)
    (hs : c.step g e h = some (h', c')) : Using id s k h' c' := by
  cases using' with
  | @asked r uses same =>
    have found : h.find? id = some s := (same.find? id).trans found
    cases uses with
    | exec command =>
      have begun : Call.start g h (.exec id command) = (h, .beginning s (.exec command)) :=
        Call.lookUp_found found _
      rw [Call.step, begun] at hs
      cases Call.onGo_eq hs
      exact .beginning _ same
    | transfer =>
      have begun : Call.start g h (.transfer id) = (h, .beginning s .transfer) :=
        Call.lookUp_found found _
      rw [Call.step, begun] at hs
      cases Call.onGo_eq hs
      exact .beginning _ same
  | beginning u same =>
    have active : (k.activeAt s h.clock).Same (h.touch s) := same.modify s _
    have begun := Call.onGo_eq hs
    unfold Call.begin at begun
    dsimp only at begun
    split at begun
    · cases begun
      exact .answered _ h.clock active
    · cases begun
      exact .underway u h.clock active
  | underway u now active =>
    obtain ⟨rfl, a, rfl⟩ := Call.step_underway hs
    exact .answered a now active
  | answered => cases hs

/-- **A command or a file operation, failed or not, is seen as activity of its session and as
nothing else.** -/
theorem Request.Uses.active {r : Request} {moves : List Solo} (uses : r.Uses id)
    (found : h.find? id = some s) (came : Comes g h r moves h' a) :
    ∃ now, ((h.besideAll (asides moves)).activeAt s now).Same h' := by
  have ended := Call.alone_induction (R := fun k h c => k.find? id = some s ∧ Using id s k h c)
    (fun k h c aside ⟨found, using'⟩ => ⟨(k.find?_beside aside id).trans found, using'.beside aside⟩)
    (fun k h c e h' c' ⟨found, using'⟩ stepped => ⟨found, using'.step found stepped⟩)
    ⟨found, .asked uses (Hub.Same.refl h)⟩ came
  obtain ⟨-, using'⟩ := ended
  cases using' with
  | answered a now active => exact ⟨now, active⟩

/-! ## Windows that cannot be passed on -/

/-- The registry and the sessions are the same. -/
structure Alike (h h' : Hub) : Prop where
  registered : h'.registered = h.registered
  sessions : ∀ s, h'.sessions.get? s = h.sessions.get? s

/-- An id has been taken out of the registry and its session marked as closed, if it says so;
nothing else has become of any session. -/
structure Removed (id : String) (s : Serial) (marked : Bool) (h h' : Hub) : Prop where
  registered : h'.registered = h.registered.erase id
  closed : ∃ x, h'.sessions.get? s = some x ∧ (marked = true → x.closed = true)
  others : ∀ s', s' ≠ s → h'.sessions.get? s' = h.sessions.get? s'

/-- What a request for a window leaves, by its answer. -/
inductive Resized (id : String) (s : Serial) (h h' : Hub) : Answer → Prop where
  | done (now : Moment) (active : Alike (h.activeAt s now) h') : Resized id s h h' .done
  /-- The failure has nothing to do with the connection. -/
  | kept {why : Failure} (usable : why.isTransport = false) (alike : Alike h h') :
      Resized id s h h' (.failed why)
  /-- The connection is unusable. -/
  | lost {why : Failure} (unusable : why.isTransport = true) (removed : Removed id s true h h') :
      Resized id s h h' (.failed why)

/-- What a request for a window has done to the registry and to the sessions, by where it
stands. -/
inductive Forwarding (id : String) (s : Serial) (k h : Hub) : Call → Prop where
  | asked (w : Window) (alike : Alike k h) : Forwarding id s k h (.asked (.resize id w))
  | sharing (w : Window) (alike : Alike k h) : Forwarding id s k h (.sharing s w (some id))
  | sending (q : QueueId) (w : Window) (there : (k.sessions.get? s).isSome) (alike : Alike k h) :
      Forwarding id s k h (.sending s q w (some id))
  | awaiting (q : QueueId) (t : Ticket) (there : (k.sessions.get? s).isSome) (alike : Alike k h) :
      Forwarding id s k h (.awaiting s q t (some id))
  | applied (q : QueueId) (alike : Alike k h) : Forwarding id s k h (.applied s q)
  | removing {why : Failure} (unusable : why.isTransport = true)
      (there : (k.sessions.get? s).isSome) (alike : Alike k h) :
      Forwarding id s k h (.giveUp id (.failed why))
  | closing {why : Failure} (stage : Closing) (unusable : why.isTransport = true)
      (removed : Removed id s (stage ≠ .marking) k h) :
      Forwarding id s k h (.closing s stage (.answer (.failed why)))
  | answered (a : Answer) (resized : Resized id s k h a) : Forwarding id s k h (.answered a)

theorem Alike.refl (h : Hub) : Alike h h :=
  ⟨rfl, fun _ => rfl⟩

theorem Alike.of_frame (frame : Hub.SameSessions h h') : Alike h h' where
  registered := frame.registered
  sessions s := by
    have shown := frame.sessions s
    rw [Option.map_id'] at shown
    simpa using shown

theorem Alike.trans {h'' : Hub} (a : Alike h h') (b : Alike h' h'') : Alike h h'' :=
  ⟨b.registered.trans a.registered, fun s => (b.sessions s).trans (a.sessions s)⟩

theorem Alike.beside (alike : Alike h h') (a : Aside) : Alike (h.beside a) (h'.beside a) where
  registered := by
    rw [Hub.registered_beside, Hub.registered_beside]
    exact alike.registered
  sessions s := by
    rw [Hub.sessions_beside, Hub.sessions_beside]
    exact alike.sessions s

theorem Alike.modify (alike : Alike h h') (s : Serial) (f : Session → Session) :
    Alike (h.modify s f) (h'.modify s f) where
  registered := by
    rw [Hub.registered_modify, Hub.registered_modify]
    exact alike.registered
  sessions s' := by
    rw [Hub.get?_modify, Hub.get?_modify, alike.sessions, alike.sessions]

namespace Removed

variable {marked : Bool}

theorem alike {h'' : Hub} (removed : Removed id s marked h h') (alike : Alike h' h'') :
    Removed id s marked h h'' where
  registered := alike.registered.trans removed.registered
  closed := by
    rw [alike.sessions]
    exact removed.closed
  others s' other := (alike.sessions s').trans (removed.others s' other)

theorem beside (removed : Removed id s marked h h') (a : Aside) :
    Removed id s marked (h.beside a) (h'.beside a) where
  registered := by
    rw [Hub.registered_beside, Hub.registered_beside]
    exact removed.registered
  closed := by
    rw [Hub.sessions_beside]
    exact removed.closed
  others s' other := by
    rw [Hub.sessions_beside, Hub.sessions_beside]
    exact removed.others s' other

/-- The session may change in everything but that it is closed. -/
theorem modify {f : Session → Session} {marked' : Bool} (removed : Removed id s marked h h')
    (closes : ∀ x, marked' = true → marked = true ∧ (f x).closed = x.closed ∨ (f x).closed = true) :
    Removed id s marked' h (h'.modify s f) where
  registered := by
    rw [Hub.registered_modify]
    exact removed.registered
  closed := by
    obtain ⟨x, there, closed⟩ := removed.closed
    refine ⟨f x, ?_, fun marked' => ?_⟩
    · rw [Hub.get?_modify, if_pos rfl, there]
      rfl
    · obtain ⟨marked, same⟩ | closed := closes x marked'
      · rw [same, closed marked]
      · exact closed
  others s' other := by
    rw [Hub.get?_modify, if_neg other]
    exact removed.others s' other

end Removed

/-! ### Step by step -/

/-- A closing goes on with a session that is marked, or has come to its end. -/
theorem Removed.stepClosing {e : Event} {stage : Closing} {why : Failure}
    (removed : Removed id s (stage ≠ .marking) k h) (unusable : why.isTransport = true)
    (hs : Call.stepClosing h s (.answer (.failed why)) e stage = some (h', c')) :
    Forwarding id s k h' c' := by
  have goesOn : ∀ {m : Hub} {stage' : Closing}, Removed id s true k m →
      Forwarding id s k m (.closing s stage' (.answer (.failed why))) := by
    intro m stage' removed
    refine .closing stage' unusable ⟨removed.registered, ?_, removed.others⟩
    obtain ⟨x, there, closed⟩ := removed.closed
    exact ⟨x, there, fun _ => closed rfl⟩
  have ends : ∀ {m : Hub}, Removed id s true k m →
      Forwarding id s k m (.answered (.failed why)) := fun removed =>
    .answered _ (.lost unusable removed)
  have marked : stage ≠ .marking → Removed id s true k h := by
    intro later
    obtain ⟨x, there, closed⟩ := removed.closed
    exact ⟨removed.registered, ⟨x, there, fun _ => closed (decide_eq_true later)⟩, removed.others⟩
  -- whatever happens to the session after it was marked, it stays marked
  have keeps : ∀ {f : Session → Session}, stage ≠ .marking → (∀ x, (f x).closed = x.closed) →
      Removed id s true k (h.modify s f) := fun later same =>
    (marked later).modify fun x _ => .inl ⟨rfl, same x⟩
  cases stage with
  | marking =>
    simp only [Call.stepClosing, Option.ite_none_right_eq_some, Option.some.injEq,
      Prod.mk.injEq] at hs
    obtain ⟨-, rfl, rfl⟩ := hs
    have marked : Removed id s true k (h.markClosed s).2 := removed.modify fun x _ => .inr rfl
    split
    · exact ends marked
    · exact goesOn marked
  | takingControl =>
    simp only [Call.stepClosing, Option.ite_none_right_eq_some, Option.some.injEq,
      Prod.mk.injEq] at hs
    obtain ⟨-, rfl, rfl⟩ := hs
    exact goesOn (keeps (by simp) fun _ => rfl)
  | signalling q =>
    simp only [Call.stepClosing, Option.ite_none_right_eq_some, Option.some.injEq,
      Prod.mk.injEq] at hs
    obtain ⟨-, rfl, rfl⟩ := hs
    have told : Hub.SameSessions h ((h.trySend q .close).dropSender q) :=
      (h.frame_trySend q .close).trans (Hub.frame_dropSender _ q)
    exact goesOn ((marked (by simp)).alike (.of_frame told))
  | releasingTransfer =>
    simp only [Call.stepClosing] at hs
    split at hs
    · cases e with
      | released failed =>
        obtain ⟨rfl, rfl⟩ := Prod.mk.inj (Option.some.inj hs)
        exact goesOn (keeps (by simp) fun _ => rfl)
      | _ => cases hs
    · simp only [Option.ite_none_right_eq_some, Option.some.injEq, Prod.mk.injEq] at hs
      obtain ⟨-, rfl, rfl⟩ := hs
      exact goesOn (marked (by simp))
  | takingShell =>
    simp only [Call.stepClosing, Option.ite_none_right_eq_some, Option.some.injEq,
      Prod.mk.injEq] at hs
    obtain ⟨-, rfl, rfl⟩ := hs
    exact goesOn (keeps (by simp) fun _ => rfl)
  | releasingShell =>
    cases e with
    | released failed =>
      obtain ⟨rfl, rfl⟩ := Prod.mk.inj (Option.some.inj hs)
      exact goesOn (keeps (by simp) fun _ => rfl)
    | _ => cases hs
  | releasingTransport =>
    cases e with
    | released failed =>
      obtain ⟨rfl, rfl⟩ := Prod.mk.inj (Option.some.inj hs)
      exact ends (keeps (by simp) fun _ => rfl)
    | _ => cases hs

/-- A window that could not be passed on: the session is given up if the connection is unusable,
and kept if not. -/
theorem Forwarding.resizeFailed (id : String) (alike : Alike k h)
    (there : (k.sessions.get? s).isSome) (q : QueueId) (why : Failure) :
    Forwarding id s k (Call.resizeFailed h q (some id) why).1
      (Call.resizeFailed h q (some id) why).2 := by
  have left : Alike k (h.dropSender q) := alike.trans (.of_frame (h.frame_dropSender q))
  unfold Call.resizeFailed
  dsimp only
  cases unusable : why.isTransport with
  | true => exact .removing unusable there left
  | false => exact .answered _ (.kept unusable left)

theorem Forwarding.beside (forwarding : Forwarding id s k h c) (a : Aside) :
    Forwarding id s (k.beside a) (h.beside a) c := by
  have still : (k.sessions.get? s).isSome → ((k.beside a).sessions.get? s).isSome := by
    rw [Hub.sessions_beside]
    exact fun there => there
  cases forwarding with
  | asked w alike => exact .asked w (alike.beside a)
  | sharing w alike => exact .sharing w (alike.beside a)
  | sending q w there alike => exact .sending q w (still there) (alike.beside a)
  | awaiting q t there alike => exact .awaiting q t (still there) (alike.beside a)
  | applied q alike => exact .applied q (alike.beside a)
  | removing unusable there alike => exact .removing unusable (still there) (alike.beside a)
  | closing stage unusable removed => exact .closing stage unusable (removed.beside a)
  | answered answer resized =>
    refine .answered answer ?_
    cases resized with
    | done now active =>
      refine .done now ?_
      rw [Hub.activeAt, Hub.modify_beside]
      exact active.beside a
    | kept usable alike => exact .kept usable (alike.beside a)
    | lost unusable removed => exact .lost unusable (removed.beside a)

/-- **Every step of a request for a window keeps the account.** -/
theorem Forwarding.step {e : Event} (found : k.find? id = some s)
    (forwarding : Forwarding id s k h c) (hs : c.step g e h = some (h', c')) :
    Forwarding id s k h' c' := by
  cases forwarding with
  | asked w alike =>
    have found : h.find? id = some s := (congrArg (·.get? id) alike.registered).trans found
    have begun := Call.onGo_eq hs
    by_cases admissible : w.Admissible
    · have looked : Call.start g h (.resize id w) = (h, .sharing s w (some id)) :=
        (Call.lookUpFor_admissible admissible h id _).trans (Call.lookUp_found found _)
      rw [looked] at begun
      cases begun
      exact .sharing w alike
    · have refused : Call.start g h (.resize id w) = (h, .answered (.failed (.invalidWindow w))) :=
        Call.lookUpFor_inadmissible admissible h id _
      rw [refused] at begun
      cases begun
      exact .answered _ (.kept rfl alike)
  | sharing w alike =>
    have shared : Hub.SameSessions h (h.shareControl s).2 := h.frame_shareControl s
    have begun := Call.onGo_eq hs
    split at begun
    · rename_i q m hq
      rw [hq] at shared
      cases begun
      -- who has a control queue is there
      have there : (k.sessions.get? s).isSome := by
        rw [← alike.sessions]
        cases hx : h.sessions.get? s with
        | some x => rfl
        | none => simp [Hub.shareControl, hx] at hq
      exact .sending q w there (alike.trans (.of_frame shared))
    · rename_i m hq
      rw [hq] at shared
      cases begun
      exact .answered _ (.kept rfl (alike.trans (.of_frame shared)))
  | sending q w there alike =>
    have failed : some (Call.resizeFailed h q (some id) terminalGone) = some (h', c') →
        Forwarding id s k h' c' := by
      intro hp
      have left := Forwarding.resizeFailed id alike there q terminalGone
      rw [Option.some.inj hp] at left
      exact left
    have sent := (Option.ite_none_right_eq_some.mp hs).2
    unfold Call.send at sent
    split at sent
    · exact failed sent
    · split at sent
      · exact failed sent
      · split at sent
        · cases sent
          have queued : Hub.SameSessions h (h.newTicket.2.trySend q (.resize h.newTicket.1 w)) :=
            h.frame_newTicket.trans (Hub.frame_trySend _ q _)
          exact .awaiting q _ there (alike.trans (.of_frame queued))
        · cases sent
  | awaiting q t there alike =>
    have failed : ∀ {why}, some (Call.resizeFailed h q (some id) why) = some (h', c') →
        Forwarding id s k h' c' := by
      intro why hp
      have left := Forwarding.resizeFailed id alike there q why
      rw [Option.some.inj hp] at left
      exact left
    have taken := (Option.ite_none_right_eq_some.mp hs).2
    unfold Call.await at taken
    split at taken
    · cases taken
      exact .applied q alike
    · exact failed taken
    · exact failed taken
    · cases taken
    · cases taken
  | applied q alike =>
    cases Call.onGo_eq hs
    have active : Alike (k.activeAt s h.clock) (h.touch s) := alike.modify s _
    exact .answered _ (.done h.clock (active.trans (.of_frame (Hub.frame_dropSender _ q))))
  | @removing why unusable there alike =>
    have found : h.find? id = some s := (congrArg (·.get? id) alike.registered).trans found
    have removed : h.remove id = (some s, { h with registered := h.registered.erase id }) := by
      rw [Hub.remove, found]
    simp only [Call.step, Call.giveUp, removed] at hs
    cases Call.onGo_eq hs
    refine .closing .marking unusable ⟨congrArg (·.erase id) alike.registered, ?_, ?_⟩
    · obtain ⟨x, hx⟩ := Option.isSome_iff_exists.mp there
      exact ⟨x, (alike.sessions s).trans hx, by simp⟩
    · exact fun s' _ => alike.sessions s'
  | closing stage unusable removed => exact removed.stepClosing unusable hs
  | answered => cases hs

/-- **A window costs a session its place and its handles if the connection turns out to be
unusable, and nothing otherwise.** -/
theorem resized {w : Window} {moves : List Solo} (found : h.find? id = some s)
    (came : Comes g h (.resize id w) moves h' a) :
    Resized id s (h.besideAll (asides moves)) h' a := by
  have ended := Call.alone_induction (R := fun k h c => k.find? id = some s ∧ Forwarding id s k h c)
    (fun k h c aside ⟨found, forwarding⟩ =>
      ⟨(k.find?_beside aside id).trans found, forwarding.beside aside⟩)
    (fun k h c e h' c' ⟨found, forwarding⟩ stepped => ⟨found, forwarding.step found stepped⟩)
    ⟨found, .asked w (Alike.refl h)⟩ came
  obtain ⟨-, forwarding⟩ := ended
  cases forwarding with
  | answered a resized => exact resized

/-- A session has lost its place exactly if the connection turned out to be unusable. -/
theorem Resized.lost_iff {why : Failure} (resized : Resized id s k h' (.failed why))
    (found : k.find? id = some s) :
    why.isTransport = true ↔
      h'.find? id = none ∧ ∃ x, h'.sessions.get? s = some x ∧ x.closed = true := by
  cases resized with
  | kept usable alike =>
    have still : h'.find? id = some s := (congrArg (·.get? id) alike.registered).trans found
    simp [usable, still]
  | lost unusable removed =>
    refine iff_of_true unusable ⟨?_, ?_⟩
    · show h'.registered.get? id = none
      rw [removed.registered, Dictionary.get?_erase, if_pos rfl]
    · obtain ⟨x, there, closed⟩ := removed.closed
      exact ⟨x, there, closed rfl⟩

/-! ## What is contained -/

/-- What calls that nobody else calls beside leave of a hub when they fail. -/
structure Contained (g : Gateway) (h : Hub) : Prop where
  /-- A hopeless request fails without a trace. -/
  harmless : ∀ {r a}, Hopeless g h r a → Harmless g h r a
  /-- A client that is not admitted is turned away before anything is dialled. -/
  undialled : ∀ {client target login term moves h' c}, g.admission.admits client = false →
    (Call.asked (.create client target login term)).alone g h moves = some (h', c) →
    c = .asked (.create client target login term) ∨ c = .answered (.failed (.notAdmitted client))
  /-- A command or a file operation is seen as activity of its session and as nothing else. -/
  active : ∀ {r id s moves h' a}, r.Uses id → h.find? id = some s → Comes g h r moves h' a →
    ∃ now, ((h.besideAll (asides moves)).activeAt s now).Same h'
  /-- A window that could not be passed on takes its session out of the registry and closes it if
  the connection is unusable, and leaves the registry and the sessions alone if not. -/
  resized : ∀ {id s w moves h' why}, h.find? id = some s →
    Comes g h (.resize id w) moves h' (.failed why) →
    Resized id s (h.besideAll (asides moves)) h' (.failed why) ∧ (why.isTransport = true ↔
      h'.find? id = none ∧ ∃ x, h'.sessions.get? s = some x ∧ x.closed = true)

/-- **Failed calls are contained**: in every state, what they leave behind is what they must, and
whatever happens no remote host is sent a window that nobody may ask for. -/
theorem failures_contained (g : Gateway) :
    (∀ h, Contained g h) ∧
      ∀ moves t, System.initial.run g moves = some t → OnlyWelcome g moves t := by
  constructor
  · intro h
    constructor
    case harmless => exact Hopeless.harmless
    case undialled => exact Hopeless.undialled
    case active => exact fun uses found came => uses.active found came
    case resized =>
      intro id s w moves h' why found came
      have left := Session.resized found came
      exact ⟨left, left.lost_iff ((h.find?_besideAll _ id).trans found)⟩
  · exact fun moves t ran => onlyWelcome ran

/-- A hub with one session and a terminal, whose queue is number zero. -/
def oneTerminal : Hub :=
  (((Hub.make {} (someInfo "a") false).2.put 0).2.attach 0).2

/-- The reader of the queue goes when a window waits in it. -/
def readerGoes : List Solo :=
  [.step .go, .step .go, .step .go, .aside (.abandon 0), .step .go, .step .go, .step .go, .step .go,
    .step .go, .step (.released false), .step .go, .step (.released true)]

theorem failures_contained_readerGoes : ∃ h',
    Comes strandedGateway oneTerminal (.resize "a" ⟨100, 30⟩) readerGoes h'
        (.failed resizeDropped) ∧
      h'.find? "a" = none ∧
      Resized "a" 0 (oneTerminal.besideAll (asides readerGoes)) h' (.failed resizeDropped) ∧
      Harmless strandedGateway oneTerminal (.resize "a" ⟨10, 30⟩)
        (.failed (.invalidWindow ⟨10, 30⟩)) := by
  have contained := (failures_contained strandedGateway).1 oneTerminal
  have came : Comes strandedGateway oneTerminal (.resize "a" ⟨100, 30⟩) readerGoes _
      (.failed resizeDropped) := rfl
  refine ⟨_, came, rfl, (contained.resized rfl came).1, ?_⟩
  exact contained.harmless (.resizeWindow "a" (by decide))

end Session
end ShellGateway
