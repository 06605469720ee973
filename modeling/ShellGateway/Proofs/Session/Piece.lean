import ShellGateway.Proofs.Session.Frame
import ShellGateway.Session.Call

/-!
# The pieces that calls are made of

`Call.step` branches on where a call stands, on what the hub holds and on what
the outside contributes. Of all these branches few have a part in what is
claimed about sessions: those that make, register and remove them, those that
close them, and those that take their shells. `Piece` lists these, and gathers
all others in one constructor that says what they leave alone. `Call.piece` says
that the list is complete, and is the only place where the branches are looked at
one by one.

What the other steps leave alone are the sessions' `Holdings`: everything about a
session but its activity and its control queue.
-/

namespace ShellGateway

namespace Session

/-- What a session is for and what it owns: all of it but its activity and its
control queue. -/
structure Holdings where
  info : Info
  closed : Bool
  shellHere : Bool
  releases : List Release
  deriving DecidableEq

/-- The part of a session that activity and terminals do not change. -/
def holdings (x : Session) : Holdings :=
  ⟨x.info, x.closed, x.shellHere, x.releases⟩

end Session

/-- A step that has no part in what sessions are for and what they own, nor in
what is registered. -/
abbrev Hub.Keeps (h h' : Hub) : Prop :=
  Hub.Frame Session.holdings h h'

namespace Session

namespace Call

/-! ## Where calls stand -/

/-- The call's next step is none of those that make, register, remove, close or
take something. -/
def isPlain (h : Hub) : Call → Bool
  | asked (.put _) | asked (.closeSession _) | asked (.takeShell _) => false
  | registering _ | removing _ _ _ | closing _ _ _ => false
  | takingShell _ _ _ | attending _ _ _ | bridging _ _ _ _ => false
  | sweeping maxIdle (id :: _) _ => !h.staleAt maxIdle id
  | _ => true

/-- The call is past its request and holds no session: it has none to register or
to close, and no shell. -/
def isFree : Call → Bool
  | asked _ | registering _ | closing _ _ _ => false
  | takingShell _ _ _ | attending _ _ _ | bridging _ _ _ _ => false
  | _ => true

/-- The session whose shell a terminal has, and the id under which it found
it. -/
def aboard? : Call → Option (String × Serial)
  | attending id s _ | bridging id s _ _ => some (id, s)
  | _ => none

/-- Whoever has a shell attends to it or is bridged to it. -/
theorem eq_of_aboard? {c : Call} {id : String} {s : Serial} (h : c.aboard? = some (id, s)) :
    (∃ w, c = attending id s w) ∨ ∃ q task, c = bridging id s q task := by
  cases c with
  | attending =>
    cases h
    exact .inl ⟨_, rfl⟩
  | bridging =>
    cases h
    exact .inr ⟨_, _, rfl⟩
  | _ => cases h

end Call

/-- The stages of a closing that tell the terminal, between marking the session
and releasing the first handle. -/
def Closing.isTelling : Closing → Bool
  | takingControl | signalling _ => true
  | _ => false

/-! ## The list -/

/-- What one step of a call comes to: `Piece h c h' c'` takes the hub from `h` to
`h'` and the call from `c` to `c'`. -/
inductive Piece (h : Hub) : Call → Hub → Call → Prop where
  /-- Nothing that the others do. -/
  | plain {h' : Hub} {c c' : Call} (keeps : h.Keeps h') (before : c.isPlain h) (after : c'.isFree) :
      Piece h c h' c'
  /-- A session is made by a call that goes on to register it. -/
  | opened {c : Call} (info : Info) (before : c.isPlain h) :
      Piece h c (h.make info true).2 (.registering h.nextSerial)
  /-- A session is registered; whoever asked for it gets the one it replaces. -/
  | offered (s : Serial) :
      Piece h (.asked (.put s)) (h.put s).2 (.answered (.session (h.put s).1))
  /-- A session is registered; the one it replaces is to be closed. -/
  | registered (s : Serial) (n : Next) :
      Piece h (.registering s) (h.put s).2 (.closeRemoved (h.put s).1 n n)
  /-- An id is taken out, and its session is to be closed. -/
  | removed (id : String) (next absent : Next) :
      Piece h (.removing id next absent) (h.remove id).2
        (.closeRemoved (h.remove id).1 next absent)
  /-- A stale id is taken out, and its session is to be closed. -/
  | swept (maxIdle : Nat) (id : String) (rest : List String) (evicted : Nat)
      (stale : h.staleAt maxIdle id = true) :
      Piece h (.sweeping maxIdle (id :: rest) evicted) (h.remove id).2
        (.closeRemoved (h.remove id).1 (.sweep maxIdle rest (evicted + 1))
          (.sweep maxIdle rest evicted))
  /-- Somebody closes a session without taking it out of the registry. -/
  | intruding (s : Serial) (next : Next) :
      Piece h (.asked (.closeSession s)) h (.closing s .marking next)
  /-- Somebody takes a shell without a terminal, or finds it gone. -/
  | lent (s : Serial) :
      Piece h (.asked (.takeShell s)) (h.takeShell s).2 (.answered (.flag (h.takeShell s).1))
  /-- A terminal finds the session whose shell it is to take. -/
  | found (id : String) (s : Serial) (w : Window) (here : h.find? id = some s) :
      Piece h (.asked (.terminal id w)) h (.takingShell id s w)
  /-- A terminal takes a shell. -/
  | boarded (id : String) (s : Serial) (w : Window) (there : (h.takeShell s).1 = true) :
      Piece h (.takingShell id s w) (h.takeShell s).2 (.attending id s w)
  /-- A terminal finds the shell gone. -/
  | refused (id : String) (s : Serial) (w : Window) (gone : (h.takeShell s).1 = false) :
      Piece h (.takingShell id s w) (h.takeShell s).2 (.answered (.failed shellTaken))
  /-- A terminal goes on. -/
  | aboard {h' : Hub} {c c' : Call} (id : String) (s : Serial) (keeps : h.Keeps h')
      (before : c.aboard? = some (id, s)) (after : c'.aboard? = some (id, s)) : Piece h c h' c'
  /-- A terminal ends, and its session is given up. -/
  | ashore {h' : Hub} {c : Call} (id : String) (s : Serial)
      (how : Programs.TaskEnd (Except Failure Unit)) (keeps : h.Keeps h')
      (before : c.aboard? = some (id, s)) : Piece h c h' (.giveUp id (.ofTerminal how))
  /-- A session that is open is marked as closed. -/
  | marked (s : Serial) (next : Next) (isOpen : (h.markClosed s).1 = false) :
      Piece h (.closing s .marking next) (h.markClosed s).2 (.closing s .takingControl next)
  /-- A session that is closed already is left alone. -/
  | late (s : Serial) (next : Next) (closed : (h.markClosed s).1 = true) :
      Piece h (.closing s .marking next) (h.markClosed s).2 (.ofNext next)
  /-- The terminal, if there is one, is told of the closing. -/
  | told {h' : Hub} (s : Serial) {stage stage' : Closing} (next : Next) (keeps : h.Keeps h')
      (before : stage.isTelling) (after : stage'.isTelling ∨ stage' = .releasingTransfer) :
      Piece h (.closing s stage next) h' (.closing s stage' next)
  | transferReleased (s : Serial) (next : Next) (failed : Bool)
      (offered : (h.sessions.get? s).any (·.info.hasTransfer) = true) :
      Piece h (.closing s .releasingTransfer next) (h.release s .transfer failed)
        (.closing s .takingShell next)
  | transferAbsent (s : Serial) (next : Next)
      (absent : (h.sessions.get? s).any (·.info.hasTransfer) = false) :
      Piece h (.closing s .releasingTransfer next) h (.closing s .takingShell next)
  | shellFound (s : Serial) (next : Next) (there : (h.takeShell s).1 = true) :
      Piece h (.closing s .takingShell next) (h.takeShell s).2 (.closing s .releasingShell next)
  | shellGone (s : Serial) (next : Next) (gone : (h.takeShell s).1 = false) :
      Piece h (.closing s .takingShell next) (h.takeShell s).2 (.closing s .releasingTransport next)
  | shellReleased (s : Serial) (next : Next) (failed : Bool) :
      Piece h (.closing s .releasingShell next) (h.release s .shell failed)
        (.closing s .releasingTransport next)
  /-- The transport is closed; that ends the closing of its session. -/
  | transportReleased (s : Serial) (next : Next) (failed : Bool) :
      Piece h (.closing s .releasingTransport next) (h.release s .transport failed) (.ofNext next)

theorem Piece.of_eq {h h' : Hub} {c c' : Call} {p : Hub × Call} (hp : p = (h', c'))
    (l : Piece h c p.1 p.2) : Piece h c h' c' := by
  rw [hp] at l
  exact l

namespace Call

variable {g : Gateway} {h h' : Hub} {c c' : Call}

/-! ## Look-ups -/

/-- A look-up changes nothing; it goes on with what it finds, or fails. -/
theorem lookUp_cases (h : Hub) (id : String) (found : Serial → Call) :
    (∃ s, h.find? id = some s ∧ lookUp h id found = (h, found s)) ∨
      ∃ why, lookUp h id found = (h, answered (.failed why)) := by
  unfold lookUp
  cases hs : h.find? id with
  | some s => exact .inl ⟨s, rfl, rfl⟩
  | none => exact .inr ⟨_, rfl⟩

theorem lookUpFor_cases (h : Hub) (id : String) (w : Window) (found : Serial → Call) :
    (∃ s, h.find? id = some s ∧ lookUpFor h id w found = (h, found s)) ∨
      ∃ why, lookUpFor h id w found = (h, answered (.failed why)) := by
  unfold lookUpFor
  split
  · exact lookUp_cases h id found
  · exact .inr ⟨_, rfl⟩

/-! ## Every step is one of the list -/

/-- What a step to which the outside contributes nothing comes to. -/
theorem onGo_eq {e : Event} {p p' : Hub × Call} (hs : onGo e p = some p') : p = p' :=
  Option.some.inj (Option.ite_none_right_eq_some.mp hs).2

/-- A request that begins with a look-up. -/
theorem piece_found {p : Hub × Call} {id : String} {found : Serial → Call}
    (hp : (∃ s, h.find? id = some s ∧ p = (h, found s)) ∨ ∃ why, p = (h, answered (.failed why)))
    (before : c.isPlain h) (after : ∀ s, (found s).isFree) : Piece h c p.1 p.2 := by
  obtain ⟨s, -, rfl⟩ | ⟨why, rfl⟩ := hp
  · exact .plain (Hub.Frame.refl _ h) before (after s)
  · exact .plain (Hub.Frame.refl _ h) before rfl

theorem piece_start (g : Gateway) (h : Hub) (r : Request) :
    Piece h (asked r) (start g h r).1 (start g h r).2 := by
  have same : h.Keeps h := Hub.Frame.refl _ h
  cases r with
  | put s => exact .offered s
  | get id => exact .plain same rfl rfl
  | delete id => exact .plain same rfl rfl
  | touch id =>
    unfold start
    dsimp only
    split
    · exact .plain same rfl rfl
    · exact .plain same rfl rfl
  | sweep maxIdle => exact .plain same rfl rfl
  | create client target login term =>
    unfold start
    dsimp only
    split
    · exact .plain same rfl rfl
    · exact .plain same rfl rfl
  | disconnect id => exact .plain same rfl rfl
  | keepAlive id => exact piece_found (lookUp_cases h id _) rfl fun _ => rfl
  | view id => exact piece_found (lookUp_cases h id _) rfl fun _ => rfl
  | exec id command => exact piece_found (lookUp_cases h id _) rfl fun _ => rfl
  | transfer id => exact piece_found (lookUp_cases h id _) rfl fun _ => rfl
  | resize id w => exact piece_found (lookUpFor_cases h id w _) rfl fun _ => rfl
  | terminal id w =>
    have looked := lookUpFor_cases h id w fun s => takingShell id s w
    obtain ⟨s, hid, hp⟩ | ⟨why, hp⟩ := looked
    · exact .of_eq hp.symm (.found id s w hid)
    · exact .of_eq hp.symm (.plain same rfl rfl)
  | closeSession s => exact .intruding s _
  | resizeSession s w => exact .plain same rfl rfl
  | execSession s command => exact .plain same rfl rfl
  | touchSession s => exact .plain same rfl rfl
  | takeShell s => exact .lent s
  | attachControl s => exact .plain (h.frame_attach s fun _ _ => rfl) rfl rfl

theorem piece_connect (g : Gateway) (h : Hub) (client : Net.IpAddress) (target : Net.Target)
    (login : Login) (term : String) :
    Piece h (connecting client target login term) (connect g h client target login term).1
      (connect g h client target login term).2 := by
  unfold connect
  split
  · exact .plain (Hub.Frame.refl _ h) rfl rfl
  · exact .opened _ rfl

theorem piece_begin (h : Hub) (s : Serial) (u : Use) :
    Piece h (beginning s u) (begin h s u).1 (begin h s u).2 := by
  have touched : h.Keeps (h.touch s) := h.frame_touch s fun _ => rfl
  unfold begin
  dsimp only
  split
  · exact .plain touched rfl rfl
  · exact .plain touched rfl rfl

theorem piece_stepClosing {s : Serial} {next : Next} {e : Event} {stage : Closing}
    (hs : stepClosing h s next e stage = some (h', c')) :
    Piece h (closing s stage next) h' c' := by
  cases stage with
  | marking =>
    simp only [stepClosing, Option.ite_none_right_eq_some, Option.some.injEq, Prod.mk.injEq] at hs
    obtain ⟨-, rfl, rfl⟩ := hs
    cases hm : (h.markClosed s).1 with
    | true => exact .late s next hm
    | false => exact .marked s next hm
  | takingControl =>
    simp only [stepClosing, Option.ite_none_right_eq_some, Option.some.injEq, Prod.mk.injEq] at hs
    obtain ⟨-, rfl, rfl⟩ := hs
    refine .told s next (h.frame_takeControl s fun _ => rfl) rfl ?_
    cases (h.takeControl s).1 with
    | some q => exact .inl rfl
    | none => exact .inr rfl
  | signalling q =>
    simp only [stepClosing, Option.ite_none_right_eq_some, Option.some.injEq, Prod.mk.injEq] at hs
    obtain ⟨-, rfl, rfl⟩ := hs
    exact .told s next ((h.frame_trySend q .close).trans (Hub.frame_dropSender _ q)) rfl (.inr rfl)
  | releasingTransfer =>
    simp only [stepClosing] at hs
    split at hs
    · rename_i offered
      cases e with
      | released failed =>
        obtain ⟨rfl, rfl⟩ := Prod.mk.inj (Option.some.inj hs)
        exact .transferReleased s next failed offered
      | _ => cases hs
    · rename_i absent
      simp only [Option.ite_none_right_eq_some, Option.some.injEq, Prod.mk.injEq] at hs
      obtain ⟨-, rfl, rfl⟩ := hs
      exact .transferAbsent s next (Bool.eq_false_iff.mpr absent)
  | takingShell =>
    simp only [stepClosing, Option.ite_none_right_eq_some, Option.some.injEq, Prod.mk.injEq] at hs
    obtain ⟨-, rfl, rfl⟩ := hs
    cases ht : (h.takeShell s).1 with
    | true => exact .shellFound s next ht
    | false => exact .shellGone s next ht
  | releasingShell =>
    cases e with
    | released failed =>
      obtain ⟨rfl, rfl⟩ := Prod.mk.inj (Option.some.inj hs)
      exact .shellReleased s next failed
    | _ => cases hs
  | releasingTransport =>
    cases e with
    | released failed =>
      obtain ⟨rfl, rfl⟩ := Prod.mk.inj (Option.some.inj hs)
      exact .transportReleased s next failed
    | _ => cases hs

theorem piece_stepSweep (h : Hub) (maxIdle evicted : Nat) (stale : List String) :
    Piece h (sweeping maxIdle stale evicted) (stepSweep h maxIdle evicted stale).1
      (stepSweep h maxIdle evicted stale).2 := by
  have same : h.Keeps h := Hub.Frame.refl _ h
  cases stale with
  | nil => exact .plain same rfl rfl
  | cons id rest =>
    simp only [stepSweep, Hub.removeStale]
    cases hst : h.staleAt maxIdle id with
    | true => exact .swept maxIdle id rest evicted hst
    | false => exact .plain same (by simp [isPlain, hst]) rfl

/-- A window that could not be passed on: the sender's share is given up, and
perhaps the session. -/
theorem piece_resizeFailed (h : Hub) (q : QueueId) (evict : Option String) (why : Failure)
    (before : c.isPlain h) :
    Piece h c (resizeFailed h q evict why).1 (resizeFailed h q evict why).2 := by
  have dropped : h.Keeps (h.dropSender q) := h.frame_dropSender q
  unfold resizeFailed
  cases evict with
  | none => exact .plain dropped before rfl
  | some id =>
    refine .plain dropped before ?_
    cases why.isTransport <;> rfl

theorem piece_send {s : Serial} {q : QueueId} {w : Window} {evict : Option String}
    (hs : send h s q w evict = some (h', c')) : Piece h (sending s q w evict) h' c' := by
  have failed := piece_resizeFailed (c := sending s q w evict) h q evict terminalGone rfl
  unfold send at hs
  split at hs
  · exact .of_eq (Option.some.inj hs) failed
  · split at hs
    · exact .of_eq (Option.some.inj hs) failed
    · split at hs
      · obtain ⟨rfl, rfl⟩ := Prod.mk.inj (Option.some.inj hs)
        exact .plain (h.frame_newTicket.trans (Hub.frame_trySend _ q _)) rfl rfl
      · cases hs

theorem piece_await {s : Serial} {q : QueueId} {ticket : Ticket} {evict : Option String}
    (hs : await h s q ticket evict = some (h', c')) :
    Piece h (awaiting s q ticket evict) h' c' := by
  have failed := fun why =>
    piece_resizeFailed (c := awaiting s q ticket evict) h q evict why rfl
  unfold await at hs
  split at hs
  · obtain ⟨rfl, rfl⟩ := Prod.mk.inj (Option.some.inj hs)
    exact .plain (Hub.Frame.refl _ h) rfl rfl
  · exact .of_eq (Option.some.inj hs) (failed _)
  · exact .of_eq (Option.some.inj hs) (failed _)
  · cases hs
  · cases hs

/-- What a session is used for ends the call, whatever comes of it. -/
theorem step_underway {e : Event} {s : Serial} {u : Use}
    (hs : (underway s u).step g e h = some (h', c')) : h' = h ∧ ∃ a, c' = answered a := by
  cases u with
  | exec command =>
    cases e with
    | ran result =>
      cases result with
      | ok bytes =>
        cases hs
        exact ⟨rfl, _, rfl⟩
      | error why =>
        cases hs
        exact ⟨rfl, _, rfl⟩
    | _ => cases hs
  | transfer =>
    cases e with
    | transferred result =>
      cases result with
      | ok t =>
        cases hs
        exact ⟨rfl, _, rfl⟩
      | error why =>
        cases hs
        exact ⟨rfl, _, rfl⟩
    | _ => cases hs

/-- A terminal that goes on or has ended. -/
theorem piece_bridged {m : Hub} (keeps : h.Keeps m) {id : String} {s : Serial}
    (before : c.aboard? = some (id, s)) (q : Option QueueId) (task : TerminalTask) :
    Piece h c (bridged m id s q task).1 (bridged m id s q task).2 := by
  unfold bridged
  cases task.end? with
  | none => exact .aboard id s keeps before rfl
  | some how =>
    cases q with
    | none => exact .ashore id s how keeps before
    | some q => exact .ashore id s how (keeps.trans (m.frame_abandon q)) before

theorem piece_stepTerminal {id : String} {s : Serial} {q : Option QueueId} {task : TerminalTask}
    {e : Event} (hs : stepTerminal h id s q task e = some (h', c')) :
    Piece h (bridging id s q task) h' c' := by
  -- whatever happens, the terminal takes it and goes on or has ended
  have ends := fun m (keeps : h.Keeps m) =>
    piece_bridged (c := bridging id s q task) keeps rfl
  cases e with
  | terminal e =>
    cases e with
    | attached =>
      obtain ⟨t, -, ht⟩ := Option.bind_eq_some_iff.mp hs
      have attached : h.Keeps (h.attach s).2 := h.frame_attach s fun _ _ => rfl
      exact .of_eq (Option.some.inj ht) (ends _ attached (some (h.attach s).1) t)
    | input chunk fault =>
      obtain ⟨t, -, ht⟩ := Option.bind_eq_some_iff.mp hs
      exact .of_eq (Option.some.inj ht) (ends _ (h.frame_touch s fun _ => rfl) q t)
    -- these two come through the queue only
    | command _ _ | queueEnd => cases hs
    | _ =>
      obtain ⟨t, -, ht⟩ := Option.bind_eq_some_iff.mp hs
      exact .of_eq (Option.some.inj ht) (ends h (Hub.Frame.refl _ h) q t)
  | control fault =>
    obtain ⟨queue, rfl, hq⟩ := Option.bind_eq_some_iff.mp hs
    have received : h.Keeps (h.receive queue).2 := h.frame_receive queue
    cases hr : h.receive queue with
    | mk r m =>
      rw [hr] at hq received
      cases r with
      | nothingYet => cases hq
      | ended =>
        obtain ⟨t, -, ht⟩ := Option.bind_eq_some_iff.mp hq
        exact .of_eq (Option.some.inj ht) (ends m received queue t)
      | command command =>
        cases command with
        | close =>
          obtain ⟨t, -, ht⟩ := Option.bind_eq_some_iff.mp hq
          exact .of_eq (Option.some.inj ht) (ends m received queue t)
        | resize ticket w =>
          obtain ⟨t, -, ht⟩ := Option.bind_eq_some_iff.mp hq
          have replied : ∀ r, h.Keeps (m.reply ticket r) := fun r =>
            received.trans (m.frame_reply ticket r)
          exact .of_eq (Option.some.inj ht) (ends _ (replied _) queue t)
  | _ => cases hs

/-- **Every step is one of the list.** -/
theorem piece {e : Event} (hs : c.step g e h = some (h', c')) : Piece h c h' c' := by
  have same : h.Keeps h := Hub.Frame.refl _ h
  cases c with
  | asked r => exact .of_eq (onGo_eq hs) (piece_start g h r)
  | connecting client target login term =>
    exact .of_eq (onGo_eq hs) (piece_connect g h client target login term)
  | registering s => exact .of_eq (onGo_eq hs) (.registered s _)
  | touching s a => exact .of_eq (onGo_eq hs) (.plain (h.frame_touch s fun _ => rfl) rfl rfl)
  | viewing s => exact .of_eq (onGo_eq hs) (.plain same rfl rfl)
  | beginning s u => exact .of_eq (onGo_eq hs) (piece_begin h s u)
  | underway s u =>
    obtain ⟨rfl, a, rfl⟩ := step_underway hs
    exact .plain same rfl rfl
  | removing id next absent => exact .of_eq (onGo_eq hs) (.removed id next absent)
  | closing s stage next => exact piece_stepClosing hs
  | sweeping maxIdle stale evicted =>
    exact .of_eq (onGo_eq hs) (piece_stepSweep h maxIdle evicted stale)
  | sharing s w evict =>
    have shared : h.Keeps (h.shareControl s).2 := h.frame_shareControl s
    refine .of_eq (onGo_eq hs) ?_
    cases hq : h.shareControl s with
    | mk q? m =>
      rw [hq] at shared
      cases q? with
      | some q => exact .plain shared rfl rfl
      | none => exact .plain shared rfl rfl
  | sending s q w evict => exact piece_send (Option.ite_none_right_eq_some.mp hs).2
  | awaiting s q ticket evict => exact piece_await (Option.ite_none_right_eq_some.mp hs).2
  | applied s q =>
    have touched : h.Keeps (h.touch s) := h.frame_touch s fun _ => rfl
    exact .of_eq (onGo_eq hs) (.plain (touched.trans (Hub.frame_dropSender _ q)) rfl rfl)
  | takingShell id s w =>
    refine .of_eq (onGo_eq hs) ?_
    show Piece h _ (h.takeShell s).2
      (if (h.takeShell s).1 then attending id s w else answered (.failed shellTaken))
    cases ht : (h.takeShell s).1 with
    | true => exact .boarded id s w ht
    | false => exact .refused id s w ht
  | attending id s w =>
    exact .of_eq (onGo_eq hs) (.aboard id s (h.frame_touch s fun _ => rfl) rfl rfl)
  | bridging id s q task => exact piece_stepTerminal hs
  | answered a => cases hs

end Call

end Session

end ShellGateway
