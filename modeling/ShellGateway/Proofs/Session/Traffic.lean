import ShellGateway.Proofs.Session.Piece
import ShellGateway.Proofs.Terminal.Windows

/-!
# What passes through the control queues

Calls send windows to terminals through control queues, and are answered by tickets.
What matters of the queues and the tickets is kept on a `Desk`: what waits in each queue
and whether its reader is there, the answers, and the next numbers. Who holds a share in
sending is not on it.

`Traffic` lists all that one step of one call can do to the desk: nothing, or one of
setting up a queue, sending a window, telling a terminal to stop, taking a command off a
queue, passing a window on and answering for it, and abandoning a queue. Along with it
goes what the call itself has sent (`Call.sends`) or passed on (`Call.passes`), and which
queue it reads before and after (`Call.reads?`): whoever sets up a queue reads it, and only
its reader takes something off it or abandons it. `Call.traffic` says that the list is
complete.
-/

namespace ShellGateway

namespace Session

/-- What waits in a queue, and whether the reader is there. -/
structure Lane where
  queued : List Command := []
  reading : Bool := true

/-- A queue without the number of its senders. -/
def ControlQueue.lane (q : ControlQueue) : Lane :=
  ⟨q.queued, q.reading⟩

/-- The queues and the answers that are handed back through them. -/
structure Desk where
  lanes : QueueId → Option Lane
  replies : Ticket → Option Reply
  nextQueue : QueueId
  nextTicket : Ticket

namespace Desk

/-- Replaces what is known of a queue. -/
def put (d : Desk) (q : QueueId) (l : Lane) : Desk :=
  { d with lanes := fun q' => if q' = q then some l else d.lanes q' }

/-- Replaces the answer to a ticket. -/
def answer (d : Desk) (t : Ticket) (r : Reply) : Desk :=
  { d with replies := fun t' => if t' = t then some r else d.replies t' }

/-- Sets up a queue. -/
def install (d : Desk) : Desk :=
  { d.put d.nextQueue {} with nextQueue := d.nextQueue + 1 }

/-- Sends a window and waits for the answer. -/
def submit (d : Desk) (q : QueueId) (l : Lane) (w : Window) : Desk :=
  { (d.answer d.nextTicket .awaited).put q
      { l with queued := l.queued ++ [.resize d.nextTicket w] } with
    nextTicket := d.nextTicket + 1 }

/-- Drops what waits in a queue, and whoever waits for an answer to it learns that there
will be none. -/
def abandon (d : Desk) (q : QueueId) (l : Lane) : Desk :=
  (l.queued.filterMap Command.ticket?).foldl (fun d t => d.answer t .dropped)
    (d.put q ⟨[], false⟩)

theorem lanes_put (d : Desk) (q q' : QueueId) (l : Lane) :
    (d.put q l).lanes q' = if q' = q then some l else d.lanes q' :=
  rfl

theorem replies_answer (d : Desk) (t t' : Ticket) (r : Reply) :
    (d.answer t r).replies t' = if t' = t then some r else d.replies t' :=
  rfl

/-- What an abandoned queue leaves. -/
theorem abandon_eq (d : Desk) (q : QueueId) (l : Lane) :
    d.abandon q l = { d.put q ⟨[], false⟩ with
      replies := fun t =>
        if t ∈ l.queued.filterMap Command.ticket? then some .dropped else d.replies t } := by
  have dropped : ∀ (tickets : List Ticket) (d : Desk),
      tickets.foldl (fun d t => d.answer t .dropped) d =
        { d with replies := fun t => if t ∈ tickets then some .dropped else d.replies t } := by
    intro tickets
    induction tickets with
    | nil => exact fun _ => rfl
    | cons first rest ih =>
      intro d
      rw [List.foldl_cons, ih]
      show Desk.mk _ _ _ _ = Desk.mk _ _ _ _
      congr 1
      funext t
      rw [replies_answer]
      simp only [List.mem_cons]
      grind
  exact dropped _ _

/-- The reader of a queue is there. -/
def Attended (d : Desk) (q : QueueId) : Prop :=
  ∃ l, d.lanes q = some l ∧ l.reading = true

/-- What becomes of the commands in a queue does not bring its reader. -/
theorem Attended.of_put {d d' : Desk} {q q' : QueueId} {l l' : Lane} (attended : d'.Attended q')
    (lanes : ∀ q', d'.lanes q' = if q' = q then some l' else d.lanes q')
    (found : d.lanes q = some l) (same : l'.reading = l.reading) : d.Attended q' := by
  obtain ⟨l₁, there, reading⟩ := attended
  rw [lanes] at there
  by_cases here : q' = q
  · rw [if_pos here] at there
    cases there
    rw [here]
    exact ⟨l, found, same.symm.trans reading⟩
  · rw [if_neg here] at there
    exact ⟨l₁, there, reading⟩

end Desk

end Session

open Session

namespace Hub

/-- The queues of a hub. -/
def desk (h : Hub) : Desk where
  lanes q := (h.queues.get? q).map ControlQueue.lane
  replies := h.replies.get?
  nextQueue := h.nextQueue
  nextTicket := h.nextTicket

variable {h : Hub} {q : QueueId}

/-! ## The desk after the hub's steps -/

@[simp]
theorem desk_modify (h : Hub) (s : Serial) (f : Session → Session) :
    (h.modify s f).desk = h.desk := by
  unfold modify
  split <;> rfl

theorem desk_touch (h : Hub) (s : Serial) : (h.touch s).desk = h.desk :=
  desk_modify h s _

theorem desk_put (h : Hub) (s : Serial) : (h.put s).2.desk = h.desk := by
  unfold put
  split <;> rfl

theorem desk_remove (h : Hub) (id : String) : (h.remove id).2.desk = h.desk := by
  unfold remove
  split <;> rfl

theorem desk_removeStale (h : Hub) (maxIdle : Nat) (id : String) :
    (h.removeStale maxIdle id).2.desk = h.desk := by
  unfold removeStale
  split
  · exact desk_remove h id
  · rfl

/-- Changing a queue changes what is on the desk of that queue. -/
theorem desk_modifyQueue {queue : ControlQueue} (found : h.queues.get? q = some queue)
    (f : ControlQueue → ControlQueue) :
    (h.modifyQueue q f).desk = h.desk.put q (f queue).lane := by
  unfold modifyQueue
  rw [found]
  show Desk.mk _ _ _ _ = Desk.mk _ _ _ _
  congr 1
  funext q'
  show ((h.queues.insert q (f queue)).get? q').map _ = _
  rw [Dictionary.get?_insert]
  split <;> rfl

/-- A change that is not seen on the desk is none. -/
theorem desk_modifyQueue_of_lane {f : ControlQueue → ControlQueue}
    (same : ∀ queue, (f queue).lane = queue.lane) : (h.modifyQueue q f).desk = h.desk := by
  cases found : h.queues.get? q with
  | none =>
    unfold modifyQueue
    rw [found]
  | some queue =>
    rw [desk_modifyQueue found, same]
    show Desk.mk _ _ _ _ = Desk.mk _ _ _ _
    congr 1
    funext q'
    by_cases hq : q' = q
    · rw [if_pos hq, hq, found]
      rfl
    · rw [if_neg hq]
      rfl

theorem desk_dropSender (h : Hub) (q : QueueId) : (h.dropSender q).desk = h.desk :=
  desk_modifyQueue_of_lane fun _ => rfl

theorem desk_shareControl (h : Hub) (s : Serial) : (h.shareControl s).2.desk = h.desk := by
  unfold shareControl
  split
  · exact desk_modifyQueue_of_lane fun _ => rfl
  · rfl

theorem desk_detach (h : Hub) (s : Serial) : (h.detach s).desk = h.desk := by
  have taken : (h.takeControl s).2.desk = h.desk := desk_modify h s _
  unfold detach
  cases hq : h.takeControl s with
  | mk q? h' =>
    rw [hq] at taken
    cases q? with
    | none => exact taken
    | some q => exact (desk_dropSender h' q).trans taken

theorem desk_attach (h : Hub) (s : Serial) : (h.attach s).2.desk = h.desk.install := by
  rw [← desk_detach h s]
  generalize hd : h.detach s = d
  have same := desk_modify d s fun session => { session with control := some d.nextQueue }
  unfold attach
  rw [hd]
  show Desk.mk _ _ _ _ = Desk.mk _ _ _ _
  congr 1
  · funext q'
    show ((d.queues.insert d.nextQueue {}).get? q').map _ =
      if q' = d.nextQueue then some ({} : Lane) else (d.queues.get? q').map _
    rw [Dictionary.get?_insert]
    split <;> rfl
  · exact congrArg Desk.replies same
  · exact congrArg Desk.nextTicket same

theorem desk_reply (h : Hub) (t : Ticket) (r : Reply) :
    (h.reply t r).desk = h.desk.answer t r := by
  show Desk.mk _ _ _ _ = Desk.mk _ _ _ _
  congr 1
  funext t'
  show (h.replies.insert t r).get? t' = _
  exact Dictionary.get?_insert h.replies t t' r

theorem desk_newTicket (h : Hub) : h.newTicket.2.desk =
    { h.desk.answer h.nextTicket .awaited with nextTicket := h.nextTicket + 1 } := by
  have answered := congrArg Desk.replies (desk_reply h h.nextTicket .awaited)
  show Desk.mk _ _ _ _ = Desk.mk _ _ _ _
  congr 1

/-- A command that a queue accepts is added at its end. -/
theorem desk_trySend {queue : ControlQueue} (found : h.queues.get? q = some queue)
    (accepts : queue.accepts = true) (c : Command) :
    (h.trySend q c).desk = h.desk.put q { queue.lane with queued := queue.queued ++ [c] } := by
  unfold trySend
  rw [desk_modifyQueue found, if_pos accepts]
  rfl

/-- One that it does not accept is lost. -/
theorem desk_trySend_of_full {c : Command}
    (refuses : ∀ queue, h.queues.get? q = some queue → queue.accepts = false) :
    (h.trySend q c).desk = h.desk := by
  unfold trySend modifyQueue
  cases found : h.queues.get? q with
  | none => rfl
  | some queue =>
    have same := desk_modifyQueue_of_lane (h := h) (q := q) (f := fun queue => queue) fun _ => rfl
    unfold modifyQueue at same
    rw [found] at same
    dsimp only at same ⊢
    rw [refuses queue found]
    exact same

theorem desk_abandon {queue : ControlQueue} (found : h.queues.get? q = some queue) :
    (h.abandon q).desk = h.desk.abandon q queue.lane := by
  have dropped : ∀ (tickets : List Ticket) (h : Hub),
      (tickets.foldl (fun h t => h.reply t .dropped) h).desk =
        tickets.foldl (fun d t => d.answer t .dropped) h.desk := by
    intro tickets
    induction tickets with
    | nil => exact fun _ => rfl
    | cons t rest ih =>
      intro h
      rw [List.foldl_cons, List.foldl_cons, ih, desk_reply]
  unfold abandon
  rw [found]
  dsimp only
  rw [dropped, desk_modifyQueue found]
  rfl

end Hub

namespace Session

/-! ## What a step sends and passes on -/

/-- A window on its way to a terminal. -/
structure Errand where
  queue : QueueId
  ticket : Ticket
  window : Window
  deriving DecidableEq

/-- The windows that a call has sent, by where it stood and where it stands. -/
def Call.sends : Call → Call → List Errand
  | sending _ queue window _, awaiting _ _ ticket _ => [⟨queue, ticket, window⟩]
  | _, _ => []

/-- The windows that a terminal has passed on, with how that went, by its account before
and after. -/
def Call.passes : Call → Call → List (QueueId × Terminal.Forwarded)
  | bridging _ _ (some queue) task, bridging _ _ _ task' =>
    (task'.forwarded.drop task.forwarded.length).map (queue, ·)
  | _, _ => []

/-- The queue that a call reads: a terminal its own, and whoever set one up without a
terminal that one. -/
def Call.reads? : Call → Option QueueId
  | bridging _ _ q _ => q
  | answered (.queue q) => some q
  | _ => none

/-- A terminal that has yet to start has no queue. -/
def Call.IsOrderly : Call → Prop
  | bridging _ _ (some _) task => task.isStarting = false
  | _ => True

/-- All that one step of a call can do to the desk, with what the call sends and what it
passes on, between the queue that it reads before and the one that it reads after. -/
inductive Traffic (d : Desk) : Option QueueId → List Errand →
    List (QueueId × Terminal.Forwarded) → Option QueueId → Desk → Prop where
  /-- Nothing. -/
  | quiet {r r' : Option QueueId} (reader : r = none ∨ r' = r) : Traffic d r [] [] r' d
  /-- A queue is set up. -/
  | installed : Traffic d none [] [] (some d.nextQueue) d.install
  /-- A window is sent. -/
  | submitted (q : QueueId) {l : Lane} (w : Window) (found : d.lanes q = some l)
      (reading : l.reading = true) (room : l.queued.length < ControlQueue.capacity) :
      Traffic d none [⟨q, d.nextTicket, w⟩] [] none (d.submit q l w)
  /-- A terminal is told to stop. -/
  | told (q : QueueId) {l : Lane} (found : d.lanes q = some l) (reading : l.reading = true)
      (room : l.queued.length < ControlQueue.capacity) :
      Traffic d none [] [] none (d.put q { l with queued := l.queued ++ [.close] })
  /-- A terminal takes word to stop off its queue. -/
  | stopped (q : QueueId) {l : Lane} {rest : List Command} (found : d.lanes q = some l)
      (head : l.queued = .close :: rest) :
      Traffic d (some q) [] [] (some q) (d.put q { l with queued := rest })
  /-- A terminal takes a window off its queue, passes it on and answers for it. -/
  | passed (q : QueueId) {l : Lane} {t : Ticket} {w : Window} {rest : List Command}
      (result : Except Failure Unit) (found : d.lanes q = some l)
      (head : l.queued = .resize t w :: rest)
      (how : result = .ok () ∨ ∃ detail, result = .error (.link detail)) :
      Traffic d (some q) [] [(q, ⟨t, w, result⟩)] (some q)
        ((d.put q { l with queued := rest }).answer t (.given result))
  /-- The reader of a queue goes. -/
  | abandoned (q : QueueId) {l : Lane} (found : d.lanes q = some l) :
      Traffic d (some q) [] [] none (d.abandon q l)
  /-- The reader of a queue that is not there goes. -/
  | vanished (q : QueueId) (missing : d.lanes q = none) : Traffic d (some q) [] [] none d

/-- Who reads a queue after a step has read it before, unless it was set up in that step. -/
theorem Traffic.attended {d d' : Desk} {r r' : Option QueueId} {s : List Errand}
    {p : List (QueueId × Terminal.Forwarded)} (traffic : Traffic d r s p r' d') {q : QueueId}
    (attended : d'.Attended q) : r' = some q ∨ r ≠ some q ∧ d.Attended q := by
  cases traffic with
  | quiet reader =>
    by_cases own : r = some q
    · obtain none | same := reader
      · exact absurd (own.symm.trans none) (by simp)
      · exact .inl (same.trans own)
    · exact .inr ⟨own, attended⟩
  | installed =>
    obtain ⟨l, there, reading⟩ := attended
    by_cases new : q = d.nextQueue
    · exact .inl (congrArg some new.symm)
    · exact .inr ⟨nofun, l, (if_neg new).symm.trans there, reading⟩
  | submitted q' w found | told q' found =>
    exact .inr ⟨nofun, attended.of_put (fun _ => rfl) found rfl⟩
  | stopped q' found | passed q' result found =>
    exact (Classical.em _).imp_right fun other => ⟨other, attended.of_put (fun _ => rfl) found rfl⟩
  | abandoned q' found =>
    obtain ⟨l, there, reading⟩ := attended
    rw [Desk.abandon_eq] at there
    have lane : (if q = q' then some ⟨[], false⟩ else d.lanes q) = some l := there
    by_cases here : q = q'
    · rw [if_pos here] at lane
      cases lane
      cases reading
    · rw [if_neg here] at lane
      exact .inr ⟨fun own => here (Option.some.inj own).symm, l, lane, reading⟩
  | vanished q' missing =>
    refine .inr ⟨?_, attended⟩
    rintro ⟨⟩
    obtain ⟨l, there, -⟩ := attended
    cases missing.symm.trans there

end Session

namespace Hub

theorem lanes_desk {h : Hub} {q : QueueId} {queue : ControlQueue}
    (found : h.queues.get? q = some queue) : h.desk.lanes q = some queue.lane :=
  congrArg (Option.map ControlQueue.lane) found

/-- A command that is sent without waiting for room is sent or lost. -/
theorem traffic_tell (h : Hub) (q : QueueId) :
    Traffic h.desk none [] [] none (h.trySend q .close).desk := by
  by_cases taken : ∃ queue, h.queues.get? q = some queue ∧ queue.accepts = true
  · obtain ⟨queue, found, accepts⟩ := taken
    rw [desk_trySend found accepts]
    obtain ⟨reading, room⟩ := Bool.and_eq_true_iff.mp accepts
    exact .told q (lanes_desk found) reading (of_decide_eq_true room)
  · rw [desk_trySend_of_full fun queue found => ?_]
    · exact .quiet (.inl rfl)
    · exact Bool.eq_false_iff.mpr fun accepts => taken ⟨queue, found, accepts⟩

theorem traffic_abandon (h : Hub) (q : QueueId) :
    Traffic h.desk (some q) [] [] none (h.abandon q).desk := by
  cases found : h.queues.get? q with
  | none =>
    unfold abandon
    rw [found]
    exact .vanished q (congrArg (Option.map _) found)
  | some queue =>
    rw [desk_abandon found]
    exact .abandoned q (lanes_desk found)

end Hub

namespace Session.Call

variable {g : Gateway} {h h' : Hub} {c c' : Call}

/-- What a step of a call does to the desk. -/
abbrev Trades (h : Hub) (c : Call) (h' : Hub) (c' : Call) : Prop :=
  Traffic h.desk c.reads? (c.sends c') (c.passes c') c'.reads? h'.desk

/-- A step that is not seen on the desk. -/
theorem traffic_quiet {p : Hub × Call} (hp : p = (h', c')) (same : p.1.desk = h.desk)
    (sends : c.sends p.2 = []) (passes : c.passes p.2 = [])
    (reader : c.reads? = none ∨ p.2.reads? = c.reads?) : Trades h c h' c' := by
  subst hp
  dsimp only at same sends passes reader
  unfold Trades
  rw [same, sends, passes]
  exact .quiet reader

theorem traffic_start (g : Gateway) (h : Hub) (r : Request) :
    (start g h r).1.desk = h.desk ∨ (start g h r).1.desk = h.desk.install ∧
      (start g h r).2.reads? = some h.desk.nextQueue := by
  cases r with
  | put s => exact .inl (Hub.desk_put h s)
  | takeShell s => exact .inl (Hub.desk_modify h s _)
  | attachControl s =>
    refine .inr ⟨Hub.desk_attach h s, ?_⟩
    exact congrArg (some ·.nextQueue) (Hub.desk_detach h s)
  | touch id | create =>
    refine .inl ?_
    unfold start
    dsimp only
    split <;> rfl
  | keepAlive id | view id | exec id command | transfer id =>
    refine .inl ?_
    unfold start lookUp
    dsimp only
    split <;> rfl
  | resize id w | terminal id w =>
    refine .inl ?_
    unfold start lookUpFor lookUp
    dsimp only
    split
    · split <;> rfl
    · rfl
  | _ => exact .inl rfl

/-- A window that could not be passed on: the desk shows nothing of it. -/
theorem desk_resizeFailed (h : Hub) (q : QueueId) (evict : Option String) (why : Failure) :
    (resizeFailed h q evict why).1.desk = h.desk := by
  unfold resizeFailed
  cases evict with
  | none => exact Hub.desk_dropSender h q
  | some id => exact Hub.desk_dropSender h q

theorem sends_resizeFailed (s : Serial) (q q' : QueueId) (w : Window) (evict evict' : Option String)
    (why : Failure) : (sending s q w evict).sends (resizeFailed h q' evict' why).2 = [] := by
  unfold resizeFailed
  cases evict' with
  | none => rfl
  | some id => cases why.isTransport <;> rfl

theorem traffic_send {s : Serial} {q : QueueId} {w : Window} {evict : Option String}
    (hs : send h s q w evict = some (h', c')) : Trades h (sending s q w evict) h' c' := by
  have failed : some (resizeFailed h q evict terminalGone) = some (h', c') →
      Trades h (sending s q w evict) h' c' :=
    fun hs => traffic_quiet (Option.some.inj hs) (desk_resizeFailed h q evict _)
      (sends_resizeFailed s q q w evict evict _) rfl (.inl rfl)
  unfold send at hs
  split at hs
  · exact failed hs
  · rename_i queue found
    split at hs
    · exact failed hs
    · rename_i there
      split at hs
      · rename_i room
        obtain ⟨rfl, rfl⟩ := Prod.mk.inj (Option.some.inj hs)
        have reading : queue.reading = true := by
          cases there' : queue.reading with
          | true => rfl
          | false => exact absurd (by rw [there']; rfl) there
        have accepts : queue.accepts = true := by
          rw [ControlQueue.accepts, reading, room]
          rfl
        have sent := Hub.desk_trySend (h := h.newTicket.2) found accepts (.resize h.nextTicket w)
        rw [Hub.desk_newTicket] at sent
        have lane : h.desk.lanes q = some queue.lane := congrArg (Option.map _) found
        show Traffic h.desk _ _ _ _ ((h.newTicket.2).trySend q (.resize h.nextTicket w)).desk
        rw [sent]
        exact .submitted q w lane reading (of_decide_eq_true room)
      · cases hs

theorem traffic_stepClosing {s : Serial} {next : Next} {e : Event} {stage : Closing}
    (hs : stepClosing h s next e stage = some (h', c')) :
    Trades h (closing s stage next) h' c' := by
  have quiet : ∀ {p : Hub × Call}, p.1.desk = h.desk → some p = some (h', c') →
      Trades h (closing s stage next) h' c' :=
    fun same hp => traffic_quiet (Option.some.inj hp) same rfl rfl (.inl rfl)
  cases stage with
  | marking | takingControl | takingShell =>
    obtain ⟨-, hs⟩ := Option.ite_none_right_eq_some.mp hs
    exact quiet (Hub.desk_modify h s _) hs
  | signalling q =>
    obtain ⟨-, hs⟩ := Option.ite_none_right_eq_some.mp hs
    cases hs
    show Traffic h.desk none [] [] none ((h.trySend q .close).dropSender q).desk
    rw [Hub.desk_dropSender]
    exact h.traffic_tell q
  | releasingTransfer =>
    simp only [stepClosing] at hs
    split at hs
    · cases e with
      | released failed => exact quiet (Hub.desk_modify h s _) hs
      | _ => cases hs
    · obtain ⟨-, hs⟩ := Option.ite_none_right_eq_some.mp hs
      exact quiet rfl hs
  | releasingShell | releasingTransport =>
    cases e with
    | released failed => exact quiet (Hub.desk_modify h s _) hs
    | _ => cases hs

/-- What a terminal has passed on, by its account. -/
theorem passes_bridging (id : String) (s : Serial) (q : QueueId) (q' : Option QueueId)
    {task task' : TerminalTask} {windows : List Terminal.Forwarded}
    (account : task'.forwarded = task.forwarded ++ windows) :
    (bridging id s (some q) task).passes (bridging id s q' task') = windows.map (q, ·) := by
  rw [passes, account, List.drop_left]

/-- A terminal that has passed nothing on goes on, or has ended and abandons its queue. -/
theorem traffic_bridged {m : Hub} (same : m.desk = h.desk) {id : String} {s : Serial}
    {q : Option QueueId} {task task' : TerminalTask}
    (account : task'.forwarded = task.forwarded ++ [])
    (hs : bridged m id s q task' = (h', c')) : Trades h (bridging id s q task) h' c' := by
  unfold bridged at hs
  cases ended : task'.end? with
  | none =>
    rw [ended] at hs
    cases q with
    | none => exact traffic_quiet hs same rfl rfl (.inl rfl)
    | some q => exact traffic_quiet hs same rfl (passes_bridging id s q q account) (.inr rfl)
  | some how =>
    rw [ended] at hs
    cases q with
    | none => exact traffic_quiet hs same rfl rfl (.inl rfl)
    | some q =>
      have gone := m.traffic_abandon q
      rw [same] at gone
      cases hs
      exact gone

/-- One that goes on. -/
theorem bridged_of_end? {m : Hub} {id : String} {s : Serial} {q : Option QueueId}
    {task : TerminalTask} (goesOn : task.end? = none) :
    bridged m id s q task = (m, bridging id s q task) := by
  unfold bridged
  rw [goesOn]

/-- A reader finds the command that has waited longest, or finds that there is none. -/
theorem receive_cases (h : Hub) (q : QueueId) :
    (∃ queue command rest m, h.queues.get? q = some queue ∧ queue.queued = command :: rest ∧
      h.receive q = (.command command, m) ∧
      m.desk = h.desk.put q { queue.lane with queued := rest }) ∨
    h.receive q = (.ended, h) ∨ h.receive q = (.nothingYet, h) := by
  unfold Hub.receive
  cases found : h.queues.get? q with
  | none => exact .inr (.inl rfl)
  | some queue =>
    dsimp only
    cases queued : queue.queued with
    | nil =>
      refine .inr ?_
      dsimp only
      split
      · exact .inl rfl
      · exact .inr rfl
    | cons command rest =>
      have taken := Hub.desk_modifyQueue found fun queue => { queue with queued := rest }
      exact .inl ⟨queue, command, rest, _, rfl, queued, rfl, taken⟩

/-- A terminal looks at its queue. -/
theorem traffic_control {id : String} {s : Serial} {q? : Option QueueId} {task : TerminalTask}
    {fault : Option String}
    (hs : stepTerminal h id s q? task (.control fault) = some (h', c')) :
    Trades h (bridging id s q? task) h' c' := by
  obtain ⟨q, rfl, hs⟩ := Option.bind_eq_some_iff.mp hs
  obtain ⟨queue, command, rest, m, found, head, received, taken⟩ | received | received :=
    receive_cases h q
  · rw [received] at hs
    cases command with
    | close =>
      obtain ⟨task', ht, hs⟩ := Option.bind_eq_some_iff.mp hs
      have goesOn := (TerminalTask.step_fromQueue (.inl ⟨_, _, rfl⟩) ht).2
      have account := passes_bridging id s q (some q) (TerminalTask.forwarded_step ht)
      obtain ⟨rfl, rfl⟩ := Prod.mk.inj ((bridged_of_end? goesOn).symm.trans (Option.some.inj hs))
      show Traffic h.desk (some q) [] _ (some q) m.desk
      rw [account, taken]
      exact .stopped q (Hub.lanes_desk found) head
    | resize ticket w =>
      obtain ⟨task', ht, hs⟩ := Option.bind_eq_some_iff.mp hs
      have goesOn := (TerminalTask.step_fromQueue (.inl ⟨_, _, rfl⟩) ht).2
      have account := TerminalTask.forwarded_step ht
      have passes := passes_bridging id s q (some q) account
      obtain ⟨rfl, rfl⟩ := Prod.mk.inj ((bridged_of_end? goesOn).symm.trans (Option.some.inj hs))
      show Traffic h.desk (some q) [] _ (some q) (m.reply ticket _).desk
      obtain ⟨result, one, how⟩ := Terminal.Event.windows_resize ticket w fault
      rw [passes, Hub.desk_reply, taken, account, one, List.getLast?_concat]
      exact .passed q result (Hub.lanes_desk found) head how
  · rw [received] at hs
    obtain ⟨task', ht, hs⟩ := Option.bind_eq_some_iff.mp hs
    exact traffic_bridged rfl (TerminalTask.forwarded_step ht) (Option.some.inj hs)
  · rw [received] at hs
    cases hs

theorem traffic_stepTerminal {id : String} {s : Serial} {q : Option QueueId} {task : TerminalTask}
    {e : Event} (orderly : (bridging id s q task).IsOrderly)
    (hs : stepTerminal h id s q task e = some (h', c')) :
    Trades h (bridging id s q task) h' c' := by
  cases e with
  | terminal e =>
    cases e with
    | attached =>
      obtain ⟨task', ht, hs⟩ := Option.bind_eq_some_iff.mp hs
      obtain ⟨starting, relaying⟩ := TerminalTask.step_attached ht
      have goesOn : task'.end? = none := by
        unfold TerminalTask.end?
        rw [relaying]
      obtain ⟨rfl, rfl⟩ := Prod.mk.inj ((bridged_of_end? goesOn).symm.trans (Option.some.inj hs))
      cases q with
      | none =>
        have number : (h.attach s).1 = h.desk.nextQueue :=
          congrArg Desk.nextQueue (Hub.desk_detach h s)
        show Traffic h.desk none [] [] (some (h.attach s).1) (h.attach s).2.desk
        rw [number, Hub.desk_attach]
        exact .installed
      | some q => exact absurd (starting.symm.trans orderly) Bool.noConfusion
    | input chunk fault =>
      obtain ⟨task', ht, hs⟩ := Option.bind_eq_some_iff.mp hs
      exact traffic_bridged (h.desk_touch s) (TerminalTask.forwarded_step ht) (Option.some.inj hs)
    -- these two come through the queue only
    | command _ _ | queueEnd => cases hs
    | _ =>
      obtain ⟨task', ht, hs⟩ := Option.bind_eq_some_iff.mp hs
      exact traffic_bridged rfl (TerminalTask.forwarded_step ht) (Option.some.inj hs)
  | control fault =>
    cases q with
    | none => cases hs
    | some q => exact traffic_control hs
  | _ => cases hs

/-- **Every step does one of the listed things to the desk.** -/
theorem traffic {e : Event} (orderly : c.IsOrderly) (hs : c.step g e h = some (h', c')) :
    Trades h c h' c' := by
  cases c with
  | asked r =>
    have hp := onGo_eq hs
    have same := traffic_start g h r
    rw [hp] at same
    show Traffic h.desk none [] [] c'.reads? h'.desk
    obtain same | ⟨same, reads⟩ := same
    · rw [same]
      exact .quiet (.inl rfl)
    · rw [same, reads]
      exact .installed
  | connecting client target login term =>
    refine traffic_quiet (onGo_eq hs) ?_ rfl rfl (.inl rfl)
    unfold connect
    split <;> rfl
  | registering s =>
    refine traffic_quiet (onGo_eq hs) ?_ rfl rfl (.inl rfl)
    exact Hub.desk_put h s
  | touching s a => exact traffic_quiet (onGo_eq hs) (h.desk_touch s) rfl rfl (.inl rfl)
  | viewing s => exact traffic_quiet (onGo_eq hs) rfl rfl rfl (.inl rfl)
  | beginning s u =>
    refine traffic_quiet (onGo_eq hs) ?_ rfl rfl (.inl rfl)
    unfold begin
    dsimp only
    split
    · exact h.desk_touch s
    · exact h.desk_touch s
  | underway s u =>
    obtain ⟨rfl, a, rfl⟩ := step_underway hs
    exact .quiet (.inl rfl)
  | removing id next absent =>
    exact traffic_quiet (onGo_eq hs) (h.desk_remove id) rfl rfl (.inl rfl)
  | closing s stage next => exact traffic_stepClosing hs
  | sweeping maxIdle stale evicted =>
    refine traffic_quiet (onGo_eq hs) ?_ rfl rfl (.inl rfl)
    cases stale with
    | nil => rfl
    | cons id rest => exact h.desk_removeStale maxIdle id
  | sharing s w evict =>
    have shared := h.desk_shareControl s
    refine traffic_quiet (onGo_eq hs) ?_ rfl rfl (.inl rfl)
    cases hq : h.shareControl s with
    | mk q? m =>
      rw [hq] at shared
      cases q? <;> exact shared
  | sending s q w evict => exact traffic_send (Option.ite_none_right_eq_some.mp hs).2
  | awaiting s q ticket evict =>
    obtain ⟨-, hs⟩ := Option.ite_none_right_eq_some.mp hs
    have failed : ∀ why, some (resizeFailed h q evict why) = some (h', c') →
        Trades h (awaiting s q ticket evict) h' c' := fun why hs =>
      traffic_quiet (Option.some.inj hs) (desk_resizeFailed h q evict why) rfl rfl (.inl rfl)
    unfold await at hs
    split at hs
    · cases hs
      exact .quiet (.inl rfl)
    · exact failed _ hs
    · exact failed _ hs
    · cases hs
    · cases hs
  | applied s q =>
    refine traffic_quiet (onGo_eq hs) ?_ rfl rfl (.inl rfl)
    exact (Hub.desk_dropSender _ q).trans (h.desk_touch s)
  | takingShell id s w =>
    exact traffic_quiet (onGo_eq hs) (Hub.desk_modify h s _) rfl rfl (.inl rfl)
  | attending id s w => exact traffic_quiet (onGo_eq hs) (h.desk_touch s) rfl rfl (.inl rfl)
  | bridging id s q task => exact traffic_stepTerminal orderly hs
  | answered a => cases hs

end Session.Call

end ShellGateway
