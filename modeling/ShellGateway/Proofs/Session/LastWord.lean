import ShellGateway.Proofs.Session.Listening
import ShellGateway.Proofs.Session.OneQueue
import ShellGateway.Proofs.Session.WindowRequests

/-!
# Closing reaches the terminal

A closing takes the control queue out of its session, and then tells the terminal to stop, if
the queue has room for that; it does not wait. The terminal learns of it all the same. From
then on nobody is let in to send on the queue, since terminals install no other in its place
(`System.detached_for_good`). Those who were let in before send one window each at most and
leave, so the terminal finds what waited and what they send, and after that either word to stop
or the end of the queue (`Heard`). While it finds nothing somebody with a share in the queue can
go on (`System.Orphaned.exists_goes_on`), which does not last (`System.Orphaned.paid`).

`closing_reaches_terminal` says so of every schedule before and after the queue is taken out.
It says nothing of when the steps are taken that can be taken.
-/

namespace ShellGateway.Session

variable {g : Gateway} {h' : Hub} {e : Event} {q : QueueId} {t u v : System}
  {past more : List Move} {s : Serial} {c : CallId} {call call' : Call}

/-! ## What is found along a schedule -/

/-- What a move finds that looks at queue `q`. -/
def System.finding (q : QueueId) (t : System) : Move → List Hub.Received
  | .step c e => ((t.calls[c]?).map (Call.finds q t.hub e)).getD []
  | _ => []

theorem System.finding_step (hc : t.calls[c]? = some call) (q : QueueId) (e : Event) :
    t.finding q (.step c e) = call.finds q t.hub e := by
  show ((t.calls[c]?).map _).getD [] = _
  rw [hc]
  rfl

/-- The windows that are sent through queue `q` along a schedule. -/
def System.sentAlong (g : Gateway) (t : System) (q : QueueId) (moves : List Move) :
    List (Ticket × Window) :=
  sentThrough q ((t.trail (System.noticing Call.sends g) g moves).map Prod.snd)

theorem System.sentAlong_concat {moves : List Move} (ran : t.run g moves = some u) (q : QueueId)
    (m : Move) : t.sentAlong g q (moves ++ [m]) =
      t.sentAlong g q moves ++ sentThrough q ((u.noticing Call.sends g m).map Prod.snd) := by
  unfold sentAlong
  rw [trail_concat _ m ran, List.map_append, sentThrough_append]

/-- What a terminal finds that finds windows. -/
def findings (windows : List (Ticket × Window)) : List Hub.Received :=
  windows.map fun x => .command (.resize x.1 x.2)

/-- What holds of the windows that were found in queue `q`, and of what was found after them, by
system `v`; the windows that were due are those that waited at first and those that were sent
since. -/
structure Heard (v : System) (q : QueueId) (due windows : List (Ticket × Window))
    (last : List Hub.Received) : Prop where
  order : windows <+: due
  /-- As long as the queue is read, the rest waits in it. -/
  rest : v.hub.desk.Attended q → due = windows ++ v.hub.desk.waiting q
  /-- Word to stop or the end of the queue is the last that is found. -/
  parted : last = [] ∨ (last = [.command .close] ∨ last = [.ended]) ∧
    ∀ (d : CallId) (call : Call), v.calls[d]? = some call → call.relays? ≠ some q

namespace Heard

variable {due windows : List (Ticket × Window)} {last : List Hub.Received}

theorem start (t : System) (q : QueueId) : Heard t q (t.hub.desk.waiting q) [] [] where
  order := List.nil_prefix
  rest _ := rfl
  parted := .inl rfl

/-- What changes neither the desk nor the terminals. -/
theorem still (heard : Heard t q due windows last) (same : u.hub.desk = t.hub.desk)
    (calls : ∀ {d : CallId} {call : Call}, u.calls[d]? = some call → call.relays? = some q →
      t.calls[d]? = some call) : Heard u q due windows last where
  order := heard.order
  rest := by
    rw [same]
    exact heard.rest
  parted := by
    refine heard.parted.imp_right fun ⟨parting, nobody⟩ => ⟨parting, fun d call hd relays => ?_⟩
    exact nobody d call (calls hd relays) relays

/-- Nothing was found after the windows, as long as a terminal relays. -/
theorem last_eq_nil (heard : Heard t q due windows last) (hc : t.calls[c]? = some call)
    (relays : call.relays? = some q) : last = [] :=
  heard.parted.resolve_right fun ⟨_, nobody⟩ => nobody c call hc relays

/-- **What a step finds is in order.** -/
theorem step (heard : Heard t q due windows last) (driven : t.Driven)
    (old : q < t.hub.desk.nextQueue) (hc : t.calls[c]? = some call) (orderly : call.IsOrderly)
    (hs : call.step g e t.hub = some (h', call')) :
    ∃ windows' last',
      findings windows ++ last ++ call.finds q t.hub e = findings windows' ++ last' ∧
      Heard (t.stepped c h' call') q (due ++ sentThrough q (call.sends call')) windows' last' := by
  have traffic := Call.traffic orderly hs
  have others : ∀ {d : CallId} {call₁ : Call}, (t.stepped c h' call').calls[d]? = some call₁ →
      d = c ∧ call₁ = call' ∨ d ≠ c ∧ t.calls[d]? = some call₁ := by
    intro d call₁ hd
    by_cases own : d = c
    · subst own
      exact .inl ⟨rfl, (Option.some.inj ((System.calls_stepped hc h' call').symm.trans hd)).symm⟩
    · exact .inr ⟨own, (System.calls_stepped_other t own h' call').symm.trans hd⟩
  -- what was due and is not passed on waits in the queue
  have rest : h'.desk.Attended q → due ++ sentThrough q (call.sends call') =
      windows ++ passedFrom q (call.passes call') ++ h'.desk.waiting q := by
    intro attended
    rw [heard.rest (traffic.attended_before old attended), List.append_assoc,
      traffic.flow old attended, List.append_assoc]
  have hearing := Call.hearing q hs
  generalize call.finds q t.hub e = finds at hearing ⊢
  generalize passed : passedFrom q (call.passes call') = passes at hearing rest
  have more : windows <+: due ++ sentThrough q (call.sends call') :=
    heard.order.trans (List.prefix_append _ _)
  cases hearing with
  | nothing relays =>
    rw [List.append_nil] at rest
    refine ⟨windows, last, List.append_nil _, more, rest, ?_⟩
    refine heard.parted.imp_right fun ⟨parting, nobody⟩ => ⟨parting, fun d call₁ hd after => ?_⟩
    obtain ⟨rfl, rfl⟩ | ⟨-, hd⟩ := others hd
    · obtain before | fresh := relays after
      · exact nobody d call hc before
      · exact absurd fresh (Nat.ne_of_lt old)
    · exact nobody d call₁ hd after
  | window t₁ w relays =>
    obtain rfl := heard.last_eq_nil hc relays
    have attended : h'.desk.Attended q := by
      have before := driven.attended c call q hc (Call.drives_of_relays relays)
      refine (traffic.attended_after before).resolve_right fun ⟨_, _, nothing⟩ => ?_
      rw [nothing] at passed
      cases passed
    refine ⟨windows ++ [(t₁, w)], [], ?_, ⟨_, (rest attended).symm⟩, rest, .inl rfl⟩
    unfold findings
    rw [List.map_append, List.append_nil, List.append_nil]
    rfl
  | @word found parting relays leaves =>
    obtain rfl := heard.last_eq_nil hc relays
    rw [List.append_nil] at rest
    refine ⟨windows, [found], congrArg (· ++ _) (List.append_nil _), more, rest, .inr ⟨?_, ?_⟩⟩
    · exact parting.imp (congrArg ([·])) (congrArg ([·]))
    · intro d call₁ hd after
      obtain ⟨rfl, rfl⟩ | ⟨other, hd⟩ := others hd
      · cases leaves.symm.trans after
      · exact other (driven.alone d c call₁ call q hd hc (Call.drives_of_relays after)
          (Call.drives_of_relays relays))

/-- **What is found along a schedule is in order**: windows that waited or were sent since, and
after them at most one thing upon which the terminal left. -/
theorem exists_of_run (reached : System.initial.run g past = some t) (orphaned : t.Orphaned q)
    (ran : t.run g more = some v) :
    ∃ windows last, t.trail (System.finding q) g more = findings windows ++ last ∧
      Heard v q (t.hub.desk.waiting q ++ t.sentAlong g q more) windows last := by
  induction more using List.reverseRecOn generalizing v with
  | nil =>
    obtain rfl := Option.some.inj ran
    exact ⟨[], [], rfl, (List.append_nil (t.hub.desk.waiting q)).symm ▸ .start t q⟩
  | append_singleton rest m ih =>
    obtain ⟨w, hw, -⟩ := System.run_append_eq_some ran
    rw [System.run_concat, hw] at ran
    obtain ⟨windows, last, found, heard⟩ := ih hw
    have whole : System.initial.run g (past ++ rest) = some w := by
      rw [System.run_append, reached]
      exact hw
    rw [System.trail_concat _ m hw, System.sentAlong_concat hw, found, ← List.append_assoc]
    cases m with
    | start r =>
      have moved : w.move g (.start r) = some v := ran
      obtain rfl := Option.some.inj ran
      refine ⟨windows, last, List.append_nil _, ?_⟩
      show Heard _ q (_ ++ []) windows last
      rw [List.append_nil]
      refine heard.still rfl fun {d call₁} hd relays => ?_
      obtain same | ⟨r', rfl⟩ | ⟨e, call₀, h, hm, -⟩ := System.calls_move_back moved hd
      · exact same
      · cases relays
      · cases hm
    | step c e =>
      obtain ⟨call, h', call', hc, hs, rfl⟩ := System.move_step_eq_some ran
      have balanced := Balanced.run whole
      rw [System.finding_step hc, System.noticing_step Call.sends hc hs, List.map_map]
      have step := heard.step (System.driven whole) (orphaned.run hw).numbered hc
        (balanced.orderly call (List.mem_of_getElem? hc)) hs
      rw [← List.map_id (call.sends call')] at step
      exact step
    | make | wait =>
      obtain rfl := Option.some.inj ran
      refine ⟨windows, last, List.append_nil _, ?_⟩
      show Heard _ q (_ ++ []) windows last
      rw [List.append_nil]
      exact heard.still rfl fun hd _ => hd

end Heard

/-! ## Who was in flight -/

/-- **Whatever is sent through a queue after it was taken out was about to be sent then.** -/
theorem System.Orphaned.in_flight (orphaned : t.Orphaned q) (ran : t.run g more = some v)
    {x : CallId × Errand} (sent : x ∈ t.trail (System.noticing Call.sends g) g more)
    (through : x.2.queue = q) :
    ∃ s evict, t.calls[x.1]? = some (.sending s q x.2.window evict) := by
  induction more using List.reverseRecOn generalizing v with
  | nil => cases sent
  | append_singleton rest m ih =>
    obtain ⟨w, hw, -⟩ := run_append_eq_some ran
    rw [run_concat, hw] at ran
    rw [trail_concat _ m hw] at sent
    obtain sent | sent := List.mem_append.mp sent
    · exact ih hw sent
    · cases m with
      | step c e =>
        obtain ⟨call, h', call', hc, hs, rfl⟩ := move_step_eq_some ran
        rw [noticing_step Call.sends hc hs] at sent
        obtain ⟨errand, here, rfl⟩ := List.mem_map.mp sent
        cases call with
        | sending s q' window evict =>
          cases call' with
          | awaiting s' q'' ticket evict' =>
            obtain rfl := List.mem_singleton.mp here
            obtain rfl : q' = q := through
            exact ⟨s, evict, orphaned.entered_before hw hc rfl⟩
          | _ => cases here
        | _ => cases here
      | _ => cases sent

/-- How many steps a call with a share in a queue takes at most, along with what it sends. -/
def Call.effort : Call → Nat
  | sending _ _ _ _ => 4
  | awaiting _ _ _ _ => 2
  | _ => 1

/-- The same for queue `q`. -/
def Call.dues (q : QueueId) (c : Call) : Nat :=
  if c.shares? = some q then c.effort else 0

theorem Call.one_le_effort (c : Call) : 1 ≤ c.effort := by
  cases c with
  | sending | awaiting => exact Nat.le_of_ble_eq_true rfl
  | _ => exact Nat.le_refl 1

theorem Call.dues_le (q : QueueId) (c : Call) : c.dues q ≤ 4 * c.share q := by
  unfold dues share
  split
  · cases c with
    | sending | awaiting => exact Nat.le_of_ble_eq_true rfl
    | _ => exact Nat.le_of_ble_eq_true rfl
  · exact Nat.zero_le _

/-- A call with a share in queue `q` takes a step. -/
def System.striving (q : QueueId) (t : System) : Move → List CallId
  | .step c _ => if (t.calls[c]?).bind Call.shares? = some q then [c] else []
  | _ => []

/-- Each step of a call with a share, and each window that it sends, is paid for. -/
theorem Call.dues_step (orphaned : t.Orphaned q) (hc : t.calls[c]? = some call)
    (hs : call.step g e t.hub = some (h', call')) :
    (sentThrough q (call.sends call')).length + (t.striving q (.step c e)).length + call'.dues q ≤
      call.dues q := by
  have strives : t.striving q (.step c e) = if call.shares? = some q then [c] else [] := by
    show (if (t.calls[c]?).bind Call.shares? = some q then [c] else []) = _
    rw [hc]
    rfl
  rw [strives]
  by_cases shares : call.shares? = some q
  · rw [if_pos shares]
    have owed : call.dues q = call.effort := if_pos shares
    rw [owed]
    cases proceeds hs shares with
    | sent s w ticket evict =>
      have one : sentThrough q ((sending s q w evict).sends (awaiting s q ticket evict)) =
          [(ticket, w)] := by
        show sentThrough q [⟨q, ticket, w⟩] = _
        rw [sentThrough_singleton, if_pos rfl]
      have left : (awaiting s q ticket evict).dues q = 2 := if_pos rfl
      rw [one, left]
      exact Nat.le_refl 4
    | passed s ticket evict =>
      have left : (applied s q).dues q = 1 := if_pos rfl
      rw [left]
      exact Nat.le_refl 2
    | leaves before after =>
      have nothing : call.sends call' = [] := by
        cases call with
        | sending s q' w evict =>
          cases call' with
          | awaiting => cases after
          | _ => rfl
        | _ => rfl
      have left : call'.dues q = 0 := if_neg (by simp [after])
      rw [nothing, left]
      exact call.one_le_effort
  · have after : call'.shares? ≠ some q := fun after =>
      shares (Roster.Orphaned.shares orphaned (Call.lending hs) after)
    have nothing : sentThrough q (call.sends call') = [] := by
      cases call with
      | sending s q' w evict =>
        cases call' with
        | awaiting s' q'' ticket evict' =>
          show sentThrough q [⟨q', ticket, w⟩] = _
          rw [sentThrough_singleton, if_neg fun same => shares (congrArg some same.symm)]
        | _ => rfl
      | _ => rfl
    unfold dues
    rw [if_neg shares, if_neg shares, if_neg after, nothing]
    exact Nat.le_refl 0

/-- **Those with a share take so many steps and send so many windows at most.** -/
theorem System.Orphaned.paid (orphaned : t.Orphaned q) (ran : t.run g more = some v) :
    (t.sentAlong g q more).length + (t.trail (System.striving q) g more).length +
      v.total (Call.dues q) ≤ t.total (Call.dues q) := by
  induction more using List.reverseRecOn generalizing v with
  | nil =>
    obtain rfl := Option.some.inj ran
    exact Nat.le_of_eq (Nat.zero_add _)
  | append_singleton rest m ih =>
    obtain ⟨w, hw, -⟩ := run_append_eq_some ran
    rw [run_concat, hw] at ran
    have paid := ih hw
    have still := orphaned.run hw
    rw [trail_concat _ m hw, sentAlong_concat hw, List.length_append, List.length_append]
    cases m with
    | step c e =>
      obtain ⟨call, h', call', hc, hs, rfl⟩ := move_step_eq_some ran
      have step := Call.dues_step still hc hs
      have total := total_stepped (f := Call.dues q) hc h' call'
      have sends : ((w.noticing Call.sends g (.step c e)).map Prod.snd) = call.sends call' := by
        rw [noticing_step Call.sends hc hs, List.map_map]
        exact List.map_id _
      rw [sends]
      omega
    | start r =>
      obtain rfl := Option.some.inj ran
      have total := w.total_ask (Call.dues q) r
      have nothing : (Call.asked r).dues q = 0 := rfl
      have quiet : sentThrough q ((w.noticing Call.sends g (.start r)).map Prod.snd) = [] := rfl
      have idle : w.striving q (.start r) = [] := rfl
      rw [quiet, idle]
      simp only [List.length_nil]
      omega
    | make | wait =>
      obtain rfl := Option.some.inj ran
      exact paid

/-! ## Nobody is kept waiting -/

/-- A queue in which there is nothing yet is empty, and somebody can send on it. -/
theorem receive_eq_nothingYet {h : Hub} (found : (h.receive q).1 = .nothingYet) :
    ∃ queue, h.queues.get? q = some queue ∧ queue.queued = [] ∧ queue.senders ≠ 0 := by
  unfold Hub.receive at found
  cases there : h.queues.get? q with
  | none =>
    rw [there] at found
    cases found
  | some queue =>
    rw [there] at found
    dsimp only at found
    cases queued : queue.queued with
    | cons command rest =>
      rw [queued] at found
      cases found
    | nil =>
      rw [queued] at found
      dsimp only at found
      split at found
      · cases found
      · rename_i somebody
        exact ⟨queue, rfl, queued, somebody⟩

/-- A terminal that relays takes up what it finds. -/
theorem Call.takes_up (g : Gateway) {h : Hub} (relays : call.relays? = some q)
    (found : (h.receive q).1 ≠ .nothingYet) (fault : Option String) :
    ∃ p, call.step g (.control fault) h = some p := by
  cases call with
  | bridging id s q' task =>
    have relaying : task.stage = .relaying ∧ q' = some q := by
      have there : (if task.stage = .relaying then q' else none) = some q := relays
      split at there
      · rename_i stage
        exact ⟨stage, there⟩
      · cases there
    obtain ⟨stage, rfl⟩ := relaying
    show ∃ p, stepTerminal h id s (some q) task (.control fault) = some p
    simp only [stepTerminal, Option.bind_eq_bind, Option.bind_some]
    cases received : h.receive q with
    | mk r m =>
      rw [received] at found
      cases r with
      | nothingYet => exact absurd rfl found
      | ended =>
        dsimp only
        rw [TerminalTask.step_relaying stage rfl]
        exact ⟨_, rfl⟩
      | command command =>
        cases command with
        | close =>
          dsimp only
          rw [TerminalTask.step_relaying stage rfl]
          exact ⟨_, rfl⟩
        | resize ticket w =>
          dsimp only
          rw [TerminalTask.step_relaying stage rfl]
          exact ⟨_, rfl⟩
  | _ => cases relays

/-- A call that waits for an answer has sent its window. -/
theorem exists_errand (ran : System.initial.run g past = some v) {ticket : Ticket}
    {evict : Option String} (hc : v.calls[c]? = some (.awaiting s q ticket evict)) :
    ∃ w, (c, ⟨q, ticket, w⟩) ∈ sent g past := by
  obtain ⟨x, e, call, h', call', hm, hcall, -, hs, -, rfl⟩ := System.exists_arrival
    (P := (· = .awaiting s q ticket evict)) (fun r asked => by cases asked) ran
    (fun call hc => by cases hc) hc rfl
  obtain ⟨w, rfl⟩ := Call.eq_sending_of_awaiting hs
  have noted : (c, ⟨q, ticket, w⟩) ∈ System.noticing Call.sends g x.before x.move := by
    rw [hm, System.noticing_step Call.sends hcall hs]
    exact List.mem_singleton_self _
  exact ⟨w, x.mem_trail noted⟩

/-- **When a queue is empty, whoever can send on it can go on.** -/
theorem goes_on_of_empty (ran : System.initial.run g past = some v) (hc : v.calls[c]? = some call)
    (shares : call.shares? = some q) {queue : ControlQueue}
    (found : v.hub.queues.get? q = some queue) (empty : queue.queued = []) :
    ∃ p, call.step g .go v.hub = some p := by
  cases call with
  | sending s q' w evict =>
    obtain rfl : q' = q := Option.some.inj shares
    cases hs : (Call.sending s q' w evict).step g .go v.hub with
    | some p => exact ⟨p, rfl⟩
    | none =>
      obtain ⟨queue', found', -, full⟩ := Call.send_eq_none hs
      cases found.symm.trans found'
      unfold ControlQueue.hasRoom at full
      rw [empty] at full
      cases full
  | awaiting s q' ticket evict =>
    obtain rfl : q' = q := Option.some.inj shares
    obtain ⟨w, there⟩ := exists_errand ran hc
    have step : (Call.awaiting s q' ticket evict).step g .go v.hub =
        Call.await v.hub s q' ticket evict := rfl
    unfold Call.await at step
    cases (Balanced.run ran).desk.fate _ (List.mem_map_of_mem there) with
    | @waits queued lane among =>
      have same : queue.queued = queued :=
        congrArg Lane.queued (Option.some.inj ((Hub.lanes_desk found).symm.trans lane))
      rw [← same, empty] at among
      cases among
    | passed result given =>
      have answer : v.hub.replies.get? ticket = some (.given result) := given
      rw [answer] at step
      cases result with
      | ok _ => exact ⟨_, step⟩
      | error why => exact ⟨_, step⟩
    | dropped lane dropped =>
      have answer : v.hub.replies.get? ticket = some .dropped := dropped
      rw [answer] at step
      exact ⟨_, step⟩
  | applied s q' => exact ⟨_, rfl⟩
  | closing s stage next =>
    cases stage with
    | signalling q' => exact ⟨_, rfl⟩
    | _ => cases shares
  | _ => cases shares

/-- A step of a call is a move. -/
theorem System.move_of_step {p : Hub × Call} (hc : v.calls[c]? = some call)
    (hs : call.step g e v.hub = some p) : v.move g (.step c e) = some (v.stepped c p.1 p.2) := by
  show (v.calls[c]? >>= _) = _
  rw [hc, Option.bind_eq_bind, Option.bind_some, hs]
  rfl

/-! ## Calls that come too late -/

/-- A call that is to be let in when its session has no queue fails, and leaves everything as it
was. -/
theorem System.refused_without (g : Gateway) {w : Window} {evict : Option String}
    (hc : v.calls[c]? = some (.sharing s w evict)) (without : v.hub.attached s = false) :
    v.move g (.step c .go) = some (v.stepped c v.hub (.answered (.failed noTerminal))) := by
  have nothing : (v.hub.sessions.get? s).bind (·.control) = none := by
    unfold Hub.attached at without
    cases there : v.hub.sessions.get? s with
    | none => rfl
    | some x =>
      rw [there] at without
      exact Option.not_isSome_iff_eq_none.mp (Bool.eq_false_iff.mp without)
  have shared : v.hub.shareControl s = (none, v.hub) := by
    unfold Hub.shareControl
    rw [nothing]
  refine move_of_step hc (p := (v.hub, .answered (.failed noTerminal))) ?_
  simp only [Call.step, shared]
  rfl

/-! ## Closing reaches the terminal -/

/-- What holds once call `c` has taken queue `q` out of session `s`, which it is closing. In system
`t` it has yet to tell the terminal to stop; schedule `past` led to its step before, and schedule
`more` leads on to system `v`. -/
structure LastWord (g : Gateway) (past : List Move) (t : System) (c : CallId) (s : Serial)
    (q : QueueId) (more : List Move) (v : System) : Prop where
  /-- A terminal finds windows in the queue, in the order in which they were sent: those that
  waited, and then those that were sent since. After them it finds at most one thing, word to stop
  or the end of the queue, and leaves. -/
  finds : ∃ windows last, t.trail (System.finding q) g more = findings windows ++ last ∧
    windows <+: t.hub.desk.waiting q ++ t.sentAlong g q more ∧
      (last = [] ∨ (last = [.command .close] ∨ last = [.ended]) ∧
        ∀ (d : CallId) (call : Call), v.calls[d]? = some call → call.relays? ≠ some q)
  /-- What was sent since was about to be sent then. -/
  in_flight : ∀ x ∈ t.trail (System.noticing Call.sends g) g more, x.2.queue = q →
    ∃ s evict, t.calls[x.1]? = some (.sending s q x.2.window evict)
  /-- A terminal that still relays can take up what it finds. If there is nothing yet, then a
  request for a window that was in flight can go on, or else the closing can, which has yet to
  tell the terminal to stop. -/
  not_left_waiting : ∀ (d : CallId) (call : Call), v.calls[d]? = some call →
    call.relays? = some q →
      (∀ fault, ∃ w, v.move g (.step d (.control fault)) = some w) ∨
        (v.hub.receive q).1 = .nothingYet ∧
          ∃ (k : CallId) (w : System), v.move g (.step k .go) = some w ∧
            ((∃ call, v.calls[k]? = some call ∧ call.inFlight? = some q) ∧
                (∃ call, t.calls[k]? = some call ∧ call.inFlight? = some q) ∨
              k = c ∧ ∃ next, v.calls[c]? = some (.closing s (.signalling q) next))
  /-- That does not go on for ever: the terminal looks at the queue and those with a share in it
  take steps so many times at most. -/
  bounded : (t.trail (System.finding q) g more).length +
    (t.trail (System.striving q) g more).length ≤ ControlQueue.capacity + 1 + 4 * t.sharers q
  /-- A request for a window that looks for the session's queue from now on fails and does nothing
  else. It finds another queue only if one was installed since, which takes somebody who is no
  terminal and was asked to install one. -/
  too_late : ∀ (d : CallId) w evict, v.calls[d]? = some (.sharing s w evict) →
    v.move g (.step d .go) = some (v.stepped d v.hub (.answered (.failed noTerminal))) ∨
      .start (.attachControl s) ∈ past ++ more ∧
        ∃ z : System.Turn g t more, ∃ k e call, z.move = .step k e ∧
          z.before.calls[k]? = some call ∧ call.installs? e = some s

/-- No more windows wait than a queue may hold. -/
theorem Desk.Kept.waiting_le {d : Desk} {sent : List Errand}
    {passed : List (QueueId × Terminal.Forwarded)} (kept : d.Kept sent passed) (q : QueueId) :
    (d.waiting q).length ≤ ControlQueue.capacity := by
  cases lane : d.lanes q with
  | none =>
    unfold Desk.waiting
    rw [lane]
    exact Nat.zero_le _
  | some l =>
    rw [Desk.waiting_of_lane lane]
    exact Nat.le_trans (List.length_filterMap_le _ _) (kept.room lane)

/-- A closing that has taken a queue out is the only one that has. -/
theorem System.sole_herald {next : Next} (reached : initial.run g past = some u)
    (closing : u.calls[c]? = some (.closing s .takingControl next))
    (installed : (u.hub.sessions.get? s).bind (·.control) = some q) {h : Hub} {k : CallId}
    {s' : Serial} {next' : Next}
    (hk : (u.stepped c h (.closing s (.signalling q) next)).calls[k]? =
      some (.closing s' (.signalling q) next')) : k = c ∧ s' = s := by
  by_cases own : k = c
  · subst own
    cases (calls_stepped closing h _).symm.trans hk
    exact ⟨rfl, rfl⟩
  · rw [calls_stepped_other u own] at hk
    exact absurd hk (unheralded reached ((u.hub.holds_roster s).trans installed))

/-- **When there is nothing yet in a queue, somebody who has a share in it can go on.** -/
theorem System.Orphaned.exists_goes_on (orphaned : v.Orphaned q)
    (reached : initial.run g past = some v) (found : (v.hub.receive q).1 = .nothingYet) :
    ∃ (k : CallId) (call : Call) (w : System), v.calls[k]? = some call ∧ call.shares? = some q ∧
      v.move g (.step k .go) = some w := by
  obtain ⟨queue, there, empty, somebody⟩ := receive_eq_nothingYet found
  have count : (v.hub.queues.get? q).map (·.senders) = some (v.sharers q) := orphaned.count
  rw [there] at count
  have many : v.total (Call.share q) ≠ 0 := fun nobody =>
    somebody ((Option.some.inj count).trans nobody)
  obtain ⟨k, call, hk, adds⟩ := exists_of_total many
  have shares : call.shares? = some q := by
    by_contra none_
    exact adds (if_neg none_)
  obtain ⟨p, hs⟩ := goes_on_of_empty reached hk shares there empty
  exact ⟨k, call, _, hk, shares, move_of_step hk hs⟩

/-- **Closing a session reaches its terminal**, however full its queue is and whoever else waits to
send on it. -/
theorem closing_reaches_terminal {next : Next} (reached : System.initial.run g past = some u)
    (closing : u.calls[c]? = some (.closing s .takingControl next))
    (installed : (u.hub.sessions.get? s).bind (·.control) = some q)
    (taken : u.move g (.step c .go) = some t) (ran : t.run g more = some v) :
    LastWord g past t c s q more v := by
  obtain ⟨orphaned, ht⟩ := System.orphaned_of_taken reached closing installed taken
  have start : System.initial.run g (past ++ [.step c .go]) = some t := by
    rw [System.run_concat, reached]
    exact taken
  have whole : System.initial.run g (past ++ [.step c .go] ++ more) = some v := by
    rw [System.run_append, start]
    exact ran
  obtain ⟨windows, last, found, heard⟩ := Heard.exists_of_run start orphaned ran
  constructor
  case finds => exact ⟨windows, last, found, heard.order, heard.parted⟩
  case in_flight => exact fun x sent through => orphaned.in_flight ran sent through
  case not_left_waiting =>
    intro d call hd relays
    by_cases nothing : (v.hub.receive q).1 = .nothingYet
    · refine .inr ⟨nothing, ?_⟩
      obtain ⟨k, call', w, hk, shares, moved⟩ := (orphaned.run ran).exists_goes_on whole nothing
      refine ⟨k, w, moved, ?_⟩
      obtain there | ⟨s', next', rfl⟩ := Call.shares?_cases shares
      · exact .inl ⟨⟨call', hk, there⟩, orphaned.in_flight_before ran hk there⟩
      · have stood := orphaned.entered_before ran hk rfl
        rw [ht] at stood
        obtain ⟨rfl, rfl⟩ := System.sole_herald reached closing installed stood
        exact .inr ⟨rfl, next', hk⟩
    · refine .inl fun fault => ?_
      obtain ⟨p, hs⟩ := Call.takes_up g relays nothing fault
      exact ⟨_, System.move_of_step hd hs⟩
  case bounded =>
    have paid := orphaned.paid ran
    have waiting := (Balanced.run start).desk.waiting_le q
    have due := heard.order.length_le
    have dues : t.total (Call.dues q) ≤ 4 * t.sharers q := System.total_le (Call.dues_le q)
    have once : last.length ≤ 1 := by
      obtain rfl | ⟨rfl | rfl, -⟩ := heard.parted
      · exact Nat.zero_le 1
      · exact Nat.le_refl 1
      · exact Nat.le_refl 1
    rw [List.length_append] at due
    rw [found, List.length_append, findings, List.length_map]
    omega
  case too_late =>
    intro d w evict hd
    cases attached : v.hub.attached s with
    | false => exact .inl (System.refused_without g hd attached)
    | true =>
      have without : t.hub.attached s = false := by
        rw [ht]
        show (u.hub.takeControl s).2.attached s = false
        rw [Hub.attached_eq, Hub.conduct?_takeControl, if_pos rfl, Option.any_map]
        cases u.hub.conduct? s <;> rfl
      obtain ⟨z, k, e, call, hz, hk, -, installs⟩ :=
        System.exists_installation ran without attached
      refine .inr ⟨?_, z, k, e, call, hz, hk, installs⟩
      by_contra others
      have there : u.hub.attached s = true := by
        obtain ⟨x, hx, hq⟩ := Option.bind_eq_some_iff.mp installed
        rw [Hub.attached, hx]
        exact Option.isSome_iff_exists.mpr ⟨q, hq⟩
      have still := System.detached_for_good reached there taken without ran (by simpa using others)
      exact absurd (still.symm.trans attached) Bool.false_ne_true

/-! ## A crowded queue -/

/-- A terminal is attached. Ten calls have sent it windows, so that its queue is full; one more
waits for room, and another is about to look for the queue when somebody closes the session. -/
def crowdedQueue : List Move :=
  let terminal : List Move :=
    [.make (someInfo "a") true, .start (.put 0), .step 0 .go,
      .start (.terminal "a" .standard), .step 1 .go, .step 1 .go, .step 1 .go,
      .step 1 (.terminal (.requested none)), .step 1 (.terminal (.message .success none)),
      .step 1 (.terminal (.requested none)), .step 1 (.terminal (.message .success none)),
      .step 1 (.terminal .attached)]
  let asks (c : CallId) : List Move := [.start (.resizeSession 0 .standard), .step c .go]
  let sends (c : CallId) : List Move := asks c ++ [.step c .go, .step c .go]
  terminal ++ (List.range' 2 10).flatMap sends ++ asks 12 ++ [.step 12 .go] ++ asks 13 ++
    [.start (.closeSession 0), .step 14 .go, .step 14 .go]

/-- The queue has no room for word to stop. The call that comes too late fails; the terminal takes
one window after the other, the one that waited for room among them, and finds the end of the queue
when all who have sent one have returned. -/
def crowdLeaves : List Move :=
  let looks : Move := .step 1 (.control none)
  let returns (c : CallId) : List Move := [.step c .go, .step c .go]
  [.step 14 .go, .step 13 .go, looks, .step 12 .go] ++ List.replicate 10 looks ++
    (List.range' 2 11).flatMap returns ++ [looks]

theorem closing_reaches_terminal_crowdedQueue : ∃ u t v,
    System.initial.run strandedGateway crowdedQueue = some u ∧
      u.move strandedGateway (.step 14 .go) = some t ∧
        t.run strandedGateway crowdLeaves = some v ∧
          (t.hub.desk.waiting 0).length = 10 ∧
            (t.sentAlong strandedGateway 0 crowdLeaves).length = 1 ∧
            (t.trail (System.finding 0) strandedGateway crowdLeaves).length = 12 ∧
              (t.trail (System.finding 0) strandedGateway crowdLeaves).getLast? = some .ended ∧
                v.answer? 13 = some (.failed noTerminal) ∧
                LastWord strandedGateway crowdedQueue t 14 0 0 crowdLeaves v := by
  have reached : System.initial.run strandedGateway crowdedQueue = some _ := rfl
  refine ⟨_, _, _, reached, rfl, rfl, rfl, rfl, rfl, rfl, rfl, ?_⟩
  exact closing_reaches_terminal reached rfl rfl rfl rfl

end ShellGateway.Session
