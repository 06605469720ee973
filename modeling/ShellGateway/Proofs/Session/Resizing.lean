import ShellGateway.Proofs.Session.Attached
import ShellGateway.Proofs.Session.Queues

/-!
# Requests for windows

Any number of calls ask for windows at the same time, while terminals come and go and
sessions are closed. A call that asks for a window sends it at most once and then waits.
`Resizing` lists where it can stand, along with what it has sent and how it will end
(`Resizing.step`).

Along a schedule it is noted down which windows were sent, by which call, and which were
passed on, by which terminal. These notes agree with the queues, with the calls that ask for
windows and with the terminals' own accounts, and every queue that is read has its reader
among the calls: the system is `Balanced` after every schedule (`Balanced.run`).
-/

namespace ShellGateway.Session

/-- The window that a request asks for. -/
def Request.window? : Request → Option Window
  | resize _ w | resizeSession _ w => some w
  | _ => none

/-- Why a request for a window is refused, before there is a queue to send it through. -/
inductive Refused : Request → Failure → Prop where
  | notFound (id : String) (w : Window) : Refused (.resize id w) (.sessionNotFound id)
  | invalid (id : String) (w : Window) : Refused (.resize id w) (.invalidWindow w)
  | noTerminal (r : Request) : Refused r noTerminal

/-- Why the window of a request was not sent. -/
def Unsent (r : Request) (why : Failure) : Prop :=
  Refused r why ∨ why = terminalGone

/-- What keeps a call from sending its window, and the failure that it returns for that. -/
inductive Hinders (h : Hub) (w : Window) : Call → Failure → Prop where
  /-- No session has the id. -/
  | notFound (id : String) (missing : h.find? id = none) :
      Hinders h w (.asked (.resize id w)) (.sessionNotFound id)
  /-- Nobody may ask for a window of this size. -/
  | invalid (id : String) (inadmissible : ¬ w.Admissible) :
      Hinders h w (.asked (.resize id w)) (.invalidWindow w)
  /-- The session has no control queue. -/
  | noTerminal (s : Serial) (evict : Option String)
      (without : (h.sessions.get? s).bind (·.control) = none) :
      Hinders h w (.sharing s w evict) noTerminal
  /-- Nobody reads the queue any more. -/
  | terminalGone (s : Serial) (q : QueueId) (evict : Option String)
      (unread : ∀ queue, h.queues.get? q = some queue → queue.reading = false) :
      Hinders h w (.sending s q w evict) terminalGone

/-- What a call comes to whose window was passed on, or could not be. -/
def Answer.ofWindow : Except Failure Unit → Answer
  | .ok () => done
  | .error why => failed why

/-- What a call comes to that is told what has become of its window. -/
def Reply.answer? : Reply → Option Answer
  | awaited => none
  | given result => some (.ofWindow result)
  | dropped => some (.failed resizeDropped)

/-- How a call that asks for a window ends, by what it has sent and what it was told. -/
inductive Outcome (d : Desk) (r : Request) (w : Window) : List Errand → Answer → Prop where
  /-- It has sent nothing. -/
  | unsent (why : Failure) (cause : Unsent r why) : Outcome d r w [] (.failed why)
  | told (q : QueueId) (t : Ticket) (reply : Reply) (a : Answer)
      (told : d.replies t = some reply) (ends : reply.answer? = some a) :
      Outcome d r w [⟨q, t, w⟩] a

/-- Where a call stands that asks for a window, with what it has sent. -/
inductive Resizing (d : Desk) (r : Request) (w : Window) : List Errand → Call → Prop where
  | asked : Resizing d r w [] (.asked r)
  | sharing (s : Serial) (evict : Option String) : Resizing d r w [] (.sharing s w evict)
  | sending (s : Serial) (q : QueueId) (evict : Option String) :
      Resizing d r w [] (.sending s q w evict)
  | awaiting (s : Serial) (q : QueueId) (t : Ticket) (evict : Option String) :
      Resizing d r w [⟨q, t, w⟩] (.awaiting s q t evict)
  | applied (s : Serial) (q : QueueId) (t : Ticket) (given : d.replies t = some (.given (.ok ()))) :
      Resizing d r w [⟨q, t, w⟩] (.applied s q)
  | leaving {own : List Errand} {a : Answer} {c : Call} (outcome : Outcome d r w own a)
      (leaving : c.Leaving a) : Resizing d r w own c

/-- What keeps a call from getting past its request is a refusal. -/
theorem Hinders.refused {h : Hub} {w : Window} {r : Request} {why : Failure}
    (hinders : Hinders h w (.asked r) why) : Refused r why := by
  cases hinders with
  | notFound id => exact .notFound id w
  | invalid id => exact .invalid id w

/-- What a desk tells those who have sent some windows, another desk tells them too. -/
def Desk.Tells (d d' : Desk) (own : List Errand) : Prop :=
  ∀ x ∈ own, ∀ reply a, d.replies x.ticket = some reply → reply.answer? = some a →
    d'.replies x.ticket = some reply

/-! ## One step of a call -/

variable {g : Gateway} {h h' : Hub} {c c' : Call} {e : Event}

/-- A call that leaves sends nothing. -/
theorem Call.Leaving.sends {a : Answer} (leaving : c.Leaving a) (c' : Call) : c.sends c' = [] := by
  cases leaving <;> rfl

theorem Call.leaving_resizeFailed (h : Hub) (q : QueueId) (evict : Option String) (why : Failure) :
    Leaving (.failed why) (resizeFailed h q evict why).2 := by
  unfold resizeFailed
  cases evict with
  | none => exact .answered
  | some id =>
    dsimp only
    split
    · exact .removing id
    · exact .answered

/-- A request for a window is refused, or goes on to the control queue. -/
theorem Call.start_resize {id : String} {w : Window}
    (hs : (asked (.resize id w)).step g e h = some (h', c')) :
    (∃ s, c' = .sharing s w (some id)) ∨
      ∃ why, Hinders h w (asked (.resize id w)) why ∧ c' = .answered (.failed why) := by
  have hp := onGo_eq hs
  simp only [start, lookUpFor, Window.checked, lookUp] at hp
  split at hp
  · split at hp
    · cases hp
      exact .inl ⟨_, rfl⟩
    · rename_i missing
      cases hp
      exact .inr ⟨_, .notFound id missing, rfl⟩
  · rename_i why refused
    split at refused
    · cases refused
    · rename_i inadmissible
      cases refused
      cases hp
      exact .inr ⟨_, .invalid id inadmissible, rfl⟩

/-- A call takes part in sending on the session's control queue, or there is none. -/
theorem Call.share_cases {s : Serial} {w : Window} {evict : Option String}
    (hs : (sharing s w evict).step g e h = some (h', c')) :
    (∃ q, c' = sending s q w evict) ∨
      Hinders h w (sharing s w evict) noTerminal ∧ c' = answered (.failed noTerminal) := by
  have hp := onGo_eq hs
  unfold Hub.shareControl at hp
  split at hp
  · rename_i found
    split at found
    · cases hp
      exact .inl ⟨_, rfl⟩
    · cases found
  · rename_i found
    split at found
    · cases found
    · rename_i without
      cases hp
      exact .inr ⟨.noTerminal s evict without, rfl⟩

/-- A call whose turn it is to send waits for the answer from then on, or nobody reads the
queue. -/
theorem Call.send_cases {s : Serial} {q : QueueId} {w : Window} {evict : Option String}
    (hs : (sending s q w evict).step g e h = some (h', c')) :
    (∃ t, c' = awaiting s q t evict) ∨
      Hinders h w (sending s q w evict) terminalGone ∧ c'.Leaving (.failed terminalGone) := by
  have failed : some (resizeFailed h q evict terminalGone) = some (h', c') →
      c'.Leaving (.failed terminalGone) := by
    intro hp
    have leaving := leaving_resizeFailed h q evict terminalGone
    rw [Option.some.inj hp] at leaving
    exact leaving
  have sent := (Option.ite_none_right_eq_some.mp hs).2
  unfold send at sent
  split at sent
  · rename_i missing
    refine .inr ⟨.terminalGone s q evict fun queue found => ?_, failed sent⟩
    cases missing.symm.trans found
  · rename_i queue found
    split at sent
    · rename_i unread
      refine .inr ⟨.terminalGone s q evict fun queue' found' => ?_, failed sent⟩
      cases found.symm.trans found'
      simpa using unread
    · split at sent
      · cases sent
        exact .inl ⟨_, rfl⟩
      · cases sent

/-- A call that waits for an answer takes it when it is there. -/
theorem Call.await_cases {s : Serial} {q : QueueId} {t : Ticket} {evict : Option String}
    (hs : (awaiting s q t evict).step g e h = some (h', c')) :
    h.desk.replies t = some (.given (.ok ())) ∧ c' = applied s q ∨
      ∃ reply a, h.desk.replies t = some reply ∧ reply.answer? = some a ∧ c'.Leaving a := by
  have failed : ∀ {why}, some (resizeFailed h q evict why) = some (h', c') →
      c'.Leaving (.failed why) := by
    intro why hp
    have leaving := leaving_resizeFailed h q evict why
    rw [Option.some.inj hp] at leaving
    exact leaving
  have taken := (Option.ite_none_right_eq_some.mp hs).2
  unfold await at taken
  split at taken
  · rename_i given
    cases taken
    exact .inl ⟨given, rfl⟩
  · rename_i why given
    exact .inr ⟨_, _, given, rfl, failed taken⟩
  · rename_i given
    exact .inr ⟨_, _, given, rfl, failed taken⟩
  · cases taken
  · cases taken

section

variable {d d' : Desk} {r : Request} {w : Window} {own : List Errand}

theorem Outcome.carry {a : Answer} (outcome : Outcome d r w own a) (tells : d.Tells d' own) :
    Outcome d' r w own a := by
  cases outcome with
  | unsent why cause => exact .unsent why cause
  | told q t reply a told ends =>
    exact .told q t reply a (tells _ (List.mem_singleton_self _) _ _ told ends) ends

/-- A call stands where it stood while others take their steps. -/
theorem Resizing.carry (standing : Resizing d r w own c) (tells : d.Tells d' own) :
    Resizing d' r w own c := by
  cases standing with
  | asked => exact .asked
  | sharing s evict => exact .sharing s evict
  | sending s q evict => exact .sending s q evict
  | awaiting s q t evict => exact .awaiting s q t evict
  | applied s q t given =>
    exact .applied s q t (tells _ (List.mem_singleton_self _) _ _ given rfl)
  | leaving outcome leaving => exact .leaving (outcome.carry tells) leaving

/-- **A call that asks for a window sends it once at most, and ends as it is told.** -/
theorem Resizing.step (asked : r.window? = some w) (standing : Resizing h.desk r w own c)
    (hs : c.step g e h = some (h', c')) (tells : h.desk.Tells d' own) :
    Resizing d' r w (own ++ c.sends c') c' := by
  cases standing with
  | asked =>
    cases r with
    | resizeSession s w' =>
      cases asked
      cases Call.onGo_eq hs
      exact .sharing s none
    | resize id w' =>
      cases asked
      obtain ⟨s, rfl⟩ | ⟨why, hinders, rfl⟩ := Call.start_resize hs
      · exact .sharing s (some id)
      · exact .leaving (.unsent why (.inl hinders.refused)) .answered
    | _ => cases asked
  | sharing s evict =>
    obtain ⟨q, rfl⟩ | ⟨-, rfl⟩ := Call.share_cases hs
    · exact .sending s q evict
    · exact .leaving (.unsent _ (.inl (.noTerminal r))) .answered
  | sending s q evict =>
    obtain ⟨t, rfl⟩ | ⟨-, leaving⟩ := Call.send_cases hs
    · exact .awaiting s q t evict
    · have nothing : (Call.sending s q w evict).sends c' = [] := by
        cases leaving <;> rfl
      rw [nothing]
      exact .leaving (.unsent _ (.inr rfl)) leaving
  | awaiting s q t evict =>
    have told := tells _ (List.mem_singleton_self _)
    obtain ⟨given, rfl⟩ | ⟨reply, a, given, ends, leaving⟩ := Call.await_cases hs
    · exact .applied s q t (told _ _ given rfl)
    · exact .leaving (.told q t reply a (told _ _ given ends) ends) leaving
  | applied s q t given =>
    have told := tells _ (List.mem_singleton_self _) _ _ given rfl
    cases Call.onGo_eq hs
    exact .leaving (.told q t _ _ told rfl) .answered
  | leaving outcome leaving =>
    rw [leaving.sends, List.append_nil]
    exact .leaving (outcome.carry tells) (leaving.step hs)

end

/-! ## One step of a terminal -/

/-- A terminal goes on or has ended. -/
theorem Call.bridged_cases {id : String} {s : Serial} {q : Option QueueId} {task : TerminalTask}
    (hs : bridged h id s q task = (h', c')) :
    c' = bridging id s q task ∨ ∃ how, c' = giveUp id (.ofTerminal how) := by
  unfold bridged at hs
  cases ended : task.end? with
  | none =>
    rw [ended] at hs
    cases hs
    exact .inl rfl
  | some how =>
    rw [ended] at hs
    cases hs
    exact .inr ⟨how, rfl⟩

/-- A terminal meets one event. It gets a queue when that is installed, and passes nothing on
before. -/
theorem Call.stepTerminal_cases {id : String} {s : Serial} {q : Option QueueId}
    {task : TerminalTask} (hs : stepTerminal h id s q task e = some (h', c')) :
    ∃ m q' met task', task.step met = some task' ∧ bridged m id s q' task' = (h', c') ∧
      (met = .attached ∨ q' = q) ∧ (q = none → met.windows = []) := by
  cases e with
  | terminal e =>
    cases e with
    | attached =>
      obtain ⟨task', ht, hs⟩ := Option.bind_eq_some_iff.mp hs
      exact ⟨_, _, _, task', ht, Option.some.inj hs, .inl rfl, fun _ => rfl⟩
    -- these two come through the queue only
    | command _ _ | queueEnd => cases hs
    | _ =>
      obtain ⟨task', ht, hs⟩ := Option.bind_eq_some_iff.mp hs
      exact ⟨_, q, _, task', ht, Option.some.inj hs, .inr rfl, fun _ => rfl⟩
  | control fault =>
    obtain ⟨q', rfl, hs⟩ := Option.bind_eq_some_iff.mp hs
    split at hs
    · cases hs
    all_goals
      obtain ⟨task', ht, hs⟩ := Option.bind_eq_some_iff.mp hs
      exact ⟨_, some q', _, task', ht, Option.some.inj hs, .inr rfl, nofun⟩
  | _ => cases hs

/-- A call that is at a terminal after a step has attended to the shell before, or was at the
terminal. -/
theorem Call.bridging_cases {id : String} {s : Serial} {q' : Option QueueId}
    {task' : TerminalTask} (hs : c.step g e h = some (h', bridging id s q' task')) :
    (∃ w, c = attending id s w ∧ q' = none ∧ task'.forwarded = []) ∨
      ∃ q task met, c = bridging id s q task ∧ task.step met = some task' ∧
        (met = .attached ∨ q' = q) ∧ (q = none → met.windows = []) := by
  by_cases before : c.aboard? = some (id, s)
  · obtain ⟨w, rfl⟩ | ⟨q, task, rfl⟩ := eq_of_aboard? before
    · cases onGo_eq hs
      exact .inl ⟨w, rfl, rfl, rfl⟩
    · obtain ⟨m, q₁, met, task₁, ht, hb, queue, quiet⟩ := stepTerminal_cases hs
      obtain goesOn | ⟨how, ended⟩ := bridged_cases hb
      · cases goesOn
        exact .inr ⟨q, task, met, rfl, ht, queue, quiet⟩
      · cases ended
  · obtain ⟨w, rfl, there⟩ := (piece hs).boards before rfl
    have taken : (if (h.takeShell s).1 then attending id s w
        else answered (.failed shellTaken)) = bridging _ _ _ _ := (Prod.mk.inj (onGo_eq hs)).2
    rw [there] at taken
    cases taken

theorem Call.isOrderly_step (orderly : c.IsOrderly) (hs : c.step g e h = some (h', c')) :
    c'.IsOrderly := by
  cases c' with
  | bridging id s q' task' =>
    cases q' with
    | none => trivial
    | some q' =>
      obtain ⟨w, -, queue, -⟩ | ⟨q, task, met, rfl, ht, rfl | rfl, -⟩ := bridging_cases hs
      · cases queue
      · show task'.isStarting = false
        unfold TerminalTask.isStarting
        rw [(TerminalTask.step_attached ht).2]
      · exact TerminalTask.isStarting_step ht orderly
  | _ => trivial

/-- The call is at a terminal, or may come to be at one. -/
def Call.mayPass (c : Call) : Bool :=
  c.isBoarding || c.aboard?.isSome

/-- What a terminal has passed on by its own account. -/
def Call.account : Call → List Terminal.Forwarded
  | bridging _ _ _ task => task.forwarded
  | _ => []

/-- **What is noted down of a terminal agrees with its own account.** -/
theorem Call.account_step (hs : c.step g e h = some (h', c')) (after : c'.mayPass) :
    c.mayPass ∧ c'.account = c.account ++ (c.passes c').map Prod.snd := by
  cases c' with
  | asked r =>
    obtain ⟨id, s, w, -, taking, -⟩ := (piece hs).lookup rfl
    cases taking
  | takingShell id s w =>
    obtain ⟨id, s, w, rfl, -⟩ := (piece hs).lookup rfl
    exact ⟨rfl, rfl⟩
  | attending id s w =>
    by_cases before : c.aboard? = some (id, s)
    · obtain ⟨w', rfl⟩ | ⟨q, task, rfl⟩ := eq_of_aboard? before
      · cases onGo_eq hs
      · obtain ⟨m, q₁, met, task₁, -, hb, -⟩ := stepTerminal_cases hs
        obtain goesOn | ⟨how, ended⟩ := bridged_cases hb
        · cases goesOn
        · cases ended
    · obtain ⟨w', rfl, -⟩ := (piece hs).boards before rfl
      exact ⟨rfl, rfl⟩
  | bridging id s q' task' =>
    obtain ⟨w, rfl, -, nothing⟩ | ⟨q, task, met, rfl, ht, -, quiet⟩ := bridging_cases hs
    · exact ⟨rfl, nothing⟩
    · have account := TerminalTask.forwarded_step ht
      refine ⟨rfl, ?_⟩
      cases q with
      | none =>
        rw [quiet rfl] at account
        exact account
      | some q =>
        rw [passes_bridging id s q q' account, List.map_map]
        show task'.forwarded = task.forwarded ++ met.windows.map fun window => window
        rw [List.map_id']
        exact account
  | _ => cases after

/-! ## Accounts along a schedule -/

/-- What an observer of positions notes down of a step, with the call that takes it. -/
def System.noticing {α : Type} (look : Call → Call → List α) (g : Gateway) (s : System) :
    Move → List (CallId × α)
  | .step c e =>
    ((s.calls[c]? >>= fun call => (call.step g e s.hub).map fun p => look call p.2).getD []).map
      (c, ·)
  | _ => []

theorem System.noticing_step {α : Type} (look : Call → Call → List α) {s : System} {c : CallId}
    {call call' : Call} (hc : s.calls[c]? = some call)
    (hs : call.step g e s.hub = some (h', call')) :
    s.noticing look g (.step c e) = (look call call').map (c, ·) := by
  show ((s.calls[c]? >>= _).getD []).map _ = _
  rw [hc, Option.bind_eq_bind, Option.bind_some, hs]
  rfl

/-- What has been asked for along a schedule, by the number of the call. -/
def requests (moves : List Move) : List Request :=
  moves.filterMap fun
    | .start r => some r
    | _ => none

/-- The windows that were sent along a schedule, each with the call that sent it. -/
def sent (g : Gateway) (moves : List Move) : List (CallId × Errand) :=
  System.initial.trail (System.noticing Call.sends g) g moves

/-- The windows that were passed on along a schedule, each with the terminal that passed it on
and the queue that it came from. -/
def passed (g : Gateway) (moves : List Move) :
    List (CallId × QueueId × Terminal.Forwarded) :=
  System.initial.trail (System.noticing Call.passes g) g moves

section Notes

variable {α : Type}

/-- What was noted down of one call. -/
def notesOf (c : CallId) (notes : List (CallId × α)) : List α :=
  (notes.filter (·.1 = c)).map Prod.snd

theorem notesOf_append (c : CallId) (a b : List (CallId × α)) :
    notesOf c (a ++ b) = notesOf c a ++ notesOf c b := by
  unfold notesOf
  rw [List.filter_append, List.map_append]

/-- What a call does is noted down of it, and of no other. -/
theorem notesOf_map (c c' : CallId) (notes : List α) :
    notesOf c' (notes.map (c, ·)) = if c = c' then notes else [] := by
  unfold notesOf
  by_cases same : c = c'
  · rw [if_pos same, List.filter_map]
    simp [Function.comp_def, same]
  · rw [if_neg same, List.filter_map]
    simp [Function.comp_def, same]

theorem mem_of_mem_notesOf {c : CallId} {notes : List (CallId × α)} {x : α}
    (hx : x ∈ notesOf c notes) : (c, x) ∈ notes := by
  obtain ⟨y, hy, rfl⟩ := List.mem_map.mp hx
  obtain ⟨there, own⟩ := List.mem_filter.mp hy
  obtain rfl : y.1 = c := of_decide_eq_true own
  exact there

/-- Nothing was noted down of a call that has not been there. -/
theorem notesOf_eq_nil {c : CallId} {notes : List (CallId × α)} (new : ∀ x ∈ notes, x.1 < c) :
    notesOf c notes = [] := by
  refine List.map_eq_nil_iff.mpr (List.filter_eq_nil_iff.mpr fun x hx => ?_)
  simp only [decide_eq_true_eq]
  exact Nat.ne_of_lt (new x hx)

/-- Who is noted down has been there. -/
theorem noted_lt {n : Nat} {c : CallId} {old : List (CallId × α)} {notes : List α}
    (earlier : ∀ x ∈ old, x.1 < n) (here : c < n) : ∀ x ∈ old ++ notes.map (c, ·), x.1 < n := by
  intro x hx
  obtain hx | hx := List.mem_append.mp hx
  · exact earlier x hx
  · obtain ⟨note, -, rfl⟩ := List.mem_map.mp hx
    exact here

end Notes

/-- The accounts of a schedule agree with the system that it leads to. -/
structure Balanced (requests : List Request) (sent : List (CallId × Errand))
    (passed : List (CallId × QueueId × Terminal.Forwarded)) (s : System) : Prop where
  desk : s.hub.desk.Kept (sent.map Prod.snd) (passed.map Prod.snd)
  numbered : s.calls.length = requests.length
  senders : ∀ x ∈ sent, x.1 < s.calls.length
  terminals : ∀ x ∈ passed, x.1 < s.calls.length
  standing : ∀ c r w, requests[c]? = some r → r.window? = some w →
    ∃ call, s.calls[c]? = some call ∧ Resizing s.hub.desk r w (notesOf c sent) call
  account : ∀ (c : CallId) (call : Call), s.calls[c]? = some call → call.mayPass →
    call.account = (notesOf c passed).map Prod.snd
  orderly : ∀ call ∈ s.calls, call.IsOrderly
  attended : ∀ q, s.hub.desk.Attended q →
    ∃ (c : CallId) (call : Call), s.calls[c]? = some call ∧ call.reads? = some q

namespace Balanced

variable {rs : List Request} {sent : List (CallId × Errand)}
  {passed : List (CallId × QueueId × Terminal.Forwarded)} {s : System}

/-- Nothing has been asked for, and nothing was sent. -/
theorem start : Balanced [] [] [] System.initial := by
  constructor
  case desk => exact .start _ rfl fun _ => rfl
  case numbered => rfl
  case senders | terminals =>
    intro x hx
    cases hx
  case standing =>
    intro c r w hr
    cases hr
  case account =>
    intro c call hc
    cases hc
  case orderly =>
    intro call hc
    cases hc
  case attended =>
    rintro q ⟨l, there, -⟩
    cases there

/-- The hub changes, but what is on the desk does not. -/
theorem still (b : Balanced rs sent passed s) (h : Hub) (same : h.desk = s.hub.desk) :
    Balanced rs sent passed { s with hub := h } where
  desk := same ▸ b.desk
  numbered := b.numbered
  senders := b.senders
  terminals := b.terminals
  standing := same ▸ b.standing
  account := b.account
  orderly := b.orderly
  attended := same ▸ b.attended

/-- Another call is asked for. -/
theorem ask (b : Balanced rs sent passed s) (r : Request) :
    Balanced (rs ++ [r]) sent passed { s with calls := s.calls ++ [.asked r] } := by
  have old : ∀ {c : CallId} {call : Call}, s.calls[c]? = some call →
      (s.calls ++ [.asked r])[c]? = some call := fun hc =>
    (List.getElem?_append_left (List.getElem?_eq_some_iff.mp hc).1).trans hc
  have more : (s.calls ++ [Call.asked r]).length = s.calls.length + 1 := List.length_append
  constructor
  case desk => exact b.desk
  case numbered =>
    show (s.calls ++ [_]).length = (rs ++ [r]).length
    rw [more, b.numbered, List.length_append]
    rfl
  case senders => exact fun x hx => more ▸ Nat.lt_succ_of_lt (b.senders x hx)
  case terminals => exact fun x hx => more ▸ Nat.lt_succ_of_lt (b.terminals x hx)
  case standing =>
    intro c r' w hr asks
    by_cases earlier : c < rs.length
    · rw [List.getElem?_append_left earlier] at hr
      obtain ⟨call, hc, standing⟩ := b.standing c r' w hr asks
      exact ⟨call, old hc, standing⟩
    · rw [List.getElem?_append_right (Nat.le_of_not_lt earlier)] at hr
      obtain rfl : r' = r := List.mem_singleton.mp (List.mem_of_getElem? hr)
      have new : c = s.calls.length := by
        have here : c - rs.length < 1 := (List.getElem?_eq_some_iff.mp hr).1
        rw [b.numbered]
        exact Nat.le_antisymm (Nat.le_of_sub_eq_zero (Nat.lt_one_iff.mp here))
          (Nat.le_of_not_lt earlier)
      rw [notesOf_eq_nil (new ▸ b.senders)]
      refine ⟨.asked r', ?_, .asked⟩
      rw [new]
      exact List.getElem?_concat_length
  case account =>
    intro c call hc mayPass
    by_cases earlier : c < s.calls.length
    · exact b.account c call ((List.getElem?_append_left earlier).symm.trans hc) mayPass
    · have later : s.calls.length ≤ c := Nat.le_of_not_lt earlier
      have new : [Call.asked r][c - s.calls.length]? = some call :=
        (List.getElem?_append_right later).symm.trans hc
      obtain rfl := List.mem_singleton.mp (List.mem_of_getElem? new)
      rw [notesOf_eq_nil fun x hx => Nat.lt_of_lt_of_le (b.terminals x hx) later]
      rfl
  case orderly =>
    intro call hc
    obtain hc | hc := List.mem_append.mp hc
    · exact b.orderly call hc
    · rw [List.mem_singleton.mp hc]
      trivial
  case attended =>
    intro q attended
    obtain ⟨c, call, hc, reads⟩ := b.attended q attended
    exact ⟨c, call, old hc, reads⟩

/-- A call takes a step. -/
theorem step (b : Balanced rs sent passed s) {c : CallId} {call call' : Call}
    (hc : s.calls[c]? = some call) (hs : call.step g e s.hub = some (h', call')) :
    Balanced rs (sent ++ (call.sends call').map (c, ·)) (passed ++ (call.passes call').map (c, ·))
      (s.stepped c h' call') := by
  have orderly := b.orderly call (List.mem_of_getElem? hc)
  have traffic := Call.traffic orderly hs
  have stands : (s.stepped c h' call').calls[c]? = some call' := System.calls_stepped hc h' call'
  have others : ∀ {c' : CallId}, c' ≠ c → (s.stepped c h' call').calls[c']? = s.calls[c']? :=
    fun other => List.getElem?_set_ne (Ne.symm other)
  have here : c < s.calls.length := (List.getElem?_eq_some_iff.mp hc).1
  have many : (s.stepped c h' call').calls.length = s.calls.length := List.length_set ..
  have tells : ∀ c', s.hub.desk.Tells h'.desk (notesOf c' sent) := by
    intro c' x hx reply a told ends
    refine b.desk.reply_lasts traffic (List.mem_map_of_mem (mem_of_mem_notesOf hx)) told ?_
    rintro rfl
    cases ends
  constructor
  case desk =>
    rw [List.map_append, List.map_append, List.map_map, List.map_map]
    show h'.desk.Kept (_ ++ (call.sends call').map id) (_ ++ (call.passes call').map id)
    rw [List.map_id, List.map_id]
    exact b.desk.step traffic
  case numbered => exact many.trans b.numbered
  case senders => exact many ▸ noted_lt b.senders here
  case terminals => exact many ▸ noted_lt b.terminals here
  case standing =>
    intro c' r w hr asks
    obtain ⟨call₁, hc₁, standing⟩ := b.standing c' r w hr asks
    rw [notesOf_append, notesOf_map]
    by_cases own : c = c'
    · subst own
      obtain rfl := Option.some.inj (hc.symm.trans hc₁)
      rw [if_pos rfl]
      exact ⟨call', stands, standing.step asks hs (tells c)⟩
    · rw [if_neg own, List.append_nil]
      exact ⟨call₁, (others (Ne.symm own)).trans hc₁, standing.carry (tells c')⟩
  case account =>
    intro c' call₁ hc₁ mayPass
    rw [notesOf_append, notesOf_map]
    by_cases own : c = c'
    · subst own
      obtain rfl := Option.some.inj (stands.symm.trans hc₁)
      obtain ⟨before, account⟩ := Call.account_step hs mayPass
      rw [if_pos rfl, List.map_append, account, b.account c call hc before]
    · rw [if_neg own, List.append_nil]
      exact b.account c' call₁ ((others (Ne.symm own)).symm.trans hc₁) mayPass
  case orderly =>
    intro call₁ hc₁
    obtain hc₁ | rfl := List.mem_or_eq_of_mem_set hc₁
    · exact b.orderly call₁ hc₁
    · exact Call.isOrderly_step orderly hs
  case attended =>
    intro q attended
    obtain reads | ⟨unread, attended⟩ := traffic.attended attended
    · exact ⟨c, call', stands, reads⟩
    · obtain ⟨c', call₁, hc₁, reads⟩ := b.attended q attended
      have other : c' ≠ c := by
        rintro rfl
        obtain rfl := Option.some.inj (hc.symm.trans hc₁)
        exact unread reads
      exact ⟨c', call₁, (others other).trans hc₁, reads⟩

/-- A move adds to the accounts what it has to. -/
theorem move {m : Move} {t : System} (b : Balanced rs sent passed s) (hm : s.move g m = some t) :
    Balanced (rs ++ requests [m]) (sent ++ s.noticing Call.sends g m)
      (passed ++ s.noticing Call.passes g m) t := by
  cases m with
  | start r =>
    obtain rfl := Option.some.inj hm
    show Balanced (rs ++ [r]) (sent ++ []) (passed ++ []) _
    rw [List.append_nil, List.append_nil]
    exact b.ask r
  | step c e =>
    obtain ⟨call, h', call', hc, hs, rfl⟩ := System.move_step_eq_some hm
    rw [System.noticing_step Call.sends hc hs, System.noticing_step Call.passes hc hs]
    show Balanced (rs ++ []) _ _ _
    rw [List.append_nil]
    exact b.step hc hs
  | make | wait =>
    obtain rfl := Option.some.inj hm
    show Balanced (rs ++ []) (sent ++ []) (passed ++ []) _
    rw [List.append_nil, List.append_nil, List.append_nil]
    exact b.still _ rfl

/-- **The accounts of a schedule agree with the system that it leads to.** -/
theorem run {moves : List Move} (ran : System.initial.run g moves = some s) :
    Balanced (requests moves) (Session.sent g moves) (Session.passed g moves) s := by
  induction moves using List.reverseRecOn generalizing s with
  | nil =>
    obtain rfl := Option.some.inj ran
    exact .start
  | append_singleton past m ih =>
    obtain ⟨u, hu, -⟩ := System.run_append_eq_some ran
    rw [System.run_concat, hu] at ran
    have b := (ih hu).move ran
    unfold Session.sent Session.passed requests
    rw [List.filterMap_append, System.trail_concat _ m hu, System.trail_concat _ m hu]
    exact b

end Balanced

end ShellGateway.Session
