import ShellGateway.Proofs.Session.Resizing

/-!
# Requests for windows are neither lost nor duplicated

However calls that ask for windows interleave with each other, with terminals and with
whatever else goes on: no control queue holds more than it may, and terminals pass windows on
in the order in which they were sent, none of them twice. A call returns `done` if and only if
its own window was passed on, once, and that went well. If it fails because there is no
terminal, because the terminal has gone or because its window was dropped, then its window was
not passed on at all, and what it says was so (`Hindrance`). Once a window was sent or waits to
be sent, no failure is other than a transport failure.

No call is left hanging, either: it returns on its own, or waits at a queue whose reader is
there, for room or for its window's turn (`Balanced.comes_to_rest`).
-/

namespace ShellGateway.Session

variable {g : Gateway} {moves : List Move} {s u : System} {c : CallId} {r : Request} {w : Window}
  {failed : Bool}

/-! ## Returning -/

theorem System.answer?_of_answered {a : Answer} (hc : s.calls[c]? = some (.answered a)) :
    s.answer? c = some a := by
  rw [answer?, hc]
  rfl

/-- A call that leaves returns on its own. -/
theorem Call.Leaving.returns (g : Gateway) (failed : Bool) {call : Call} {a : Answer}
    (leaving : call.Leaving a) (hc : s.calls[c]? = some call) :
    ∃ v, System.GoesOn g c failed s v ∧ v.answer? c = some a := by
  cases leaving with
  | answered => exact ⟨s, .refl g c failed s, System.answer?_of_answered hc⟩
  | closing x stage =>
    obtain ⟨v, goes, hv⟩ := closing_returns g failed hc
    exact ⟨v, goes, System.answer?_of_answered hv⟩
  | removing id =>
    have first : System.GoesOn g c failed s (s.stepped c (s.hub.remove id).2
        (.closeRemoved (s.hub.remove id).1 (.answer a) (.answer a))) := .step hc (.inl rfl) rfl
    have stands := System.calls_stepped hc (s.hub.remove id).2
      (.closeRemoved (s.hub.remove id).1 (.answer a) (.answer a))
    cases removed : (s.hub.remove id).1 with
    | none =>
      rw [removed] at first stands
      exact ⟨_, first, System.answer?_of_answered stands⟩
    | some x =>
      rw [removed] at first stands
      obtain ⟨v, goes, hv⟩ := closing_returns g failed stands
      exact ⟨v, first.trans goes, System.answer?_of_answered hv⟩

/-- So does a call that takes a step after which it leaves. -/
theorem Call.Leaving.returns_after {call call' : Call} {h' : Hub} {a : Answer}
    (leaving : call'.Leaving a) (hc : s.calls[c]? = some call)
    (hs : call.step g .go s.hub = some (h', call')) :
    ∃ v, System.GoesOn g c failed s v ∧ v.answer? c = some a := by
  obtain ⟨v, goes, answered⟩ := leaving.returns g failed (System.calls_stepped hc h' call')
  exact ⟨v, (System.GoesOn.step hc (.inl rfl) hs).trans goes, answered⟩

theorem applied_returns (g : Gateway) (failed : Bool) {x : Serial} {q : QueueId}
    (hc : s.calls[c]? = some (.applied x q)) :
    ∃ v, System.GoesOn g c failed s v ∧ v.answer? c = some .done :=
  Call.Leaving.returns_after .answered hc rfl

/-- A call that waits for an answer returns when it is there. -/
theorem awaiting_returns {x : Serial} {q : QueueId} {t : Ticket} {evict : Option String}
    {reply : Reply} {a : Answer} (hc : s.calls[c]? = some (.awaiting x q t evict))
    (told : s.hub.desk.replies t = some reply) (ends : reply.answer? = some a) :
    ∃ v, System.GoesOn g c failed s v ∧ v.answer? c = some a := by
  have found : s.hub.replies.get? t = some reply := told
  have step : (Call.awaiting x q t evict).step g .go s.hub = Call.await s.hub x q t evict := rfl
  unfold Call.await at step
  rw [found] at step
  cases reply with
  | awaited => cases ends
  | dropped =>
    cases ends
    exact (Call.leaving_resizeFailed s.hub q evict _).returns_after hc step
  | given result =>
    cases ends
    cases result with
    | error why => exact (Call.leaving_resizeFailed s.hub q evict why).returns_after hc step
    | ok _ =>
      obtain ⟨v, goes, answered⟩ :=
        applied_returns g failed (System.calls_stepped hc s.hub (.applied x q))
      exact ⟨v, (System.GoesOn.step hc (.inl rfl) step).trans goes, answered⟩

/-! ## Waiting -/

/-- A call waits at a queue whose reader is there: for room in it, or for its window's
turn. -/
structure System.Waits (s : System) (c : CallId) (q : QueueId) (queue : ControlQueue) : Prop where
  found : s.hub.queues.get? q = some queue
  reading : queue.reading = true
  reader : ∃ (d : CallId) (call : Call), s.calls[d]? = some call ∧ call.reads? = some q
  turn : (∃ x w evict, s.calls[c]? = some (.sending x q w evict) ∧ queue.hasRoom = false) ∨
    ∃ x t evict w, s.calls[c]? = some (.awaiting x q t evict) ∧ .resize t w ∈ queue.queued

/-- A call has returned, or waits. -/
def System.AtRest (s : System) (c : CallId) : Prop :=
  (∃ a, s.answer? c = some a) ∨ ∃ q queue, s.Waits c q queue

/-- A call that cannot send finds a queue whose reader is there, without room. -/
theorem Call.send_eq_none {h : Hub} {x : Serial} {q : QueueId} {evict : Option String}
    (hs : (sending x q w evict).step g .go h = none) :
    ∃ queue, h.queues.get? q = some queue ∧ queue.reading = true ∧ queue.hasRoom = false := by
  have stuck : send h x q w evict = none := hs
  unfold send at stuck
  split at stuck
  · cases stuck
  · rename_i queue found
    split at stuck
    · cases stuck
    · rename_i reading
      split at stuck
      · cases stuck
      · rename_i full
        exact ⟨queue, found, by simpa using reading, by simpa using full⟩

namespace Balanced

variable {rs : List Request} {sent : List (CallId × Errand)}
  {passed : List (CallId × QueueId × Terminal.Forwarded)} {call : Call}

/-- Where a call stands that asks for a window. -/
theorem stands (b : Balanced rs sent passed s) (hr : rs[c]? = some r) (asks : r.window? = some w)
    (hc : s.calls[c]? = some call) : Resizing s.hub.desk r w (notesOf c sent) call := by
  obtain ⟨call', hc', standing⟩ := b.standing c r w hr asks
  obtain rfl := Option.some.inj (hc.symm.trans hc')
  exact standing

theorem fate (b : Balanced rs sent passed s) {x : Errand} (hx : x ∈ notesOf c sent) :
    Fate s.hub.desk (passed.map Prod.snd) x :=
  b.desk.fate x (List.mem_map_of_mem (mem_of_mem_notesOf hx))

/-- Whoever is there to read a queue is one of the calls. -/
theorem exists_reader (b : Balanced rs sent passed s) {q : QueueId} {queue : ControlQueue}
    (found : s.hub.queues.get? q = some queue) (reading : queue.reading = true) :
    ∃ (d : CallId) (call : Call), s.calls[d]? = some call ∧ call.reads? = some q :=
  b.attended q ⟨queue.lane, Hub.lanes_desk found, reading⟩

theorem rests_of_awaiting (b : Balanced rs sent passed s) (hr : rs[c]? = some r)
    (asks : r.window? = some w) {x : Serial} {q : QueueId} {t : Ticket} {evict : Option String}
    (hc : s.calls[c]? = some (.awaiting x q t evict)) :
    ∃ v, System.GoesOn g c failed s v ∧ v.AtRest c := by
  have standing := b.stands hr asks hc
  generalize own : notesOf c sent = errands at standing
  cases standing with
  | leaving outcome leaving => cases leaving
  | awaiting =>
    have returns : ∀ {reply a}, s.hub.desk.replies t = some reply → reply.answer? = some a →
        ∃ v, System.GoesOn g c failed s v ∧ v.AtRest c := by
      intro reply a told ends
      obtain ⟨v, goes, answered⟩ := awaiting_returns hc told ends
      exact ⟨v, goes, .inl ⟨a, answered⟩⟩
    cases b.fate (own ▸ List.mem_singleton_self _) with
    | waits lane among =>
      obtain ⟨queue, found, same⟩ := Option.map_eq_some_iff.mp lane
      have reading : queue.reading = true := congrArg Lane.reading same
      have queued : queue.queued = _ := congrArg Lane.queued same
      refine ⟨s, .refl g c failed s, .inr ⟨q, queue, found, reading, ?_, ?_⟩⟩
      · exact b.exists_reader found reading
      · exact .inr ⟨x, t, evict, w, hc, queued ▸ among⟩
    | passed result given => exact returns given rfl
    | dropped left dropped => exact returns dropped rfl

theorem rests_of_sending (b : Balanced rs sent passed s) (hr : rs[c]? = some r)
    (asks : r.window? = some w) {x : Serial} {q : QueueId} {evict : Option String}
    (hc : s.calls[c]? = some (.sending x q w evict)) :
    ∃ v, System.GoesOn g c failed s v ∧ v.AtRest c := by
  cases hs : (Call.sending x q w evict).step g .go s.hub with
  | none =>
    obtain ⟨queue, found, reading, full⟩ := Call.send_eq_none hs
    refine ⟨s, .refl g c failed s, .inr ⟨q, queue, found, reading, ?_, ?_⟩⟩
    · exact b.exists_reader found reading
    · exact .inl ⟨x, w, evict, hc, full⟩
  | some p =>
    obtain ⟨h', call'⟩ := p
    obtain ⟨t, rfl⟩ | ⟨-, leaving⟩ := Call.send_cases hs
    · obtain ⟨v, goes, rests⟩ :=
        (b.step hc hs).rests_of_awaiting hr asks (System.calls_stepped hc h' _)
      exact ⟨v, (System.GoesOn.step hc (.inl rfl) hs).trans goes, rests⟩
    · obtain ⟨v, goes, answered⟩ := leaving.returns_after hc hs
      exact ⟨v, goes, .inl ⟨_, answered⟩⟩

theorem rests_of_sharing (b : Balanced rs sent passed s) (hr : rs[c]? = some r)
    (asks : r.window? = some w) {x : Serial} {evict : Option String}
    (hc : s.calls[c]? = some (.sharing x w evict)) :
    ∃ v, System.GoesOn g c failed s v ∧ v.AtRest c := by
  cases hq : s.hub.shareControl x with
  | mk q? m =>
    cases q? with
    | none =>
      have hs : (Call.sharing x w evict).step g .go s.hub =
          some (m, .answered (.failed noTerminal)) := by
        simp [Call.step, Call.onGo, hq]
      obtain ⟨v, goes, answered⟩ := Call.Leaving.returns_after .answered hc hs
      exact ⟨v, goes, .inl ⟨_, answered⟩⟩
    | some q =>
      have hs : (Call.sharing x w evict).step g .go s.hub = some (m, .sending x q w evict) := by
        simp [Call.step, Call.onGo, hq]
      obtain ⟨v, goes, rests⟩ :=
        (b.step hc hs).rests_of_sending hr asks (System.calls_stepped hc m _)
      exact ⟨v, (System.GoesOn.step hc (.inl rfl) hs).trans goes, rests⟩

theorem rests_of_asked (b : Balanced rs sent passed s) (hr : rs[c]? = some r)
    (asks : r.window? = some w) (hc : s.calls[c]? = some (.asked r)) :
    ∃ v, System.GoesOn g c failed s v ∧ v.AtRest c := by
  cases hp : Call.start g s.hub r with
  | mk h' call' =>
    have hs : (Call.asked r).step g .go s.hub = some (h', call') := congrArg some hp
    have stands : (s.stepped c h' call').calls[c]? = some call' := System.calls_stepped hc h' call'
    have first : System.GoesOn g c failed s (s.stepped c h' call') := .step hc (.inl rfl) hs
    have shares : ∀ {x evict}, call' = .sharing x w evict →
        ∃ v, System.GoesOn g c failed s v ∧ v.AtRest c := by
      rintro x evict rfl
      obtain ⟨v, goes, rests⟩ := (b.step hc hs).rests_of_sharing hr asks stands
      exact ⟨v, first.trans goes, rests⟩
    cases r with
    | resizeSession x w' =>
      cases asks
      cases hp
      exact shares rfl
    | resize id w' =>
      cases asks
      obtain ⟨x, sharing⟩ | ⟨why, -, rfl⟩ := Call.start_resize hs
      · exact shares sharing
      · exact ⟨_, first, .inl ⟨_, System.answer?_of_answered stands⟩⟩
    | _ => cases asks

/-- **A call that asks for a window returns on its own, or waits** at a queue whose reader is
there. -/
theorem comes_to_rest (b : Balanced rs sent passed s) (hr : rs[c]? = some r)
    (asks : r.window? = some w) : ∃ v, System.GoesOn g c failed s v ∧ v.AtRest c := by
  obtain ⟨call, hc, standing⟩ := b.standing c r w hr asks
  generalize notesOf c sent = own at standing
  cases standing with
  | asked => exact b.rests_of_asked hr asks hc
  | sharing x evict => exact b.rests_of_sharing hr asks hc
  | sending x q evict => exact b.rests_of_sending hr asks hc
  | awaiting x q t evict => exact b.rests_of_awaiting hr asks hc
  | applied x q t given =>
    obtain ⟨v, goes, answered⟩ := applied_returns g failed hc
    exact ⟨v, goes, .inl ⟨_, answered⟩⟩
  | leaving outcome leaving =>
    obtain ⟨v, goes, answered⟩ := leaving.returns g failed hc
    exact ⟨v, goes, .inl ⟨_, answered⟩⟩

end Balanced

/-! ## What was passed on for a call -/

/-- What was passed on of some windows that were sent. -/
def passedOf (own : List Errand) (passed : List (QueueId × Terminal.Forwarded)) :
    List Terminal.Forwarded :=
  own.flatMap fun x => (passesOf x.ticket passed).map Prod.snd

/-- What was passed on for a call along a schedule. -/
def forwards (g : Gateway) (moves : List Move) (c : CallId) : List Terminal.Forwarded :=
  passedOf (notesOf c (sent g moves)) ((passed g moves).map Prod.snd)

/-- How a call that asks for a window ends, by what it has sent and what was passed on for
it. -/
inductive Verdict (r : Request) (w : Window) :
    List Errand → List Terminal.Forwarded → Answer → Prop where
  | unsent (why : Failure) (cause : Unsent r why) : Verdict r w [] [] (.failed why)
  | dropped (q : QueueId) (t : Ticket) : Verdict r w [⟨q, t, w⟩] [] (.failed resizeDropped)
  | passed (q : QueueId) (t : Ticket) : Verdict r w [⟨q, t, w⟩] [⟨t, w, .ok ()⟩] .done
  | broken (q : QueueId) (t : Ticket) (detail : String) :
      Verdict r w [⟨q, t, w⟩] [⟨t, w, .error (.link detail)⟩] (.failed (.link detail))

/-- A failure for which a window is not passed on: it was not sent, or was dropped. -/
def Unpassed (r : Request) (why : Failure) : Prop :=
  Unsent r why ∨ why = resizeDropped

theorem not_unsent_dropped : ¬ Unsent r resizeDropped := by
  rintro (refused | gone)
  · cases refused
  · simp [resizeDropped, terminalGone] at gone

theorem not_unsent_link (detail : String) : ¬ Unsent r (.link detail) := by
  rintro (refused | gone)
  · cases refused
  · cases gone

namespace Verdict

variable {own : List Errand} {windows : List Terminal.Forwarded} {a : Answer} {why : Failure}

theorem returned (verdict : Verdict r w own windows a) : a = .done ∨ ∃ why, a = .failed why := by
  cases verdict with
  | passed => exact .inl rfl
  | unsent | dropped | broken => exact .inr ⟨_, rfl⟩

theorem done_iff (verdict : Verdict r w own windows a) :
    a = .done ↔ ∃ t, windows = [⟨t, w, .ok ()⟩] := by
  cases verdict with
  | passed q t => exact ⟨fun _ => ⟨t, rfl⟩, fun _ => rfl⟩
  | unsent | dropped | broken =>
    constructor
    · intro done
      cases done
    · rintro ⟨t, once⟩
      cases once

theorem unpassed (verdict : Verdict r w own windows (.failed why)) (cause : Unpassed r why) :
    windows = [] := by
  cases verdict with
  | unsent | dropped => rfl
  | broken q t detail =>
    obtain unsent | dropped := cause
    · exact (not_unsent_link detail unsent).elim
    · cases dropped

theorem once_of_broken (verdict : Verdict r w own windows (.failed why))
    (other : ¬ Unpassed r why) : ∃ t, windows = [⟨t, w, .error why⟩] := by
  cases verdict with
  | unsent why cause => exact absurd (.inl cause) other
  | dropped => exact absurd (.inr rfl) other
  | broken q t detail => exact ⟨t, rfl⟩

/-- Every failure is a transport failure, unless the call was refused. -/
theorem transport (verdict : Verdict r w own windows (.failed why)) :
    why.isTransport = true ∨ Refused r why := by
  cases verdict with
  | unsent why cause =>
    obtain refused | rfl := cause
    · exact .inr refused
    · exact .inl rfl
  | dropped | broken => exact .inl rfl

theorem sent_nothing (verdict : Verdict r w own windows (.failed why)) (cause : Unsent r why) :
    own = [] := by
  cases verdict with
  | unsent => rfl
  | dropped => exact (not_unsent_dropped cause).elim
  | broken q t detail => exact (not_unsent_link detail cause).elim

end Verdict

theorem passedOf_singleton {passed : List (QueueId × Terminal.Forwarded)} (x : Errand) :
    passedOf [x] passed = (passesOf x.ticket passed).map Prod.snd :=
  List.append_nil _

/-- What a call comes to agrees with what was passed on for it. -/
theorem Outcome.verdict {d : Desk} {own : List Errand} {a : Answer}
    {passed : List (QueueId × Terminal.Forwarded)} (outcome : Outcome d r w own a)
    (fate : ∀ x ∈ own, Fate d passed x) : Verdict r w own (passedOf own passed) a := by
  cases outcome with
  | unsent why cause => exact .unsent why cause
  | told q t reply a told ends =>
    have fate := fate _ (List.mem_singleton_self _)
    rw [passedOf_singleton]
    cases reply with
    | awaited => cases ends
    | dropped =>
      cases ends
      rw [(fate.of_dropped told).2]
      exact .dropped q t
    | given result =>
      cases ends
      obtain ⟨once, rfl | ⟨detail, rfl⟩⟩ := fate.of_given told
      · rw [once]
        exact .passed q t
      · rw [once]
        exact .broken q t detail

/-- Who is told that a window was dropped has sent it, and its queue has lost its reader. -/
theorem Outcome.left_of_dropped {d : Desk} {own : List Errand}
    {passed : List (QueueId × Terminal.Forwarded)}
    (outcome : Outcome d r w own (.failed resizeDropped)) (fate : ∀ x ∈ own, Fate d passed x) :
    ∃ q t, own = [⟨q, t, w⟩] ∧ d.lanes q = some ⟨[], false⟩ := by
  cases outcome with
  | unsent why cause => exact (not_unsent_dropped cause).elim
  | told q t reply a told ends =>
    have fate := fate _ (List.mem_singleton_self _)
    cases reply with
    | awaited => cases ends
    | dropped => exact ⟨q, t, rfl, (fate.of_dropped told).1⟩
    | given result =>
      obtain ⟨-, rfl | ⟨detail, rfl⟩⟩ := fate.of_given told
      · cases ends
      · cases ends

/-- A call that has returned has come to its outcome. -/
theorem Resizing.outcome {d : Desk} {own : List Errand} {a : Answer}
    (standing : Resizing d r w own (.answered a)) : Outcome d r w own a := by
  cases standing with
  | leaving outcome leaving =>
    cases leaving
    exact outcome

theorem Balanced.outcome {rs : List Request} {sent : List (CallId × Errand)}
    {passed : List (CallId × QueueId × Terminal.Forwarded)} (b : Balanced rs sent passed s)
    (hr : rs[c]? = some r) (asks : r.window? = some w) {a : Answer}
    (answered : s.answer? c = some a) : Outcome s.hub.desk r w (notesOf c sent) a := by
  obtain ⟨call, hc, hanswer⟩ := Option.bind_eq_some_iff.mp answered
  cases call with
  | answered a' =>
    cases hanswer
    exact (b.stands hr asks hc).outcome
  | _ => cases hanswer

theorem Balanced.verdict {rs : List Request} {sent : List (CallId × Errand)}
    {passed : List (CallId × QueueId × Terminal.Forwarded)} (b : Balanced rs sent passed s)
    (hr : rs[c]? = some r) (asks : r.window? = some w) {a : Answer}
    (answered : s.answer? c = some a) :
    Verdict r w (notesOf c sent) (passedOf (notesOf c sent) (passed.map Prod.snd)) a :=
  (b.outcome hr asks answered).verdict fun _ hx => b.fate hx

/-- A call whose window was passed on, and went well, returns on its own and says so. -/
theorem Balanced.succeeds {rs : List Request} {sent : List (CallId × Errand)}
    {passed : List (CallId × QueueId × Terminal.Forwarded)} (b : Balanced rs sent passed s)
    (hr : rs[c]? = some r) (asks : r.window? = some w) {t : Ticket}
    (once : passedOf (notesOf c sent) (passed.map Prod.snd) = [⟨t, w, .ok ()⟩]) :
    ∃ v, System.GoesOn g c failed s v ∧ v.answer? c = some .done := by
  obtain ⟨call, hc, standing⟩ := b.standing c r w hr asks
  have fate : ∀ x ∈ notesOf c sent, Fate s.hub.desk (passed.map Prod.snd) x :=
    fun x hx => b.fate hx
  generalize notesOf c sent = own at standing once fate
  cases standing with
  | asked | sharing | sending => cases once
  | awaiting x q t' evict =>
    rw [passedOf_singleton] at once
    cases fate _ (List.mem_singleton_self _) with
    | waits lane among awaited unpassed =>
      rw [unpassed] at once
      cases once
    | dropped left dropped unpassed =>
      rw [unpassed] at once
      cases once
    | passed result given once' =>
      rw [once'] at once
      cases once
      exact awaiting_returns hc given rfl
  | applied x q t' given => exact applied_returns g failed hc
  | leaving outcome leaving =>
    have verdict := outcome.verdict fate
    rw [once] at verdict
    cases verdict
    exact leaving.returns g failed hc

/-! ## What keeps a window from being sent -/

/-- A call that leaves with an answer leaves with no other. -/
theorem Call.Leaving.unique {call : Call} {a a' : Answer} (leaving : call.Leaving a)
    (leaving' : call.Leaving a') : a = a' := by
  cases leaving <;> cases leaving' <;> rfl

/-- A step in which a call finds what keeps it from sending its window. -/
structure Hindrance (g : Gateway) (moves : List Move) (c : CallId) (w : Window)
    (why : Failure) extends System.Turn g System.initial moves where
  isStep : move = .step c .go
  found : ∃ call, before.calls[c]? = some call ∧ Hinders before.hub w call why
  leaves : ∃ call, after.calls[c]? = some call ∧ call.Leaving (.failed why)

/-- A call that comes to leave without having sent its window finds what keeps it from that. -/
theorem Resizing.hinders {h h' : Hub} {call call' : Call} {e : Event} {own : List Errand}
    {passed : List (QueueId × Terminal.Forwarded)} {why : Failure}
    (standing : Resizing h.desk r w own call) (fate : ∀ x ∈ own, Fate h.desk passed x)
    (asks : r.window? = some w) (cause : Unsent r why)
    (hs : call.step g e h = some (h', call')) (before : ¬ call.Leaving (.failed why))
    (after : call'.Leaving (.failed why)) : e = .go ∧ Hinders h w call why := by
  cases standing with
  | asked =>
    refine ⟨(Option.ite_none_right_eq_some.mp hs).1, ?_⟩
    cases r with
    | resizeSession x w' =>
      cases Call.onGo_eq hs
      cases after
    | resize id w' =>
      cases asks
      obtain ⟨x, rfl⟩ | ⟨why', hinders, rfl⟩ := Call.start_resize hs
      · cases after
      · cases after
        exact hinders
    | _ => cases asks
  | sharing x evict =>
    refine ⟨(Option.ite_none_right_eq_some.mp hs).1, ?_⟩
    obtain ⟨q, rfl⟩ | ⟨hinders, rfl⟩ := Call.share_cases hs
    · cases after
    · cases after
      exact hinders
  | sending x q evict =>
    refine ⟨(Option.ite_none_right_eq_some.mp hs).1, ?_⟩
    obtain ⟨t, rfl⟩ | ⟨hinders, leaving⟩ := Call.send_cases hs
    · cases after
    · cases after.unique leaving
      exact hinders
  | awaiting x q t evict =>
    obtain ⟨-, rfl⟩ | ⟨reply, a, told, ends, leaving⟩ := Call.await_cases hs
    · cases after
    · obtain rfl := after.unique leaving
      -- it has sent its window, so it fails for another reason
      have outcome : Outcome h.desk r w [⟨q, t, w⟩] (.failed why) := .told q t reply _ told ends
      cases (outcome.verdict fate).sent_nothing cause
  | applied x q t given =>
    cases Call.onGo_eq hs
    cases after
  | leaving outcome leaving =>
    rw [(leaving.step hs).unique after] at leaving
    exact absurd leaving before

/-- A call that has not sent its window has found what keeps it from that. -/
theorem exists_hindrance (ran : System.initial.run g moves = some u)
    (hr : (requests moves)[c]? = some r) (asks : r.window? = some w) {why : Failure}
    (cause : Unsent r why) (answered : u.answer? c = some (.failed why)) :
    Nonempty (Hindrance g moves c w why) := by
  obtain ⟨last, hlast, hanswer⟩ := Option.bind_eq_some_iff.mp answered
  have returned : last.Leaving (.failed why) := by
    cases last with
    | answered a =>
      cases hanswer
      exact .answered
    | _ => cases hanswer
  obtain ⟨x, e, call, h', call', hm, hc, before, hs, hx, after⟩ := System.exists_arrival
    (P := Call.Leaving (.failed why)) (fun r h => by cases h) ran (fun call hc => by cases hc) hlast
    returned
  have b := Balanced.run x.reached
  -- the call had been asked for by then
  have here : (requests x.past)[c]? = some r := by
    have earlier : c < (requests x.past).length := by
      rw [← b.numbered]
      exact (List.getElem?_eq_some_iff.mp hc).1
    unfold requests at hr earlier ⊢
    rw [x.split, List.filterMap_append, List.getElem?_append_left earlier] at hr
    exact hr
  obtain ⟨rfl, hinders⟩ :=
    (b.stands here asks hc).hinders (fun x hx => b.fate hx) asks cause hs before after
  refine ⟨⟨x, hm, ⟨call, hc, hinders⟩, call', ?_, after⟩⟩
  rw [hx]
  exact System.calls_stepped hc h' call'

/-! ## Windows are served -/

/-- What holds of call `c`, which asks for window `w` by request `r`, along a schedule that
leads to system `u`. -/
structure Served (g : Gateway) (moves : List Move) (u : System) (c : CallId) (r : Request)
    (w : Window) : Prop where
  /-- It returns `done`, or fails. -/
  returned : ∀ a, u.answer? c = some a → a = .done ∨ ∃ why, a = .failed why
  /-- It returns `done` if and only if its window was passed on, once, and that went well. -/
  done_iff : ∀ a, u.answer? c = some a →
    (a = .done ↔ ∃ t, forwards g moves c = [⟨t, w, .ok ()⟩])
  /-- If it fails because its window was not sent, or was dropped, then that was not passed
  on. -/
  unpassed : ∀ why, u.answer? c = some (.failed why) → Unpassed r why → forwards g moves c = []
  /-- If it fails for another reason, then that is how passing on its window went, once. -/
  broken : ∀ why, u.answer? c = some (.failed why) → ¬ Unpassed r why →
    ∃ t, forwards g moves c = [⟨t, w, .error why⟩]
  /-- Every failure is a transport failure, unless the call was refused. -/
  transport : ∀ why, u.answer? c = some (.failed why) → why.isTransport = true ∨ Refused r why
  /-- If it says that it was refused or that the terminal has gone, then it was so, and
  nothing was sent. -/
  unsent : ∀ why, u.answer? c = some (.failed why) → Unsent r why →
    notesOf c (sent g moves) = [] ∧ Nonempty (Hindrance g moves c w why)
  /-- If it says that its window was dropped, then that was sent, through a queue that has lost
  its reader. -/
  dropped : u.answer? c = some (.failed resizeDropped) →
    ∃ q t, notesOf c (sent g moves) = [⟨q, t, w⟩] ∧
      ∃ queue, u.hub.queues.get? q = some queue ∧ queue.reading = false
  /-- If its window was passed on and that went well, it returns `done` on its own. -/
  succeeds : ∀ failed t, forwards g moves c = [⟨t, w, .ok ()⟩] →
    ∃ v, System.GoesOn g c failed u v ∧ v.answer? c = some .done
  /-- In any case it returns on its own, or waits at a queue whose reader is there. -/
  comes_to_rest : ∀ failed, ∃ v, System.GoesOn g c failed u v ∧ v.AtRest c

/-- What holds of all windows along a schedule that leads to system `u`. -/
structure WindowsServed (g : Gateway) (moves : List Move) (u : System) : Prop where
  /-- No control queue holds more than it may. -/
  room : ∀ q queue, u.hub.queues.get? q = some queue →
    queue.queued.length ≤ ControlQueue.capacity
  /-- What was passed on from a queue was sent through it, in the same order. -/
  in_order : ∀ q, passedFrom q ((passed g moves).map Prod.snd) <+:
    sentThrough q ((sent g moves).map Prod.snd)
  /-- As long as the queue has its reader, the rest waits in it. -/
  waiting : ∀ q queue, u.hub.queues.get? q = some queue → queue.reading = true →
    sentThrough q ((sent g moves).map Prod.snd) =
      passedFrom q ((passed g moves).map Prod.snd) ++ queue.queued.filterMap Command.window?
  /-- Nothing was passed on twice. -/
  once : (((passed g moves).map Prod.snd).map (·.2.ticket)).Nodup
  /-- Nothing else was passed on: this is what terminals have passed on by their own
  account. -/
  account : ∀ d id x q task, u.calls[d]? = some (.bridging id x q task) →
    task.forwarded = (notesOf d (passed g moves)).map Prod.snd
  /-- Each call that asks for a window is served. -/
  served : ∀ c r w, (requests moves)[c]? = some r → r.window? = some w → Served g moves u c r w

theorem Served.of_run (ran : System.initial.run g moves = some u)
    (hr : (requests moves)[c]? = some r) (asks : r.window? = some w) : Served g moves u c r w := by
  have b := Balanced.run ran
  have verdict : ∀ {a}, u.answer? c = some a →
      Verdict r w (notesOf c (sent g moves)) (forwards g moves c) a := b.verdict hr asks
  constructor
  case returned => exact fun a answered => (verdict answered).returned
  case done_iff => exact fun a answered => (verdict answered).done_iff
  case unpassed => exact fun why answered => (verdict answered).unpassed
  case broken => exact fun why answered => (verdict answered).once_of_broken
  case transport => exact fun why answered => (verdict answered).transport
  case unsent =>
    intro why answered cause
    exact ⟨(verdict answered).sent_nothing cause, exists_hindrance ran hr asks cause answered⟩
  case dropped =>
    intro answered
    obtain ⟨q, t, own, left⟩ :=
      (b.outcome hr asks answered).left_of_dropped fun x hx => b.fate hx
    obtain ⟨queue, found, same⟩ := Option.map_eq_some_iff.mp left
    exact ⟨q, t, own, queue, found, congrArg Lane.reading same⟩
  case succeeds => exact fun failed t once => b.succeeds hr asks once
  case comes_to_rest => exact fun failed => b.comes_to_rest hr asks

/-- **Windows are served**: however the calls happen to run, no request for a window is lost,
and none is passed on twice. -/
theorem windows_served (ran : System.initial.run g moves = some u) : WindowsServed g moves u := by
  have b := Balanced.run ran
  constructor
  case room => exact fun q queue found => b.desk.room (Hub.lanes_desk found)
  case in_order => exact b.desk.prefix_sent
  case waiting => exact fun q queue found => b.desk.sent_eq (Hub.lanes_desk found)
  case once => exact b.desk.nodup_passed
  case account => exact fun d id x q task hd => b.account d _ hd rfl
  case served => exact fun c r w hr asks => .of_run ran hr asks

/-! ## Three windows -/

/-- Three calls ask for windows. The first finds no terminal. Then one is attached: it passes the
second window on, and is stopped before it comes to the third. -/
def threeWindows : List Move :=
  let wide : Window := { width := 100, height := 30 }
  let tall : Window := { width := 80, height := 50 }
  [.make (someInfo "a") true, .start (.put 0), .step 0 .go,
    .start (.resizeSession 0 .standard), .step 1 .go, .step 1 .go,
    .start (.terminal "a" .standard), .step 2 .go, .step 2 .go, .step 2 .go,
    .step 2 (.terminal (.requested none)), .step 2 (.terminal (.message .success none)),
    .step 2 (.terminal (.requested none)), .step 2 (.terminal (.message .success none)),
    .step 2 (.terminal .attached),
    .start (.resizeSession 0 wide), .step 3 .go, .step 3 .go, .step 3 .go,
    .start (.resizeSession 0 tall), .step 4 .go, .step 4 .go, .step 4 .go,
    .step 2 (.control none), .step 2 (.terminal (.stopped 7)),
    .step 3 .go, .step 3 .go, .step 4 .go]

theorem windows_served_threeWindows : ∃ u,
    System.initial.run strandedGateway threeWindows = some u ∧
      u.answer? 1 = some (.failed noTerminal) ∧ u.answer? 3 = some .done ∧
        u.answer? 4 = some (.failed resizeDropped) ∧
          forwards strandedGateway threeWindows 3 = [⟨0, ⟨100, 30⟩, .ok ()⟩] ∧
            forwards strandedGateway threeWindows 4 = [] ∧
              WindowsServed strandedGateway threeWindows u := by
  refine ⟨_, rfl, rfl, rfl, rfl, rfl, rfl, ?_⟩
  exact windows_served rfl

end ShellGateway.Session
