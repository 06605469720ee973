import Mathlib.Data.List.Infix
import Mathlib.Data.List.Nodup
import Mathlib.Data.List.Range
import ShellGateway.Proofs.Session.Traffic

/-!
# What becomes of windows that were sent

An account is kept of all windows that were sent through control queues and of all that
were passed on. It goes with the desk (`Desk.Kept`). No queue ever holds more than it may.
What was passed on from a queue was sent through it, in the same order; as long as the
queue has its reader, what is missing waits in the queue (`Account`). Each window has one
of three fates: it waits, and so does whoever sent it; it was passed on, once, and the
answer says how that went; or it was dropped, and so will whoever waits for it be told
(`Fate`).

Whatever calls do to the desk, the account is kept (`Desk.Kept.step`).
-/

namespace ShellGateway.Session

/-- The window of a command, with its ticket. -/
def Command.window? : Command → Option (Ticket × Window)
  | resize ticket window => some (ticket, window)
  | close => none

/-- The windows that were sent through a queue. -/
def sentThrough (q : QueueId) (sent : List Errand) : List (Ticket × Window) :=
  (sent.filter (·.queue = q)).map fun x => (x.ticket, x.window)

/-- The windows that were passed on from a queue. -/
def passedFrom (q : QueueId) (passed : List (QueueId × Terminal.Forwarded)) :
    List (Ticket × Window) :=
  (passed.filter (·.1 = q)).map fun p => (p.2.ticket, p.2.window)

/-- How often and how the window of a ticket was passed on. -/
def passesOf (t : Ticket) (passed : List (QueueId × Terminal.Forwarded)) :
    List (QueueId × Terminal.Forwarded) :=
  passed.filter (·.2.ticket = t)

/-- What was sent through a queue and passed on from it, given what is known of the
queue. -/
inductive Account (sent passed : List (Ticket × Window)) : Option Lane → Prop where
  /-- The queue is not set up yet. -/
  | unmade (unsent : sent = []) (unpassed : passed = []) : Account sent passed none
  /-- What was not passed on waits in the queue. -/
  | read {queued : List Command} (room : queued.length ≤ ControlQueue.capacity)
      (order : sent = passed ++ queued.filterMap Command.window?) :
      Account sent passed (some ⟨queued, true⟩)
  /-- What was not passed on is lost. -/
  | left (order : passed <+: sent) : Account sent passed (some ⟨[], false⟩)

/-- What has become of a window that was sent. -/
inductive Fate (d : Desk) (passed : List (QueueId × Terminal.Forwarded)) (x : Errand) : Prop where
  | waits {queued : List Command} (lane : d.lanes x.queue = some ⟨queued, true⟩)
      (among : .resize x.ticket x.window ∈ queued)
      (awaited : d.replies x.ticket = some .awaited) (unpassed : passesOf x.ticket passed = [])
  | passed (result : Except Failure Unit) (given : d.replies x.ticket = some (.given result))
      (once : passesOf x.ticket passed = [(x.queue, ⟨x.ticket, x.window, result⟩)])
      (how : result = .ok () ∨ ∃ detail, result = .error (.link detail))
  | dropped (lane : d.lanes x.queue = some ⟨[], false⟩)
      (dropped : d.replies x.ticket = some .dropped) (unpassed : passesOf x.ticket passed = [])

/-- A window that was answered for was passed on. -/
theorem Fate.of_given {d : Desk} {passed : List (QueueId × Terminal.Forwarded)} {x : Errand}
    (fate : Fate d passed x) {result : Except Failure Unit}
    (given : d.replies x.ticket = some (.given result)) :
    passesOf x.ticket passed = [(x.queue, ⟨x.ticket, x.window, result⟩)] ∧
      (result = .ok () ∨ ∃ detail, result = .error (.link detail)) := by
  cases fate with
  | waits lane among awaited => cases given.symm.trans awaited
  | passed result' given' once how =>
    cases given.symm.trans given'
    exact ⟨once, how⟩
  | dropped lane dropped => cases given.symm.trans dropped

/-- A window that nobody will answer for was not passed on: whoever read its queue has left. -/
theorem Fate.of_dropped {d : Desk} {passed : List (QueueId × Terminal.Forwarded)} {x : Errand}
    (fate : Fate d passed x) (dropped : d.replies x.ticket = some .dropped) :
    d.lanes x.queue = some ⟨[], false⟩ ∧ passesOf x.ticket passed = [] := by
  cases fate with
  | waits lane among awaited unpassed => cases dropped.symm.trans awaited
  | passed result given => cases dropped.symm.trans given
  | dropped lane dropped' unpassed => exact ⟨lane, unpassed⟩

theorem mem_sentThrough {q : QueueId} {sent : List Errand} {t : Ticket} {w : Window} :
    (t, w) ∈ sentThrough q sent ↔ ⟨q, t, w⟩ ∈ sent := by
  constructor
  · intro h
    obtain ⟨x, hx, same⟩ := List.mem_map.mp h
    obtain ⟨there, queue⟩ := List.mem_filter.mp hx
    obtain ⟨rfl, rfl⟩ := Prod.mk.inj same
    obtain rfl := of_decide_eq_true queue
    exact there
  · intro h
    exact List.mem_map.mpr ⟨_, List.mem_filter.mpr ⟨h, decide_eq_true rfl⟩, rfl⟩

theorem mem_passedFrom {passed : List (QueueId × Terminal.Forwarded)}
    {p : QueueId × Terminal.Forwarded} (hp : p ∈ passed) :
    (p.2.ticket, p.2.window) ∈ passedFrom p.1 passed :=
  List.mem_map.mpr ⟨p, List.mem_filter.mpr ⟨hp, decide_eq_true rfl⟩, rfl⟩

theorem mem_waiting {queued : List Command} {t : Ticket} {w : Window} :
    (t, w) ∈ queued.filterMap Command.window? ↔ .resize t w ∈ queued := by
  rw [List.mem_filterMap]
  constructor
  · rintro ⟨c, hc, same⟩
    cases c with
    | resize t' w' =>
      cases same
      exact hc
    | close => cases same
  · intro h
    exact ⟨_, h, rfl⟩

theorem sentThrough_append (q : QueueId) (a b : List Errand) :
    sentThrough q (a ++ b) = sentThrough q a ++ sentThrough q b := by
  unfold sentThrough
  rw [List.filter_append, List.map_append]

theorem passedFrom_append (q : QueueId) (a b : List (QueueId × Terminal.Forwarded)) :
    passedFrom q (a ++ b) = passedFrom q a ++ passedFrom q b := by
  unfold passedFrom
  rw [List.filter_append, List.map_append]

theorem sentThrough_singleton (q : QueueId) (x : Errand) :
    sentThrough q [x] = if q = x.queue then [(x.ticket, x.window)] else [] := by
  unfold sentThrough
  by_cases here : q = x.queue
  · rw [if_pos here, List.filter_cons_of_pos (by simp [here])]
    rfl
  · rw [if_neg here, List.filter_cons_of_neg (by simp [Ne.symm here])]
    rfl

theorem passedFrom_singleton (q : QueueId) (p : QueueId × Terminal.Forwarded) :
    passedFrom q [p] = if q = p.1 then [(p.2.ticket, p.2.window)] else [] := by
  unfold passedFrom
  by_cases here : q = p.1
  · rw [if_pos here, List.filter_cons_of_pos (by simp [here])]
    rfl
  · rw [if_neg here, List.filter_cons_of_neg (by simp [Ne.symm here])]
    rfl

theorem passesOf_concat (t : Ticket) (passed : List (QueueId × Terminal.Forwarded))
    (p : QueueId × Terminal.Forwarded) :
    passesOf t (passed ++ [p]) = passesOf t passed ++ if p.2.ticket = t then [p] else [] := by
  unfold passesOf
  rw [List.filter_append]
  by_cases own : p.2.ticket = t
  · rw [if_pos own, List.filter_cons_of_pos (by simp [own])]
    rfl
  · rw [if_neg own, List.filter_cons_of_neg (by simp [own])]
    rfl

/-- A fate is not changed by what happens elsewhere. -/
theorem Fate.carry {d d' : Desk} {passed passed' : List (QueueId × Terminal.Forwarded)} {x : Errand}
    (fate : Fate d passed x)
    (lane : ∀ queued, d.lanes x.queue = some ⟨queued, true⟩ →
      .resize x.ticket x.window ∈ queued → ∃ queued', d'.lanes x.queue = some ⟨queued', true⟩ ∧
        .resize x.ticket x.window ∈ queued')
    (left : d.lanes x.queue = some ⟨[], false⟩ → d'.lanes x.queue = some ⟨[], false⟩)
    (reply : d'.replies x.ticket = d.replies x.ticket)
    (passes : passesOf x.ticket passed' = passesOf x.ticket passed) : Fate d' passed' x := by
  cases fate with
  | waits there among awaited unpassed =>
    obtain ⟨queued', there', among'⟩ := lane _ there among
    exact .waits there' among' (reply.trans awaited) (passes.trans unpassed)
  | passed result given once how =>
    exact .passed result (reply.trans given) (passes.trans once) how
  | dropped there dropped unpassed =>
    exact .dropped (left there) (reply.trans dropped) (passes.trans unpassed)

/-- Nor is it by what happens to the commands in a queue, as long as the window stays among
them. -/
theorem Fate.carry_put {d d' : Desk} {passed passed' : List (QueueId × Terminal.Forwarded)}
    {x : Errand} (fate : Fate d passed x) {q : QueueId} {before after : List Command}
    (lane : d.lanes q = some ⟨before, true⟩)
    (lanes : ∀ q', d'.lanes q' = if q' = q then some ⟨after, true⟩ else d.lanes q')
    (stays : .resize x.ticket x.window ∈ before → .resize x.ticket x.window ∈ after)
    (reply : d'.replies x.ticket = d.replies x.ticket)
    (passes : passesOf x.ticket passed' = passesOf x.ticket passed) : Fate d' passed' x := by
  refine fate.carry (fun waiting there among => ?_) (fun left => ?_) reply passes
  · rw [lanes]
    by_cases here : x.queue = q
    · rw [here, lane] at there
      cases there
      rw [if_pos here]
      exact ⟨after, rfl, stays among⟩
    · rw [if_neg here]
      exact ⟨waiting, there, among⟩
  · rw [lanes]
    by_cases here : x.queue = q
    · rw [here, lane] at left
      cases left
    · rw [if_neg here]
      exact left

namespace Desk

/-- The account of what was sent and passed on agrees with the desk. -/
structure Kept (d : Desk) (sent : List Errand) (passed : List (QueueId × Terminal.Forwarded)) :
    Prop where
  tickets : sent.map (·.ticket) = List.range d.nextTicket
  fresh : ∀ q, d.nextQueue ≤ q → d.lanes q = none
  account : ∀ q, Account (sentThrough q sent) (passedFrom q passed) (d.lanes q)
  fate : ∀ x ∈ sent, Fate d passed x

namespace Kept

variable {d d' : Desk} {sent : List Errand} {passed : List (QueueId × Terminal.Forwarded)}

theorem nodup (k : d.Kept sent passed) : (sent.map (·.ticket)).Nodup := by
  rw [k.tickets]
  exact List.nodup_range

/-- A ticket goes with one window. -/
theorem eq_of_ticket (k : d.Kept sent passed) {x y : Errand} (hx : x ∈ sent) (hy : y ∈ sent)
    (same : x.ticket = y.ticket) : x = y :=
  List.inj_on_of_nodup_map k.nodup hx hy same

theorem lt_nextTicket (k : d.Kept sent passed) {x : Errand} (hx : x ∈ sent) :
    x.ticket < d.nextTicket := by
  have listed : x.ticket ∈ sent.map (·.ticket) := List.mem_map_of_mem hx
  rw [k.tickets] at listed
  exact List.mem_range.mp listed

/-- A queue that is set up is not one of those still to come. -/
theorem ne_of_fresh (k : d.Kept sent passed) {q q' : QueueId} {l : Lane}
    (lane : d.lanes q = some l) (later : d.nextQueue ≤ q') : q' ≠ q := by
  rintro rfl
  rw [k.fresh q' later] at lane
  cases lane

/-- What was passed on from a queue was sent through it. -/
theorem prefix_sent (k : d.Kept sent passed) (q : QueueId) :
    passedFrom q passed <+: sentThrough q sent := by
  have account := k.account q
  generalize d.lanes q = lane at account
  cases account with
  | unmade unsent unpassed =>
    rw [unpassed]
    exact List.nil_prefix
  | read room order => exact ⟨_, order.symm⟩
  | left order => exact order

/-- As long as a queue is read, what was sent through it and not passed on waits in it. -/
theorem sent_eq (k : d.Kept sent passed) {q : QueueId} {l : Lane} (lane : d.lanes q = some l)
    (reading : l.reading = true) :
    sentThrough q sent = passedFrom q passed ++ l.queued.filterMap Command.window? := by
  have account := k.account q
  rw [lane] at account
  cases account with
  | read room order => exact order
  | left => cases reading

theorem mem_sent (k : d.Kept sent passed) {p : QueueId × Terminal.Forwarded} (hp : p ∈ passed) :
    ⟨p.1, p.2.ticket, p.2.window⟩ ∈ sent :=
  mem_sentThrough.mp ((k.prefix_sent p.1).subset (mem_passedFrom hp))

/-- Nothing is passed on twice from a queue. -/
theorem nodup_sentThrough (k : d.Kept sent passed) (q : QueueId) : (sentThrough q sent).Nodup := by
  have tickets : ((sentThrough q sent).map Prod.fst).Nodup := by
    unfold sentThrough
    rw [List.map_map]
    exact k.nodup.sublist ((List.filter_sublist).map _)
  exact .of_map _ tickets

/-- **No window is passed on twice.** -/
theorem nodup_passed (k : d.Kept sent passed) : (passed.map (·.2.ticket)).Nodup := by
  refine List.nodup_iff_count_le_one.mpr fun t => ?_
  have count : (passed.map (·.2.ticket)).count t = (passesOf t passed).length := by
    rw [List.count, List.countP_map, List.countP_eq_length_filter]
    rfl
  rw [count]
  cases own : passesOf t passed with
  | nil => exact Nat.zero_le 1
  | cons p rest =>
    -- whoever sent the window has one account of it at most
    obtain ⟨hp, same⟩ := List.mem_filter.mp (own ▸ List.mem_cons_self : p ∈ passesOf t passed)
    obtain rfl : p.2.ticket = t := of_decide_eq_true same
    rw [← own]
    cases k.fate _ (k.mem_sent hp) with
    | waits lane among awaited unpassed =>
      rw [unpassed]
      exact Nat.zero_le 1
    | passed result given once =>
      rw [once]
      exact Nat.le_refl 1
    | dropped lane dropped unpassed =>
      rw [unpassed]
      exact Nat.zero_le 1

/-- What waits in a queue is awaited, and was not passed on. -/
theorem of_queued (k : d.Kept sent passed) {q : QueueId} {l : Lane} (lane : d.lanes q = some l)
    {t : Ticket} {w : Window} (among : .resize t w ∈ l.queued) :
    ⟨q, t, w⟩ ∈ sent ∧ l.reading = true ∧ d.replies t = some .awaited ∧
      passesOf t passed = [] := by
  have account := k.account q
  rw [lane] at account
  obtain ⟨queued, reading⟩ := l
  cases account with
  | read room order =>
    have waiting : (t, w) ∈ queued.filterMap Command.window? := mem_waiting.mpr among
    have there : ⟨q, t, w⟩ ∈ sent := by
      rw [← mem_sentThrough, order]
      exact List.mem_append_right _ waiting
    cases k.fate _ there with
    | waits _ _ awaited unpassed => exact ⟨there, rfl, awaited, unpassed⟩
    | passed result given once how =>
      have hp : (q, ⟨t, w, result⟩) ∈ passed :=
        (List.mem_filter.mp (once ▸ List.mem_singleton_self _)).1
      have nodup := k.nodup_sentThrough q
      rw [order] at nodup
      exact absurd waiting (List.disjoint_of_nodup_append nodup (mem_passedFrom hp))
    | dropped left =>
      cases left.symm.trans lane
  | left => cases among

/-- Who reads a queue that holds something is there. -/
theorem reading_of_queued (k : d.Kept sent passed) {q : QueueId} {l : Lane}
    (lane : d.lanes q = some l) (some : l.queued ≠ []) : l.reading = true := by
  have account := k.account q
  rw [lane] at account
  cases account with
  | read => rfl
  | left => exact absurd rfl some

/-- **No queue holds more than it may.** -/
theorem room (k : d.Kept sent passed) {q : QueueId} {l : Lane} (lane : d.lanes q = some l) :
    l.queued.length ≤ ControlQueue.capacity := by
  have account := k.account q
  rw [lane] at account
  cases account with
  | read room => exact room
  | left => exact Nat.zero_le _

/-- At first nothing was sent. -/
theorem start (d : Desk) (tickets : d.nextTicket = 0) (lanes : ∀ q, d.lanes q = none) :
    d.Kept [] [] := by
  constructor
  case tickets => rw [tickets]; rfl
  case fresh => exact fun q _ => lanes q
  case account =>
    intro q
    rw [lanes q]
    exact .unmade rfl rfl
  case fate => nofun

theorem install (k : d.Kept sent passed) : d.install.Kept sent passed := by
  constructor
  case tickets => exact k.tickets
  case fresh =>
    intro q later
    have other : q ≠ d.nextQueue := Nat.ne_of_gt later
    exact (if_neg other).trans (k.fresh q (Nat.le_of_succ_le later))
  case account =>
    intro q
    have account := k.account q
    show Account _ _ (if q = d.nextQueue then some ⟨[], true⟩ else d.lanes q)
    by_cases new : q = d.nextQueue
    · rw [if_pos new]
      rw [k.fresh q (Nat.le_of_eq new.symm)] at account
      cases account with
      | unmade unsent unpassed =>
        refine .read (Nat.zero_le _) ?_
        rw [unsent, unpassed]
        rfl
    · rw [if_neg new]
      exact account
  case fate =>
    intro x hx
    have old : ∀ {l}, d.lanes x.queue = some l → d.install.lanes x.queue = some l := by
      intro l there
      exact (if_neg (k.ne_of_fresh there (Nat.le_refl d.nextQueue)).symm).trans there
    exact (k.fate x hx).carry (fun _ there among => ⟨_, old there, among⟩) old rfl rfl

/-- A command that is no window comes or goes. -/
theorem put (k : d.Kept sent passed) {q : QueueId} {l : Lane} (lane : d.lanes q = some l)
    (reading : l.reading = true) {queued : List Command}
    (room : queued.length ≤ ControlQueue.capacity)
    (same : queued.filterMap Command.window? = l.queued.filterMap Command.window?) :
    (d.put q { l with queued }).Kept sent passed := by
  obtain ⟨before, still⟩ := l
  obtain rfl : still = true := reading
  constructor
  case tickets => exact k.tickets
  case fresh =>
    intro q' later
    exact (if_neg (k.ne_of_fresh lane later)).trans (k.fresh q' later)
  case account =>
    intro q'
    have account := k.account q'
    rw [lanes_put]
    by_cases here : q' = q
    · subst here
      rw [if_pos rfl]
      rw [lane] at account
      cases account with
      | read _ order =>
        refine .read room ?_
        rw [order, same]
    · rw [if_neg here]
      exact account
  case fate =>
    intro x hx
    refine (k.fate x hx).carry_put lane (fun _ => rfl) (fun among => ?_) rfl rfl
    exact mem_waiting.mp (same ▸ mem_waiting.mpr among)

theorem submit (k : d.Kept sent passed) {q : QueueId} {l : Lane} (lane : d.lanes q = some l)
    (reading : l.reading = true) (room : l.queued.length < ControlQueue.capacity) (w : Window) :
    (d.submit q l w).Kept (sent ++ [⟨q, d.nextTicket, w⟩]) passed := by
  obtain ⟨before, still⟩ := l
  obtain rfl : still = true := reading
  -- the ticket is new, so nothing was passed on for it
  have unpassed : passesOf d.nextTicket passed = [] := by
    refine List.filter_eq_nil_iff.mpr fun p hp => ?_
    have earlier := k.lt_nextTicket (k.mem_sent hp)
    simp only [decide_eq_true_eq]
    exact Nat.ne_of_lt earlier
  constructor
  case tickets =>
    show (sent ++ [_]).map _ = List.range (d.nextTicket + 1)
    rw [List.map_append, k.tickets, List.range_succ]
    rfl
  case fresh =>
    intro q' later
    exact (if_neg (k.ne_of_fresh lane later)).trans (k.fresh q' later)
  case account =>
    intro q'
    have account := k.account q'
    rw [sentThrough_append, sentThrough_singleton]
    show Account _ _
      (if q' = q then some ⟨before ++ [.resize d.nextTicket w], true⟩ else d.lanes q')
    by_cases here : q' = q
    · subst here
      rw [if_pos rfl, if_pos rfl]
      rw [lane] at account
      cases account with
      | read _ order =>
        refine .read ?_ ?_
        · rw [List.length_append]
          exact room
        · rw [order, List.filterMap_append, List.append_assoc]
          rfl
    · rw [if_neg here, if_neg here, List.append_nil]
      exact account
  case fate =>
    intro x hx
    obtain hx | hx := List.mem_append.mp hx
    · have other : x.ticket ≠ d.nextTicket := Nat.ne_of_lt (k.lt_nextTicket hx)
      exact (k.fate x hx).carry_put lane (fun _ => rfl) (List.mem_append_left _) (if_neg other) rfl
    · obtain rfl := List.mem_singleton.mp hx
      have there : (d.submit q ⟨before, true⟩ w).lanes q =
          some ⟨before ++ [.resize d.nextTicket w], true⟩ := if_pos rfl
      exact .waits there (List.mem_append_right _ (List.mem_singleton_self _)) (if_pos rfl) unpassed

theorem pass (k : d.Kept sent passed) {q : QueueId} {l : Lane} {t : Ticket} {w : Window}
    {rest : List Command} {result : Except Failure Unit} (lane : d.lanes q = some l)
    (head : l.queued = .resize t w :: rest)
    (how : result = .ok () ∨ ∃ detail, result = .error (.link detail)) :
    ((d.put q { l with queued := rest }).answer t (.given result)).Kept sent
      (passed ++ [(q, ⟨t, w, result⟩)]) := by
  have among : .resize t w ∈ l.queued := by
    rw [head]
    exact List.mem_cons_self
  obtain ⟨there, reading, awaited, unpassed⟩ := k.of_queued lane among
  obtain ⟨before, still⟩ := l
  obtain rfl : still = true := reading
  obtain rfl : before = .resize t w :: rest := head
  constructor
  case tickets => exact k.tickets
  case fresh =>
    intro q' later
    exact (if_neg (k.ne_of_fresh lane later)).trans (k.fresh q' later)
  case account =>
    intro q'
    have account := k.account q'
    rw [passedFrom_append, passedFrom_singleton]
    show Account _ _ (if q' = q then some ⟨rest, true⟩ else d.lanes q')
    by_cases here : q' = q
    · subst here
      rw [if_pos rfl, if_pos rfl]
      rw [lane] at account
      cases account with
      | read room order =>
        refine .read (Nat.le_of_succ_le room) ?_
        rw [order, List.append_assoc]
        rfl
    · rw [if_neg here, if_neg here, List.append_nil]
      exact account
  case fate =>
    intro x hx
    by_cases own : x.ticket = t
    · obtain rfl := k.eq_of_ticket hx there own
      refine .passed result (if_pos rfl) ?_ how
      rw [passesOf_concat, unpassed, if_pos rfl]
      rfl
    · have passes : passesOf x.ticket (passed ++ [(q, ⟨t, w, result⟩)]) =
          passesOf x.ticket passed := by
        rw [passesOf_concat, if_neg (Ne.symm own), List.append_nil]
      refine (k.fate x hx).carry_put lane (fun _ => rfl) (fun among => ?_) (if_neg own) passes
      obtain first | later := List.mem_cons.mp among
      · exact absurd (Command.resize.inj first).1 own
      · exact later

theorem mem_tickets {queued : List Command} {t : Ticket} :
    t ∈ queued.filterMap Command.ticket? ↔ ∃ w, .resize t w ∈ queued := by
  rw [List.mem_filterMap]
  constructor
  · rintro ⟨c, hc, same⟩
    cases c with
    | resize t' w =>
      cases same
      exact ⟨w, hc⟩
    | close => cases same
  · rintro ⟨w, hw⟩
    exact ⟨_, hw, rfl⟩

theorem abandon (k : d.Kept sent passed) {q : QueueId} {l : Lane} (lane : d.lanes q = some l) :
    (d.abandon q l).Kept sent passed := by
  -- whoever waits for an answer from this queue has a window in it
  have tickets : ∀ {x : Errand}, x ∈ sent → x.ticket ∈ l.queued.filterMap Command.ticket? →
      x.queue = q ∧ d.replies x.ticket = some .awaited ∧ passesOf x.ticket passed = [] := by
    intro x hx among
    obtain ⟨w, among⟩ := mem_tickets.mp among
    obtain ⟨there, -, awaited, unpassed⟩ := k.of_queued lane among
    have same : x.queue = q := congrArg Errand.queue (k.eq_of_ticket hx there rfl)
    exact ⟨same, awaited, unpassed⟩
  rw [abandon_eq]
  constructor
  case tickets => exact k.tickets
  case fresh =>
    intro q' later
    exact (if_neg (k.ne_of_fresh lane later)).trans (k.fresh q' later)
  case account =>
    intro q'
    show Account _ _ (if q' = q then some ⟨[], false⟩ else d.lanes q')
    by_cases here : q' = q
    · rw [if_pos here]
      exact .left (k.prefix_sent q')
    · rw [if_neg here]
      exact k.account q'
  case fate =>
    intro x hx
    by_cases among : x.ticket ∈ l.queued.filterMap Command.ticket?
    · obtain ⟨rfl, -, unpassed⟩ := tickets hx among
      exact .dropped (if_pos rfl) (if_pos among) unpassed
    · refine (k.fate x hx).carry (fun waiting there waits => ?_) (fun left => ?_) (if_neg among) rfl
      · have other : x.queue ≠ q := by
          intro here
          rw [here, lane] at there
          cases there
          exact among (mem_tickets.mpr ⟨_, waits⟩)
        exact ⟨waiting, (if_neg other).trans there, waits⟩
      · show (if x.queue = q then _ else d.lanes x.queue) = some ⟨[], false⟩
        by_cases here : x.queue = q
        · rw [if_pos here]
        · rw [if_neg here]
          exact left

variable {r r' : Option QueueId} {s : List Errand} {p : List (QueueId × Terminal.Forwarded)}

/-- **Whatever a call does to the desk, the account is kept.** -/
theorem step (k : d.Kept sent passed) (traffic : Traffic d r s p r' d') :
    d'.Kept (sent ++ s) (passed ++ p) := by
  cases traffic with
  | quiet =>
    rw [List.append_nil, List.append_nil]
    exact k
  | installed =>
    rw [List.append_nil, List.append_nil]
    exact k.install
  | submitted q w lane reading room =>
    rw [List.append_nil]
    exact k.submit lane reading room w
  | told q lane reading room =>
    rw [List.append_nil, List.append_nil]
    refine k.put lane reading ?_ ?_
    · rw [List.length_append]
      exact room
    · rw [List.filterMap_append]
      exact List.append_nil _
  | stopped q lane head =>
    rw [List.append_nil, List.append_nil]
    have room := k.room lane
    refine k.put lane (k.reading_of_queued lane (by rw [head]; exact List.cons_ne_nil _ _)) ?_ ?_
    · rw [head, List.length_cons] at room
      omega
    · rw [head]
      rfl
  | passed q result lane head how =>
    rw [List.append_nil]
    exact k.pass lane head how
  | abandoned q lane =>
    rw [List.append_nil, List.append_nil]
    exact k.abandon lane
  | vanished q missing =>
    rw [List.append_nil, List.append_nil]
    exact k

/-- An answer that was given is not taken back. -/
theorem reply_lasts (k : d.Kept sent passed) (traffic : Traffic d r s p r' d') {x : Errand}
    (hx : x ∈ sent) {reply : Reply} (given : d.replies x.ticket = some reply)
    (settled : reply ≠ .awaited) : d'.replies x.ticket = some reply := by
  have awaited : d.replies x.ticket ≠ some .awaited := by
    rw [given]
    exact fun h => settled (Option.some.inj h)
  cases traffic with
  | quiet | installed | told | stopped | vanished => exact given
  | submitted q w found reading room =>
    have old : x.ticket ≠ d.nextTicket := Nat.ne_of_lt (k.lt_nextTicket hx)
    exact (if_neg old).trans given
  | @passed q l t w rest result found head how =>
    -- what is answered for was still awaited
    have other : x.ticket ≠ t := by
      intro own
      obtain ⟨-, -, waits, -⟩ := k.of_queued found (head ▸ List.mem_cons_self)
      exact awaited (own ▸ waits)
    exact (if_neg other).trans given
  | abandoned q found =>
    rw [abandon_eq]
    refine (if_neg fun among => ?_).trans given
    obtain ⟨w, among⟩ := mem_tickets.mp among
    obtain ⟨-, -, waits, -⟩ := k.of_queued found among
    exact awaited waits

end Kept

end Desk

end ShellGateway.Session
