import Mathlib.Algebra.GroupWithZero.Nat
import Mathlib.Data.List.Induction
import ShellGateway.Proofs.Session.Senders
import ShellGateway.Proofs.Session.Trail

/-!
# How many can send on a control queue

As long as a queue is installed in a session, it is installed in no other, and the number that
the hub keeps is that of the calls with a share and one more, for the session
(`Roster.Staffed`). A closing that takes the queue out gets the session's share. From then on
nobody is let in any more: the number is that of the calls with a share
(`Roster.Orphaned`), and whoever has one had it before.

Both are kept by every step because of what it can do to the roster (`Lending`). Shares are
counted as a sum over the calls, which changes with a step as much as the call that takes it.
-/

namespace ShellGateway.Session

/-! ## Counting shares -/

/-- Changing one member of a list changes a sum over the list by as much. -/
theorem sum_map_set {α : Type} (f : α → Nat) {l : List α} {i : Nat} {a : α} (ha : l[i]? = some a)
    (b : α) : ((l.set i b).map f).sum + f a = (l.map f).sum + f b := by
  induction l generalizing i with
  | nil => cases ha
  | cons x rest ih =>
    cases i with
    | zero =>
      obtain rfl : x = a := Option.some.inj ha
      simp only [List.set_cons_zero, List.map_cons, List.sum_cons]
      omega
    | succ i =>
      have rest := ih (i := i) ha
      simp only [List.set_cons_succ, List.map_cons, List.sum_cons]
      omega

/-- The queue of a call that has just got its share. -/
def Call.enters? : Call → Option QueueId
  | sending _ q _ _ => some q
  | closing _ (.signalling q) _ => some q
  | _ => none

theorem Call.shares_of_enters {c : Call} {q : QueueId} (enters : c.enters? = some q) :
    c.shares? = some q := by
  cases c with
  | sending s q' w evict => exact enters
  | closing s stage next =>
    cases stage with
    | signalling q' => exact enters
    | _ => cases enters
  | _ => cases enters

/-- What the calls of a system come to together. -/
def System.total (f : Call → Nat) (t : System) : Nat :=
  (t.calls.map f).sum

/-- How much of a share in a queue a call has. -/
def Call.share (q : QueueId) (c : Call) : Nat :=
  if c.shares? = some q then 1 else 0

/-- How many calls can send on a queue. -/
def System.sharers (q : QueueId) (t : System) : Nat :=
  t.total (Call.share q)

theorem Call.share_congr {c c' : Call} (same : c'.shares? = c.shares?) (q : QueueId) :
    c'.share q = c.share q := by
  rw [share, share, same]

theorem Call.share_of_none {c : Call} (nothing : c.shares? = none) (q : QueueId) :
    c.share q = 0 := by
  rw [share, nothing]
  rfl

theorem Call.share_of_some {c : Call} {q : QueueId} (has : c.shares? = some q) (q' : QueueId) :
    c.share q' = if q' = q then 1 else 0 := by
  rw [share, has]
  simp only [Option.some.injEq, eq_comm]

namespace System

variable {g : Gateway} {t u v : System} {f : Call → Nat}

/-- A step changes the total by what it changes of the call that takes it. -/
theorem total_stepped {c : CallId} {call : Call} (hc : t.calls[c]? = some call) (h : Hub)
    (call' : Call) : (t.stepped c h call').total f + f call = t.total f + f call' :=
  sum_map_set f hc call'

theorem total_ask (t : System) (f : Call → Nat) (r : Request) :
    ({ t with calls := t.calls ++ [.asked r] } : System).total f = t.total f + f (.asked r) := by
  show ((t.calls ++ [_]).map f).sum = _
  rw [List.map_append, List.sum_append]
  rfl

theorem total_le {f' : Call → Nat} {k : Nat} (le : ∀ call, f call ≤ k * f' call) :
    t.total f ≤ k * t.total f' := by
  unfold total
  induction t.calls with
  | nil => exact Nat.zero_le _
  | cons call rest ih =>
    have first := le call
    rw [List.map_cons, List.map_cons, List.sum_cons, List.sum_cons, Nat.mul_add]
    omega

/-- If the total is not zero, then some call adds to it. -/
theorem exists_of_total (some_ : t.total f ≠ 0) :
    ∃ (c : CallId) (call : Call), t.calls[c]? = some call ∧ f call ≠ 0 := by
  obtain ⟨n, hn, adds⟩ : ∃ n ∈ t.calls.map f, n ≠ 0 := by
    by_contra nobody
    refine some_ (List.sum_eq_zero_iff_forall_eq_nat.mpr fun n hn => ?_)
    by_contra adds
    exact nobody ⟨n, hn, adds⟩
  obtain ⟨call, hcall, rfl⟩ := List.mem_map.mp hn
  obtain ⟨c, hc⟩ := List.mem_iff_getElem?.mp hcall
  exact ⟨c, call, hc, adds⟩

/-- A call that can send on a queue counts. -/
theorem ne_zero_of_shares {c : CallId} {call : Call} {q : QueueId} (hc : t.calls[c]? = some call)
    (shares : call.shares? = some q) : t.sharers q ≠ 0 := by
  intro nobody
  have counted : call.share q ∈ t.calls.map (Call.share q) :=
    List.mem_map_of_mem (List.mem_of_getElem? hc)
  have nothing := List.sum_eq_zero_iff_forall_eq_nat.mp nobody _ counted
  rw [Call.share_of_some shares, if_pos rfl] at nothing
  cases nothing

/-- Every move does one of the listed things to the roster, along with the calls. -/
theorem lending_move {m : Move} (hm : t.move g m = some u) :
    ∃ c c', Lending t.hub.roster c u.hub.roster c' ∧
      ∀ q, u.sharers q + c.share q = t.sharers q + c'.share q := by
  cases m with
  | start r =>
    obtain rfl := Option.some.inj hm
    exact ⟨.asked r, .asked r, .quiet rfl, fun q => congrArg (· + _) (t.total_ask _ r)⟩
  | step c e =>
    obtain ⟨call, h', call', hc, hs, rfl⟩ := move_step_eq_some hm
    exact ⟨call, call', Call.lending hs, fun q => total_stepped hc h' call'⟩
  | make info shellHere =>
    obtain rfl := Option.some.inj hm
    refine ⟨.answered .done, .answered .done, ?_, fun q => rfl⟩
    show Lending _ _ (t.hub.make info shellHere).2.roster _
    rw [Hub.roster_make]
    exact .made rfl rfl
  | wait time =>
    obtain rfl := Option.some.inj hm
    exact ⟨.answered .done, .answered .done, .quiet rfl, fun q => rfl⟩

end System

/-! ## As long as a queue is installed -/

/-- A queue that is installed in a session was so before, or is a fresh one. -/
theorem Lending.holds_before {r r' : Roster} {c c' : Call} {s : Serial} {q : QueueId}
    (lending : Lending r c r' c') (held : r'.holds s = some q) :
    r.holds s = some q ∨ q = r.nextQueue := by
  have assigned : ∀ {r : Roster} {s' : Serial} {q? : Option QueueId},
      (r.assign s' q?).holds s = some q → r.holds s = some q ∨ q? = some q := by
    intro r s' q? held
    obtain ⟨-, held⟩ | ⟨-, same, -⟩ := Roster.holds_assign held
    · exact .inl held
    · exact .inr same
  have detached : ∀ {s'}, (r.detach s').holds s = some q → r.holds s = some q := by
    intro s' held
    unfold Roster.detach at held
    split at held
    · exact (assigned held).resolve_right nofun
    · exact held
  cases lending with
  | quiet | joined | left => exact .inl held
  | made => exact .inl (Roster.holds_make held)
  | taken s' q' next there => exact (assigned held).imp_right nofun
  | installed s' =>
    have number : (r.detach s').nextQueue = r.nextQueue := by
      unfold Roster.detach
      split <;> rfl
    obtain before | fresh := assigned (r := r.detach s') held
    · exact .inl (detached before)
    · exact .inr ((Option.some.inj fresh).symm.trans number)

namespace Roster

variable {r r' : Roster} {c c' : Call} {n n' : QueueId → Nat} {q : QueueId}

/-- No queue is installed in two sessions, and those who can send on one that is installed are
its session and the calls with a share, of which there are `n`. -/
structure Staffed (r : Roster) (n : QueueId → Nat) : Prop where
  numbered : ∀ s q, r.holds s = some q → q < r.nextQueue
  unshared : ∀ q, r.nextQueue ≤ q → n q = 0
  alone : ∀ s s' q, r.holds s = some q → r.holds s' = some q → s = s'
  count : ∀ s q, r.holds s = some q → r.senders q = some (n q + 1)

namespace Staffed

/-- A session loses its queue. -/
theorem unassign (staffed : r.Staffed n) (s : Serial) : (r.assign s none).Staffed n := by
  have before : ∀ {s' q}, (r.assign s none).holds s' = some q → r.holds s' = some q := by
    intro s' q held
    obtain ⟨-, held⟩ | ⟨-, nothing, -⟩ := holds_assign held
    · exact held
    · cases nothing
  constructor
  case numbered => exact fun s' q held => staffed.numbered s' q (before held)
  case unshared => exact staffed.unshared
  case alone => exact fun s₁ s₂ q h₁ h₂ => staffed.alone s₁ s₂ q (before h₁) (before h₂)
  case count => exact fun s' q held => staffed.count s' q (before held)

/-- The queue that a session has lost is installed nowhere. -/
theorem unheld (staffed : r.Staffed n) {s : Serial} (held : r.holds s = some q) (s' : Serial) :
    (r.assign s none).holds s' ≠ some q := by
  intro held'
  obtain ⟨other, there⟩ | ⟨-, nothing, -⟩ := holds_assign held'
  · exact other (staffed.alone s' s q there held)
  · cases nothing

/-- The shares in one queue change, along with its count if it is installed. -/
theorem recount (staffed : r.Staffed n) {f : Nat → Nat} (old : q < r.nextQueue)
    (others : ∀ q', q' ≠ q → n' q' = n q')
    (here : ∀ s, r.holds s = some q → f (n q + 1) = n' q + 1) : (r.recount q f).Staffed n' := by
  constructor
  case numbered => exact staffed.numbered
  case unshared =>
    intro q' later
    rw [others q' (Nat.ne_of_gt (Nat.lt_of_lt_of_le old later))]
    exact staffed.unshared q' later
  case alone => exact staffed.alone
  case count =>
    intro s q' held
    have count := staffed.count s q' held
    show (if q' = q then (r.senders q).map f else r.senders q') = _
    split
    · rename_i hq
      subst hq
      rw [count, Option.map_some, here s held]
    · rename_i hq
      rw [count, others q' hq]

theorem detach (staffed : r.Staffed n) (s : Serial) : (r.detach s).Staffed n := by
  unfold Roster.detach
  cases held : r.holds s with
  | none => exact staffed
  | some q =>
    exact (staffed.unassign s).recount (staffed.numbered s q held) (fun _ _ => rfl)
      fun s' held' => absurd held' (staffed.unheld held s')

theorem install (staffed : r.Staffed n) (s : Serial) : (r.install s).Staffed n := by
  -- what is installed now was installed before, or is the fresh queue
  have before : ∀ {s' q}, (r.install s).holds s' = some q →
      r.holds s' = some q ∧ q ≠ r.nextQueue ∨ s' = s ∧ q = r.nextQueue := by
    intro s' q held
    obtain ⟨-, held⟩ | ⟨hs, fresh, -⟩ := holds_assign (r := r) held
    · exact .inl ⟨held, Nat.ne_of_lt (staffed.numbered s' q held)⟩
    · exact .inr ⟨hs, (Option.some.inj fresh).symm⟩
  constructor
  case numbered =>
    intro s' q held
    obtain ⟨held, -⟩ | ⟨-, rfl⟩ := before held
    · exact Nat.lt_succ_of_lt (staffed.numbered s' q held)
    · exact Nat.lt_succ_self _
  case unshared => exact fun q later => staffed.unshared q (Nat.le_of_succ_le later)
  case alone =>
    intro s₁ s₂ q h₁ h₂
    obtain ⟨held₁, old₁⟩ | ⟨rfl, new₁⟩ := before h₁
    · obtain ⟨held₂, -⟩ | ⟨-, new₂⟩ := before h₂
      · exact staffed.alone s₁ s₂ q held₁ held₂
      · exact absurd new₂ old₁
    · obtain ⟨-, old₂⟩ | ⟨rfl, -⟩ := before h₂
      · exact absurd new₁ old₂
      · rfl
  case count =>
    intro s' q held
    show (if q = r.nextQueue then some 1 else r.senders q) = _
    obtain ⟨held, old⟩ | ⟨-, rfl⟩ := before held
    · rw [if_neg old, staffed.count s' q held]
    · rw [if_pos rfl, staffed.unshared _ (Nat.le_refl _)]

theorem make (staffed : r.Staffed n) : r.make.Staffed n := by
  constructor
  case numbered => exact fun s q held => staffed.numbered s q (holds_make held)
  case unshared => exact staffed.unshared
  case alone => exact fun s₁ s₂ q h₁ h₂ => staffed.alone s₁ s₂ q (holds_make h₁) (holds_make h₂)
  case count => exact fun s q held => staffed.count s q (holds_make held)

/-- **Whatever a call does, the count of those who can send on a queue that is installed is
right.** -/
theorem step (staffed : r.Staffed n) (lending : Lending r c r' c')
    (shares : ∀ q, n' q + c.share q = n q + c'.share q) : r'.Staffed n' := by
  -- most steps leave all shares as they are
  have unchanged : (∀ q, c'.share q = c.share q) → n' = n := by
    intro same
    funext q
    have total := shares q
    rw [same q] at total
    exact Nat.add_right_cancel total
  cases lending with
  | quiet same =>
    rw [unchanged (Call.share_congr same)]
    exact staffed
  | made before after =>
    rw [unchanged (Call.share_congr (after.trans before.symm))]
    exact staffed.make
  | installed s before after =>
    rw [unchanged (Call.share_congr (after.trans before.symm))]
    exact (staffed.detach s).install s
  | joined s q w evict held =>
    have more : ∀ q', n' q' = n q' + if q' = q then 1 else 0 := by
      intro q'
      have total := shares q'
      rw [Call.share_of_none rfl, Call.share_of_some (q := q) rfl] at total
      exact total
    refine staffed.recount (staffed.numbered s q held) (fun q' other => ?_) fun _ _ => ?_
    · rw [more, if_neg other]
      rfl
    · rw [more, if_pos rfl]
  | left q before after =>
    have fewer : ∀ q', n' q' + (if q' = q then 1 else 0) = n q' := by
      intro q'
      have total := shares q'
      rw [Call.share_of_some before, Call.share_of_none after] at total
      exact total
    have had : n' q + 1 = n q := by
      have total := fewer q
      rw [if_pos rfl] at total
      exact total
    have old : q < r.nextQueue := by
      by_contra fresh
      rw [staffed.unshared q (Nat.le_of_not_lt fresh)] at had
      cases had
    refine staffed.recount old (fun q' other => ?_) fun _ _ => had.symm
    have total := fewer q'
    rw [if_neg other] at total
    exact total
  | taken s q next held =>
    rw [← (r.assign s none).recount_id q]
    refine (staffed.unassign s).recount (staffed.numbered s q held) (fun q' other => ?_)
      fun s' held' => absurd held' (staffed.unheld held s')
    have total := shares q'
    rw [Call.share_of_none rfl, Call.share_of_some (q := q) rfl, if_neg other] at total
    exact total

end Staffed

/-! ## Once it was taken out -/

/-- A queue is installed nowhere, and those who can send on it are `n` calls. -/
structure Orphaned (r : Roster) (q : QueueId) (n : Nat) : Prop where
  unheld : ∀ s, r.holds s ≠ some q
  numbered : q < r.nextQueue
  count : r.senders q = some n

/-- A queue that is taken out of its session is installed nowhere. -/
theorem Staffed.orphaned (staffed : r.Staffed n) {s : Serial} (held : r.holds s = some q) :
    (r.assign s none).Orphaned q (n q + 1) where
  unheld := staffed.unheld held
  numbered := staffed.numbered s q held
  count := staffed.count s q held

namespace Orphaned

variable {m m' : Nat}

/-- What happens to another queue is not seen. -/
theorem recount_other (orphaned : r.Orphaned q m) {q' : QueueId} (other : q ≠ q')
    (f : Nat → Nat) : (r.recount q' f).Orphaned q m where
  unheld := orphaned.unheld
  numbered := orphaned.numbered
  count := (if_neg other).trans orphaned.count

theorem assign (orphaned : r.Orphaned q m) {s : Serial} {q? : Option QueueId}
    (other : q? ≠ some q) : (r.assign s q?).Orphaned q m where
  unheld s' held := by
    obtain ⟨-, held⟩ | ⟨-, same, -⟩ := holds_assign held
    · exact orphaned.unheld s' held
    · exact other same
  numbered := orphaned.numbered
  count := orphaned.count

theorem detach (orphaned : r.Orphaned q m) (s : Serial) : (r.detach s).Orphaned q m := by
  unfold Roster.detach
  cases held : r.holds s with
  | none => exact orphaned
  | some q' =>
    have lost : (r.assign s none).Orphaned q m := orphaned.assign nofun
    refine lost.recount_other ?_ _
    rintro rfl
    exact orphaned.unheld s held

theorem install (orphaned : r.Orphaned q m) (s : Serial) : (r.install s).Orphaned q m := by
  have other : q ≠ r.nextQueue := Nat.ne_of_lt orphaned.numbered
  have assigned : (r.assign s (some r.nextQueue)).Orphaned q m :=
    orphaned.assign fun same => other (Option.some.inj same).symm
  constructor
  case unheld => exact assigned.unheld
  case numbered => exact Nat.lt_succ_of_lt orphaned.numbered
  case count => exact (if_neg other).trans orphaned.count

theorem make (orphaned : r.Orphaned q m) : r.make.Orphaned q m where
  unheld s held := orphaned.unheld s (holds_make held)
  numbered := orphaned.numbered
  count := orphaned.count

/-- Nobody is let in to send on a queue that is installed nowhere. -/
theorem shares (orphaned : r.Orphaned q m) (lending : Lending r c r' c')
    (after : c'.shares? = some q) : c.shares? = some q := by
  cases lending with
  | quiet same => exact same.symm.trans after
  | made _ nothing | left _ _ nothing | installed _ _ nothing => cases nothing.symm.trans after
  | joined s q' w evict held | taken s q' next held =>
    cases after
    exact absurd held (orphaned.unheld s)

/-- **Whatever a call does, nobody else can send on a queue that is installed nowhere.** -/
theorem step (orphaned : r.Orphaned q m) (lending : Lending r c r' c')
    (total : m' + c.share q = m + c'.share q) : r'.Orphaned q m' := by
  have unchanged : c'.share q = c.share q → m' = m := by
    intro same
    rw [same] at total
    exact Nat.add_right_cancel total
  cases lending with
  | quiet same =>
    rw [unchanged (Call.share_congr same q)]
    exact orphaned
  | made before after =>
    rw [unchanged (Call.share_congr (after.trans before.symm) q)]
    exact orphaned.make
  | installed s before after =>
    rw [unchanged (Call.share_congr (after.trans before.symm) q)]
    exact (orphaned.detach s).install s
  | joined s q' w evict held =>
    have other : q ≠ q' := by
      rintro rfl
      exact orphaned.unheld s held
    rw [unchanged (by rw [Call.share_of_some (q := q') rfl, if_neg other, Call.share_of_none rfl])]
    exact orphaned.recount_other other _
  | taken s q' next held =>
    have other : q ≠ q' := by
      rintro rfl
      exact orphaned.unheld s held
    rw [unchanged (by rw [Call.share_of_some (q := q') rfl, if_neg other, Call.share_of_none rfl])]
    exact orphaned.assign nofun
  | left q' before after =>
    rw [Call.share_of_some before, Call.share_of_none after] at total
    by_cases own : q = q'
    · subst own
      rw [if_pos rfl] at total
      refine ⟨orphaned.unheld, orphaned.numbered, ?_⟩
      show (if q = q then (r.senders q).map _ else r.senders q) = _
      rw [if_pos rfl, orphaned.count, Option.map_some, ← Nat.add_zero m, ← total]
      rfl
    · rw [if_neg own] at total
      obtain rfl : m' = m := total
      exact orphaned.recount_other own _

end Orphaned

end Roster

/-! ## Along schedules -/

namespace System

variable {g : Gateway} {t u v : System} {moves more : List Move} {q : QueueId} {s : Serial}

/-- **Along every schedule, the counts of those who can send are right.** -/
theorem staffed (ran : initial.run g moves = some t) :
    t.hub.roster.Staffed fun q => t.sharers q := by
  induction moves using List.reverseRecOn generalizing t with
  | nil =>
    obtain rfl := Option.some.inj ran
    constructor
    case unshared => exact fun _ _ => rfl
    case numbered | count =>
      intro s q held
      cases held
    case alone =>
      intro s s' q held
      cases held
  | append_singleton past m ih =>
    obtain ⟨u, hu, -⟩ := run_append_eq_some ran
    rw [run_concat, hu] at ran
    obtain ⟨c, c', lending, shares⟩ := lending_move ran
    exact (ih hu).step lending shares

/-- **As long as a queue is installed, nobody has taken it out to tell its terminal to stop.** -/
theorem unheralded (ran : initial.run g moves = some t) (held : t.hub.roster.holds s = some q)
    {c : CallId} {s' : Serial} {next : Next} :
    t.calls[c]? ≠ some (.closing s' (.signalling q) next) := by
  induction moves using List.reverseRecOn generalizing t s s' next with
  | nil =>
    obtain rfl := Option.some.inj ran
    cases held
  | append_singleton past m ih =>
    obtain ⟨u, hu, -⟩ := run_append_eq_some ran
    rw [run_concat, hu] at ran
    intro hc
    obtain same | ⟨r, asked⟩ | ⟨e, call, h', -, hcall, hs, rfl⟩ := calls_move_back ran hc
    · -- it had taken the queue out before, so the queue is a fresh one that it has no share in
      obtain ⟨c₁, c₂, lending, -⟩ := lending_move ran
      obtain before | rfl := lending.holds_before held
      · exact ih hu before same
      · have unshared := (staffed hu).unshared _ (Nat.le_refl _)
        exact absurd unshared (ne_zero_of_shares same rfl)
    · cases asked
    · have taken := Call.lending hs
      change h'.roster.holds s = some q at held
      generalize h'.roster = r' at taken held
      cases taken with
      | quiet shares =>
        cases Call.proceeds hs shares.symm with
        | leaves before after => cases after
      | taken s' q' next there => exact (staffed hu).unheld there s held
      | made before after | left q before after | installed s before after => cases after

/-- A queue is installed nowhere, and those who can send on it are the calls with a share. -/
def Orphaned (t : System) (q : QueueId) : Prop :=
  t.hub.roster.Orphaned q (t.sharers q)

/-- A queue that a closing takes out is installed nowhere. -/
theorem orphaned_of_taken {c : CallId} {next : Next} (ran : initial.run g moves = some u)
    (hc : u.calls[c]? = some (.closing s .takingControl next))
    (held : (u.hub.sessions.get? s).bind (·.control) = some q)
    (taken : u.move g (.step c .go) = some t) :
    t.Orphaned q ∧ t = u.stepped c (u.hub.takeControl s).2 (.closing s (.signalling q) next) := by
  obtain ⟨call, h', call', hcall, hs, rfl⟩ := move_step_eq_some taken
  obtain rfl := Option.some.inj (hcall.symm.trans hc)
  obtain ⟨rfl, rfl⟩ := Call.step_takingControl held hs
  have total := total_stepped (f := Call.share q) hc (u.hub.takeControl s).2
    (.closing s (.signalling q) next)
  rw [Call.share_of_none (c := .closing s .takingControl next) rfl,
    Call.share_of_some (q := q) rfl, if_pos rfl] at total
  have orphaned := (staffed ran).orphaned ((u.hub.holds_roster s).trans held)
  rw [← u.hub.roster_takeControl s] at orphaned
  have many : (u.stepped c (u.hub.takeControl s).2 (.closing s (.signalling q) next)).sharers q =
      u.sharers q + 1 := total
  refine ⟨?_, rfl⟩
  unfold Orphaned
  rw [many]
  exact orphaned

theorem Orphaned.move {m : Move} (orphaned : t.Orphaned q) (hm : t.move g m = some u) :
    u.Orphaned q := by
  obtain ⟨c, c', lending, shares⟩ := lending_move hm
  exact Roster.Orphaned.step orphaned lending (shares q)

/-- **A queue that was taken out stays so.** -/
theorem Orphaned.run (orphaned : t.Orphaned q) (ran : t.run g more = some v) : v.Orphaned q := by
  induction more generalizing t with
  | nil =>
    obtain rfl := Option.some.inj ran
    exact orphaned
  | cons m rest ih =>
    obtain ⟨u, hm, hrest⟩ := run_cons_eq_some ran
    exact ih (orphaned.move hm) hrest

/-- **Whoever is in flight then was so before.** -/
theorem Orphaned.in_flight_before (orphaned : t.Orphaned q) (ran : t.run g more = some v)
    {d : CallId} {call : Call} (hd : v.calls[d]? = some call) (there : call.inFlight? = some q) :
    ∃ call₀, t.calls[d]? = some call₀ ∧ call₀.inFlight? = some q := by
  induction more using List.reverseRecOn generalizing v call with
  | nil =>
    obtain rfl := Option.some.inj ran
    exact ⟨call, hd, there⟩
  | append_singleton past m ih =>
    obtain ⟨u, hu, -⟩ := run_append_eq_some ran
    rw [run_concat, hu] at ran
    have shares := Call.shares_of_inFlight there
    obtain same | ⟨r, rfl⟩ | ⟨e, call₁, h', -, hd₁, hs, -⟩ := calls_move_back ran hd
    · exact ih hu same there
    · cases there
    · have before := Roster.Orphaned.shares (orphaned.run hu) (Call.lending hs) shares
      cases Call.proceeds hs before with
      | sent | passed => exact ih hu hd₁ rfl
      | leaves _ after => cases after.symm.trans shares

/-- **Whoever is about to send a window or to tell the terminal to stop was about to do so
before.** -/
theorem Orphaned.entered_before (orphaned : t.Orphaned q) (ran : t.run g more = some v) {d : CallId}
    {call : Call} (hd : v.calls[d]? = some call) (enters : call.enters? = some q) :
    t.calls[d]? = some call := by
  induction more using List.reverseRecOn generalizing v with
  | nil =>
    obtain rfl := Option.some.inj ran
    exact hd
  | append_singleton past m ih =>
    obtain ⟨u, hu, -⟩ := run_append_eq_some ran
    rw [run_concat, hu] at ran
    have shares := Call.shares_of_enters enters
    obtain same | ⟨r, rfl⟩ | ⟨e, call₁, h', -, -, hs, -⟩ := calls_move_back ran hd
    · exact ih hu same
    · cases enters
    · have before := Roster.Orphaned.shares (orphaned.run hu) (Call.lending hs) shares
      cases Call.proceeds hs before with
      | sent | passed => cases enters
      | leaves _ after => cases after.symm.trans shares

end System

end ShellGateway.Session
