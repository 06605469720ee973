import ShellGateway.Proofs.Session.Conservation
import ShellGateway.Proofs.Session.Grip

/-!
# A session's handles are released once

Any number of calls may close a session at the same time, while others take its
shell, install control queues and send windows, and each release may fail. Still,
one of the calls finds the session open, and only that one releases anything
(`Swap`). It goes through all handles: by the time it is done with the session,
the transport was closed once, the transfer channel was if there is one, and the
shell was unless somebody else got it first. From then on nobody gets it.

The schedules here start from any system in which the session is open and none of
its handles were touched (`Unclosed`); that they respect the registry is not asked
for.
-/

namespace ShellGateway.Session

/-- Call `c` has marked session `s` and is releasing its handles. -/
def System.IsReleasing (t : System) (c : CallId) (s : Serial) : Prop :=
  ∃ stage next, t.calls[c]? = some (.closing s stage next) ∧ stage ≠ .marking

/-- A session that is open, of which nothing was released and which nobody is
releasing. -/
structure Unclosed (u : System) (s : Serial) (x : Session) : Prop where
  found : u.hub.sessions.get? s = some x
  isOpen : x.closed = false
  kept : x.releases = []
  numbered : s < u.hub.nextSerial
  unheld : ∀ c, ¬ u.IsReleasing c s

/-- A move in which a call that closes session `s` finds it open, and marks it. -/
structure Swap (g : Gateway) (u : System) (moves : List Move) (s : Serial)
    extends System.Turn g u moves where
  closer : CallId
  next : Next
  isStep : move = .step closer .go
  stood : before.calls[closer]? = some (.closing s .marking next)
  isOpen : (before.hub.markClosed s).1 = false

/-- The calls that got the shell of session `s`, in the order in which they did. -/
def shellTakers (g : Gateway) (u : System) (moves : List Move) (s : Serial) : List CallId :=
  u.trail (System.handing s) g moves

/-! ## Releasing and pending -/

theorem Closing.pending?_eq_none {stage : Closing} : stage.pending? = none ↔ stage = .marking := by
  cases stage <;> simp [pending?]

theorem System.isReleasing_iff {t : System} {c : CallId} {s : Serial} :
    t.IsReleasing c s ↔ ∃ p, t.pending? c = some (s, p) := by
  constructor
  · rintro ⟨stage, next, hc, hs⟩
    obtain ⟨p, hp⟩ := Option.ne_none_iff_exists'.mp (mt Closing.pending?_eq_none.mp hs)
    refine ⟨p, ?_⟩
    rw [System.pending?, hc]
    show stage.pending?.map (s, ·) = some (s, p)
    rw [hp]
    rfl
  · rintro ⟨p, hp⟩
    obtain ⟨call, hc, hcall⟩ := Option.bind_eq_some_iff.mp hp
    cases call with
    | closing r stage next =>
      obtain ⟨q, hq, hrq⟩ := Option.map_eq_some_iff.mp hcall
      cases hrq
      refine ⟨stage, next, hc, ?_⟩
      rintro rfl
      cases hq
    | _ => cases hcall

/-- At first, a session is unclosed. -/
theorem Unclosed.gripped {u : System} {s : Serial} {x : Session} (h : Unclosed u s x) :
    Gripped u s x.info x.shellHere 0 .unclosed where
  pending c p := by
    constructor
    · intro hp
      exact absurd (System.isReleasing_iff.mpr ⟨p, hp⟩) (h.unheld c)
    · intro hp
      cases hp
  numbered := h.numbered
  owned := by
    have nothing : ∀ handle, x.holdings.count handle = 0 := by
      intro handle
      show x.releases.countP _ = 0
      rw [h.kept]
      rfl
    refine ⟨x.holdings, Option.map_eq_some_iff.mpr ⟨x, h.found, rfl⟩, rfl, h.isOpen, nothing _,
      nothing _, ?_, nofun⟩
    rw [nothing]
    exact Nat.zero_add _

/-! ## What releases -/

/-- The step that marks a session, or finds it marked. -/
theorem Call.step_marking {g : Gateway} {e : Event} {h h' : Hub} {s : Serial} {next : Next}
    {c' : Call} (hs : (closing s .marking next).step g e h = some (h', c')) :
    e = .go ∧ h' = (h.markClosed s).2 ∧
      c' = if (h.markClosed s).1 then .ofNext next else .closing s .takingControl next := by
  simp only [Call.step, Call.stepClosing, Option.ite_none_right_eq_some, Option.some.injEq,
    Prod.mk.injEq] at hs
  exact ⟨hs.1, hs.2.1.symm, hs.2.2.symm⟩

/-- Only what marks an open session begins to release its handles. -/
theorem Piece.begins {h h' : Hub} {c c' : Call} {s : Serial} {p : Pending} (piece : Piece h c h' c')
    (before : ∀ q, c.pending? ≠ some (s, q)) (after : c'.pending? = some (s, p)) :
    ∃ next, c = .closing s .marking next ∧ (h.markClosed s).1 = false := by
  cases piece with
  | marked r next isOpen =>
    cases after
    exact ⟨next, rfl, isOpen⟩
  | told r next keeps told tells =>
    -- whoever tells the terminal has marked the session before
    refine absurd ?_ (before .transfer)
    obtain ⟨q, -, hq⟩ := Option.map_eq_some_iff.mp after
    cases hq
    rw [Call.pending?, Closing.pending?_of_isTelling told]
    rfl
  | transferReleased r | transferAbsent r | shellFound r | shellGone r | shellReleased r =>
    cases after
    exact absurd rfl (before _)
  | plain keeps _ free =>
    rw [Call.pending?_of_isFree free] at after
    cases after
  | aboard id r keeps _ aboard =>
    rw [(Call.not_taking_of_aboard? aboard).1] at after
    cases after
  | registered | removed | swept =>
    rw [Call.pending?_closeRemoved] at after
    cases after
  | late | transportReleased =>
    rw [Call.pending?_ofNext] at after
    cases after
  | opened | offered | intruding | lent | found | boarded | refused | ashore => cases after

/-- Only a call that releases a session's handles adds to what was released. -/
theorem Piece.releases {h h' : Hub} {c c' : Call} {s : Serial} (piece : Piece h c h' c')
    (numbered : s < h.nextSerial) (before : ∀ p, c.pending? ≠ some (s, p)) :
    (h'.holdings? s).map (·.releases) = (h.holdings? s).map (·.releases) := by
  have kept : ∀ {h' : Hub}, h'.holdings? s = h.holdings? s →
      (h'.holdings? s).map (·.releases) = (h.holdings? s).map (·.releases) := by
    intro h' hs
    rw [hs]
  -- marking a session and taking its shell is not releasing
  have shifted : ∀ {h' : Hub} {y : Serial} {f : Holdings → Holdings}, h.Shifts h' y f →
      (∀ k, (f k).releases = k.releases) →
        (h'.holdings? s).map (·.releases) = (h.holdings? s).map (·.releases) := by
    intro h' y f shifts hf
    rw [shifts.holdings]
    by_cases hs : s = y
    · rw [if_pos hs, hs, Option.map_map]
      exact congrArg (Option.map · _) (funext hf)
    · rw [if_neg hs]
  have released : ∀ {y : Serial} {handle : Handle} {failed : Bool}, s ≠ y →
      ((h.release y handle failed).holdings? s).map (·.releases) =
        (h.holdings? s).map (·.releases) := by
    intro y handle failed hs
    rw [(h.shifts_release y handle failed).holdings, if_neg hs]
  cases piece with
  | plain keeps | aboard id r keeps | ashore id r how keeps | told r next keeps =>
    exact kept (keeps.sessions s)
  | opened info =>
    have made := h.holdings?_make info true s
    rw [if_neg (Nat.ne_of_lt numbered)] at made
    exact kept made
  | offered r | registered r => exact kept (h.put_holdings? r s)
  | removed id | swept maxIdle id => exact kept (h.remove_holdings? id s)
  | intruding | found | transferAbsent => rfl
  | lent r | boarded id r | refused id r | shellFound r | shellGone r =>
    exact shifted (h.shifts_takeShell r) fun _ => rfl
  | marked r | late r => exact shifted (h.shifts_markClosed r) fun _ => rfl
  | transferReleased r next failed | shellReleased r next failed
  | transportReleased r next failed =>
    refine released ?_
    rintro rfl
    exact before _ rfl

/-- What is released of a session, a call releases that has marked it. -/
theorem System.isReleasing_of_changed {g : Gateway} {t u : System} {m : Move} {s : Serial}
    (numbered : s < t.hub.nextSerial) (hm : t.move g m = some u)
    (changed : (u.hub.sessions.get? s).map (·.releases) ≠
      (t.hub.sessions.get? s).map (·.releases)) :
    ∃ c e, m = .step c e ∧ t.IsReleasing c s := by
  cases m with
  | start | wait =>
    obtain rfl := Option.some.inj hm
    exact absurd rfl changed
  | make info shellHere =>
    obtain rfl := Option.some.inj hm
    have other : (t.hub.make info shellHere).2.sessions.get? s = t.hub.sessions.get? s := by
      show (t.hub.sessions.insert t.hub.nextSerial _).get? s = _
      rw [Dictionary.get?_insert, if_neg (Nat.ne_of_lt numbered)]
    exact absurd (congrArg (Option.map fun x => x.releases) other) changed
  | step c e =>
    obtain ⟨call, h', call', hc, hstep, rfl⟩ := System.move_step_eq_some hm
    refine ⟨c, e, rfl, ?_⟩
    -- a call that releases nothing of it would have changed nothing
    refine Classical.byContradiction fun idle => changed ?_
    have same := (Call.piece hstep).releases numbered fun p hp => by
      refine idle (System.isReleasing_iff.mpr ⟨p, ?_⟩)
      rw [System.pending?, hc]
      exact hp
    rw [Hub.holdings?, Hub.holdings?, Option.map_map, Option.map_map] at same
    exact same

namespace Swap

/-- A swap of a schedule is a swap of every schedule that begins with it. -/
def extend {g : Gateway} {u : System} {moves moves' more : List Move} {s : Serial}
    (a : Swap g u moves s) (h : moves' = moves ++ more) : Swap g u moves' s :=
  { a with toTurn := a.toTurn.extend h }

variable {g : Gateway} {u : System} {moves : List Move} {s : Serial} {x : Session}

/-- The call that marks a session releases its handles from then on. -/
theorem isReleasing (a : Swap g u moves s) : a.after.pending? a.closer = some (s, .transfer) := by
  have moved := a.moved
  rw [a.isStep] at moved
  obtain ⟨call, h', call', hc, hstep, hafter⟩ := System.move_step_eq_some moved
  obtain rfl := Option.some.inj (hc.symm.trans a.stood)
  obtain ⟨-, -, hcall⟩ := Call.step_marking hstep
  rw [hafter, System.pending?_stepped hc, if_pos rfl, hcall, if_neg (by simp [a.isOpen])]
  rfl

/-- After a swap, the session is in the hands of the call that made it, and stays
there. -/
theorem lasts (a : Swap g u moves s) (unclosed : Unclosed u s x) {more : List Move} {t : System}
    (ran : a.after.run g more = some t) :
    ∃ k, Gripped t s x.info x.shellHere
      (shellTakers g u (a.past ++ [a.move] ++ more) s).length k ∧ k.closer? = some a.closer := by
  obtain ⟨k, gr, -⟩ := unclosed.gripped.run a.run_past
  have hk : k = .held a.closer .transfer := (gr.pending a.closer .transfer).mp a.isReleasing
  obtain ⟨k', gr', closer, -⟩ := gr.run ran
  refine ⟨k', ?_, closer a.closer (by rw [hk]; rfl)⟩
  rw [shellTakers, System.trail_append _ more a.run_past, List.length_append, ← Nat.zero_add
    (List.length _)]
  exact gr'

/-- No other call finds the session open later. -/
theorem not_later (a b : Swap g u moves s) (unclosed : Unclosed u s x) :
    ¬ a.toTurn.IsLater b.toTurn := by
  rintro ⟨between, hb⟩
  obtain ⟨k, gr, closer⟩ := a.lasts unclosed (System.Turn.run_between hb)
  obtain ⟨own, hown, ho⟩ := gr.owned
  have isOpen : own.closed = false :=
    (Hub.any_of_holdings? hown (q := (·.closed)) fun _ => rfl).symm.trans b.isOpen
  rw [ho.closed, closer] at isOpen
  cases isOpen

end Swap

/-- Whoever is in charge of a session has found it open and marked it. -/
theorem Unclosed.exists_swap {g : Gateway} {u t : System} {moves : List Move} {s : Serial}
    {x : Session} (unclosed : Unclosed u s x) (ran : u.run g moves = some t) {c : CallId}
    (releasing : t.IsReleasing c s) : ∃ a : Swap g u moves s, a.closer = c := by
  obtain ⟨p, hp⟩ := System.isReleasing_iff.mp releasing
  obtain ⟨call, hc, hcall⟩ := Option.bind_eq_some_iff.mp hp
  -- the call came to release the handles in some step
  obtain ⟨r, e, call, h', call', hm, hc, idle, hstep, hr, q, hq⟩ := System.exists_arrival
    (P := fun call => ∃ q, call.pending? = some (s, q)) (by simp [Call.pending?]) ran
    (fun call hc ⟨q, hq⟩ => unclosed.unheld c (System.isReleasing_iff.mpr ⟨q, by
      rw [System.pending?, hc]
      exact hq⟩)) hc ⟨p, hcall⟩
  obtain ⟨next, rfl, isOpen⟩ := (Call.piece hstep).begins (fun q hq => idle ⟨q, hq⟩) hq
  obtain ⟨rfl, -, -⟩ := Call.step_marking hstep
  exact ⟨⟨r, c, next, hm, hc, isOpen⟩, rfl⟩

/-! ## The end of a closing -/

/-- How many stages a closing has ahead of it, at most. -/
def Closing.ahead : Closing → Nat
  | marking => 6
  | takingControl => 5
  | signalling _ => 4
  | releasingTransfer => 3
  | takingShell => 2
  | releasingShell => 1
  | releasingTransport => 0

/-- A closing never waits for anything but a release, and goes on whether or not that
fails. -/
theorem closing_goes_on (g : Gateway) (failed : Bool) (h : Hub) (s : Serial) (stage : Closing)
    (next : Next) :
    ∃ e h' call', (e = .go ∨ e = .released failed) ∧
      (Call.closing s stage next).step g e h = some (h', call') ∧
      (call' = .ofNext next ∨
        ∃ stage', call' = .closing s stage' next ∧ stage'.ahead < stage.ahead) := by
  cases stage with
  | marking =>
    cases hm : (h.markClosed s).1 with
    | true =>
      exact ⟨.go, (h.markClosed s).2, .ofNext next, .inl rfl,
        by simp [Call.step, Call.stepClosing, hm], .inl rfl⟩
    | false =>
      exact ⟨.go, (h.markClosed s).2, .closing s .takingControl next, .inl rfl,
        by simp [Call.step, Call.stepClosing, hm], .inr ⟨_, rfl, by decide⟩⟩
  | takingControl =>
    cases hq : (h.takeControl s).1 with
    | some q =>
      exact ⟨.go, (h.takeControl s).2, .closing s (.signalling q) next, .inl rfl,
        by simp [Call.step, Call.stepClosing, hq], .inr ⟨_, rfl, Nat.lt_succ_self 4⟩⟩
    | none =>
      exact ⟨.go, (h.takeControl s).2, .closing s .releasingTransfer next, .inl rfl,
        by simp [Call.step, Call.stepClosing, hq], .inr ⟨_, rfl, by decide⟩⟩
  | signalling q => exact ⟨.go, _, _, .inl rfl, rfl, .inr ⟨_, rfl, Nat.lt_succ_self 3⟩⟩
  | releasingTransfer =>
    cases has : (h.sessions.get? s).any (·.info.hasTransfer) with
    | true =>
      exact ⟨.released failed, h.release s .transfer failed, .closing s .takingShell next, .inr rfl,
        by simp [Call.step, Call.stepClosing, has], .inr ⟨_, rfl, by decide⟩⟩
    | false =>
      exact ⟨.go, h, .closing s .takingShell next, .inl rfl,
        by simp [Call.step, Call.stepClosing, has], .inr ⟨_, rfl, by decide⟩⟩
  | takingShell =>
    cases ht : (h.takeShell s).1 with
    | true =>
      exact ⟨.go, (h.takeShell s).2, .closing s .releasingShell next, .inl rfl,
        by simp [Call.step, Call.stepClosing, ht], .inr ⟨_, rfl, by decide⟩⟩
    | false =>
      exact ⟨.go, (h.takeShell s).2, .closing s .releasingTransport next, .inl rfl,
        by simp [Call.step, Call.stepClosing, ht], .inr ⟨_, rfl, by decide⟩⟩
  | releasingShell => exact ⟨.released failed, _, _, .inr rfl, rfl, .inr ⟨_, rfl, by decide⟩⟩
  | releasingTransport => exact ⟨.released failed, _, _, .inr rfl, rfl, .inl rfl⟩

/-- **Whoever is closing a session can go through with it on its own**, whether or
not the releases fail. -/
theorem closing_returns (g : Gateway) (failed : Bool) {t : System} {c : CallId} {s : Serial}
    {stage : Closing} {next : Next} (hc : t.calls[c]? = some (.closing s stage next)) :
    ∃ v, System.GoesOn g c failed t v ∧ v.calls[c]? = some (.ofNext next) := by
  -- each step brings the closing nearer to its end
  induction hn : stage.ahead using Nat.strongRecOn generalizing t stage with
  | ind n ih =>
    obtain ⟨e, h', call', he, hstep, rest⟩ := closing_goes_on g failed t.hub s stage next
    have first : System.GoesOn g c failed t (t.stepped c h' call') := .step hc he hstep
    have stands := System.calls_stepped hc h' call'
    rcases rest with rfl | ⟨stage', rfl, hlt⟩
    · exact ⟨_, first, stands⟩
    · obtain ⟨v, goes, hv⟩ := ih stage'.ahead (hn ▸ hlt) stands rfl
      exact ⟨v, first.trans goes, hv⟩

/-! ## Released once -/

/-- What becomes of the handles of session `x`, which is unclosed in system `u`, along
a schedule that leads from there to system `t`. -/
structure ReleasedOnce (g : Gateway) (u : System) (moves : List Move) (t : System) (s : Serial)
    (x : Session) : Prop where
  /-- One closing at most finds the session open. -/
  swap_once : ∀ a b : Swap g u moves s, b.past = a.past
  /-- Whatever is released is released by the call of that closing, after it has marked
  the session. -/
  released_by : ∀ r : System.Turn g u moves,
    (r.after.hub.sessions.get? s).map (·.releases) ≠
      (r.before.hub.sessions.get? s).map (·.releases) →
    ∃ a : Swap g u moves s, a.toTurn.IsLater r ∧ ∃ e, r.move = .step a.closer e
  /-- At any time, the transport and the transfer channel were closed at most once, and
  the shell was handed to one call, released by the closing, or neither. -/
  at_most_once : ∃ y, t.hub.sessions.get? s = some y ∧
    y.releaseCount .transfer ≤ x.info.hasTransfer.toNat ∧ y.releaseCount .transport ≤ 1 ∧
    (shellTakers g u moves s).length + y.releaseCount .shell ≤ x.shellHere.toNat
  /-- Once the closing has returned, the transport was closed exactly once and so was the
  transfer channel if there is one, and the shell was either handed out or released. -/
  once_returned : ∀ a : Swap g u moves s, ¬ t.IsReleasing a.closer s →
    ∃ y, t.hub.sessions.get? s = some y ∧ y.closed = true ∧
      y.releaseCount .transfer = x.info.hasTransfer.toNat ∧ y.releaseCount .transport = 1 ∧
      (shellTakers g u moves s).length + y.releaseCount .shell = x.shellHere.toNat
  /-- From then on, nobody gets the shell. -/
  gone_for_good : ∀ a : Swap g u moves s, ¬ t.IsReleasing a.closer s →
    ∀ more v, t.run g more = some v → (v.hub.takeShell s).1 = false
  /-- The closing can return, whatever fails. -/
  can_return : ∀ a : Swap g u moves s, ∀ failed,
    ∃ v, System.GoesOn g a.closer failed t v ∧ ¬ v.IsReleasing a.closer s

/-- **Each handle of a session is released once**, however its closings interleave
with each other and with whatever takes its shell, and whichever releases fail. -/
theorem released_once {g : Gateway} {u t : System} {moves : List Move} {s : Serial} {x : Session}
    (ran : u.run g moves = some t) (unclosed : Unclosed u s x) : ReleasedOnce g u moves t s x := by
  have lasting : ∀ a : Swap g u moves s, ∃ k, Gripped t s x.info x.shellHere
      (shellTakers g u moves s).length k ∧ k.closer? = some a.closer := by
    intro a
    have lasts := a.lasts unclosed (a.run_future ran)
    rw [← a.split_after] at lasts
    exact lasts
  -- a closing that has returned has released everything
  have returned : ∀ a : Swap g u moves s, ¬ t.IsReleasing a.closer s →
      Gripped t s x.info x.shellHere (shellTakers g u moves s).length (.released a.closer) := by
    intro a notReleasing
    obtain ⟨k, gr, closer⟩ := lasting a
    cases k with
    | unclosed => cases closer
    | released c =>
      obtain rfl := Option.some.inj closer
      exact gr
    | held c p =>
      obtain rfl := Option.some.inj closer
      exact absurd (System.isReleasing_iff.mpr ⟨p, (gr.pending _ p).mpr rfl⟩) notReleasing
  constructor
  case swap_once =>
    intro a b
    rcases a.toTurn.compare b.toTurn with same | later | later
    · exact same
    · exact absurd later (a.not_later b unclosed)
    · exact absurd later (b.not_later a unclosed)
  case released_by =>
    intro r changed
    obtain ⟨k, gr, -⟩ := unclosed.gripped.run r.reached
    obtain ⟨c, e, hm, releasing⟩ := System.isReleasing_of_changed gr.numbered r.moved changed
    obtain ⟨a, rfl⟩ := unclosed.exists_swap r.reached releasing
    exact ⟨a.extend r.split, ⟨a.future, a.split⟩, e, hm⟩
  case at_most_once =>
    obtain ⟨k, gr, -⟩ := unclosed.gripped.run ran
    obtain ⟨own, hown, ho⟩ := gr.owned
    obtain ⟨y, hy, rfl⟩ := Option.map_eq_some_iff.mp hown
    refine ⟨y, hy, ?_, ?_, ?_⟩
    · have transfers : y.releaseCount .transfer = _ := ho.transfers
      rw [transfers]
      cases k.pastTransfer with
      | true => exact Nat.le_refl _
      | false => exact Nat.zero_le _
    · have transports : y.releaseCount .transport = _ := ho.transports
      rw [transports]
      exact Bool.toNat_le _
    · have shells : 0 + (shellTakers g u moves s).length + y.releaseCount .shell +
          k.hasShell.toNat + y.shellHere.toNat = x.shellHere.toNat := ho.shells
      omega
  case once_returned =>
    intro a notReleasing
    obtain ⟨own, hown, ho⟩ := (returned a notReleasing).owned
    obtain ⟨y, hy, rfl⟩ := Option.map_eq_some_iff.mp hown
    refine ⟨y, hy, ho.closed, ?_, ho.transports, ?_⟩
    · exact ho.transfers
    · have shells := ho.shells
      rw [ho.gone rfl] at shells
      exact shells
  case gone_for_good =>
    intro a notReleasing more v hv
    obtain ⟨k, gr, -, released⟩ := (returned a notReleasing).run hv
    obtain ⟨own, hown, ho⟩ := gr.owned
    have past : k.pastShell := by
      cases k with
      | released => rfl
      | _ => cases released rfl
    rw [← ho.gone past]
    exact Hub.any_of_holdings? hown fun _ => rfl
  case can_return =>
    intro a failed
    by_cases releasing : t.IsReleasing a.closer s
    · obtain ⟨stage, next, hc, -⟩ := releasing
      obtain ⟨v, goes, hv⟩ := closing_returns g failed hc
      refine ⟨v, goes, ?_⟩
      rintro ⟨stage', next', hc', -⟩
      cases next with
      | answer | sweep => cases hv.symm.trans hc'
    · exact ⟨t, .refl g a.closer failed t, releasing⟩

/-! ## Every session starts out unclosed -/

/-- What a step makes is open, and nothing of it was released. -/
theorem Piece.makes {h h' : Hub} {c c' : Call} {s : Serial} {y : Holdings} (piece : Piece h c h' c')
    (unmade : h.holdings? s = none) (made : h'.holdings? s = some y) :
    s < h'.nextSerial ∧ y.closed = false ∧ y.releases = [] := by
  have kept : ∀ {h' : Hub}, h'.holdings? s = h.holdings? s → h'.holdings? s = none :=
    fun same => same.trans unmade
  have shifted : ∀ {h' : Hub} {y : Serial} {f : Holdings → Holdings}, h.Shifts h' y f →
      h'.holdings? s = none := by
    intro h' y f shifts
    rw [shifts.holdings]
    by_cases hs : s = y
    · rw [if_pos hs, ← hs, unmade]
      rfl
    · rw [if_neg hs, unmade]
  -- only the first of these makes anything
  have nothing : h'.holdings? s ≠ none := by simp [made]
  cases piece with
  | opened info =>
    rw [h.holdings?_make] at made
    by_cases hs : s = h.nextSerial
    · rw [if_pos hs] at made
      cases made
      exact ⟨hs ▸ Nat.lt_succ_self _, rfl, rfl⟩
    · rw [if_neg hs, unmade] at made
      cases made
  | plain keeps | aboard id r keeps | ashore id r how keeps | told r next keeps =>
    exact absurd (kept (keeps.sessions s)) nothing
  | offered r | registered r => exact absurd (kept (h.put_holdings? r s)) nothing
  | removed id | swept maxIdle id => exact absurd (kept (h.remove_holdings? id s)) nothing
  | intruding | found | transferAbsent => exact absurd unmade nothing
  | lent r | boarded id r | refused id r | shellFound r | shellGone r =>
    exact absurd (shifted (h.shifts_takeShell r)) nothing
  | marked r | late r => exact absurd (shifted (h.shifts_markClosed r)) nothing
  | transferReleased r | shellReleased r | transportReleased r =>
    exact absurd (shifted (h.shifts_release r _ _)) nothing

/-- What a move makes is open, and nothing of it was released. -/
theorem System.makes {g : Gateway} {t u : System} {m : Move} {s : Serial} {x : Session}
    (hm : t.move g m = some u) (unmade : t.hub.sessions.get? s = none)
    (made : u.hub.sessions.get? s = some x) :
    s < u.hub.nextSerial ∧ x.closed = false ∧ x.releases = [] := by
  cases m with
  | start | wait =>
    obtain rfl := Option.some.inj hm
    cases unmade.symm.trans made
  | make info shellHere =>
    obtain rfl := Option.some.inj hm
    change (t.hub.sessions.insert t.hub.nextSerial _).get? s = some x at made
    rw [Dictionary.get?_insert] at made
    by_cases hs : s = t.hub.nextSerial
    · rw [if_pos hs] at made
      cases made
      exact ⟨hs ▸ Nat.lt_succ_self _, rfl, rfl⟩
    · rw [if_neg hs, unmade] at made
      cases made
  | step c e =>
    obtain ⟨call, h', call', hc, hstep, rfl⟩ := System.move_step_eq_some hm
    exact (Call.piece hstep).makes (congrArg (Option.map Session.holdings) unmade)
      (Option.map_eq_some_iff.mpr ⟨x, made, rfl⟩)

/-- Nobody gets the shell of a session that is not there. -/
theorem System.handing_eq_nil {t : System} {s : Serial} (unmade : t.hub.sessions.get? s = none)
    (m : Move) : System.handing s t m = [] := by
  cases m with
  | step c e =>
    refine if_neg fun h => ?_
    have there : (t.hub.sessions.get? s).any (·.shellHere) = true := h.2
    rw [unmade] at there
    cases there
  | _ => rfl

namespace Guarded

variable {g : Gateway} {moves : List Move} {t : System} {s : Serial}

/-- Nobody gets the shell of a session that has not been made. -/
theorem shellTakers_eq_nil (guarded : Guarded g moves)
    (ran : System.initial.run g moves = some t) (unmade : t.hub.life? s = none) :
    shellTakers g System.initial moves s = [] := by
  induction moves using List.reverseRecOn generalizing t with
  | nil => rfl
  | append_singleton moves m ih =>
    obtain ⟨u, hu, hm⟩ := System.run_append_eq_some ran
    cases hl : u.hub.life? s with
    | some l =>
      -- what was made stays
      obtain ⟨p, k⟩ := Placed.exists_place hu guarded.take s
      have hp : p ≠ .unmade := fun hp => by cases hl.symm.trans (k.unmade.mp hp)
      obtain ⟨-, l', hl', -⟩ := System.life_lasts hm hl (k.lt_nextSerial hp)
      cases unmade.symm.trans hl'
    | none =>
      rw [shellTakers, System.trail_concat _ m hu,
        System.handing_eq_nil (Option.map_eq_none_iff.mp hl), List.append_nil]
      exact ih guarded.take hu hl

/-- **Every session starts out unclosed**, and nobody has had its shell by then. -/
theorem exists_unclosed (guarded : Guarded g moves) (ran : System.initial.run g moves = some t)
    {x : Session} (found : t.hub.sessions.get? s = some x) :
    ∃ past future u y, moves = past ++ future ∧ System.initial.run g past = some u ∧
      Unclosed u s y ∧ shellTakers g System.initial past s = [] := by
  obtain ⟨r, unmade, hmade⟩ := System.exists_turn
    (Q := fun u => u.hub.sessions.get? s = none) ran rfl (by simp [found])
  obtain ⟨y, made⟩ := Option.ne_none_iff_exists'.mp hmade
  obtain ⟨numbered, isOpen, kept⟩ := System.makes r.moved unmade made
  have life : r.before.hub.life? s = none := congrArg (Option.map Session.life) unmade
  have guarded' : Guarded g (r.past ++ [r.move]) := by
    rw [r.split_after] at guarded
    exact guarded.take
  refine ⟨r.past ++ [r.move], r.future, r.after, y, r.split_after, r.run_past,
    ⟨made, isOpen, kept, numbered, ?_⟩, ?_⟩
  · -- whoever releases a session held it before, and nobody held this one
    rintro c ⟨stage, next, hc, hstage⟩
    obtain ⟨p, k⟩ := Placed.exists_place r.reached guarded'.take s
    obtain ⟨p', k', adv⟩ := k.move r.reached guarded' r.moved
    obtain rfl := k.unmade.mpr life
    have held : p' = .held c .releasing := by
      refine (k'.duty c .releasing).mp ?_
      rw [System.duty?, hc]
      exact Call.duty?_closing hstage
    rw [held] at adv
    generalize r.move = m at adv
    cases adv
  · rw [shellTakers, System.trail_concat _ r.move r.reached, System.handing_eq_nil unmade,
      List.append_nil]
    exact guarded'.take.shellTakers_eq_nil r.reached life

end Guarded

/-! ## A race for the handles -/

/-- What a session with an id is for, if it is for nothing in particular. -/
def someInfo (id : String) : Info where
  id := id
  target := { host := "h", port := 22 }
  login := { username := "u", secret := .password "p" }
  term := "xterm"
  clientIp := .v4 ⟨127, 0, 0, 1⟩
  hasTransfer := true

/-- A session with a shell and a transfer channel, which no call has touched yet. -/
def untouchedSession : System :=
  { hub := (Hub.make {} (someInfo "a") true).2 }

/-- Two calls close the session, and every release fails. A third takes the shell
after the session was marked, a fourth installs a control queue, and a fifth sends a
window when that has been taken out again. -/
def closingRace : List Move :=
  [.start (.closeSession 0), .start (.closeSession 0), .start (.takeShell 0),
    .start (.attachControl 0), .start (.resizeSession 0 { width := 80, height := 24 }),
    .step 3 .go, .step 0 .go, .step 1 .go, .step 1 .go, .step 2 .go, .step 0 .go, .step 1 .go,
    .step 4 .go, .step 4 .go, .step 1 .go, .step 1 (.released true), .step 1 .go,
    .step 1 (.released true)]

theorem released_once_closingRace : ∃ x t,
    untouchedSession.run strandedGateway closingRace = some t ∧ Unclosed untouchedSession 0 x ∧
      t.Finished ∧ shellTakers strandedGateway untouchedSession closingRace 0 = [2] ∧
        ReleasedOnce strandedGateway untouchedSession closingRace t 0 x := by
  have unclosed : Unclosed untouchedSession 0 _ :=
    ⟨rfl, rfl, rfl, Nat.zero_lt_one, fun c ⟨_, _, hc, _⟩ => by simp [untouchedSession] at hc⟩
  exact ⟨_, _, rfl, unclosed, by decide, by decide, released_once rfl unclosed⟩

end ShellGateway.Session
