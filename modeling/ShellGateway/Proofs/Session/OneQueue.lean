import ShellGateway.Proofs.Session.LateAttachment
import ShellGateway.Proofs.Session.Staffing

/-!
# One control queue for each session

A session is yet to be made; or it has its shell; or a terminal has taken the shell and is on
its way; or the terminal has installed the session's control queue. Each of these comes only in
place of the one before (`InTurn`), so a session is in one of them at most, and one that a queue
was taken out of is in none: it has no queue from then on (`System.detached_for_good`).

A queue can also be installed by somebody who is no terminal. Nothing is said here of sessions
for which somebody was asked to.
-/

namespace ShellGateway

open Session

/-! ## Shells -/

namespace Hub

theorem takeShell_eq (h : Hub) (s : Serial) :
    (h.takeShell s).1 = (h.holdings? s).any (·.shellHere) := by
  unfold takeShell holdings?
  rw [Option.any_map]
  rfl

/-- Whoever takes the shell leaves none. -/
theorem takeShell_gone (h : Hub) (s : Serial) : ((h.takeShell s).2.takeShell s).1 = false := by
  rw [takeShell_eq, (h.shifts_takeShell s).holdings, if_pos rfl, Option.any_map]
  cases h.holdings? s <;> rfl

/-- What makes a session gives a shell to no other. -/
theorem shell_make (h : Hub) (info : Info) (shellHere : Bool) {s : Serial}
    (there : ((h.make info shellHere).2.takeShell s).1 = true) :
    (h.takeShell s).1 = true ∨ h.nextSerial ≤ s ∧ s < (h.make info shellHere).2.nextSerial := by
  rw [takeShell_eq, h.holdings?_make] at there
  by_cases hs : s = h.nextSerial
  · exact .inr ⟨hs.ge, hs ▸ Nat.lt_succ_self _⟩
  · rw [if_neg hs, ← takeShell_eq] at there
    exact .inl there

end Hub

namespace Session

variable {g : Gateway} {h h' : Hub} {c c' : Call} {e : Event} {s : Serial}

/-- A session that has its shell after a step had it before, or has just been made. -/
theorem Piece.shell_before (piece : Piece h c h' c') (s : Serial) :
    h.nextSerial ≤ h'.nextSerial ∧ ((h'.takeShell s).1 = true →
      (h.takeShell s).1 = true ∨ h.nextSerial ≤ s ∧ s < h'.nextSerial) := by
  have kept : ∀ {h' : Hub}, h'.nextSerial = h.nextSerial → h'.holdings? s = h.holdings? s →
      h.nextSerial ≤ h'.nextSerial ∧ ((h'.takeShell s).1 = true →
        (h.takeShell s).1 = true ∨ h.nextSerial ≤ s ∧ s < h'.nextSerial) := by
    intro h' number same
    refine ⟨number.ge, fun there => .inl ?_⟩
    rwa [Hub.takeShell_eq, ← same, ← Hub.takeShell_eq]
  have shifted : ∀ {h' : Hub} {y : Serial} {f : Holdings → Holdings}, h.Shifts h' y f →
      (∀ k, (f k).shellHere = true → k.shellHere = true) →
      h.nextSerial ≤ h'.nextSerial ∧ ((h'.takeShell s).1 = true →
        (h.takeShell s).1 = true ∨ h.nextSerial ≤ s ∧ s < h'.nextSerial) := by
    intro h' y f shifts before
    refine ⟨shifts.nextSerial.ge, fun there => .inl ?_⟩
    rw [Hub.takeShell_eq, shifts.holdings] at there
    rw [Hub.takeShell_eq]
    by_cases hs : s = y
    · subst hs
      rw [if_pos rfl, Option.any_map] at there
      obtain ⟨k, hk, here⟩ := (Option.any_eq_true _ _).mp there
      exact (Option.any_eq_true _ _).mpr ⟨k, hk, before k here⟩
    · rwa [if_neg hs] at there
  cases piece with
  | opened info => exact ⟨Nat.le_succ _, h.shell_make info true⟩
  | plain keeps | aboard id r keeps | ashore id r how keeps | told r next keeps =>
    exact kept keeps.nextSerial (keeps.sessions s)
  | offered r | registered r => exact kept (h.put_nextSerial r) (h.put_holdings? r s)
  | removed id | swept maxIdle id => exact kept (h.remove_nextSerial id) (h.remove_holdings? id s)
  | intruding | found | transferAbsent => exact kept rfl rfl
  | lent r | boarded id r | refused id r | shellFound r | shellGone r =>
    exact shifted (h.shifts_takeShell r) fun k here => by cases here
  | marked r | late r => exact shifted (h.shifts_markClosed r) fun k here => here
  | transferReleased r | shellReleased r | transportReleased r =>
    exact shifted (h.shifts_release r _ _) fun k here => here

/-- A call that comes to be on its way to a session has just taken its shell. -/
theorem Call.takes_shell (hs : c.step g e h = some (h', c')) (before : c.attaches? ≠ some s)
    (after : c'.attaches? = some s) :
    (h.takeShell s).1 = true ∧ (h'.takeShell s).1 = false := by
  obtain on | ⟨id, w, rfl, there⟩ := Call.attaches_step hs after
  · exact absurd on before
  · cases Call.onGo_eq hs
    exact ⟨there, h.takeShell_gone s⟩

/-- A session that comes to have a control queue got it from a terminal, which is on its way no
longer, or from somebody who was asked to install one. -/
theorem Call.installs_queue (hs : c.step g e h = some (h', c')) (before : h.attached s = false)
    (after : h'.attached s = true) :
    c = .asked (.attachControl s) ∨ c.attaches? = some s ∧ c'.attaches? ≠ some s := by
  have installs := (Call.stirring hs).installs before after
  obtain attaches | asked := Call.attaches_of_installs hs installs
  · refine .inr ⟨attaches, ?_⟩
    cases c with
    | bridging id s' q task =>
      obtain ⟨rfl, -⟩ := Option.ite_none_right_eq_some.mp installs
      obtain ⟨task', ht, hb⟩ := Option.bind_eq_some_iff.mp hs
      have relaying := (TerminalTask.step_attached ht).2
      obtain rfl | ⟨how, rfl⟩ := Call.bridged_cases (Option.some.inj hb)
      · intro same
        rw [Call.attaches?, TerminalTask.isStarting, relaying] at same
        cases same
      · intro same
        cases same
    | attending => cases installs
    | _ => cases attaches
  · exact .inl asked

/-! ## One after the other -/

/-- What a step can do to four things that come one after the other: none comes but in place of
the one before. -/
structure InTurn (a b c d a' b' c' d' : Bool) : Prop where
  first : a' = true → a = true
  second : b' = true → b = true ∨ a = true ∧ a' = false
  third : c' = true → c = true ∨ b = true ∧ b' = false
  fourth : d' = true → d = true ∨ c = true ∧ c' = false

/-- There are not more of them after the step, nor more of the first three. -/
theorem InTurn.le {a b c d a' b' c' d' : Bool} (turn : InTurn a b c d a' b' c' d') :
    a'.toNat + b'.toNat + c'.toNat ≤ a.toNat + b.toNat + c.toNat ∧
      a'.toNat + b'.toNat + c'.toNat + d'.toNat ≤ a.toNat + b.toNat + c.toNat + d.toNat := by
  obtain ⟨first, second, third, fourth⟩ := turn
  revert a b c d a' b' c' d'
  decide

/-- Whether a terminal is on its way to a session. -/
def Call.bound (s : Serial) (c : Call) : Bool :=
  decide (c.attaches? = some s)

/-- **A step of a call brings each of them only in place of the one before.** -/
theorem Call.inTurn (hs : c.step g e h = some (h', c')) (bare : c ≠ .asked (.attachControl s)) :
    InTurn (decide (h.nextSerial ≤ s)) (h.takeShell s).1 (c.bound s) (h.attached s)
      (decide (h'.nextSerial ≤ s)) (h'.takeShell s).1 (c'.bound s) (h'.attached s) := by
  obtain ⟨grows, shell⟩ := (Call.piece hs).shell_before s
  constructor
  case first =>
    intro unmade
    exact decide_eq_true (Nat.le_trans grows (of_decide_eq_true unmade))
  case second =>
    intro there
    obtain before | ⟨unmade, made⟩ := shell there
    · exact .inl before
    · exact .inr ⟨decide_eq_true unmade, decide_eq_false (Nat.not_le.mpr made)⟩
  case third =>
    intro after
    by_cases before : c.attaches? = some s
    · exact .inl (decide_eq_true before)
    · exact .inr (Call.takes_shell hs before (of_decide_eq_true after))
  case fourth =>
    intro after
    cases before : h.attached s with
    | true => exact .inl rfl
    | false =>
      obtain ⟨on, off⟩ := (Call.installs_queue hs before after).resolve_left bare
      exact .inr ⟨decide_eq_true on, decide_eq_false off⟩

end Session

/-- So does what makes a session, to which no terminal is on its way. -/
theorem Hub.inTurn_make (h : Hub) (info : Info) (shellHere : Bool) (s : Serial) :
    let made := (h.make info shellHere).2
    InTurn (decide (h.nextSerial ≤ s)) (h.takeShell s).1 false (h.attached s)
      (decide (made.nextSerial ≤ s)) (made.takeShell s).1 false (made.attached s) := by
  intro made
  constructor
  case first =>
    intro unmade
    exact decide_eq_true (Nat.le_of_succ_le (of_decide_eq_true unmade))
  case second =>
    intro there
    obtain before | ⟨unmade, now⟩ := h.shell_make info shellHere there
    · exact .inl before
    · exact .inr ⟨decide_eq_true unmade, decide_eq_false (Nat.not_le.mpr now)⟩
  case third => exact nofun
  case fourth =>
    intro after
    cases before : h.attached s with
    | true => exact .inl rfl
    | false =>
      have making : Stirring .go h (.answered .done) made := .made info shellHere
      cases making.installs before after

/-! ## Along schedules -/

namespace Session.System

variable {g : Gateway} {t u v : System} {s : Serial} {past more moves : List Move}

/-- Nobody who is no terminal was asked to install a queue in a session. -/
def Bare (t : System) (s : Serial) : Prop :=
  Call.asked (.attachControl s) ∉ t.calls

/-- In how many ways a session can come to have a control queue: it is yet to be made, or has its
shell, or terminals are on their way. -/
def prospects (t : System) (s : Serial) : Nat :=
  (decide (t.hub.nextSerial ≤ s)).toNat + (t.hub.takeShell s).1.toNat +
    t.total fun c => (c.bound s).toNat

theorem bare_move {m : Move} (hm : t.move g m = some u) (bare : t.Bare s)
    (other : m ≠ .start (.attachControl s)) : u.Bare s := by
  intro asked
  cases m with
  | start r =>
    obtain rfl := Option.some.inj hm
    rcases List.mem_append.mp asked with old | new
    · exact bare old
    · rw [Call.asked.inj (List.mem_singleton.mp new)] at other
      exact other rfl
  | step c e =>
    obtain ⟨call, h', call', hc, hs, rfl⟩ := move_step_eq_some hm
    rcases List.mem_or_eq_of_mem_set asked with old | same
    · exact bare old
    · -- no step leads back to a request
      obtain ⟨_, _, _, -, boarding, -⟩ := (Call.piece hs).lookup (same ▸ rfl)
      cases same.trans boarding
  | make | wait =>
    obtain rfl := Option.some.inj hm
    exact bare asked

/-- **No move adds to the ways in which a session can come to have a queue**, nor to these and
the queue that it has. -/
theorem prospects_move {m : Move} (hm : t.move g m = some u) (bare : t.Bare s) :
    u.prospects s ≤ t.prospects s ∧
      u.prospects s + (u.hub.attached s).toNat ≤ t.prospects s + (t.hub.attached s).toNat := by
  cases m with
  | start r =>
    obtain rfl := Option.some.inj hm
    have same : ({ t with calls := t.calls ++ [.asked r] } : System).prospects s =
        t.prospects s :=
      congrArg (_ + ·) (t.total_ask _ r)
    exact ⟨same.le, (congrArg (· + _) same).le⟩
  | step c e =>
    obtain ⟨call, h', call', hc, hs, rfl⟩ := move_step_eq_some hm
    have asked : call ≠ .asked (.attachControl s) := by
      rintro rfl
      exact bare (List.mem_of_getElem? hc)
    obtain ⟨three, four⟩ := (Call.inTurn hs asked).le
    have total := total_stepped (f := fun c => (c.bound s).toNat) hc h' call'
    have hub : (t.stepped c h' call').hub = h' := rfl
    rw [prospects, prospects, hub]
    omega
  | make info shellHere =>
    obtain rfl := Option.some.inj hm
    obtain ⟨three, four⟩ := (t.hub.inTurn_make info shellHere s).le
    have total : ({ t with hub := (t.hub.make info shellHere).2 } : System).total
        (fun c => (c.bound s).toNat) = t.total fun c => (c.bound s).toNat := rfl
    rw [Bool.toNat_false] at three four
    rw [prospects, prospects, total]
    dsimp only
    omega
  | wait time =>
    obtain rfl := Option.some.inj hm
    exact ⟨le_rfl, le_rfl⟩

/-- So it is along every schedule. -/
theorem prospects_run (ran : t.run g moves = some u) (bare : t.Bare s)
    (others : .start (.attachControl s) ∉ moves) : u.Bare s ∧
      u.prospects s + (u.hub.attached s).toNat ≤ t.prospects s + (t.hub.attached s).toNat := by
  induction moves generalizing t with
  | nil =>
    cases ran
    exact ⟨bare, le_rfl⟩
  | cons m rest ih =>
    obtain ⟨w, hm, hrest⟩ := run_cons_eq_some ran
    rw [List.mem_cons, not_or] at others
    obtain ⟨other, later⟩ := others
    obtain ⟨still, le⟩ := ih hrest (bare_move hm bare (Ne.symm other)) later
    exact ⟨still, le.trans (prospects_move hm bare).2⟩

/-- **A session from which a control queue was taken out never has another**, if all queues are
installed by terminals. -/
theorem detached_for_good {m : Move} (reached : initial.run g past = some u)
    (attached : u.hub.attached s = true) (taken : u.move g m = some t)
    (without : t.hub.attached s = false) (ran : t.run g more = some v)
    (others : .start (.attachControl s) ∉ past ++ [m] ++ more) : v.hub.attached s = false := by
  rw [List.mem_append, List.mem_append, List.mem_singleton, not_or, not_or] at others
  obtain ⟨⟨before, other⟩, later⟩ := others
  obtain ⟨bare, first⟩ := prospects_run (s := s) reached List.not_mem_nil before
  have start : initial.prospects s + (initial.hub.attached s).toNat = 1 := rfl
  obtain ⟨second, -⟩ := prospects_move taken bare
  obtain ⟨-, third⟩ := prospects_run ran (bare_move taken bare (Ne.symm other)) later
  rw [start, attached, Bool.toNat_true] at first
  rw [without, Bool.toNat_false] at third
  have none_ : (v.hub.attached s).toNat = 0 := by omega
  exact Bool.toNat_eq_zero.mp none_

end Session.System

end ShellGateway
