import ShellGateway.Proofs.Session.Life
import ShellGateway.Proofs.Session.Trail

/-!
# Who releases a session's handles

Closing a session takes many steps, any of its releases can fail, and other calls
come in between: others that close the session, and others that take its shell.
`Grip` says how far closing has come, and which call it was that marked the
session; `Owned` says what each grip means for the session, given how often its
shell was handed out: how often each handle was released, and where the shell is.
The shell is in one place at a time, so that what was handed out, what was
released, what a closing call has in its hands and what is still in the session
add up to what the session was made with.

`Gripped.step` says that every step of every call takes a session from one grip to
the next (`Tighten`), and that the sum is kept.
-/

namespace ShellGateway

open Session

namespace Session

/-- What a call that has marked a session does to its handles next. -/
inductive Pending where
  /-- It tells the terminal and releases the transfer channel. -/
  | transfer
  /-- It looks whether the shell is here. -/
  | shell
  /-- It has found the shell and releases it. -/
  | holding
  /-- It closes the transport. -/
  | transport
  deriving DecidableEq

/-- What a stage of a closing does to the handles next. -/
def Closing.pending? : Closing → Option Pending
  | marking => none
  | takingControl | signalling _ | releasingTransfer => some .transfer
  | takingShell => some .shell
  | releasingShell => some .holding
  | releasingTransport => some .transport

namespace Call

/-- The session whose handles a call releases, and what it does to them next. -/
def pending? : Call → Option (Serial × Pending)
  | closing s stage _ => stage.pending?.map (s, ·)
  | _ => none

/-- The session whose shell a call takes next, if it is there. -/
def wants? : Call → Option Serial
  | asked (.takeShell s) | takingShell _ s _ => some s
  | _ => none

/-- A call that is not closing anything has nothing to release. -/
theorem pending?_of_isFree {c : Call} (hc : c.isFree) : c.pending? = none := by
  cases c with
  | closing => cases hc
  | _ => rfl

theorem not_taking_of_isPlain {h : Hub} {c : Call} (hc : c.isPlain h) :
    c.pending? = none ∧ c.wants? = none := by
  cases c with
  | asked r =>
    cases r with
    | takeShell => cases hc
    | _ => exact ⟨rfl, rfl⟩
  | closing | takingShell => cases hc
  | _ => exact ⟨rfl, rfl⟩

/-- A call that has a shell does not take one. -/
theorem not_taking_of_aboard? {c : Call} {id : String} {s : Serial}
    (hc : c.aboard? = some (id, s)) : c.pending? = none ∧ c.wants? = none := by
  obtain ⟨w, rfl⟩ | ⟨q, task, rfl⟩ := eq_of_aboard? hc
  · exact ⟨rfl, rfl⟩
  · exact ⟨rfl, rfl⟩

@[simp]
theorem pending?_ofNext (n : Next) : (ofNext n).pending? = none := by
  cases n <;> rfl

/-- A session that was taken out of the registry is yet to be marked. -/
@[simp]
theorem pending?_closeRemoved (removed : Option Serial) (n n' : Next) :
    (closeRemoved removed n n').pending? = none := by
  cases removed with
  | some s => rfl
  | none => exact pending?_ofNext n'

end Call

/-- While a closing tells the terminal, the transfer channel comes next. -/
theorem Closing.pending?_of_isTelling {stage : Closing} (h : stage.isTelling) :
    stage.pending? = some .transfer := by
  cases stage with
  | takingControl | signalling => rfl
  | _ => cases h

namespace System

/-- The session whose handles a call releases, and what it does to them next. -/
def pending? (t : System) (c : CallId) : Option (Serial × Pending) :=
  t.calls[c]? >>= Call.pending?

/-- The call that gets the shell of session `s` in a move. -/
def handing (s : Serial) (t : System) : Move → List CallId
  | .step c _ =>
    if (t.calls[c]? >>= Call.wants?) = some s ∧ (t.hub.takeShell s).1 = true then [c] else []
  | _ => []

theorem pending?_stepped {t : System} {c : CallId} {call : Call} (hc : t.calls[c]? = some call)
    (h : Hub) (call' : Call) (i : CallId) :
    (t.stepped c h call').pending? i = if i = c then call'.pending? else t.pending? i := by
  unfold pending?
  by_cases hi : i = c
  · rw [if_pos hi, hi, calls_stepped hc]
    rfl
  · rw [if_neg hi]
    exact congrArg (· >>= Call.pending?) (List.getElem?_set_ne (Ne.symm hi))

/-- A call that was just asked for releases nothing. -/
theorem pending?_start (t : System) (r : Request) (i : CallId) :
    ({ t with calls := t.calls ++ [.asked r] } : System).pending? i = t.pending? i := by
  unfold pending?
  rcases Nat.lt_trichotomy i t.calls.length with hlt | heq | hgt
  · exact congrArg (· >>= Call.pending?) (List.getElem?_append_left hlt)
  · rw [heq, List.getElem?_concat_length, List.getElem?_eq_none (Nat.le_refl _)]
    rfl
  · rw [List.getElem?_eq_none (by rw [List.length_append]; exact hgt),
      List.getElem?_eq_none (Nat.le_of_lt hgt)]

end System

end Session

/-! ## What sessions own -/

namespace Session

/-- How often a handle was released. -/
def Holdings.count (k : Holdings) (handle : Handle) : Nat :=
  k.releases.countP (·.handle = handle)

/-- What a session owns after an attempt to release a handle. -/
def Holdings.released (k : Holdings) (handle : Handle) (failed : Bool) : Holdings :=
  { k with releases := ⟨handle, failed⟩ :: k.releases }

/-- The attempt counts, failed or not. -/
theorem Holdings.count_released (k : Holdings) (handle handle' : Handle) (failed : Bool) :
    (k.released handle failed).count handle' =
      k.count handle' + if handle = handle' then 1 else 0 := by
  unfold released count
  rw [List.countP_cons]
  simp only [decide_eq_true_eq]

end Session

namespace Hub

/-- What a session owns. -/
def holdings? (h : Hub) (s : Serial) : Option Holdings :=
  (h.sessions.get? s).map Session.holdings

/-- A step that changes what session `y` owns and nothing else that is owned. -/
structure Shifts (h h' : Hub) (y : Serial) (f : Holdings → Holdings) : Prop where
  nextSerial : h'.nextSerial = h.nextSerial
  holdings : ∀ s, h'.holdings? s = if s = y then (h.holdings? y).map f else h.holdings? s

theorem shifts_modify (h : Hub) (y : Serial) {f : Session → Session} {k : Holdings → Holdings}
    (hf : ∀ x, (f x).holdings = k x.holdings) : h.Shifts (h.modify y f) y k where
  nextSerial := by
    unfold modify
    split <;> rfl
  holdings s := by
    unfold holdings?
    rw [get?_modify]
    by_cases hs : s = y
    · rw [if_pos hs, if_pos hs, Option.map_map, Option.map_map]
      exact congrArg (Option.map · _) (funext hf)
    · rw [if_neg hs, if_neg hs]

theorem shifts_refl (h : Hub) (y : Serial) : h.Shifts h y fun k => k where
  nextSerial := rfl
  holdings s := by
    by_cases hs : s = y
    · rw [if_pos hs, hs, Option.map_id']
    · rw [if_neg hs]

theorem shifts_markClosed (h : Hub) (y : Serial) :
    h.Shifts (h.markClosed y).2 y ({ · with closed := true }) :=
  h.shifts_modify y fun _ => rfl

theorem shifts_takeShell (h : Hub) (y : Serial) :
    h.Shifts (h.takeShell y).2 y ({ · with shellHere := false }) :=
  h.shifts_modify y fun _ => rfl

theorem shifts_release (h : Hub) (y : Serial) (handle : Handle) (failed : Bool) :
    h.Shifts (h.release y handle failed) y (·.released handle failed) :=
  h.shifts_modify y fun _ => rfl

/-- What is asked of a session is asked of what it owns. -/
theorem any_of_holdings? {h : Hub} {s : Serial} {y : Holdings} (hy : h.holdings? s = some y)
    {p : Session → Bool} {q : Holdings → Bool} (hp : ∀ x, p x = q x.holdings) :
    (h.sessions.get? s).any p = q y := by
  obtain ⟨x, hx, rfl⟩ := Option.map_eq_some_iff.mp hy
  rw [hx]
  exact hp x

/-- Marking a session that is closed changes nothing that is owned. -/
theorem holdings?_markClosed_of_closed (h : Hub) {y : Serial} (closed : (h.markClosed y).1 = true)
    (s : Serial) : (h.markClosed y).2.holdings? s = h.holdings? s := by
  rw [(h.shifts_markClosed y).holdings]
  by_cases hs : s = y
  · obtain ⟨x, hx, hclosed⟩ := (Option.any_eq_true _ _).mp closed
    have same : { x.holdings with closed := true } = x.holdings := by
      unfold Session.holdings
      rw [hclosed]
    rw [if_pos hs, hs, holdings?, hx]
    exact congrArg some same
  · rw [if_neg hs]

theorem holdings?_make (h : Hub) (info : Info) (shellHere : Bool) (s : Serial) :
    (h.make info shellHere).2.holdings? s =
      if s = h.nextSerial then some ⟨info, false, shellHere, []⟩ else h.holdings? s := by
  unfold make holdings?
  dsimp only
  rw [Dictionary.get?_insert]
  split <;> rfl

@[simp]
theorem put_holdings? (h : Hub) (r s : Serial) : (h.put r).2.holdings? s = h.holdings? s := by
  unfold put
  split <;> rfl

@[simp]
theorem remove_holdings? (h : Hub) (id : String) (s : Serial) :
    (h.remove id).2.holdings? s = h.holdings? s := by
  unfold remove
  split <;> rfl

end Hub

namespace Session

/-! ## Grips -/

/-- How far closing a session has come. -/
inductive Grip where
  | unclosed
  /-- Call `c` has marked the session and releases its handles. -/
  | held (c : CallId) (p : Pending)
  /-- Call `c` has released them. -/
  | released (c : CallId)
  deriving DecidableEq

namespace Grip

/-- The call that has marked the session. -/
def closer? : Grip → Option CallId
  | unclosed => none
  | held c _ | released c => some c

/-- The transfer channel, if there is one, was released. -/
def pastTransfer : Grip → Bool
  | unclosed | held _ .transfer => false
  | _ => true

/-- The closing has looked for the shell. -/
def pastShell : Grip → Bool
  | unclosed | held _ .transfer | held _ .shell => false
  | _ => true

/-- The closing has the shell in its hands. -/
def hasShell : Grip → Bool
  | held _ .holding => true
  | _ => false

def isReleased : Grip → Bool
  | released _ => true
  | _ => false

/-- A call releases handles only of sessions that it has marked. -/
theorem eq_unclosed {k : Grip} (h : k.closer?.isSome = false) : k = unclosed := by
  cases k with
  | unclosed => rfl
  | _ => cases h

end Grip

/-- How a step of call `c` takes a session from grip to grip. -/
inductive Tighten (c : CallId) : Grip → Grip → Prop where
  | stay (k : Grip) : Tighten c k k
  | swap : Tighten c .unclosed (.held c .transfer)
  | go (p p' : Pending) : Tighten c (.held c p) (.held c p')
  | release : Tighten c (.held c .transport) (.released c)

/-- Once marked, a session stays marked by the same call. -/
theorem Tighten.closer? {c d : CallId} {k k' : Grip} (adv : Tighten c k k')
    (hd : k.closer? = some d) : k'.closer? = some d := by
  cases adv with
  | stay | go | release => exact hd
  | swap => cases hd

theorem Tighten.isReleased {c : CallId} {k k' : Grip} (adv : Tighten c k k')
    (hk : k.isReleased) : k'.isReleased := by
  cases adv with
  | stay => exact hk
  | swap | go | release => cases hk

/-- What a session of which nothing was released at first owns later on: `shell`
says whether it had its shell, and `handed` how often that was handed out. -/
structure Owned (info : Info) (shell : Bool) (handed : Nat) (k : Grip) (y : Holdings) : Prop where
  made : y.info = info
  closed : y.closed = k.closer?.isSome
  transfers : y.count .transfer = (k.pastTransfer && info.hasTransfer).toNat
  transports : y.count .transport = k.isReleased.toNat
  shells : handed + y.count .shell + k.hasShell.toNat + y.shellHere.toNat = shell.toNat
  gone : k.pastShell → y.shellHere = false

/-- Session `s` is in grip `k`. -/
structure Gripped (t : System) (s : Serial) (info : Info) (shell : Bool) (handed : Nat)
    (k : Grip) : Prop where
  /-- The call that has marked it is the only one that releases its handles. -/
  pending : ∀ c p, t.pending? c = some (s, p) ↔ k = .held c p
  numbered : s < t.hub.nextSerial
  owned : ∃ y, t.hub.holdings? s = some y ∧ Owned info shell handed k y

namespace Gripped

variable {g : Gateway} {t u : System} {s y : Serial} {info : Info} {shell : Bool} {handed : Nat}
  {k : Grip} {c : CallId} {e : Event} {call call' : Call} {h' : Hub}

/-- What a call releases, seen from the session. -/
theorem eq_held (gr : Gripped t s info shell handed k) (hc : t.calls[c]? = some call) {p : Pending}
    (hp : call.pending? = some (s, p)) : k = .held c p := by
  refine (gr.pending c p).mp ?_
  rw [System.pending?, hc]
  exact hp

/-- A call that releases of the session what it did before leaves it in the same
hands. -/
theorem pending_stepped (gr : Gripped t s info shell handed k) (hc : t.calls[c]? = some call)
    (same : ∀ p, call'.pending? = some (s, p) ↔ call.pending? = some (s, p)) (i : CallId)
    (p : Pending) : (t.stepped c h' call').pending? i = some (s, p) ↔ k = .held i p := by
  rw [← gr.pending i p, System.pending?_stepped hc]
  by_cases hi : i = c
  · rw [if_pos hi, same, hi, System.pending?, hc]
    rfl
  · rw [if_neg hi]

/-! ## Steps -/

/-- A session that a step does not change and whose handles the stepping call
releases as before, if at all, is in the same grip. -/
theorem untouched (gr : Gripped t s info shell handed k) (hc : t.calls[c]? = some call)
    (holdings : h'.holdings? s = t.hub.holdings? s) (serials : t.hub.nextSerial ≤ h'.nextSerial)
    (same : ∀ p, call'.pending? = some (s, p) ↔ call.pending? = some (s, p)) :
    ∃ k', Gripped (t.stepped c h' call') s info shell handed k' ∧ Tighten c k k' := by
  obtain ⟨own, hown, owned⟩ := gr.owned
  exact ⟨k, ⟨gr.pending_stepped hc same, Nat.lt_of_lt_of_le gr.numbered serials,
    own, holdings.trans hown, owned⟩, .stay k⟩

/-- The same for a call that has nothing to release. -/
theorem unconcerned (gr : Gripped t s info shell handed k) (hc : t.calls[c]? = some call)
    (holdings : h'.holdings? s = t.hub.holdings? s) (serials : t.hub.nextSerial ≤ h'.nextSerial)
    (before : call.pending? = none) (after : call'.pending? = none) :
    ∃ k', Gripped (t.stepped c h' call') s info shell handed k' ∧ Tighten c k k' :=
  gr.untouched hc holdings serials fun p => by rw [before, after]

/-- A step on one session leaves the others alone. -/
theorem elsewhere (gr : Gripped t s info shell handed k) (hc : t.calls[c]? = some call)
    {f : Holdings → Holdings} (shifts : t.hub.Shifts h' y f) (hs : s ≠ y)
    (before : ∀ r p, call.pending? = some (r, p) → r = y)
    (after : ∀ r p, call'.pending? = some (r, p) → r = y) :
    ∃ k', Gripped (t.stepped c h' call') s info shell handed k' ∧ Tighten c k k' := by
  have holdings := shifts.holdings s
  rw [if_neg hs] at holdings
  exact gr.untouched hc holdings (Nat.le_of_eq shifts.nextSerial.symm) fun p =>
    ⟨fun h => absurd (after s p h) hs, fun h => absurd (before s p h) hs⟩

/-- A step of the call that has marked this session, or that does so now. What is
left to be shown is what the session owns afterwards. -/
theorem handled (gr : Gripped t s info shell handed k) (hc : t.calls[c]? = some call)
    {f : Holdings → Holdings} (shifts : t.hub.Shifts h' s f) {k' : Grip} (adv : Tighten c k k')
    (alone : ∀ i p, k = .held i p → i = c)
    (after : ∀ i p, k' = .held i p ↔ i = c ∧ call'.pending? = some (s, p))
    (owned : ∀ own, t.hub.holdings? s = some own → Owned info shell handed k own →
      Owned info shell handed k' (f own)) :
    ∃ k', Gripped (t.stepped c h' call') s info shell handed k' ∧ Tighten c k k' := by
  refine ⟨k', ⟨fun i p => ?_, ?_, ?_⟩, adv⟩
  · rw [System.pending?_stepped hc, after]
    by_cases hi : i = c
    · rw [if_pos hi]
      exact ⟨fun h => ⟨hi, h⟩, fun h => h.2⟩
    · -- the other calls release nothing of this session, before and after
      rw [if_neg hi]
      exact ⟨fun h => absurd (alone i p ((gr.pending i p).mp h)) hi, fun h => absurd h.1 hi⟩
  · show s < h'.nextSerial
    rw [shifts.nextSerial]
    exact gr.numbered
  · obtain ⟨own, hown, ho⟩ := gr.owned
    refine ⟨f own, ?_, owned own hown ho⟩
    have holdings := shifts.holdings s
    rw [if_pos rfl, hown] at holdings
    exact holdings

/-- A closing goes on to the next handle of its session. -/
theorem goes_on (gr : Gripped t s info shell handed k) {stage stage' : Closing} {next : Next}
    (hc : t.calls[c]? = some (.closing y stage next)) {f : Holdings → Holdings}
    (shifts : t.hub.Shifts h' y f) {p p' : Pending} (before : stage.pending? = some p)
    (after : stage'.pending? = some p')
    (owned : ∀ own, t.hub.holdings? y = some own → Owned info shell handed (.held c p) own →
      Owned info shell handed (.held c p') (f own)) :
    ∃ k', Gripped (t.stepped c h' (.closing y stage' next)) s info shell handed k' ∧
      Tighten c k k' := by
  have hbefore : (Call.closing y stage next).pending? = some (y, p) := by
    rw [Call.pending?, before]
    rfl
  have hafter : (Call.closing y stage' next).pending? = some (y, p') := by
    rw [Call.pending?, after]
    rfl
  by_cases hs : s = y
  · subst hs
    obtain rfl := gr.eq_held hc hbefore
    refine gr.handled hc shifts (.go p p') (fun _ _ h => by cases h; rfl) (fun i q => ?_) owned
    rw [hafter]
    exact ⟨fun h => by cases h; exact ⟨rfl, rfl⟩, fun ⟨hi, hq⟩ => by cases hi; cases hq; rfl⟩
  · refine gr.elsewhere hc shifts hs (fun r q h => ?_) fun r q h => ?_
    · cases hbefore.symm.trans h
      rfl
    · cases hafter.symm.trans h
      rfl

/-- A session is marked. -/
theorem marks (gr : Gripped t s info shell handed k) {next : Next}
    (hc : t.calls[c]? = some (.closing y .marking next))
    (isOpen : (t.hub.markClosed y).1 = false) :
    ∃ k', Gripped (t.stepped c (t.hub.markClosed y).2 (.closing y .takingControl next)) s info
      shell handed k' ∧ Tighten c k k' := by
  have shifts := t.hub.shifts_markClosed y
  by_cases hs : s = y
  · subst hs
    obtain ⟨own, hown, ho⟩ := gr.owned
    have unmarked : own.closed = false :=
      (Hub.any_of_holdings? hown (q := (·.closed)) fun _ => rfl).symm.trans isOpen
    obtain rfl := Grip.eq_unclosed (ho.closed.symm.trans unmarked)
    refine gr.handled hc shifts .swap (fun _ _ h => by cases h) (fun i q => ?_) fun own _ ho => ?_
    · exact ⟨fun h => by cases h; exact ⟨rfl, rfl⟩, fun ⟨hi, hq⟩ => by cases hi; cases hq; rfl⟩
    · exact { ho with closed := rfl, gone := nofun }
  · refine gr.elsewhere hc shifts hs (fun r q h => ?_) fun r q h => ?_
    · cases h
    · cases h
      rfl

/-- The transport is closed. -/
theorem finishes (gr : Gripped t s info shell handed k) {next : Next} (failed : Bool)
    (hc : t.calls[c]? = some (.closing y .releasingTransport next)) :
    ∃ k', Gripped (t.stepped c (t.hub.release y .transport failed) (.ofNext next)) s info
      shell handed k' ∧ Tighten c k k' := by
  have shifts := t.hub.shifts_release y .transport failed
  by_cases hs : s = y
  · subst hs
    obtain rfl := gr.eq_held hc rfl
    refine gr.handled hc shifts .release (fun _ _ h => by cases h; rfl) (fun i q => ?_)
      fun own _ ho => ?_
    · rw [Call.pending?_ofNext]
      exact ⟨fun h => (by cases h), fun h => by cases h.2⟩
    · refine { ho with transfers := ?_, transports := ?_, shells := ?_ }
      · rw [Holdings.count_released]
        exact ho.transfers
      · rw [Holdings.count_released, ho.transports]
        rfl
      · rw [Holdings.count_released]
        exact ho.shells
  · refine gr.elsewhere hc shifts hs (fun r q h => ?_) fun r q h => ?_
    · cases h
      rfl
    · rw [Call.pending?_ofNext] at h
      cases h

/-- A call takes a shell, or finds it gone: one that it gets was in the session until
then. -/
theorem takes (gr : Gripped t s info shell handed k) (e : Event) (hc : t.calls[c]? = some call)
    (wants : call.wants? = some y) (before : call.pending? = none) (after : call'.pending? = none) :
    ∃ k', Gripped (t.stepped c (t.hub.takeShell y).2 call') s info shell
      (handed + (t.handing s (.step c e)).length) k' ∧ Tighten c k k' := by
  have shifts := t.hub.shifts_takeShell y
  have wanted : (t.calls[c]? >>= Call.wants?) = some y := by
    rw [hc]
    exact wants
  by_cases hs : s = y
  · subst hs
    obtain ⟨own, hown, ho⟩ := gr.owned
    have there : (t.hub.takeShell s).1 = own.shellHere :=
      Hub.any_of_holdings? hown (q := (·.shellHere)) fun _ => rfl
    have holdings := shifts.holdings s
    rw [if_pos rfl, hown] at holdings
    refine ⟨k, ⟨gr.pending_stepped hc fun p => by rw [before, after], ?_, _, holdings,
      { ho with shells := ?_, gone := fun _ => rfl }⟩, .stay k⟩
    · show s < (t.hub.takeShell s).2.nextSerial
      rw [shifts.nextSerial]
      exact gr.numbered
    · -- it was here, or the call did not get it
      have shells := ho.shells
      rw [System.handing, wanted, there]
      cases hown : own.shellHere with
      | true =>
        rw [hown] at shells
        rw [if_pos ⟨rfl, rfl⟩]
        calc handed + 1 + own.count .shell + k.hasShell.toNat + 0
          _ = handed + own.count .shell + k.hasShell.toNat + 1 := by omega
          _ = shell.toNat := shells
      | false =>
        rw [hown] at shells
        rw [if_neg (by simp)]
        exact shells
  · have notHere : ¬ ((t.calls[c]? >>= Call.wants?) = some s ∧ (t.hub.takeShell s).1 = true) :=
      fun h => hs (Option.some.inj (h.1.symm.trans wanted))
    rw [System.handing, if_neg notHere]
    exact gr.elsewhere hc shifts hs (by simp [before]) (by simp [after])

/-- **Every step of a call takes every session from its grip to one that may follow
it**, and what became of its shell still adds up. -/
theorem step (gr : Gripped t s info shell handed k) (e : Event) (hc : t.calls[c]? = some call)
    (piece : Piece t.hub call h' call') :
    ∃ k', Gripped (t.stepped c h' call') s info shell
      (handed + (t.handing s (.step c e)).length) k' ∧ Tighten c k k' := by
  -- nothing is handed to a call that wants nothing
  have nobody : call.wants? = none → handed + (t.handing s (.step c e)).length = handed := by
    intro wants
    have wanted : (t.calls[c]? >>= Call.wants?) = none := by
      rw [hc]
      exact wants
    rw [System.handing, if_neg (by simp [wanted])]
    rfl
  have kept : ∀ {h' call'}, t.hub.Keeps h' → call.pending? = none → call.wants? = none →
      call'.pending? = none → ∃ k', Gripped (t.stepped c h' call') s info shell
        (handed + (t.handing s (.step c e)).length) k' ∧ Tighten c k k' := by
    intro h' call' keeps before wants after
    rw [nobody wants]
    exact gr.unconcerned hc (keeps.sessions s) (Nat.le_of_eq keeps.nextSerial.symm) before after
  cases piece with
  | plain keeps before after =>
    have ⟨pending, wants⟩ := Call.not_taking_of_isPlain before
    exact kept keeps pending wants (Call.pending?_of_isFree after)
  | opened info' before =>
    have ⟨pending, wants⟩ := Call.not_taking_of_isPlain before
    have made := t.hub.holdings?_make info' true s
    rw [if_neg (Nat.ne_of_lt gr.numbered)] at made
    rw [nobody wants]
    exact gr.unconcerned hc made (Nat.le_succ _) pending rfl
  | offered r =>
    have serials := Nat.le_of_eq (t.hub.put_nextSerial r).symm
    rw [nobody rfl]
    exact gr.unconcerned hc (t.hub.put_holdings? r s) serials rfl rfl
  | registered r n =>
    have serials := Nat.le_of_eq (t.hub.put_nextSerial r).symm
    rw [nobody rfl]
    exact gr.unconcerned hc (t.hub.put_holdings? r s) serials rfl (by simp)
  | removed id next absent | swept maxIdle id rest evicted stale =>
    have serials := Nat.le_of_eq (t.hub.remove_nextSerial id).symm
    rw [nobody rfl]
    exact gr.unconcerned hc (t.hub.remove_holdings? id s) serials rfl (by simp)
  | intruding r next => exact kept (Hub.Frame.refl _ _) rfl rfl rfl
  | found id r w here => exact kept (Hub.Frame.refl _ _) rfl rfl rfl
  | lent r => exact gr.takes e hc rfl rfl rfl
  | boarded id r w there => exact gr.takes e hc rfl rfl rfl
  | refused id r w gone => exact gr.takes e hc rfl rfl rfl
  | aboard id r keeps before after =>
    have ⟨pending, wants⟩ := Call.not_taking_of_aboard? before
    exact kept keeps pending wants (Call.not_taking_of_aboard? after).1
  | ashore id r how keeps before =>
    have ⟨pending, wants⟩ := Call.not_taking_of_aboard? before
    exact kept keeps pending wants rfl
  | marked r next isOpen =>
    rw [nobody rfl]
    exact gr.marks hc isOpen
  | late r next closed =>
    rw [nobody rfl]
    exact gr.unconcerned hc (t.hub.holdings?_markClosed_of_closed closed s)
      (Nat.le_of_eq (t.hub.shifts_markClosed r).nextSerial.symm) rfl (by simp)
  | told r next keeps before after =>
    rw [nobody rfl]
    refine gr.untouched hc (keeps.sessions s) (Nat.le_of_eq keeps.nextSerial.symm) fun p => ?_
    have ahead := after.elim Closing.pending?_of_isTelling fun h => by rw [h]; rfl
    rw [Call.pending?, Call.pending?, Closing.pending?_of_isTelling before, ahead]
  | transferReleased r next failed offered =>
    rw [nobody rfl]
    refine gr.goes_on hc (t.hub.shifts_release r .transfer failed) rfl rfl fun own hown ho => ?_
    have has : own.info.hasTransfer = true :=
      (Hub.any_of_holdings? hown (q := (·.info.hasTransfer)) fun _ => rfl).symm.trans offered
    refine { ho with transfers := ?_, transports := ?_, shells := ?_, gone := nofun }
    · rw [Holdings.count_released, ho.transfers, ← ho.made, has]
      rfl
    · rw [Holdings.count_released]
      exact ho.transports
    · rw [Holdings.count_released]
      exact ho.shells
  | transferAbsent r next absent =>
    rw [nobody rfl]
    refine gr.goes_on hc (t.hub.shifts_refl r) rfl rfl fun own hown ho => ?_
    have hasNot : own.info.hasTransfer = false :=
      (Hub.any_of_holdings? hown (q := (·.info.hasTransfer)) fun _ => rfl).symm.trans absent
    refine { ho with transfers := ?_, gone := nofun }
    show own.count .transfer = _
    rw [ho.transfers, ← ho.made, hasNot]
    rfl
  | shellFound r next there =>
    rw [nobody rfl]
    refine gr.goes_on hc (t.hub.shifts_takeShell r) rfl rfl fun own hown ho => ?_
    have here : own.shellHere = true :=
      (Hub.any_of_holdings? hown (q := (·.shellHere)) fun _ => rfl).symm.trans there
    have shells := ho.shells
    rw [here] at shells
    exact { ho with shells := shells, gone := fun _ => rfl }
  | shellGone r next gone =>
    rw [nobody rfl]
    refine gr.goes_on hc (t.hub.shifts_takeShell r) rfl rfl fun own hown ho => ?_
    have notHere : own.shellHere = false :=
      (Hub.any_of_holdings? hown (q := (·.shellHere)) fun _ => rfl).symm.trans gone
    have shells := ho.shells
    rw [notHere] at shells
    exact { ho with shells := shells, gone := fun _ => rfl }
  | shellReleased r next failed =>
    rw [nobody rfl]
    refine gr.goes_on hc (t.hub.shifts_release r .shell failed) rfl rfl fun own hown ho => ?_
    refine { ho with transfers := ?_, transports := ?_, shells := ?_ }
    · rw [Holdings.count_released]
      exact ho.transfers
    · rw [Holdings.count_released]
      exact ho.transports
    · rw [Holdings.count_released]
      exact ho.shells
  | transportReleased r next failed =>
    rw [nobody rfl]
    exact gr.finishes failed hc

/-! ## Moves -/

/-- **Every move takes every session from its grip to one that may follow it.** -/
theorem move (gr : Gripped t s info shell handed k) {m : Move} (hm : t.move g m = some u) :
    ∃ k', Gripped u s info shell (handed + (t.handing s m).length) k' ∧
      ((∃ c e, m = .step c e ∧ Tighten c k k') ∨ k' = k) := by
  cases m with
  | start r =>
    obtain rfl := Option.some.inj hm
    refine ⟨k, ⟨fun i p => ?_, gr.numbered, gr.owned⟩, .inr rfl⟩
    rw [System.pending?_start]
    exact gr.pending i p
  | step c e =>
    obtain ⟨call, h', call', hc, hstep, rfl⟩ := System.move_step_eq_some hm
    obtain ⟨k', gr', adv⟩ := gr.step e hc (Call.piece hstep)
    exact ⟨k', gr', .inl ⟨c, e, rfl, adv⟩⟩
  | make info' shellHere =>
    obtain rfl := Option.some.inj hm
    -- the new session has another serial
    have made := t.hub.holdings?_make info' shellHere s
    rw [if_neg (Nat.ne_of_lt gr.numbered)] at made
    obtain ⟨own, hown, ho⟩ := gr.owned
    exact ⟨k, ⟨gr.pending, Nat.lt_succ_of_lt gr.numbered, own, made.trans hown, ho⟩, .inr rfl⟩
  | wait time =>
    obtain rfl := Option.some.inj hm
    exact ⟨k, ⟨gr.pending, gr.numbered, gr.owned⟩, .inr rfl⟩

/-- **After every schedule, every session is in some grip.** Whoever has marked it at
first still has in the end, and what was released stays released. -/
theorem run (gr : Gripped t s info shell handed k) {moves : List Move}
    (ran : t.run g moves = some u) :
    ∃ k', Gripped u s info shell (handed + (t.trail (System.handing s) g moves).length) k' ∧
      (∀ d, k.closer? = some d → k'.closer? = some d) ∧ (k.isReleased → k'.isReleased) := by
  induction moves generalizing t handed k with
  | nil =>
    obtain rfl := Option.some.inj ran
    exact ⟨k, gr, fun _ h => h, fun h => h⟩
  | cons m rest ih =>
    obtain ⟨v, hm, hrest⟩ := System.run_cons_eq_some ran
    obtain ⟨k₁, gr₁, adv⟩ := gr.move hm
    obtain ⟨k₂, gr₂, closer, released⟩ := ih gr₁ hrest
    have count : (t.trail (System.handing s) g (m :: rest)).length =
        (t.handing s m).length + (v.trail (System.handing s) g rest).length := by
      simp only [System.trail, hm, List.length_append]
    rw [count, ← Nat.add_assoc]
    refine ⟨k₂, gr₂, ?_, ?_⟩
    · intro d hd
      rcases adv with ⟨c, e, -, adv⟩ | rfl
      · exact closer d (adv.closer? hd)
      · exact closer d hd
    · intro hk
      rcases adv with ⟨c, e, -, adv⟩ | rfl
      · exact released (adv.isReleased hk)
      · exact released hk

end Gripped

end Session

end ShellGateway
