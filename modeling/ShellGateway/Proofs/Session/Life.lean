import ShellGateway.Proofs.Session.Piece

/-!
# What a step does to the lives of sessions

A session is made, registered, taken out of the registry and closed. Of all that
calls do, few steps have a part in this, and `LifeStep` lists them: `lifeStep`
says that any step of any call is one of them, or keeps every session's `Life`
as it was. Whatever is claimed about who registers, removes and closes sessions
is proved from this list, and no proof has to look at the other steps again.

`Call.edit?` and `Call.duty?` are how a call's position is seen from there: the
change that its next step makes to the registry, and the session that it has
undertaken to register or to close.
-/

namespace ShellGateway.Session

/-- What registering and closing change about a session, and what they go by. -/
structure Life where
  info : Info
  closed : Bool
  /-- How often the transport was closed. -/
  transports : Nat
  deriving DecidableEq

/-- The part of a session that its closing changes. -/
def life (x : Session) : Life :=
  ⟨x.info, x.closed, x.releaseCount .transport⟩

/-- It is a part of what the session owns. -/
def Holdings.life (k : Holdings) : Life :=
  ⟨k.info, k.closed, k.releases.countP (·.handle = .transport)⟩

/-- Of the releases, only the transport's count. -/
theorem life_released (x : Session) (handle : Handle) (failed : Bool) :
    { x with releases := ⟨handle, failed⟩ :: x.releases }.life =
      { x.life with
        transports := x.life.transports + if handle = .transport then 1 else 0 } := by
  unfold life releaseCount
  rw [List.countP_cons]
  simp only [decide_eq_true_eq]

end Session

namespace Hub

open Session

/-- The life of a session. -/
def life? (h : Hub) (s : Serial) : Option Life :=
  (h.sessions.get? s).map Session.life

/-- A session is registered. -/
def Holds (h : Hub) (s : Serial) : Prop :=
  ∃ id, h.find? id = some s

/-- The hub's sessions live on as they did. -/
abbrev Quiet (h h' : Hub) : Prop :=
  Frame Session.life h h'

/-- Sessions that own what they did live on as they did. -/
theorem Keeps.quiet {h h' : Hub} (keeps : h.Keeps h') : Quiet h h' :=
  keeps.map Holdings.life

theorem life?_modify (h : Hub) (s s' : Serial) (f : Session → Session) :
    (h.modify s f).life? s' =
      if s' = s then (h.sessions.get? s).map fun x => (f x).life else h.life? s' := by
  unfold life?
  rw [get?_modify]
  split
  · rw [Option.map_map]
    rfl
  · rfl

theorem life?_eq_some {h : Hub} {s : Serial} {l : Life} (hl : h.life? s = some l) :
    ∃ x, h.sessions.get? s = some x ∧ x.life = l :=
  Option.map_eq_some_iff.mp hl

/-- What is registered by a `put`. -/
theorem find?_put (h : Hub) {s : Serial} {l : Life} (hl : h.life? s = some l) (id : String) :
    (h.put s).2.find? id = if id = l.info.id then some s else h.find? id := by
  obtain ⟨x, hx, rfl⟩ := life?_eq_some hl
  unfold put
  rw [hx]
  exact Dictionary.get?_insert _ _ _ _

/-- What was never made cannot be registered. -/
theorem put_unknown (h : Hub) {s : Serial} (hl : h.life? s = none) : h.put s = (none, h) := by
  unfold put
  rw [Option.map_eq_none_iff.mp hl]

/-- The session that a `put` replaces. -/
theorem put_fst (h : Hub) {s : Serial} {l : Life} (hl : h.life? s = some l) :
    (h.put s).1 = h.find? l.info.id := by
  obtain ⟨x, hx, rfl⟩ := life?_eq_some hl
  unfold put
  rw [hx]
  rfl

@[simp]
theorem put_life? (h : Hub) (s s' : Serial) : (h.put s).2.life? s' = h.life? s' := by
  unfold put
  split <;> rfl

@[simp]
theorem put_nextSerial (h : Hub) (s : Serial) : (h.put s).2.nextSerial = h.nextSerial := by
  unfold put
  split <;> rfl

@[simp]
theorem remove_fst (h : Hub) (id : String) : (h.remove id).1 = h.find? id := by
  unfold remove
  cases h.find? id <;> rfl

/-- What is registered after an id was taken out. -/
theorem find?_remove (h : Hub) (id id' : String) :
    (h.remove id).2.find? id' = if id' = id then none else h.find? id' := by
  unfold remove
  cases hf : h.find? id with
  | none =>
    by_cases hid : id' = id
    · rw [if_pos hid, hid]
      exact hf
    · rw [if_neg hid]
  | some s => exact Dictionary.get?_erase _ _ _

@[simp]
theorem remove_life? (h : Hub) (id : String) (s : Serial) :
    (h.remove id).2.life? s = h.life? s := by
  unfold remove
  split <;> rfl

@[simp]
theorem remove_nextSerial (h : Hub) (id : String) : (h.remove id).2.nextSerial = h.nextSerial := by
  unfold remove
  split <;> rfl

/-- What a `put` takes out of the registry is what it replaces. -/
theorem put_fst_of_lost {h : Hub} {r s : Serial} (held : h.Holds s) (lost : ¬ (h.put r).2.Holds s) :
    (h.put r).1 = some s := by
  obtain ⟨id, hid⟩ := held
  cases hr : h.life? r with
  | none =>
    rw [h.put_unknown hr] at lost
    exact absurd ⟨id, hid⟩ lost
  | some l =>
    by_cases hl : id = l.info.id
    · rw [h.put_fst hr, ← hl]
      exact hid
    · refine absurd ⟨id, ?_⟩ lost
      rw [h.find?_put hr, if_neg hl]
      exact hid

/-- What a removal takes out of the registry is what was registered under the id. -/
theorem remove_fst_of_lost {h : Hub} {id : String} {s : Serial} (held : h.Holds s)
    (lost : ¬ (h.remove id).2.Holds s) : (h.remove id).1 = some s := by
  obtain ⟨id', hid⟩ := held
  rw [remove_fst]
  by_cases hi : id' = id
  · rw [← hi]
    exact hid
  · refine absurd ⟨id', ?_⟩ lost
    rw [find?_remove, if_neg hi]
    exact hid

/-- A session that was just made is open, and the others are as they were. -/
theorem life?_make (h : Hub) (info : Info) (shellHere : Bool) (s : Serial) :
    (h.make info shellHere).2.life? s =
      if s = h.nextSerial then some ⟨info, false, 0⟩ else h.life? s := by
  unfold make life?
  dsimp only
  rw [Dictionary.get?_insert]
  split <;> rfl

/-- Marking a session closes it, and no other. -/
theorem life?_markClosed (h : Hub) (s s' : Serial) :
    (h.markClosed s).2.life? s' =
      if s' = s then (h.life? s).map ({ · with closed := true }) else h.life? s' := by
  unfold markClosed
  rw [life?_modify]
  unfold life?
  rw [Option.map_map]
  rfl

/-- Closing a transport is counted for its session, and for no other. -/
theorem life?_release_transport (h : Hub) (s s' : Serial) (failed : Bool) :
    (h.release s .transport failed).life? s' =
      if s' = s then (h.life? s).map fun l => { l with transports := l.transports + 1 }
      else h.life? s' := by
  unfold release
  rw [life?_modify]
  unfold life?
  rw [Option.map_map]
  refine congrArg (fun o => if s' = s then o else _) (congrArg (Option.map · _) ?_)
  exact funext fun x => life_released x .transport failed

end Hub

namespace Session

/-! ## Where calls stand -/

/-- A change to the registry. -/
inductive Edit where
  /-- A session is registered under its id. -/
  | put (id : String) (s : Serial)
  /-- Whatever is registered under an id is taken out. -/
  | removal (id : String)
  deriving DecidableEq

/-- What a call has undertaken to do with a session. -/
inductive Duty where
  /-- It is about to register the session. -/
  | registering
  /-- It was asked to close the session, whether it is registered or not. -/
  | intending
  /-- It is about to mark the session as closed. -/
  | marking
  /-- It has marked the session and releases its handles. -/
  | releasing
  deriving DecidableEq

namespace Call

/-- The change that a call's next step makes to the registry. -/
def edit? (h : Hub) : Call → Option Edit
  | asked (.put s) | registering s => (h.life? s).map fun l => .put l.info.id s
  | removing id _ _ => some (.removal id)
  | sweeping maxIdle (id :: _) _ => if h.staleAt maxIdle id then some (.removal id) else none
  | _ => none

/-- The session that a call has undertaken to do something with. -/
def duty? : Call → Option (Serial × Duty)
  | asked (.put s) | registering s => some (s, .registering)
  | asked (.closeSession s) => some (s, .intending)
  | closing s .marking _ => some (s, .marking)
  | closing s _ _ => some (s, .releasing)
  | _ => none

/-- Whoever is to mark or release a session is closing it. -/
theorem eq_closing {c : Call} {s : Serial} {d : Duty} (hc : c.duty? = some (s, d))
    (hd : d = .marking ∨ d = .releasing) : ∃ stage next, c = closing s stage next := by
  cases c with
  | asked r =>
    cases r with
    | put | closeSession =>
      cases hc
      rcases hd with hd | hd <;> cases hd
    | _ => cases hc
  | registering =>
    cases hc
    rcases hd with hd | hd <;> cases hd
  | closing s' stage next =>
    have hs : s' = s := by
      cases stage <;> exact congrArg Prod.fst (Option.some.inj hc)
    exact ⟨stage, next, by rw [hs]⟩
  | _ => cases hc

@[simp]
theorem duty?_ofNext (n : Next) : (ofNext n).duty? = none := by
  cases n <;> rfl

/-- A session that was taken out is to be closed. -/
theorem duty?_closeRemoved (removed : Option Serial) (n n' : Next) :
    (closeRemoved removed n n').duty? = removed.map (·, .marking) := by
  cases removed with
  | some s => rfl
  | none => exact duty?_ofNext n'

end Call

/-- What a step has to do with the lives of sessions. -/
inductive LifeStep (h : Hub) : Call → Hub → Call → Prop where
  /-- Nothing. -/
  | quiet {h' : Hub} {c c' : Call} (lives : Hub.Quiet h h') (edit : c.edit? h = none)
      (duty : c'.duty? = c.duty?) : LifeStep h c h' c'
  /-- A session is made by a call that goes on to register it. -/
  | opened {c : Call} (info : Info) (edit : c.edit? h = none) (duty : c.duty? = none) :
      LifeStep h c (h.make info true).2 (.registering h.nextSerial)
  /-- A session is registered; whoever asked for it gets the one it replaces. -/
  | offered (s : Serial) :
      LifeStep h (.asked (.put s)) (h.put s).2 (.answered (.session (h.put s).1))
  /-- A session is registered; the one it replaces is to be closed. -/
  | registered (s : Serial) (n : Next) :
      LifeStep h (.registering s) (h.put s).2 (.closeRemoved (h.put s).1 n n)
  /-- An id is taken out, and its session is to be closed. -/
  | removed (id : String) (next absent : Next) :
      LifeStep h (.removing id next absent) (h.remove id).2
        (.closeRemoved (h.remove id).1 next absent)
  /-- A stale id is taken out, and its session is to be closed. -/
  | swept (maxIdle : Nat) (id : String) (rest : List String) (evicted : Nat)
      (stale : h.staleAt maxIdle id = true) :
      LifeStep h (.sweeping maxIdle (id :: rest) evicted) (h.remove id).2
        (.closeRemoved (h.remove id).1 (.sweep maxIdle rest (evicted + 1))
          (.sweep maxIdle rest evicted))
  /-- A session that is open is marked as closed. -/
  | marked (s : Serial) (next : Next) (isOpen : ∀ l, h.life? s = some l → l.closed = false) :
      LifeStep h (.closing s .marking next) (h.markClosed s).2 (.closing s .takingControl next)
  /-- A session that is closed already is left alone. -/
  | late (s : Serial) (next : Next) {l : Life} (found : h.life? s = some l)
      (closed : l.closed = true) :
      LifeStep h (.closing s .marking next) (h.markClosed s).2 (.ofNext next)
  /-- A transport is closed; that ends the closing of its session. -/
  | released (s : Serial) (next : Next) (failed : Bool) :
      LifeStep h (.closing s .releasingTransport next) (h.release s .transport failed)
        (.ofNext next)
  /-- Somebody closes a session without taking it out of the registry. -/
  | intruding (s : Serial) (next : Next) :
      LifeStep h (.asked (.closeSession s)) h (.closing s .marking next)

namespace Call

variable {g : Gateway} {h h' : Hub} {c c' : Call}

/-! ## Every step is one of the list -/

theorem edit?_of_isPlain (hc : c.isPlain h) : c.edit? h = none := by
  cases c with
  | asked r =>
    cases r with
    | put => cases hc
    | _ => rfl
  | registering | removing => cases hc
  | sweeping maxIdle stale evicted =>
    cases stale with
    | nil => rfl
    | cons id rest =>
      have fresh : h.staleAt maxIdle id = false := by simpa [isPlain] using hc
      rw [edit?, fresh]
      rfl
  | _ => rfl

theorem duty?_of_isPlain (hc : c.isPlain h) : c.duty? = none := by
  cases c with
  | asked r =>
    cases r with
    | put | closeSession => cases hc
    | _ => rfl
  | registering | closing => cases hc
  | _ => rfl

theorem duty?_of_isFree (hc : c.isFree) : c.duty? = none := by
  cases c with
  | asked | registering | closing => cases hc
  | _ => rfl

/-- Whoever has a shell has no part in what is registered, and no duty. -/
theorem of_aboard? {id : String} {s : Serial} (hc : c.aboard? = some (id, s)) :
    c.edit? h = none ∧ c.duty? = none := by
  obtain ⟨w, rfl⟩ | ⟨q, task, rfl⟩ := eq_of_aboard? hc
  · exact ⟨rfl, rfl⟩
  · exact ⟨rfl, rfl⟩

theorem duty?_closing {s : Serial} {stage : Closing} {next : Next} (hs : stage ≠ .marking) :
    (closing s stage next).duty? = some (s, .releasing) := by
  cases stage with
  | marking => exact absurd rfl hs
  | _ => rfl

/-- **Every step is one of the list.** -/
theorem lifeStep {e : Event} (hs : c.step g e h = some (h', c')) : LifeStep h c h' c' := by
  -- between marking a session and closing its transport, a closing has no part in its life
  have releasing : ∀ {h' : Hub} {s : Serial} {stage stage' : Closing} {next : Next},
      Hub.Quiet h h' → stage ≠ .marking → stage' ≠ .marking →
        LifeStep h (closing s stage next) h' (closing s stage' next) :=
    fun lives before after =>
      .quiet lives rfl ((duty?_closing after).trans (duty?_closing before).symm)
  have taken : ∀ s, Hub.Quiet h (h.takeShell s).2 := fun s => h.frame_takeShell s fun _ => rfl
  cases piece hs with
  | plain keeps before after =>
    exact .quiet keeps.quiet (edit?_of_isPlain before)
      ((duty?_of_isFree after).trans (duty?_of_isPlain before).symm)
  | opened info before =>
    exact .opened info (edit?_of_isPlain before) (duty?_of_isPlain before)
  | offered s => exact .offered s
  | registered s n => exact .registered s n
  | removed id next absent => exact .removed id next absent
  | swept maxIdle id rest evicted stale => exact .swept maxIdle id rest evicted stale
  | intruding s next => exact .intruding s next
  | lent s | boarded id s w there | refused id s w gone => exact .quiet (taken s) rfl rfl
  | found id s w here => exact .quiet (Hub.Frame.refl _ h) rfl rfl
  | aboard id s keeps before after =>
    exact .quiet keeps.quiet (of_aboard? before).1
      ((of_aboard? (h := h) after).2.trans (of_aboard? (h := h) before).2.symm)
  | ashore id s how keeps before =>
    exact .quiet keeps.quiet (of_aboard? before).1 (of_aboard? (h := h) before).2.symm
  | marked s next isOpen =>
    refine .marked s next fun l hl => ?_
    obtain ⟨x, hx, rfl⟩ := Hub.life?_eq_some hl
    simpa [Hub.markClosed, hx, life] using isOpen
  | late s next closed =>
    obtain ⟨x, hx, hclosed⟩ := (Option.any_eq_true _ _).mp closed
    exact .late s next (Option.map_eq_some_iff.mpr ⟨x, hx, rfl⟩) hclosed
  | told s next keeps before after =>
    refine releasing keeps.quiet ?_ ?_
    · rintro rfl
      cases before
    · rintro rfl
      cases after with
      | inl h => cases h
      | inr h => cases h
  | transferReleased s next failed =>
    exact releasing (h.frame_release s .transfer failed fun x => life_released x _ _) (by simp)
      (by simp)
  | transferAbsent s next => exact releasing (Hub.Frame.refl _ h) (by simp) (by simp)
  | shellFound s next | shellGone s next => exact releasing (taken s) (by simp) (by simp)
  | shellReleased s next failed =>
    exact releasing (h.frame_release s .shell failed fun x => life_released x _ _) (by simp)
      (by simp)
  | transportReleased s next failed => exact .released s next failed

end Call

/-! ## What lasts -/

/-- No step changes what a session is for or opens it again. -/
theorem LifeStep.lasts {h h' : Hub} {c c' : Call} (step : LifeStep h c h' c') {s : Serial}
    {l : Life} (hl : h.life? s = some l) (numbered : s < h.nextSerial) :
    s < h'.nextSerial ∧ ∃ l', h'.life? s = some l' ∧ l'.info = l.info ∧
      (l.closed = true → l'.closed = true) := by
  have same : ∀ {h' : Hub}, h'.nextSerial = h.nextSerial → h'.life? s = h.life? s →
      s < h'.nextSerial ∧ ∃ l', h'.life? s = some l' ∧ l'.info = l.info ∧
        (l.closed = true → l'.closed = true) := by
    intro h' serial life
    exact ⟨serial ▸ numbered, l, life.trans hl, rfl, fun closed => closed⟩
  -- a step on one session's life, of which the others know nothing
  have changed : ∀ {h' : Hub} {y : Serial} {f : Life → Life}, h'.nextSerial = h.nextSerial →
      h'.life? s = (if s = y then (h.life? y).map f else h.life? s) →
      (∀ k, (f k).info = k.info ∧ (k.closed = true → (f k).closed = true)) →
        s < h'.nextSerial ∧ ∃ l', h'.life? s = some l' ∧ l'.info = l.info ∧
          (l.closed = true → l'.closed = true) := by
    intro h' y f serial life hf
    by_cases hs : s = y
    · rw [if_pos hs, ← hs, hl] at life
      exact ⟨serial ▸ numbered, f l, life, hf l⟩
    · rw [if_neg hs] at life
      exact same serial life
  cases step with
  | quiet lives => exact same lives.nextSerial (lives.sessions s)
  | opened info =>
    have life := h.life?_make info true s
    rw [if_neg (Nat.ne_of_lt numbered)] at life
    exact ⟨Nat.lt_succ_of_lt numbered, l, life.trans hl, rfl, fun closed => closed⟩
  | offered r | registered r n => exact same (h.put_nextSerial r) (h.put_life? r s)
  | removed id | swept maxIdle id => exact same (h.remove_nextSerial id) (h.remove_life? id s)
  | marked y | late y =>
    have frame : Hub.Frame Session.info h (h.markClosed y).2 := h.frame_markClosed y fun _ => rfl
    have life := h.life?_markClosed y s
    exact changed frame.nextSerial life fun k => ⟨rfl, fun _ => rfl⟩
  | released y next failed =>
    have frame : Hub.Frame Session.info h (h.release y .transport failed) :=
      h.frame_release y .transport failed fun _ => rfl
    have life := h.life?_release_transport y s failed
    exact changed frame.nextSerial life fun k => ⟨rfl, fun closed => closed⟩
  | intruding => exact same rfl rfl

end Session

end ShellGateway
