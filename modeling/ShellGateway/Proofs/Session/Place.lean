import ShellGateway.Proofs.Session.Life
import ShellGateway.Proofs.Session.Trail

/-!
# Who answers for a session

At any time a session is in exactly one `Place`: nobody has asked to register it
yet, one call has undertaken to do something with it, it is registered, it was
handed back to whoever registered its successor, or it is closed. `Kept` says
what each place means for the hub and the calls: which call has a duty towards
the session, whether it is registered, whether it is marked as closed, and how
often its transport was closed.

The places are ghosts: no definition of the model computes them. They make the
invariant inductive, since the calls and the hub alone do not tell a session that
was never registered from one that was replaced and handed back. `Kept.move`
says that each move of a schedule takes every session from its place to one that
may follow it (`Advance`), provided that a session is offered to the registry
only from the outside, once.
-/

namespace ShellGateway.Session

/-- Where a session is. -/
inductive Place where
  /-- It has not been made. -/
  | unmade
  /-- It was made, and nobody has asked to register it. -/
  | outside
  /-- A call has undertaken to do something with it. -/
  | held (c : CallId) (d : Duty)
  | registered
  /-- It was replaced, and handed to whoever asked for that. -/
  | returned
  | closed
  deriving DecidableEq

namespace Place

/-- The sessions in this place are marked as closed. -/
def isClosed : Place → Bool
  | held _ .releasing | closed => true
  | _ => false

/-- How often the transports of sessions in this place were closed. -/
def transports : Place → Nat
  | closed => 1
  | _ => 0

/-- Sessions in this place have left the registry. -/
def isGone : Place → Bool
  | held _ .marking | held _ .releasing | returned | closed => true
  | _ => false

/-- Sessions in this place are being closed by call `c`, or closed. -/
def isClosing (c : CallId) : Place → Bool
  | held c' .marking | held c' .releasing => c' = c
  | closed => true
  | _ => false

end Place

/-- How a move takes session `s` from place to place. -/
inductive Advance (s : Serial) : Move → Place → Place → Prop where
  | stay (m : Move) (p : Place) : Advance s m p p
  | make (info : Info) (shellHere : Bool) : Advance s (.make info shellHere) .unmade .outside
  | offer (c : CallId) : Advance s (.start (.put s)) .outside (.held c .registering)
  | connect (c : CallId) (e : Event) : Advance s (.step c e) .unmade (.held c .registering)
  | register (c : CallId) (e : Event) : Advance s (.step c e) (.held c .registering) .registered
  | replace (c : CallId) (e : Event) : Advance s (.step c e) .registered .returned
  | remove (c : CallId) (e : Event) : Advance s (.step c e) .registered (.held c .marking)
  | intend (c : CallId) (e : Event) :
      Advance s (.step c e) (.held c .intending) (.held c .marking)
  | mark (c : CallId) (e : Event) : Advance s (.step c e) (.held c .marking) (.held c .releasing)
  | close (c : CallId) (e : Event) : Advance s (.step c e) (.held c .releasing) .closed

/-- A registered session stays registered or leaves. -/
theorem Advance.leaves {s : Serial} {m : Move} {p' : Place} (adv : Advance s m .registered p')
    (hp : p' ≠ .registered) : p'.isGone := by
  cases adv with
  | stay => exact absurd rfl hp
  | replace => rfl
  | remove => rfl

/-- What has left the registry does not come back. -/
theorem Advance.isGone {s : Serial} {m : Move} {p p' : Place} (adv : Advance s m p p')
    (hp : p.isGone) : p'.isGone := by
  cases adv with
  | stay => exact hp
  | intend | mark | close => rfl
  | make | offer | connect | register | replace | remove => cases hp

/-- A call that has begun to close a session stays with it until it is closed. -/
theorem Advance.isClosing {s : Serial} {m : Move} {p p' : Place} {c : CallId}
    (adv : Advance s m p p') (hp : p.isClosing c) : p'.isClosing c := by
  cases adv with
  | stay => exact hp
  | mark => exact hp
  | close => rfl
  | make | offer | connect | register | replace | remove | intend => cases hp

namespace System

/-- What a call has undertaken to do. -/
def duty? (t : System) (c : CallId) : Option (Serial × Duty) :=
  t.calls[c]? >>= Call.duty?

theorem duty?_stepped {t : System} {c : CallId} {call : Call} (hc : t.calls[c]? = some call)
    (h : Hub) (call' : Call) (i : CallId) :
    (t.stepped c h call').duty? i = if i = c then call'.duty? else t.duty? i := by
  have hlt : c < t.calls.length := (List.getElem?_eq_some_iff.mp hc).1
  unfold duty? stepped
  rw [List.getElem?_set]
  by_cases hi : i = c
  · rw [if_pos hi, if_pos hi.symm, if_pos hlt]
    rfl
  · rw [if_neg hi, if_neg (Ne.symm hi)]

end System

/-- What it means for session `s` of system `t` to be in place `p`. -/
structure Kept (t : System) (s : Serial) (p : Place) : Prop where
  /-- The call that holds the session is the only one with a duty towards it. -/
  duty : ∀ c d, t.duty? c = some (s, d) ↔ p = .held c d
  /-- It is registered under its own id and no other. -/
  registered : ∀ id, t.hub.find? id = some s ↔
    p = .registered ∧ ∃ l, t.hub.life? s = some l ∧ l.info.id = id
  unmade : p = .unmade ↔ t.hub.life? s = none
  /-- Serials are given out in order. -/
  fresh : t.hub.nextSerial ≤ s → p = .unmade
  closed : ∀ l, t.hub.life? s = some l → l.closed = p.isClosed
  transports : ∀ l, t.hub.life? s = some l → l.transports = p.transports

namespace Kept

variable {g : Gateway} {t u : System} {s : Serial} {p : Place} {c : CallId} {e : Event}
  {call call' : Call} {h' : Hub}

/-- Only made sessions are held or registered. -/
theorem exists_life (k : Kept t s p) (hp : p ≠ .unmade) : ∃ l, t.hub.life? s = some l :=
  Option.ne_none_iff_exists'.mp fun hn => hp (k.unmade.mpr hn)

/-- A session that was made has a serial that was given out. -/
theorem lt_nextSerial (k : Kept t s p) (hp : p ≠ .unmade) : s < t.hub.nextSerial :=
  Nat.lt_of_not_le fun hle => hp (k.fresh hle)

theorem not_registered (k : Kept t s p) (hp : p ≠ .registered) (id : String) :
    t.hub.find? id ≠ some s :=
  fun h => hp ((k.registered id).mp h).1

/-- What is to be shown for the new place of a session that was made. -/
theorem of_life {l : Life} (hl : t.hub.life? s = some l) (hp : p ≠ .unmade)
    (hlt : s < t.hub.nextSerial) (closed : l.closed = p.isClosed)
    (transports : l.transports = p.transports)
    (duty : ∀ c d, t.duty? c = some (s, d) ↔ p = .held c d)
    (registered : ∀ id, t.hub.find? id = some s ↔ p = .registered ∧ l.info.id = id) :
    Kept t s p where
  duty := duty
  registered id := by
    rw [registered, hl]
    exact and_congr_right fun _ =>
      ⟨fun h => ⟨l, rfl, h⟩, fun ⟨_, hl', h⟩ => Option.some.inj hl' ▸ h⟩
  unmade := ⟨fun h => absurd h hp, fun h => by cases hl.symm.trans h⟩
  fresh hle := absurd hlt (Nat.not_lt_of_le hle)
  closed l' hl' := Option.some.inj (hl.symm.trans hl') ▸ closed
  transports l' hl' := Option.some.inj (hl.symm.trans hl') ▸ transports

/-- A session that a move does not touch stays where it is. -/
theorem untouched (k : Kept t s p)
    (duty : ∀ c d, u.duty? c = some (s, d) ↔ t.duty? c = some (s, d))
    (registered : ∀ id, u.hub.find? id = some s ↔ t.hub.find? id = some s)
    (life : u.hub.life? s = t.hub.life? s) (serials : t.hub.nextSerial ≤ u.hub.nextSerial) :
    Kept u s p where
  duty c d := (duty c d).trans (k.duty c d)
  registered id := by rw [registered, life]; exact k.registered id
  unmade := by rw [life]; exact k.unmade
  fresh hle := k.fresh (Nat.le_trans serials hle)
  closed := by rw [life]; exact k.closed
  transports := by rw [life]; exact k.transports

/-! ## Duties after a step -/

/-- The duty of the call that is about to step. -/
theorem duty?_of_call (hc : t.calls[c]? = some call) : t.duty? c = call.duty? := by
  rw [System.duty?, hc]
  rfl

/-- Another session's duty is not this one's. -/
theorem duty_ne {y : Serial} {d : Duty} (hs : s ≠ y) (hd : call'.duty? = some (y, d)) (d' : Duty) :
    call'.duty? ≠ some (s, d') := by
  intro hd'
  cases hd.symm.trans hd'
  exact hs rfl

/-- A session that the stepping call has no duty towards, before and after,
stays with whoever had one. -/
theorem duty_stepped_other (hc : t.calls[c]? = some call) (before : ∀ d, call.duty? ≠ some (s, d))
    (after : ∀ d, call'.duty? ≠ some (s, d)) (i : CallId) (d : Duty) :
    (t.stepped c h' call').duty? i = some (s, d) ↔ t.duty? i = some (s, d) := by
  rw [System.duty?_stepped hc]
  by_cases hi : i = c
  · rw [if_pos hi, hi, duty?_of_call hc]
    exact ⟨fun h => absurd h (after d), fun h => absurd h (before d)⟩
  · rw [if_neg hi]

/-- If nobody but the stepping call has a duty towards a session, then what it
has after the step is all there is. -/
theorem duty_stepped (k : Kept t s p) (hc : t.calls[c]? = some call)
    (alone : ∀ i d, p = .held i d → i = c) (i : CallId) (d : Duty) :
    (t.stepped c h' call').duty? i = some (s, d) ↔ i = c ∧ call'.duty? = some (s, d) := by
  rw [System.duty?_stepped hc]
  by_cases hi : i = c
  · rw [if_pos hi]
    exact ⟨fun h => ⟨hi, h⟩, fun h => h.2⟩
  · -- other calls have the duties they had, and had none towards this session
    rw [if_neg hi]
    exact ⟨fun h => absurd (alone i d ((k.duty i d).mp h)) hi, fun h => absurd h.1 hi⟩

/-- The stepping call now holds the session. -/
theorem duty_held (k : Kept t s p) (hc : t.calls[c]? = some call)
    (alone : ∀ i d, p = .held i d → i = c) {d' : Duty} (after : call'.duty? = some (s, d'))
    (i : CallId) (d : Duty) :
    (t.stepped c h' call').duty? i = some (s, d) ↔ Place.held c d' = .held i d := by
  rw [k.duty_stepped hc alone, after]
  constructor
  · rintro ⟨rfl, hd⟩
    cases hd
    rfl
  · intro h
    cases h
    exact ⟨rfl, rfl⟩

/-- Nobody holds the session any more. -/
theorem duty_free (k : Kept t s p) (hc : t.calls[c]? = some call)
    (alone : ∀ i d, p = .held i d → i = c) (after : ∀ d, call'.duty? ≠ some (s, d)) {p' : Place}
    (free : ∀ i d, p' ≠ .held i d) (i : CallId) (d : Duty) :
    (t.stepped c h' call').duty? i = some (s, d) ↔ p' = .held i d := by
  rw [k.duty_stepped hc alone]
  exact ⟨fun h => absurd h.2 (after d), fun h => absurd h (free i d)⟩

/-! ## Steps -/

/-- The session of the stepping call's duty is held by that call. -/
theorem place_of_duty (k : Kept t s p) (hc : t.calls[c]? = some call) {d : Duty}
    (hd : call.duty? = some (s, d)) : p = .held c d :=
  (k.duty c d).mp ((duty?_of_call hc).trans hd)

/-- A session is made by a call that goes on to register it. -/
theorem step_opened (k : Kept t s p) (hc : t.calls[c]? = some call) (hd : call.duty? = none)
    (info : Info) :
    ∃ p', Kept (t.stepped c (t.hub.make info true).2 (.registering t.hub.nextSerial)) s p' ∧
      Advance s (.step c e) p p' := by
  have life := t.hub.life?_make info true s
  by_cases hs : s = t.hub.nextSerial
  · obtain rfl : p = .unmade := k.fresh (Nat.le_of_eq hs.symm)
    rw [if_pos hs] at life
    refine ⟨.held c .registering, of_life life (by simp) ?_ rfl rfl ?_ ?_, .connect c e⟩
    · rw [hs]
      exact Nat.lt_succ_self _
    · exact k.duty_held hc (fun _ _ h => by cases h) (by rw [hs]; rfl)
    · intro id
      exact ⟨fun h => absurd h (k.not_registered (by simp) id), fun h => by cases h.1⟩
  · rw [if_neg hs] at life
    refine ⟨p, k.untouched (duty_stepped_other hc (by simp [hd]) ?_) (fun _ => Iff.rfl) life
      (Nat.le_succ _), .stay _ p⟩
    intro d h
    exact hs (congrArg Prod.fst (Option.some.inj h)).symm

/-- The session that is taken out of the registry goes where the call takes it:
back to whoever asked, or on to be closed. -/
theorem taken_out (k : Kept t s .registered) (hc : t.calls[c]? = some call)
    (life : h'.life? s = t.hub.life? s) (serial : h'.nextSerial = t.hub.nextSerial)
    (gone : ∀ id, h'.find? id ≠ some s)
    (after : call'.duty? = none ∨ call'.duty? = some (s, .marking)) :
    ∃ p', Kept (t.stepped c h' call') s p' ∧ Advance s (.step c e) .registered p' := by
  obtain ⟨l, hl⟩ := k.exists_life (by simp)
  have hl' : h'.life? s = some l := life.trans hl
  have hlt : s < h'.nextSerial := serial ▸ k.lt_nextSerial (by simp)
  have alone : ∀ i d, Place.registered = .held i d → i = c := fun _ _ h => by cases h
  -- the call answers with it, or has it to close
  rcases after with after | after
  · refine ⟨.returned, of_life hl' (by simp) hlt (k.closed l hl) (k.transports l hl) ?_ ?_,
      .replace c e⟩
    · exact k.duty_free hc alone (by simp [after]) (by simp)
    · exact fun id => ⟨fun h => absurd h (gone id), fun h => by cases h.1⟩
  · refine ⟨.held c .marking, of_life hl' (by simp) hlt (k.closed l hl) (k.transports l hl) ?_ ?_,
      .remove c e⟩
    · exact k.duty_held hc alone after
    · exact fun id => ⟨fun h => absurd h (gone id), fun h => by cases h.1⟩

/-- A `put` registers the session of the call, which has done its duty by it. -/
theorem put_self (k : Kept t s p) (hc : t.calls[c]? = some call)
    (hd : call.duty? = some (s, .registering))
    (after : call'.duty? = none ∨ call'.duty? = (t.hub.put s).1.map (·, Duty.marking)) :
    ∃ p', Kept (t.stepped c (t.hub.put s).2 call') s p' ∧ Advance s (.step c e) p p' := by
  obtain rfl := k.place_of_duty hc hd
  obtain ⟨l, hl⟩ := k.exists_life (by simp)
  have life : (t.hub.put s).2.life? s = some l := (Hub.put_life? _ _ _).trans hl
  rw [t.hub.put_fst hl] at after
  -- what it replaces is another session: this one was not registered
  have released : ∀ d, call'.duty? ≠ some (s, d) := by
    intro d hd'
    rcases after with after | after
    · cases after.symm.trans hd'
    · obtain ⟨x, hx, hxs⟩ := Option.map_eq_some_iff.mp (after.symm.trans hd')
      cases hxs
      exact k.not_registered (by simp) _ hx
  refine ⟨.registered, of_life life (by simp) ?_ (k.closed l hl) (k.transports l hl) ?_ ?_,
    .register c e⟩
  · show s < (t.hub.put s).2.nextSerial
    rw [Hub.put_nextSerial]
    exact k.lt_nextSerial (by simp)
  · exact k.duty_free hc (fun _ _ h => by cases h; rfl) released (by simp)
  · intro id
    show (t.hub.put s).2.find? id = some s ↔ _
    rw [t.hub.find?_put hl]
    by_cases hid : id = l.info.id
    · rw [if_pos hid]
      exact ⟨fun _ => ⟨rfl, hid.symm⟩, fun _ => rfl⟩
    · rw [if_neg hid]
      exact ⟨fun h => absurd h (k.not_registered (by simp) id), fun h => absurd h.2.symm hid⟩

/-- A `put` of another session takes this one out if it was registered under the
same id. -/
theorem put_other (k : Kept t s p) {y : Serial} (hs : s ≠ y) (hc : t.calls[c]? = some call)
    (hd : call.duty? = some (y, .registering))
    (after : call'.duty? = none ∨ call'.duty? = (t.hub.put y).1.map (·, Duty.marking)) :
    ∃ p', Kept (t.stepped c (t.hub.put y).2 call') s p' ∧ Advance s (.step c e) p p' := by
  have life : (t.hub.put y).2.life? s = t.hub.life? s := Hub.put_life? _ _ _
  have serial : (t.hub.put y).2.nextSerial = t.hub.nextSerial := Hub.put_nextSerial _ _
  have before := duty_ne hs hd
  cases hy : t.hub.life? y with
  | none =>
    rw [t.hub.put_unknown hy] at after ⊢
    have none_after : call'.duty? = none := after.elim (fun h => h) (fun h => h)
    exact ⟨p, k.untouched (duty_stepped_other hc before (by simp [none_after]))
      (fun _ => Iff.rfl) rfl (Nat.le_refl _), .stay _ p⟩
  | some l =>
    rw [t.hub.put_fst hy] at after
    have found := t.hub.find?_put hy
    by_cases hr : t.hub.find? l.info.id = some s
    · -- it is the session that is replaced; it was registered under that id only
      obtain ⟨rfl, m, hm, hid⟩ := (k.registered _).mp hr
      refine k.taken_out hc life serial (fun id h => ?_) (by rw [hr] at after; exact after)
      rw [found] at h
      by_cases hi : id = l.info.id
      · rw [if_pos hi] at h
        exact hs (Option.some.inj h).symm
      · rw [if_neg hi] at h
        obtain ⟨-, m', hm', hid'⟩ := (k.registered id).mp h
        cases hm.symm.trans hm'
        exact hi (hid'.symm.trans hid)
    · refine ⟨p, k.untouched (duty_stepped_other hc before ?_) (fun id => ?_) life
        (Nat.le_of_eq serial.symm), .stay _ p⟩
      · intro d hd'
        rcases after with after | after
        · cases after.symm.trans hd'
        · obtain ⟨x, hx, hxs⟩ := Option.map_eq_some_iff.mp (after.symm.trans hd')
          cases hxs
          exact hr hx
      · show (t.hub.put y).2.find? id = some s ↔ t.hub.find? id = some s
        rw [found]
        by_cases hi : id = l.info.id
        · rw [if_pos hi, hi]
          exact ⟨fun h => absurd (Option.some.inj h).symm hs, fun h => absurd h hr⟩
        · rw [if_neg hi]

/-- Taking an id out of the registry takes out the session that is registered
under it, which the call goes on to close. -/
theorem remove (k : Kept t s p) {id : String} (hc : t.calls[c]? = some call)
    (hd : call.duty? = none)
    (after : call'.duty? = (t.hub.find? id).map (·, Duty.marking)) :
    ∃ p', Kept (t.stepped c (t.hub.remove id).2 call') s p' ∧ Advance s (.step c e) p p' := by
  have life : (t.hub.remove id).2.life? s = t.hub.life? s := Hub.remove_life? _ _ _
  have serial : (t.hub.remove id).2.nextSerial = t.hub.nextSerial := Hub.remove_nextSerial _ _
  by_cases hr : t.hub.find? id = some s
  · -- it is the one that is taken out, and was registered under that id only
    obtain ⟨rfl, l, hl, hid⟩ := (k.registered _).mp hr
    refine k.taken_out hc life serial (fun id' h => ?_) (by rw [hr] at after; exact .inr after)
    rw [t.hub.find?_remove] at h
    by_cases hi : id' = id
    · rw [if_pos hi] at h
      cases h
    · rw [if_neg hi] at h
      obtain ⟨-, l', hl', hid'⟩ := (k.registered id').mp h
      cases hl.symm.trans hl'
      exact hi (hid'.symm.trans hid)
  · refine ⟨p, k.untouched (duty_stepped_other hc (by simp [hd]) ?_) (fun id' => ?_) life
      (Nat.le_of_eq serial.symm), .stay _ p⟩
    · intro d hd'
      obtain ⟨x, hx, hxs⟩ := Option.map_eq_some_iff.mp (after.symm.trans hd')
      cases hxs
      exact hr hx
    · show (t.hub.remove id).2.find? id' = some s ↔ t.hub.find? id' = some s
      rw [t.hub.find?_remove]
      by_cases hi : id' = id
      · rw [if_pos hi, hi]
        exact ⟨fun h => (by cases h), fun h => absurd h hr⟩
      · rw [if_neg hi]

/-- A step on the life of the session that the call holds. -/
theorem lived {d : Duty} (k : Kept t s (.held c d))
    (frame : Hub.Frame Session.info t.hub h') {l : Life} (life : h'.life? s = some l) {p' : Place}
    (made : p' ≠ .unmade) (unregistered : p' ≠ .registered) (closed : l.closed = p'.isClosed)
    (transports : l.transports = p'.transports)
    (duty : ∀ i d', (t.stepped c h' call').duty? i = some (s, d') ↔ p' = .held i d') :
    Kept (t.stepped c h' call') s p' := by
  refine of_life life made ?_ closed transports duty fun id => ?_
  · exact frame.nextSerial ▸ k.lt_nextSerial (by simp)
  · show h'.find? id = some s ↔ _
    rw [frame.find?]
    exact ⟨fun h => absurd h (k.not_registered (by simp) id), fun h => absurd h.1 unregistered⟩

/-- A step on the life of another session. -/
theorem lived_other (k : Kept t s p) {y : Serial} {d : Duty} (hs : s ≠ y)
    (hc : t.calls[c]? = some call) (hd : call.duty? = some (y, d))
    (frame : Hub.Frame Session.info t.hub h') (life : h'.life? s = t.hub.life? s)
    (after : ∀ d', call'.duty? ≠ some (s, d')) :
    ∃ p', Kept (t.stepped c h' call') s p' ∧ Advance s (.step c e) p p' := by
  refine ⟨p, k.untouched (duty_stepped_other hc (duty_ne hs hd) after) (fun id => ?_) life
    (Nat.le_of_eq frame.nextSerial.symm), .stay _ p⟩
  show h'.find? id = some s ↔ _
  rw [frame.find?]

theorem mark (k : Kept t s p) {y : Serial} {next : Next}
    (hc : t.calls[c]? = some (.closing y .marking next)) :
    ∃ p', Kept (t.stepped c (t.hub.markClosed y).2 (.closing y .takingControl next)) s p' ∧
      Advance s (.step c e) p p' := by
  have frame : Hub.Frame Session.info t.hub (t.hub.markClosed y).2 :=
    t.hub.frame_markClosed y fun _ => rfl
  have life := t.hub.life?_markClosed y s
  by_cases hs : s = y
  · subst hs
    obtain rfl := k.place_of_duty hc rfl
    obtain ⟨l, hl⟩ := k.exists_life (by simp)
    rw [if_pos rfl, hl] at life
    refine ⟨.held c .releasing, k.lived frame life (by simp) (by simp) rfl (k.transports l hl) ?_,
      .mark c e⟩
    exact k.duty_held hc (fun _ _ h => by cases h; rfl) rfl
  · rw [if_neg hs] at life
    exact k.lived_other hs hc rfl frame life (duty_ne hs rfl)

/-- A session that somebody else has marked as closed is not held by a call that
is about to mark it. -/
theorem late (k : Kept t s p) {y : Serial} {next : Next} {l : Life}
    (hc : t.calls[c]? = some (.closing y .marking next)) (found : t.hub.life? y = some l)
    (closed : l.closed = true) :
    ∃ p', Kept (t.stepped c (t.hub.markClosed y).2 (.ofNext next)) s p' ∧
      Advance s (.step c e) p p' := by
  have life := t.hub.life?_markClosed y s
  by_cases hs : s = y
  · subst hs
    obtain rfl := k.place_of_duty hc rfl
    cases closed.symm.trans (k.closed l found)
  · rw [if_neg hs] at life
    exact k.lived_other hs hc rfl (t.hub.frame_markClosed y fun _ => rfl) life (by simp)

theorem close (k : Kept t s p) {y : Serial} {next : Next} (failed : Bool)
    (hc : t.calls[c]? = some (.closing y .releasingTransport next)) :
    ∃ p', Kept (t.stepped c (t.hub.release y .transport failed) (.ofNext next)) s p' ∧
      Advance s (.step c e) p p' := by
  have frame : Hub.Frame Session.info t.hub (t.hub.release y .transport failed) :=
    t.hub.frame_release y .transport failed fun _ => rfl
  have life := t.hub.life?_release_transport y s failed
  by_cases hs : s = y
  · subst hs
    obtain rfl := k.place_of_duty hc rfl
    obtain ⟨l, hl⟩ := k.exists_life (by simp)
    rw [if_pos rfl, hl] at life
    refine ⟨.closed, k.lived frame life (by simp) (by simp) (k.closed l hl) ?_ ?_, .close c e⟩
    · exact congrArg (· + 1) (k.transports l hl)
    · exact k.duty_free hc (fun _ _ h => by cases h; rfl) (by simp) (by simp)
  · rw [if_neg hs] at life
    exact k.lived_other hs hc rfl frame life (by simp)

theorem intend (k : Kept t s p) {y : Serial} (next : Next)
    (hc : t.calls[c]? = some (.asked (.closeSession y))) :
    ∃ p', Kept (t.stepped c t.hub (.closing y .marking next)) s p' ∧
      Advance s (.step c e) p p' := by
  have frame : Hub.Frame Session.info t.hub t.hub := Hub.Frame.refl _ _
  by_cases hs : s = y
  · subst hs
    obtain rfl := k.place_of_duty hc rfl
    obtain ⟨l, hl⟩ := k.exists_life (by simp)
    refine ⟨.held c .marking, k.lived frame hl (by simp) (by simp) (k.closed l hl)
      (k.transports l hl) ?_, .intend c e⟩
    exact k.duty_held hc (fun _ _ h => by cases h; rfl) rfl
  · exact k.lived_other hs hc rfl frame rfl (duty_ne hs rfl)

/-- **Every step of a call takes every session from its place to one that may
follow it.** -/
theorem step (k : Kept t s p) (hc : t.calls[c]? = some call) (hl : LifeStep t.hub call h' call') :
    ∃ p', Kept (t.stepped c h' call') s p' ∧ Advance s (.step c e) p p' := by
  cases hl with
  | quiet lives edit duty =>
    refine ⟨p, k.untouched (fun i d => ?_) (fun id => ?_) (lives.sessions s)
      (Nat.le_of_eq lives.nextSerial.symm), .stay _ p⟩
    · rw [System.duty?_stepped hc, duty]
      by_cases hi : i = c
      · rw [if_pos hi, hi, duty?_of_call hc]
      · rw [if_neg hi]
    · show h'.find? id = some s ↔ _
      rw [lives.find?]
  | opened info edit duty => exact k.step_opened hc duty info
  | offered y =>
    by_cases hs : s = y
    · subst hs
      exact k.put_self hc rfl (.inl rfl)
    · exact k.put_other hs hc rfl (.inl rfl)
  | registered y n =>
    have after : (Call.closeRemoved (t.hub.put y).1 n n).duty? =
        (t.hub.put y).1.map (·, Duty.marking) := Call.duty?_closeRemoved _ _ _
    by_cases hs : s = y
    · subst hs
      exact k.put_self hc rfl (.inr after)
    · exact k.put_other hs hc rfl (.inr after)
  | removed id next absent =>
    refine k.remove hc rfl ?_
    rw [Call.duty?_closeRemoved, Hub.remove_fst]
  | swept maxIdle id rest evicted stale =>
    refine k.remove hc rfl ?_
    rw [Call.duty?_closeRemoved, Hub.remove_fst]
  | marked y next isOpen => exact k.mark hc
  | late y next found closed => exact k.late hc found closed
  | released y next failed => exact k.close failed hc
  | intruding y next => exact k.intend next hc

/-! ## Moves -/

/-- The duties once a call was asked for. -/
theorem duty?_start (t : System) (r : Request) (i : CallId) :
    ({ t with calls := t.calls ++ [.asked r] } : System).duty? i =
      if i = t.calls.length then (Call.asked r).duty? else t.duty? i := by
  unfold System.duty?
  by_cases hi : i = t.calls.length
  · rw [if_pos hi, hi, List.getElem?_concat_length]
    rfl
  · rw [if_neg hi]
    dsimp only
    rcases Nat.lt_or_gt_of_ne hi with hlt | hgt
    · rw [List.getElem?_append_left hlt]
    · rw [List.getElem?_eq_none (by rw [List.length_append]; exact hgt),
        List.getElem?_eq_none (Nat.le_of_lt hgt)]

/-- No call that has not been asked for has a duty. -/
theorem duty?_length (t : System) : t.duty? t.calls.length = none := by
  unfold System.duty?
  rw [List.getElem?_eq_none (Nat.le_refl _)]
  rfl

/-- Asking for a call gives nobody a duty but the call that offers a session. -/
theorem start (k : Kept t s p) {r : Request} (offered : r = .put s → p = .outside)
    (guarded : r ≠ .closeSession s) :
    ∃ p', Kept { t with calls := t.calls ++ [.asked r] } s p' ∧ Advance s (.start r) p p' := by
  by_cases hr : r = .put s
  · obtain rfl := offered hr
    subst hr
    obtain ⟨l, hl⟩ := k.exists_life (by simp)
    refine ⟨.held t.calls.length .registering, of_life hl (by simp) (k.lt_nextSerial (by simp))
      (k.closed l hl) (k.transports l hl) (fun i d => ?_) (fun id => ?_), .offer _⟩
    · rw [duty?_start]
      by_cases hi : i = t.calls.length
      · rw [if_pos hi, hi]
        exact ⟨fun h => by cases h; rfl, fun h => by cases h; rfl⟩
      · rw [if_neg hi]
        refine ⟨fun h => ?_, fun h => ?_⟩
        · cases (k.duty i d).mp h
        · cases h
          exact absurd rfl hi
    · exact ⟨fun h => absurd h (k.not_registered (by simp) id), fun h => by cases h.1⟩
  · refine ⟨p, k.untouched (fun i d => ?_) (fun _ => Iff.rfl) rfl (Nat.le_refl _), .stay _ p⟩
    rw [duty?_start]
    by_cases hi : i = t.calls.length
    · -- the new call has a duty towards what is offered or to be closed, if anything
      rw [if_pos hi, hi, duty?_length]
      refine ⟨fun h => ?_, fun h => by cases h⟩
      cases r with
      | put y => cases h; exact absurd rfl hr
      | closeSession y => cases h; exact absurd rfl guarded
      | _ => cases h
    · rw [if_neg hi]

/-- A session that is made comes to be outside. -/
theorem make (k : Kept t s p) (info : Info) (shellHere : Bool) :
    ∃ p', Kept { t with hub := (t.hub.make info shellHere).2 } s p' ∧
      Advance s (.make info shellHere) p p' := by
  have life := t.hub.life?_make info shellHere s
  by_cases hs : s = t.hub.nextSerial
  · obtain rfl : p = .unmade := k.fresh (Nat.le_of_eq hs.symm)
    rw [if_pos hs] at life
    refine ⟨.outside, of_life life (by simp) ?_ rfl rfl (fun i d => ?_) (fun id => ?_),
      .make info shellHere⟩
    · rw [hs]
      exact Nat.lt_succ_self _
    · exact ⟨fun h => (by cases (k.duty i d).mp h), fun h => by cases h⟩
    · exact ⟨fun h => absurd h (k.not_registered (by simp) id), fun h => by cases h.1⟩
  · rw [if_neg hs] at life
    exact ⟨p, k.untouched (fun _ _ => Iff.rfl) (fun _ => Iff.rfl) life (Nat.le_succ _),
      .stay _ p⟩

/-- **Every move takes every session from its place to one that may follow it.** -/
theorem move {m : Move} (k : Kept t s p) (hm : t.move g m = some u)
    (offered : m = .start (.put s) → p = .outside) (guarded : m ≠ .start (.closeSession s)) :
    ∃ p', Kept u s p' ∧ Advance s m p p' := by
  cases m with
  | start r =>
    obtain rfl := Option.some.inj hm
    exact k.start (fun hr => offered (congrArg Move.start hr)) fun hr =>
      guarded (congrArg Move.start hr)
  | step c e =>
    obtain ⟨call, h', call', hc, hstep, rfl⟩ := System.move_step_eq_some hm
    exact k.step hc (Call.lifeStep hstep)
  | make info shellHere =>
    obtain rfl := Option.some.inj hm
    exact k.make info shellHere
  | wait time =>
    obtain rfl := Option.some.inj hm
    exact ⟨p, k.untouched (fun _ _ => Iff.rfl) (fun _ => Iff.rfl) rfl (Nat.le_refl _), .stay _ p⟩

/-- At first, nothing has been made. -/
theorem initial (s : Serial) : Kept System.initial s .unmade where
  duty c d := ⟨fun h => (by cases h), fun h => by cases h⟩
  registered id := ⟨fun h => (by cases h), fun h => by cases h.1⟩
  unmade := ⟨fun _ => rfl, fun _ => rfl⟩
  fresh _ := rfl
  closed l hl := by cases hl
  transports l hl := by cases hl

end Kept

end ShellGateway.Session
