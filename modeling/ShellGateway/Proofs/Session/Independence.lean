import ShellGateway.Proofs.Session.Conservation
import ShellGateway.Proofs.Session.Lockstep
import ShellGateway.Proofs.Session.Release

/-!
# Independence of unrelated sessions

Any number of parties use the gateway at the same time, and no id is used by two of them.
Then what each of them gets, and what becomes of its sessions, is what its own calls alone
come to, whatever the others do and in whatever order: `independence`. It is a statement
about two runs. One is of a schedule of all parties' calls, split wherever one call lets
another come in between; the other is of one party's share in that schedule.

Along a schedule the system stays divided: each party has a system of its own, in which it
is alone, and its share of everything in the common one is the same (`Divided.move`). A
move of one party is made in that party's system and seen in no other.
-/

namespace ShellGateway.Session

variable {ι : Type} [DecidableEq ι]

/-- Each party has a system of its own, in which it is alone and has the same as in `t`. -/
structure Divided (owner : String → ι) (b : Roll ι) (n : Names ι) (U : ι → System)
    (t : System) : Prop where
  sessions : n.sessions = b.sessions
  hubs : ∀ p, Mirrors owner n p (U p).hub t.hub
  known : t.calls.length = b.calls.length
  own : ∀ p, (U p).calls.length = b.calls.count p
  calls : ∀ p i c, IsNth b.calls p i c →
    Option.Rel (CallTwins owner n p) (U p).calls[i]? t.calls[c]?

variable {g : Gateway} {owner : String → ι} {b b' : Roll ι} {n : Names ι} {U : ι → System}
  {t t' : System} {p : ι} {c : CallId}

namespace Divided

theorem apart (d : Divided owner b n U t) (p : ι) :
    Apart owner n p (fun q => (U q).hub) (U p).hub t.hub :=
  ⟨d.hubs p, fun q _ => d.hubs q⟩

/-- A party's call in the party's own system and in the common one. -/
theorem twins (d : Divided owner b n U t) (mine : b.calls[c]? = some p) :
    ∃ x y, (U p).calls[b.own p c]? = some x ∧ t.calls[c]? = some y ∧ CallTwins owner n p x y := by
  obtain ⟨-, gone⟩ | both := rel_cases (d.calls p (b.own p c) c ⟨mine, rfl⟩)
  · have bound : c < b.calls.length := (List.getElem?_eq_some_iff.mp mine).1
    rw [← d.known] at bound
    exact absurd (List.getElem?_eq_none_iff.mp gone) (Nat.not_le.mpr bound)
  · exact both

/-! ## One move -/

/-- A call that is started is started by one party. -/
theorem start (d : Divided owner b n U t) {r : Request}
    (mine : r.party? owner b.sessions = some p) :
    Divided owner { b with calls := b.calls ++ [p] } n
      (fun q => if q = p then { U q with calls := (U q).calls ++ [.asked r] } else U q)
      { t with calls := t.calls ++ [.asked r] } where
  sessions := d.sessions
  hubs q := by
    dsimp only
    split <;> exact d.hubs q
  known := by simp [d.known]
  own q := by
    by_cases same : q = p
    · simp [same, d.own]
    · simp [same, Ne.symm same, d.own]
  calls q i c named := by
    rcases named.of_concat with old | ⟨rfl, rfl, rfl⟩
    · rw [List.getElem?_append_left (d.known ▸ old.lt_length)]
      have before := d.calls q i c old
      split
      · rw [List.getElem?_append_left (d.own q ▸ old.lt_count)]
        exact before
      · exact before
    · rw [if_pos rfl, ← d.known, ← d.own, List.getElem?_concat_length, List.getElem?_concat_length]
      exact .some (.asked (d.sessions ▸ mine))

/-- A step is taken by one party. -/
theorem step (d : Divided owner b n U t) (mine : b.calls[c]? = some p) {e : Event}
    (moved : t.move g (.step c e) = some t') :
    ∃ n' u, (U p).move g (.step (b.own p c) e) = some u ∧
      Divided owner b n' (fun q => if q = p then u else U q) t' := by
  obtain ⟨x, y, hx, hy, twins⟩ := d.twins mine
  obtain ⟨call, h', call', hcall, stepped, rfl⟩ := System.move_step_eq_some moved
  obtain rfl := Option.some.inj (hy.symm.trans hcall)
  obtain ⟨-, stuck⟩ | ⟨⟨k', x'⟩, _, alone, together, n', grown, sessions, apart, twins'⟩ :=
    rel_cases (twins.step g e (d.apart p))
  · exact nomatch stepped.symm.trans stuck
  cases stepped.symm.trans together
  refine ⟨n', (U p).stepped (b.own p c) k' x', ?_, ?_⟩
  · simp only [System.move, hx, alone, Option.bind_eq_bind, Option.bind_some]
    rfl
  · refine ⟨sessions.trans d.sessions, fun q => ?_, ?_, fun q => ?_, fun q i c' named => ?_⟩
    · split
      case isTrue same => exact same ▸ apart.own
      case isFalse other => exact apart.others q other
    · simp [System.stepped, d.known]
    · split
      case isTrue same => simp [System.stepped, same, d.own]
      case isFalse => exact d.own q
    · have own : IsNth b.calls p (b.own p c) c := ⟨mine, rfl⟩
      by_cases here : c' = c
      · obtain rfl := here
        obtain rfl := named.owner_unique own
        obtain rfl := named.left_unique own
        rw [if_pos rfl, System.calls_stepped hx, System.calls_stepped hy]
        exact .some twins'
      · have before := rel_imp (fun _ _ x => x.grow grown) (d.calls q i c' named)
        rw [t.calls_stepped_other here]
        split
        case isTrue same =>
          subst same
          have elsewhere : i ≠ b.own q c := here ∘ (named.eq_iff own).mp
          rw [(U q).calls_stepped_other elsewhere]
          exact before
        case isFalse => exact before

/-- A session is made for all. -/
theorem make (d : Divided owner b n U t) (info : Info) (shellHere : Bool) :
    Divided owner { b with sessions := b.sessions ++ [owner info.id] }
      (n.withSession (owner info.id))
      (fun q => { U q with hub := ((U q).hub.make info shellHere).2 })
      { t with hub := (t.hub.make info shellHere).2 } where
  sessions := congrArg (· ++ [owner info.id]) d.sessions
  hubs q := (d.hubs q).make info shellHere
  known := d.known
  own := d.own
  calls q i c named :=
    rel_imp (fun _ _ x => x.grow (n.grows_withSession _)) (d.calls q i c named)

/-- Time passes for all. -/
theorem later (d : Divided owner b n U t) (time : Nat) :
    Divided owner b n (fun q => { U q with hub := (U q).hub.later time })
      { t with hub := t.hub.later time } where
  sessions := d.sessions
  hubs q := (d.hubs q).later time
  known := d.known
  own := d.own
  calls := d.calls

/-- **Each party's share in a move is a schedule of its own**, and after it the party still
has the same alone as together. -/
theorem move (d : Divided owner b n U t) {m : Move} (moved : t.move g m = some t')
    (recorded : b.after owner m = some b') :
    ∃ n' U', (∀ p, (U p).run g (b.share owner p m) = some (U' p)) ∧
      Divided owner b' n' U' t' := by
  cases m with
  | start r =>
    obtain rfl := Option.some.inj moved
    obtain ⟨p, mine, rfl⟩ := Option.map_eq_some_iff.mp recorded
    refine ⟨n, _, fun q => ?_, d.start mine⟩
    by_cases same : q = p
    · rw [if_pos same, Roll.share, if_pos (same ▸ mine)]
      rfl
    · rw [if_neg same, Roll.share, if_neg fun his => same (Option.some.inj (his.symm.trans mine))]
      rfl
  | step c e =>
    obtain rfl := Option.some.inj recorded
    obtain ⟨call, -, -, hcall, -⟩ := System.move_step_eq_some moved
    have bound : c < b.calls.length := d.known ▸ (List.getElem?_eq_some_iff.mp hcall).1
    have mine : b.calls[c]? = some b.calls[c] := List.getElem?_eq_getElem bound
    obtain ⟨n', u, alone, d'⟩ := d.step mine moved
    refine ⟨n', _, fun q => ?_, d'⟩
    by_cases same : q = b.calls[c]
    · subst same
      rw [if_pos rfl, Roll.share, if_pos mine, System.run, alone]
      rfl
    · rw [if_neg same, Roll.share, if_neg fun his => same (Option.some.inj (his.symm.trans mine))]
      rfl
  | make info shellHere =>
    obtain rfl := Option.some.inj moved
    obtain rfl := Option.some.inj recorded
    exact ⟨_, _, fun q => rfl, d.make info shellHere⟩
  | wait time =>
    obtain rfl := Option.some.inj moved
    obtain rfl := Option.some.inj recorded
    exact ⟨_, _, fun q => rfl, d.later time⟩

/-! ## All moves -/

theorem run (d : Divided owner b n U t) {moves : List Move} (ran : t.run g moves = some t')
    (recorded : b.record owner moves = some b') :
    ∃ n' U', (∀ p, (U p).run g (b.portion owner p moves) = some (U' p)) ∧
      Divided owner b' n' U' t' := by
  induction moves generalizing t b n U with
  | nil =>
    obtain rfl := Option.some.inj ran
    obtain rfl := Option.some.inj recorded
    exact ⟨n, U, fun _ => rfl, d⟩
  | cons m rest ih =>
    obtain ⟨t₁, moved, ran⟩ := System.run_cons_eq_some ran
    obtain ⟨b₁, after, recorded⟩ := Roll.record_cons_eq_some recorded
    obtain ⟨n₁, U₁, alone, d₁⟩ := d.move moved after
    obtain ⟨n', U', alone', d'⟩ := ih d₁ ran recorded
    refine ⟨n', U', fun p => ?_, d'⟩
    rw [Roll.portion_cons p rest after, System.run_append, alone p]
    exact alone' p

/-- In the beginning nobody has anything. -/
theorem initial (owner : String → ι) :
    Divided owner {} {} (fun _ => System.initial) System.initial where
  sessions := rfl
  hubs _ :=
    { clock := rfl
      nextSerial := ⟨rfl, rfl⟩
      nextQueue := ⟨rfl, rfl⟩
      nextTicket := ⟨rfl, rfl⟩
      registered := fun _ _ => rfl
      found := fun _ _ _ there => nomatch there
      sessions := fun _ _ => .none
      queues := fun _ _ _ => .none
      replies := fun _ _ _ => rfl }
  known := rfl
  own _ := rfl
  calls _ _ _ _ := .none

end Divided

/-! ## What a party sees -/

/-- A session and what is in its control queue are the same alone. -/
theorem Mirrors.standing? {k h : Hub} {s : Serial} (m : Mirrors owner n p k h)
    (mine : n.sessions[s]? = some p) : k.standing? s = h.standing? s := by
  refine map_eq_of_rel (fun x y twins => ?_) (m.sessions s mine)
  obtain ⟨control, rfl, named⟩ := twins.exists_control
  have queue : control.map (fun q => (k.queues.get? q).map ControlQueue.anonymous) =
      y.control.map (fun q => (h.queues.get? q).map ControlQueue.anonymous) :=
    map_eq_of_rel (fun a b named => map_eq_of_rel (fun _ _ t => t.anonymous) (m.queues a b named))
      named
  exact congrArg (Standing.mk _) queue

theorem Divided.sameFor (d : Divided owner b n U t) (g : Gateway) (p : ι) :
    SameFor g owner p b (U p) t where
  clock := (d.hubs p).clock
  answers c mine := by
    obtain ⟨x, y, hx, hy, twins⟩ := d.twins mine
    simp only [System.answer?, hx, hy]
    exact twins.answer?
  terminals c mine := by
    obtain ⟨x, y, hx, hy, twins⟩ := d.twins mine
    simp only [System.terminal?, hx, hy]
    exact twins.terminal?
  ready c e mine := by
    obtain ⟨x, y, hx, hy, twins⟩ := d.twins mine
    obtain ⟨hk, hh⟩ | ⟨_, _, hk, hh, -⟩ := rel_cases (twins.step g e (d.apart p))
    · simp [System.move, hx, hy, hk, hh]
    · simp [System.move, hx, hy, hk, hh]
  registered := (d.hubs p).registered
  sessions s mine := (d.hubs p).standing? (d.sessions ▸ mine)

/-- **What a party gets, and what becomes of its sessions, is what its own calls alone come
to**: whatever calls the others make on ids of their own, and in whatever order the steps
of all these calls come, the party's share of them can be run alone, and the party cannot
tell the difference. -/
theorem independence {g : Gateway} {moves : List Move} {t : System} {b : Roll ι}
    (owner : String → ι) (ran : System.initial.run g moves = some t)
    (recorded : Roll.record owner {} moves = some b) (p : ι) :
    ∃ u, System.initial.run g (Roll.portion owner p {} moves) = some u ∧
      SameFor g owner p b u t := by
  obtain ⟨n, U, alone, divided⟩ := (Divided.initial owner).run ran recorded
  exact ⟨U p, alone p, divided.sameFor g p⟩

/-- Two parties each open a terminal, on ids of their own, and ask for another window. The
one that comes second deletes its session when its window waits. -/
def crossing : List Move :=
  [.make (someInfo "a") true, .make (someInfo "b") true, .start (.put 1), .start (.put 0),
    .step 1 .go, .step 0 .go,
    .start (.terminal "b" { width := 80, height := 24 }),
    .start (.terminal "a" { width := 80, height := 24 }),
    .step 2 .go, .step 3 .go, .step 2 .go, .step 3 .go, .step 2 .go, .step 3 .go,
    .step 2 (.terminal (.requested none)), .step 2 (.terminal (.message .success none)),
    .step 3 (.terminal (.requested none)), .step 3 (.terminal (.message .success none)),
    .step 3 (.terminal (.requested none)), .step 2 (.terminal (.requested none)),
    .step 2 (.terminal (.message .success none)), .step 3 (.terminal (.message .success none)),
    .step 2 (.terminal .attached), .wait 5, .step 3 (.terminal .attached),
    .start (.resize "b" { width := 100, height := 40 }),
    .start (.resize "a" { width := 90, height := 30 }),
    .step 4 .go, .step 5 .go, .step 4 .go, .step 5 .go, .step 4 .go, .step 5 .go,
    .start (.delete "b"), .step 6 .go, .step 6 .go, .step 6 .go, .step 6 .go,
    .step 3 (.control none), .step 6 .go, .step 2 (.terminal .brokeDown), .step 5 .go, .step 4 .go,
    .step 5 .go, .step 4 .go]

theorem independence_crossing : ∃ t b,
    System.initial.run strandedGateway crossing = some t ∧
      Roll.record (· == "a") {} crossing = some b ∧
        t.answer? 5 = some .done ∧ t.answer? 4 = some (.failed resizeDropped) ∧
          b.calls[5]? = some true ∧
            ∃ u, System.initial.run strandedGateway
                (Roll.portion (· == "a") true {} crossing) = some u ∧
              SameFor strandedGateway (· == "a") true b u t :=
  ⟨_, _, rfl, rfl, rfl, rfl, rfl, independence (· == "a") rfl rfl true⟩

end ShellGateway.Session
