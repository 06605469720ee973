import ShellGateway.Proofs.Session.Release

/-!
# Where a sweep stands

A sweep first notes down which ids have stale sessions, and then takes one after the
other out of the registry and closes its session. By then much can have happened: a
session was touched, removed or replaced by another. So each is looked at again in the
step that takes it out (`Call.step_sweeping`).

Under whatever interference, the sessions that it has taken out and those that it has set
out to close are the same, but for one that is to be closed next, and it has counted them
(`Sweeping`).
-/

namespace ShellGateway

open Session

/-! ## Stale ids -/

/-- A session that is stale under an id is registered there, and has been idle for too
long. -/
theorem Hub.staleAt_eq_true {h : Hub} {maxIdle : Nat} {id : String} :
    h.staleAt maxIdle id = true ↔ ∃ s x, h.find? id = some s ∧ h.sessions.get? s = some x ∧
      (maxIdle : Int) < x.idle h.clock := by
  unfold staleAt
  constructor
  · intro stale
    split at stale
    · rename_i x hx
      obtain ⟨s, hs, hx⟩ := Option.bind_eq_some_iff.mp hx
      exact ⟨s, x, hs, hx, of_decide_eq_true stale⟩
    · cases stale
  · rintro ⟨s, x, hs, hx, hidle⟩
    have found : (h.find? id >>= h.sessions.get?) = some x := by
      rw [hs]
      exact hx
    rw [found]
    exact decide_eq_true hidle

/-- A stale id is on the list of a sweep that starts. -/
theorem Hub.mem_staleIds {h : Hub} {maxIdle : Nat} {id : String}
    (stale : h.staleAt maxIdle id = true) : id ∈ h.staleIds maxIdle := by
  obtain ⟨s, x, hs, -, -⟩ := staleAt_eq_true.mp stale
  obtain ⟨entry, hentry, -⟩ := Option.map_eq_some_iff.mp hs
  have same : entry.1 = id := by simpa using List.find?_some hentry
  have listed : id ∈ h.registered.keys :=
    List.mem_map.mpr ⟨entry, List.mem_of_find?_eq_some hentry, same⟩
  exact List.mem_filter.mpr ⟨listed, stale⟩

/-- What is stale under an id when a sweep comes to it is taken out, and nothing else. -/
theorem Hub.removeStale_cases (h : Hub) (maxIdle : Nat) (id : String) :
    (h.staleAt maxIdle id = false ∧ h.removeStale maxIdle id = (none, h)) ∨
      (h.staleAt maxIdle id = true ∧ ∃ s x, h.find? id = some s ∧ h.sessions.get? s = some x ∧
        (maxIdle : Int) < x.idle h.clock ∧
        h.removeStale maxIdle id = (some s, (h.remove id).2)) := by
  unfold removeStale
  cases stale : h.staleAt maxIdle id with
  | false => exact .inl ⟨rfl, rfl⟩
  | true =>
    obtain ⟨s, x, hs, hx, hidle⟩ := staleAt_eq_true.mp stale
    refine .inr ⟨rfl, s, x, hs, hx, hidle, ?_⟩
    rw [if_pos rfl, ← hs, ← h.remove_fst id]

namespace Session

/-! ## What a sweep does -/

/-- The session that a sweep takes out of the registry in its next step. -/
def Call.evicts (h : Hub) : Call → List Serial
  | sweeping maxIdle (id :: _) _ => (h.removeStale maxIdle id).1.toList
  | _ => []

/-- The session that a call closes from its next step on. -/
def Call.shuts (_ : Hub) : Call → List Serial
  | closing s .marking _ => [s]
  | _ => []

theorem Call.mem_shuts {h : Hub} {call : Call} {s : Serial} (hs : s ∈ call.shuts h) :
    ∃ next, call = .closing s .marking next := by
  cases call with
  | closing r stage next =>
    cases stage with
    | marking =>
      rw [List.mem_singleton.mp hs]
      exact ⟨next, rfl⟩
    | _ => cases hs
  | _ => cases hs

/-- The sessions that call `c` has taken out of the registry by sweeping. -/
def evictions (g : Gateway) (u : System) (c : CallId) (moves : List Move) : List Serial :=
  u.trail (System.noting c Call.evicts) g moves

/-- The sessions that call `c` has set out to close. -/
def closings (g : Gateway) (u : System) (c : CallId) (moves : List Move) : List Serial :=
  u.trail (System.noting c Call.shuts) g moves

/-- Where a sweep stands that has taken out sessions `out` and closed sessions
`shut`. -/
inductive Sweeping (maxIdle : Nat) (out shut : List Serial) : Call → Prop where
  | asked (start : out = []) (even : shut = out) :
      Sweeping maxIdle out shut (.asked (.sweep maxIdle))
  | looking (stale : List String) (even : shut = out) :
      Sweeping maxIdle out shut (.sweeping maxIdle stale out.length)
  | marking (s : Serial) (stale : List String) (last : out = shut ++ [s]) :
      Sweeping maxIdle out shut (.closing s .marking (.sweep maxIdle stale out.length))
  | releasing (s : Serial) (stage : Closing) (stale : List String) (marked : stage ≠ .marking)
      (even : shut = out) :
      Sweeping maxIdle out shut (.closing s stage (.sweep maxIdle stale out.length))
  | answered (even : shut = out) : Sweeping maxIdle out shut (.answered (.count out.length))

/-- A step of a closing that has marked its session goes on with the handles, or returns. -/
theorem closing_cases {g : Gateway} {e : Event} {h h' : Hub} {c' : Call} {s : Serial}
    {stage : Closing} {next : Next} (hs : (Call.closing s stage next).step g e h = some (h', c')) :
    c' = .ofNext next ∨ ∃ stage', stage' ≠ .marking ∧ c' = .closing s stage' next := by
  cases Call.piece hs with
  | plain keeps plain => cases plain
  | opened info plain => cases plain
  | aboard id s keeps aboard => cases aboard
  | ashore id s how keeps aboard => cases aboard
  | late | transportReleased => exact .inl rfl
  | marked | transferReleased | transferAbsent | shellFound | shellGone | shellReleased =>
    exact .inr ⟨_, by simp, rfl⟩
  | told s next keeps before after =>
    refine .inr ⟨_, ?_, rfl⟩
    rintro rfl
    cases after with
    | inl telling => cases telling
    | inr releasing => cases releasing

/-- A sweep passes over an id that is not stale any more, and takes out one that is. -/
theorem Call.step_sweeping {g : Gateway} {e : Event} {h h' : Hub} {c' : Call} {maxIdle : Nat}
    {id : String} {rest : List String} {evicted : Nat}
    (hs : (Call.sweeping maxIdle (id :: rest) evicted).step g e h = some (h', c')) :
    (h.staleAt maxIdle id = false ∧ (Call.sweeping maxIdle (id :: rest) evicted).evicts h = [] ∧
        h' = h ∧ c' = .sweeping maxIdle rest evicted) ∨
      (h.staleAt maxIdle id = true ∧ ∃ s x, h.find? id = some s ∧ h.sessions.get? s = some x ∧
        (maxIdle : Int) < x.idle h.clock ∧
        (Call.sweeping maxIdle (id :: rest) evicted).evicts h = [s] ∧ h' = (h.remove id).2 ∧
        c' = .closing s .marking (.sweep maxIdle rest (evicted + 1))) := by
  have hs : ((h.removeStale maxIdle id).2, Call.closeRemoved (h.removeStale maxIdle id).1
      (.sweep maxIdle rest (evicted + 1)) (.sweep maxIdle rest evicted)) = (h', c') :=
    Call.onGo_eq hs
  obtain ⟨rfl, rfl⟩ := Prod.mk.inj hs
  have evicts : (Call.sweeping maxIdle (id :: rest) evicted).evicts h =
      (h.removeStale maxIdle id).1.toList := rfl
  rw [evicts]
  rcases h.removeStale_cases maxIdle id with ⟨young, passed⟩ | ⟨stale, s, x, hs, hx, hidle, taken⟩
  · rw [passed]
    exact .inl ⟨young, rfl, rfl, rfl⟩
  · rw [taken]
    exact .inr ⟨stale, s, x, hs, hx, hidle, rfl, rfl, rfl⟩

/-- What a sweep takes out was registered and stale, and is closed next. -/
theorem Call.of_mem_evicts {g : Gateway} {e : Event} {h h' : Hub} {c c' : Call} {s : Serial}
    (hs : c.step g e h = some (h', c')) (evicted : s ∈ c.evicts h) :
    ∃ id, h.find? id = some s ∧ h'.find? id = none ∧ (∃ x, h.sessions.get? s = some x) ∧
      ∃ next, c' = .closing s .marking next := by
  cases c with
  | sweeping maxIdle stale count =>
    cases stale with
    | nil => cases evicted
    | cons id rest =>
      rcases step_sweeping hs with ⟨-, none, -⟩ | ⟨-, r, x, hr, hx, -, taken, rfl, rfl⟩
      · rw [none] at evicted
        cases evicted
      · rw [taken] at evicted
        obtain rfl := List.mem_singleton.mp evicted
        have gone := h.find?_remove id id
        rw [if_pos rfl] at gone
        exact ⟨id, hr, gone, ⟨x, hx⟩, _, rfl⟩
  | _ => cases evicted

/-- Each step of a sweep keeps its accounts. -/
theorem Sweeping.step {g : Gateway} {e : Event} {h h' : Hub} {call call' : Call} {maxIdle : Nat}
    {out shut : List Serial} (sw : Sweeping maxIdle out shut call)
    (hs : call.step g e h = some (h', call')) :
    Sweeping maxIdle (out ++ call.evicts h) (shut ++ call.shuts h) call' := by
  cases sw with
  | asked start even =>
    obtain ⟨-, rfl⟩ := Prod.mk.inj (Call.onGo_eq hs)
    rw [even, start]
    exact .looking (h.staleIds maxIdle) rfl
  | looking stale even =>
    cases stale with
    | nil =>
      obtain ⟨-, rfl⟩ := Prod.mk.inj (Call.onGo_eq hs)
      simp only [Call.evicts, Call.shuts, List.append_nil]
      exact .answered even
    | cons id rest =>
      simp only [Call.shuts, List.append_nil]
      rcases Call.step_sweeping hs with ⟨-, none, -, rfl⟩ | ⟨-, s, -, -, -, -, taken, -, rfl⟩
      · rw [none, List.append_nil]
        exact .looking rest even
      · -- it has taken this one out and is to close it
        have last : Sweeping maxIdle (out ++ [s]) shut
            (.closing s .marking (.sweep maxIdle rest (out ++ [s]).length)) :=
          .marking s rest (by rw [even])
        rw [List.length_append] at last
        rw [taken]
        exact last
  | marking s stale last =>
    have even : shut ++ [s] = out := last.symm
    simp only [Call.evicts, Call.shuts, List.append_nil]
    rcases closing_cases hs with rfl | ⟨stage', marked, rfl⟩
    · exact .looking stale even
    · exact .releasing s stage' stale marked even
  | releasing s stage stale marked even =>
    have shuts : (Call.closing s stage (.sweep maxIdle stale out.length)).shuts h = [] := by
      cases stage with
      | marking => exact absurd rfl marked
      | _ => rfl
    simp only [Call.evicts, shuts, List.append_nil]
    rcases closing_cases hs with rfl | ⟨stage', marked', rfl⟩
    · exact .looking stale even
    · exact .releasing s stage' stale marked' even
  | answered even => cases hs

/-- Whatever a step of a sweep takes out of the registry is stale by then. -/
theorem Sweeping.stale {g : Gateway} {e : Event} {h h' : Hub} {call call' : Call} {maxIdle : Nat}
    {out shut : List Serial} (sw : Sweeping maxIdle out shut call)
    (hs : call.step g e h = some (h', call')) {id : String} {s : Serial}
    (found : h.find? id = some s) (lost : h'.find? id ≠ some s) :
    call.evicts h = [s] ∧ ∃ x, h.sessions.get? s = some x ∧ (maxIdle : Int) < x.idle h.clock := by
  have edited : call.edit? h ≠ none := by
    intro none
    refine lost ?_
    rw [(Call.lifeStep hs).find? id, none]
    exact found
  cases sw with
  | looking stale even =>
    cases stale with
    | nil => exact absurd rfl edited
    | cons id' rest =>
      rcases Call.step_sweeping hs with ⟨-, -, rfl, -⟩ | ⟨-, r, x, hr, hx, hidle, taken, rfl, -⟩
      · exact absurd found lost
      · rw [h.find?_remove id' id] at lost
        by_cases hid : id = id'
        · subst hid
          obtain rfl := Option.some.inj (found.symm.trans hr)
          exact ⟨taken, x, hx, hidle⟩
        · rw [if_neg hid] at lost
          exact absurd found lost
  | asked | marking | releasing | answered => exact absurd rfl edited

/-- A sweep has its accounts in order after every schedule. -/
theorem Sweeping.run {g : Gateway} {u t : System} {c : CallId} {moves : List Move} {maxIdle : Nat}
    (ran : u.run g moves = some t) (hc : u.calls[c]? = some (.asked (.sweep maxIdle))) :
    ∃ call, t.calls[c]? = some call ∧
      Sweeping maxIdle (evictions g u c moves) (closings g u c moves) call := by
  induction moves using List.reverseRecOn generalizing t with
  | nil =>
    obtain rfl := Option.some.inj ran
    exact ⟨_, hc, .asked rfl rfl⟩
  | append_singleton moves m ih =>
    rw [System.run_concat] at ran
    obtain ⟨v, hv, hm⟩ := Option.bind_eq_some_iff.mp ran
    obtain ⟨call, hcall, sw⟩ := ih hv
    rw [evictions, closings, System.trail_concat _ m hv, System.trail_concat _ m hv]
    rcases System.own_or_other hm c with ⟨e, call', h', call'', rfl, hcall', hstep, rfl⟩ | other
    · obtain rfl := Option.some.inj (hcall'.symm.trans hcall)
      rw [System.noting_step hcall, System.noting_step hcall]
      exact ⟨call'', System.calls_stepped hcall h' call'', sw.step hstep⟩
    · rw [System.noting_other other, System.noting_other other, List.append_nil, List.append_nil]
      rcases System.calls_move hm hcall with same | ⟨e, -, -, he, -⟩
      · exact ⟨call, same, sw⟩
      · exact absurd he (other e)

/-! ## What becomes of the evicted -/

end Session

/-- Every session has a serial that was given out. -/
def Hub.Numbered (h : Hub) : Prop :=
  ∀ s x, h.sessions.get? s = some x → s < h.nextSerial

namespace Session

variable {g : Gateway} {u t : System} {c : CallId} {moves : List Move} {maxIdle : Nat}

/-- No session has a serial before any was given out. -/
theorem System.numbered_initial : initial.hub.Numbered :=
  fun _ _ hx => by cases hx

/-- Serials are given out before there is a session with them. -/
theorem System.numbered (ran : u.run g moves = some t) (numbered : u.hub.Numbered) :
    t.hub.Numbered := by
  induction moves generalizing u with
  | nil =>
    obtain rfl := Option.some.inj ran
    exact numbered
  | cons m rest ih =>
    obtain ⟨v, hm, hrest⟩ := System.run_cons_eq_some ran
    refine ih hrest fun s x hx => ?_
    cases hu : u.hub.sessions.get? s with
    | none => exact (System.makes hm hu hx).1
    | some y =>
      have once : u.run g [m] = some v := by
        rw [System.run, hm]
        rfl
      exact (System.life_lasts once (congrArg (Option.map Session.life) hu) (numbered s y hu)).1

/-- No move unmakes a session, or opens it again. -/
theorem System.life_move {m : Move} (hm : u.move g m = some t) (numbered : u.hub.Numbered)
    {s : Serial} {l : Life} (hl : u.hub.life? s = some l) :
    ∃ l', t.hub.life? s = some l' ∧ (l.closed = true → l'.closed = true) := by
  have once : u.run g [m] = some t := by
    rw [System.run, hm]
    rfl
  obtain ⟨x, hx, -⟩ := Hub.life?_eq_some hl
  obtain ⟨-, l', hl', -, closed⟩ := System.life_lasts once hl (numbered s x hx)
  exact ⟨l', hl', closed⟩

/-- The sessions that a call has taken out by sweeping are there for good. -/
theorem evicted_life (ran : u.run g moves = some t) (numbered : u.hub.Numbered) :
    ∀ s ∈ evictions g u c moves, ∃ l, t.hub.life? s = some l := by
  induction moves using List.reverseRecOn generalizing t with
  | nil => exact fun s hs => by cases hs
  | append_singleton moves m ih =>
    rw [System.run_concat] at ran
    obtain ⟨v, hv, hm⟩ := Option.bind_eq_some_iff.mp ran
    intro s hs
    -- it was there before the move, whether it has been taken out long since or is now
    have there : ∃ l, v.hub.life? s = some l := by
      rw [evictions, System.trail_concat _ m hv] at hs
      rcases List.mem_append.mp hs with old | new
      · exact ih hv s old
      · rcases System.own_or_other hm c with ⟨e, call, h', call', rfl, hcall, hstep, -⟩ | other
        · rw [System.noting_step hcall] at new
          obtain ⟨-, -, -, ⟨x, hx⟩, -⟩ := Call.of_mem_evicts hstep new
          exact ⟨x.life, congrArg (Option.map Session.life) hx⟩
        · rw [System.noting_other other] at new
          cases new
    obtain ⟨l, hl⟩ := there
    obtain ⟨l', hl', -⟩ := System.life_move hm (System.numbered hv numbered) hl
    exact ⟨l', hl'⟩

/-- A sweep that is about to mark a session has taken it out. -/
theorem Sweeping.mem_of_marking {maxIdle : Nat} {out shut : List Serial} {s : Serial} {next : Next}
    (sw : Sweeping maxIdle out shut (.closing s .marking next)) : s ∈ out := by
  cases sw with
  | marking _ stale last =>
    rw [last]
    exact List.mem_append_right _ (List.mem_singleton_self s)
  | releasing _ _ _ marked => exact absurd rfl marked

/-- The sessions that a sweep has set out to close are closed. -/
theorem shut_closed (ran : u.run g moves = some t)
    (hc : u.calls[c]? = some (.asked (.sweep maxIdle))) (numbered : u.hub.Numbered) :
    ∀ s ∈ closings g u c moves, ∃ l, t.hub.life? s = some l ∧ l.closed = true := by
  induction moves using List.reverseRecOn generalizing t with
  | nil => exact fun s hs => by cases hs
  | append_singleton moves m ih =>
    rw [System.run_concat] at ran
    obtain ⟨v, hv, hm⟩ := Option.bind_eq_some_iff.mp ran
    intro s hs
    rw [closings, System.trail_concat _ m hv] at hs
    rcases List.mem_append.mp hs with old | new
    · obtain ⟨l, hl, closed⟩ := ih hv s old
      obtain ⟨l', hl', closed'⟩ := System.life_move hm (System.numbered hv numbered) hl
      exact ⟨l', hl', closed' closed⟩
    · rcases System.own_or_other hm c with ⟨e, call, h', call', rfl, hcall, hstep, rfl⟩ | other
      · -- it is marked now, having been taken out before
        rw [System.noting_step hcall] at new
        obtain ⟨next, rfl⟩ := Call.mem_shuts new
        obtain ⟨call₀, hcall₀, sw⟩ := Sweeping.run hv hc
        obtain rfl := Option.some.inj (hcall.symm.trans hcall₀)
        obtain ⟨l, hl⟩ := evicted_life hv numbered s sw.mem_of_marking
        obtain ⟨-, rfl, -⟩ := Call.step_marking hstep
        have life := v.hub.life?_markClosed s s
        rw [if_pos rfl, hl] at life
        exact ⟨_, life, rfl⟩
      · rw [System.noting_other other] at new
        cases new

/-- If sessions go by the registry, whoever is to mark one finds it open. -/
theorem open_of_marking (ran : System.initial.run g moves = some t) (guarded : Guarded g moves)
    {s : Serial} {next : Next} (marking : t.calls[c]? = some (.closing s .marking next)) :
    (t.hub.markClosed s).1 = false := by
  obtain ⟨p, k⟩ := Placed.exists_place ran guarded s
  obtain rfl := (k.duty c .marking).mp (Kept.duty?_of_call marking)
  obtain ⟨l, hl⟩ := k.exists_life (by simp)
  obtain ⟨x, hx, rfl⟩ := Hub.life?_eq_some hl
  rw [Hub.markClosed, hx]
  exact k.closed _ hl

/-- If sessions go by the registry, what a sweep has taken out is its own to close. -/
theorem evicted_isClosing {past : List Move} (reached : System.initial.run g past = some u)
    (ran : u.run g moves = some t) (guarded : Guarded g (past ++ moves)) :
    ∀ s ∈ evictions g u c moves, ∃ p, Placed g (past ++ moves) t s p ∧ p.isClosing c := by
  induction moves using List.reverseRecOn generalizing t with
  | nil => exact fun s hs => by cases hs
  | append_singleton moves m ih =>
    rw [System.run_concat] at ran
    obtain ⟨v, hv, hm⟩ := Option.bind_eq_some_iff.mp ran
    rw [← List.append_assoc] at guarded ⊢
    have before : System.initial.run g (past ++ moves) = some v := by
      rw [System.run_append, reached]
      exact hv
    have after : System.initial.run g (past ++ moves ++ [m]) = some t := by
      rw [System.run_concat, before]
      exact hm
    intro s hs
    rw [evictions, System.trail_concat _ m hv] at hs
    rcases List.mem_append.mp hs with old | new
    · obtain ⟨p, k, hp⟩ := ih hv guarded.take s old
      obtain ⟨p', k', adv⟩ := k.move before guarded hm
      exact ⟨p', k', adv.isClosing hp⟩
    · rcases System.own_or_other hm c with ⟨e, call, h', call', rfl, hcall, hstep, rfl⟩ | other
      · rw [System.noting_step hcall] at new
        obtain ⟨-, -, -, -, next, rfl⟩ := Call.of_mem_evicts hstep new
        obtain ⟨p, k⟩ := Placed.exists_place after guarded s
        -- the call has the duty right after it took the session out
        have stands := System.calls_stepped hcall h' (.closing s .marking next)
        obtain rfl := (k.duty c .marking).mp (Kept.duty?_of_call stands)
        exact ⟨_, k, decide_eq_true rfl⟩
      · rw [System.noting_other other] at new
        cases new

/-- **A sweep can go through on its own**, whether or not releases fail. -/
theorem sweeping_returns (g : Gateway) (failed : Bool) {t : System} {c : CallId} {maxIdle : Nat}
    (stale : List String) {evicted : Nat}
    (hc : t.calls[c]? = some (.sweeping maxIdle stale evicted)) :
    ∃ v, System.GoesOn g c failed t v ∧ (v.answer? c).isSome := by
  induction stale generalizing t evicted with
  | nil =>
    refine ⟨_, .step hc (.inl rfl) rfl, ?_⟩
    rw [System.answer?, System.calls_stepped hc]
    rfl
  | cons id rest ih =>
    have first : System.GoesOn g c failed t (t.stepped c (t.hub.removeStale maxIdle id).2
        (.closeRemoved (t.hub.removeStale maxIdle id).1 (.sweep maxIdle rest (evicted + 1))
          (.sweep maxIdle rest evicted))) := .step hc (.inl rfl) rfl
    have stands := System.calls_stepped hc (t.hub.removeStale maxIdle id).2
      (.closeRemoved (t.hub.removeStale maxIdle id).1 (.sweep maxIdle rest (evicted + 1))
        (.sweep maxIdle rest evicted))
    cases hr : (t.hub.removeStale maxIdle id).1 with
    | none =>
      rw [hr] at first stands
      obtain ⟨v, goes, hv⟩ := ih stands
      exact ⟨v, first.trans goes, hv⟩
    | some s =>
      -- the closing that comes in between can be gone through with too
      rw [hr] at first stands
      obtain ⟨w, closes, hw⟩ := closing_returns g failed stands
      obtain ⟨v, goes, hv⟩ := ih hw
      exact ⟨v, first.trans (closes.trans goes), hv⟩

/-- So it can from wherever it stands. -/
theorem Sweeping.can_answer (g : Gateway) {t : System} {c : CallId} {call : Call} {maxIdle : Nat}
    {out shut : List Serial} (sw : Sweeping maxIdle out shut call) (hc : t.calls[c]? = some call)
    (failed : Bool) : ∃ v, System.GoesOn g c failed t v ∧ (v.answer? c).isSome := by
  have swept : ∀ {v : System} {stale evicted}, System.GoesOn g c failed t v →
      v.calls[c]? = some (.sweeping maxIdle stale evicted) →
      ∃ w, System.GoesOn g c failed t w ∧ (w.answer? c).isSome := by
    intro v stale evicted goes stands
    obtain ⟨w, more, answered⟩ := sweeping_returns g failed stale stands
    exact ⟨w, goes.trans more, answered⟩
  have closed : ∀ {s stage stale evicted},
      t.calls[c]? = some (.closing s stage (.sweep maxIdle stale evicted)) →
      ∃ w, System.GoesOn g c failed t w ∧ (w.answer? c).isSome := by
    intro s stage stale evicted stands
    obtain ⟨v, goes, returned⟩ := closing_returns g failed stands
    exact swept goes returned
  cases sw with
  | asked => exact swept (.step hc (.inl rfl) rfl) (System.calls_stepped hc _ _)
  | looking => exact swept (.refl g c failed t) hc
  | marking => exact closed hc
  | releasing => exact closed hc
  | answered =>
    refine ⟨t, .refl g c failed t, ?_⟩
    rw [System.answer?, hc]
    rfl

end Session

end ShellGateway
