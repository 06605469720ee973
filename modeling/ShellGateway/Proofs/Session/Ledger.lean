import Mathlib.Data.List.Induction
import ShellGateway.Proofs.Session.Life
import ShellGateway.Proofs.Session.Trail

/-!
# What the registry holds

The registry is the sum of its edits. Along a schedule, each step of a call that
changes the registry is one `Edit`, and under each id the registry holds the
session of the last edit of that id, if that was a put (`find?_iff_lastPut`).
-/

namespace ShellGateway

namespace Session.Edit

/-- The id that is edited. -/
def id : Edit → String
  | put id _ | removal id => id

/-- What is registered under the edited id afterwards. -/
def left : Edit → Option Serial
  | put _ s => some s
  | removal _ => none

end Session.Edit

open Session

/-- What a step of a call registers and takes out is its edit. -/
theorem Session.LifeStep.find? {h h' : Hub} {c c' : Call} (l : LifeStep h c h' c') (id : String) :
    h'.find? id = match c.edit? h with
      | some e => if id = e.id then e.left else h.find? id
      | none => h.find? id := by
  -- registering is the same in calls that put and in calls that connect
  have offering : ∀ s c, Call.edit? h c = (h.life? s).map (fun l => .put l.info.id s) →
      (h.put s).2.find? id = match c.edit? h with
        | some e => if id = e.id then e.left else h.find? id
        | none => h.find? id := by
    intro s c hc
    rw [hc]
    cases hl : h.life? s with
    | none => rw [h.put_unknown hl]; rfl
    | some l => exact h.find?_put hl id
  cases l with
  | quiet lives edit duty => rw [edit, lives.find?]
  | opened info edit duty => rw [edit]; rfl
  | offered s => exact offering s _ rfl
  | registered s n => exact offering s _ rfl
  | removed id' next absent => exact h.find?_remove id' id
  | swept maxIdle id' rest evicted stale =>
    rw [Call.edit?, if_pos stale]
    exact h.find?_remove id' id
  | marked s next isOpen =>
    have frame : Hub.Frame Session.info h (h.markClosed s).2 := h.frame_markClosed s fun _ => rfl
    exact frame.find? id
  | late s next found closed =>
    have frame : Hub.Frame Session.info h (h.markClosed s).2 := h.frame_markClosed s fun _ => rfl
    exact frame.find? id
  | released s next failed =>
    have frame : Hub.Frame Session.info h (h.release s .transport failed) :=
      h.frame_release s .transport failed fun _ => rfl
    exact frame.find? id
  | intruding s next => rfl

namespace Session

/-! ## The last edit -/

/-- The last edit of the id is a put of the session. -/
def LastPut (edits : List Edit) (id : String) (s : Serial) : Prop :=
  ∃ past later, edits = past ++ .put id s :: later ∧ ∀ e ∈ later, e.id ≠ id

theorem not_lastPut_nil (id : String) (s : Serial) : ¬ LastPut [] id s := by
  rintro ⟨past, later, h, -⟩
  cases past <;> cases h

/-- An edit of the id is the last one. -/
theorem lastPut_concat_self (edits : List Edit) (e : Edit) (s : Serial) :
    LastPut (edits ++ [e]) e.id s ↔ e.left = some s := by
  constructor
  · rintro ⟨past, later, h, hlater⟩
    -- were there later edits, the last of them would be of this id
    rcases List.eq_nil_or_concat later with rfl | ⟨init, last, rfl⟩
    · obtain ⟨-, he⟩ := List.append_inj' h rfl
      rw [(List.cons.inj he).1]
      rfl
    · rw [List.concat_eq_append, ← List.cons_append, ← List.append_assoc] at h
      obtain ⟨-, he⟩ := List.append_inj' h rfl
      have hmem : last ∈ init.concat last := by
        rw [List.concat_eq_append]
        exact List.mem_concat_self
      have hlast : last.id ≠ e.id := hlater last hmem
      exact absurd (congrArg Edit.id (List.cons.inj he).1.symm) hlast
  · intro h
    cases e with
    | removal id => cases h
    | put id s' =>
      cases h
      exact ⟨edits, [], rfl, by simp⟩

/-- Edits of other ids do not matter. -/
theorem lastPut_concat_other (edits : List Edit) {e : Edit} {id : String} (he : e.id ≠ id)
    (s : Serial) : LastPut (edits ++ [e]) id s ↔ LastPut edits id s := by
  constructor
  · rintro ⟨past, later, h, hlater⟩
    rcases List.eq_nil_or_concat later with rfl | ⟨init, last, rfl⟩
    · obtain ⟨-, hlast⟩ := List.append_inj' h rfl
      exact absurd (congrArg Edit.id (List.cons.inj hlast).1) he
    · rw [List.concat_eq_append, ← List.cons_append, ← List.append_assoc] at h
      obtain ⟨hinit, -⟩ := List.append_inj' h rfl
      refine ⟨past, init, hinit, fun e' he' => hlater e' ?_⟩
      rw [List.concat_eq_append]
      exact List.mem_append_left _ he'
  · rintro ⟨past, later, rfl, hlater⟩
    refine ⟨past, later ++ [e], by rw [List.append_assoc, List.cons_append], fun e' he' => ?_⟩
    rcases List.mem_append.mp he' with h | h
    · exact hlater e' h
    · rw [List.mem_singleton.mp h]
      exact he

/-! ## Along a schedule -/

/-- No schedule changes what a session is for or opens it again. -/
theorem System.life_lasts {g : Gateway} {t u : System} {moves : List Move} {s : Serial} {l : Life}
    (ran : t.run g moves = some u) (hl : t.hub.life? s = some l) (numbered : s < t.hub.nextSerial) :
    s < u.hub.nextSerial ∧ ∃ l', u.hub.life? s = some l' ∧ l'.info = l.info ∧
      (l.closed = true → l'.closed = true) := by
  induction moves generalizing t l with
  | nil =>
    obtain rfl := Option.some.inj ran
    exact ⟨numbered, l, hl, rfl, fun closed => closed⟩
  | cons m rest ih =>
    obtain ⟨v, hm, hrest⟩ := System.run_cons_eq_some ran
    have once : s < v.hub.nextSerial ∧ ∃ l', v.hub.life? s = some l' ∧ l'.info = l.info ∧
        (l.closed = true → l'.closed = true) := by
      cases m with
      | start | wait =>
        obtain rfl := Option.some.inj hm
        exact ⟨numbered, l, hl, rfl, fun closed => closed⟩
      | make info shellHere =>
        obtain rfl := Option.some.inj hm
        have life := t.hub.life?_make info shellHere s
        rw [if_neg (Nat.ne_of_lt numbered)] at life
        exact ⟨Nat.lt_succ_of_lt numbered, l, life.trans hl, rfl, fun closed => closed⟩
      | step c e =>
        obtain ⟨call, h', call', hc, hstep, rfl⟩ := System.move_step_eq_some hm
        exact (Call.lifeStep hstep).lasts hl numbered
    obtain ⟨numbered', l₁, hl₁, info₁, closed₁⟩ := once
    obtain ⟨numbered'', l₂, hl₂, info₂, closed₂⟩ := ih hrest hl₁ numbered'
    exact ⟨numbered'', l₂, hl₂, info₂.trans info₁, fun closed => closed₂ (closed₁ closed)⟩

/-- The edit that a move makes. -/
def System.edit (t : System) : Move → List Edit
  | .step c _ => (t.calls[c]? >>= Call.edit? t.hub).toList
  | _ => []

/-- The edits along a schedule. -/
def edits (g : Gateway) (moves : List Move) : List Edit :=
  System.initial.trail System.edit g moves

/-- Along a schedule that starts anywhere, an id goes with the last put of it, and if it is
not edited, with the session that it went with before. -/
theorem find?_iff_lastPut_since {g : Gateway} {u t : System} {moves : List Move}
    (ran : u.run g moves = some t) (id : String) (s : Serial) :
    t.hub.find? id = some s ↔ LastPut (u.trail System.edit g moves) id s ∨
      u.hub.find? id = some s ∧ ∀ e ∈ u.trail System.edit g moves, e.id ≠ id := by
  induction moves using List.reverseRecOn generalizing t with
  | nil =>
    obtain rfl := Option.some.inj ran
    refine ⟨fun h => .inr ⟨h, fun e he => by cases he⟩, ?_⟩
    rintro (lastPut | ⟨found, -⟩)
    · exact absurd lastPut (not_lastPut_nil id s)
    · exact found
  | append_singleton moves m ih =>
    rw [System.run_concat] at ran
    obtain ⟨v, hv, hm⟩ := Option.bind_eq_some_iff.mp ran
    have ih := ih hv
    rw [System.trail_concat _ m hv]
    cases m with
    | step c e =>
      obtain ⟨call, h', call', hc, hstep, rfl⟩ := System.move_step_eq_some hm
      have found : h'.find? id = _ := (Call.lifeStep hstep).find? id
      have now : v.edit (.step c e) = (call.edit? v.hub).toList := by rw [System.edit, hc]; rfl
      rw [now]
      show h'.find? id = some s ↔ _
      rw [found]
      cases call.edit? v.hub with
      | none =>
        rw [Option.toList_none, List.append_nil]
        exact ih
      | some edit =>
        rw [Option.toList_some]
        dsimp only
        by_cases hid : id = edit.id
        · -- what the id went with before does not matter any more
          rw [if_pos hid, hid, lastPut_concat_self]
          refine (or_iff_left ?_).symm
          rintro ⟨-, unedited⟩
          exact unedited edit (List.mem_concat_self) rfl
        · have others : (∀ e ∈ u.trail System.edit g moves ++ [edit], e.id ≠ id) ↔
              ∀ e ∈ u.trail System.edit g moves, e.id ≠ id := by
            rw [List.forall_mem_append]
            exact and_iff_left fun e he => List.mem_singleton.mp he ▸ Ne.symm hid
          rw [if_neg hid, lastPut_concat_other _ (Ne.symm hid), others]
          exact ih
    | _ =>
      obtain rfl := Option.some.inj hm
      simp only [System.edit, List.append_nil]
      exact ih

/-- **Under each id the registry holds the session of the last put of that id,
unless a removal of the id came after it.** -/
theorem find?_iff_lastPut {g : Gateway} {moves : List Move} {t : System}
    (ran : System.initial.run g moves = some t) (id : String) (s : Serial) :
    t.hub.find? id = some s ↔ LastPut (edits g moves) id s := by
  refine (find?_iff_lastPut_since ran id s).trans (or_iff_left ?_)
  rintro ⟨found, -⟩
  cases found

end Session

end ShellGateway
