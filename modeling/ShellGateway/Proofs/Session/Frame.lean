import ShellGateway.Session.Hub

/-!
# What the hub's steps leave alone

Most steps of most calls have nothing to do with most of what can be said
about sessions. `Hub.Frame view h h'` says so once for each step: the clock, the
registry and the serials are as before, and so is what `view` shows of each
session. A theorem picks the view that keeps the fields it speaks of, and is left
with the few steps that change them.

- Steps on control queues and tickets keep every view (`frame_modifyQueue` and
  what follows from it).
- A change of one session keeps a view that does not see the change
  (`frame_modify`).
-/

namespace ShellGateway.Hub

open Session

/-! ## Look-ups -/

/-- Changing a session changes what is found under its serial and nothing
else. -/
theorem get?_modify (h : Hub) (s s' : Serial) (f : Session → Session) :
    (h.modify s f).sessions.get? s' =
      if s' = s then (h.sessions.get? s).map f else h.sessions.get? s' := by
  unfold modify
  cases hs : h.sessions.get? s with
  | none =>
    by_cases hss : s' = s
    · rw [if_pos hss, hss, hs]
      rfl
    · rw [if_neg hss]
  | some x =>
    show (h.sessions.insert s (f x)).get? s' = _
    rw [Dictionary.get?_insert]
    rfl

/-! ## Frames -/

/-- A step that changes nothing but queues, tickets and what `view` does not
show. -/
structure Frame {α : Type} (view : Session → α) (h h' : Hub) : Prop where
  clock : h'.clock = h.clock
  registered : h'.registered = h.registered
  nextSerial : h'.nextSerial = h.nextSerial
  sessions : ∀ s, (h'.sessions.get? s).map view = (h.sessions.get? s).map view

/-- A step that is seen on no session, nor in the registry. -/
abbrev SameSessions (h h' : Hub) : Prop :=
  Frame (fun x : Session => x) h h'

namespace Frame

variable {α : Type} {view : Session → α} {h h' h'' : Hub}

theorem refl (view : Session → α) (h : Hub) : Frame view h h :=
  ⟨rfl, rfl, rfl, fun _ => rfl⟩

theorem trans (a : Frame view h h') (b : Frame view h' h'') : Frame view h h'' :=
  ⟨b.clock.trans a.clock, b.registered.trans a.registered, b.nextSerial.trans a.nextSerial,
   fun s => (b.sessions s).trans (a.sessions s)⟩

theorem find? (a : Frame view h h') (id : String) : h'.find? id = h.find? id :=
  congrArg (·.get? id) a.registered

/-- A step that a view does not show is not shown by what sees less either. -/
theorem map {β : Type} (a : Frame view h h') (f : α → β) : Frame (fun x => f (view x)) h h' where
  clock := a.clock
  registered := a.registered
  nextSerial := a.nextSerial
  sessions s := by
    have seen := congrArg (Option.map f) (a.sessions s)
    rw [Option.map_map, Option.map_map] at seen
    exact seen

end Frame

/-! ## Steps that change a session -/

variable {α : Type} {view : Session → α}

/-- A change that the view does not show is framed. -/
theorem frame_modify (h : Hub) (s : Serial) {f : Session → Session}
    (hf : ∀ x, view (f x) = view x) : Frame view h (h.modify s f) := by
  refine ⟨?_, ?_, ?_, fun s' => ?_⟩
  · unfold modify
    split <;> rfl
  · unfold modify
    split <;> rfl
  · unfold modify
    split <;> rfl
  · rw [get?_modify]
    by_cases hs : s' = s
    · rw [if_pos hs, hs, Option.map_map]
      exact congrArg (Option.map · _) (funext hf)
    · rw [if_neg hs]

theorem frame_touch (h : Hub) (s : Serial) (hf : ∀ x, view (x.touched h.clock) = view x) :
    Frame view h (h.touch s) :=
  frame_modify h s hf

theorem frame_takeShell (h : Hub) (s : Serial)
    (hf : ∀ x, view { x with shellHere := false } = view x) : Frame view h (h.takeShell s).2 :=
  frame_modify h s hf

theorem frame_takeControl (h : Hub) (s : Serial)
    (hf : ∀ x, view { x with control := none } = view x) : Frame view h (h.takeControl s).2 :=
  frame_modify h s hf

theorem frame_markClosed (h : Hub) (s : Serial)
    (hf : ∀ x, view { x with closed := true } = view x) : Frame view h (h.markClosed s).2 :=
  frame_modify h s hf

theorem frame_release (h : Hub) (s : Serial) (handle : Handle) (failed : Bool)
    (hf : ∀ x, view { x with releases := ⟨handle, failed⟩ :: x.releases } = view x) :
    Frame view h (h.release s handle failed) :=
  frame_modify h s hf

/-! ## Steps on queues and tickets -/

theorem frame_modifyQueue (h : Hub) (q : QueueId) (f : ControlQueue → ControlQueue) :
    Frame view h (h.modifyQueue q f) := by
  unfold modifyQueue
  split
  · exact ⟨rfl, rfl, rfl, fun _ => rfl⟩
  · exact Frame.refl view h

theorem frame_dropSender (h : Hub) (q : QueueId) : Frame view h (h.dropSender q) :=
  frame_modifyQueue h q _

theorem frame_trySend (h : Hub) (q : QueueId) (c : Command) : Frame view h (h.trySend q c) :=
  frame_modifyQueue h q _

theorem frame_reply (h : Hub) (t : Ticket) (r : Reply) : Frame view h (h.reply t r) :=
  ⟨rfl, rfl, rfl, fun _ => rfl⟩

theorem frame_newTicket (h : Hub) : Frame view h h.newTicket.2 :=
  ⟨rfl, rfl, rfl, fun _ => rfl⟩

theorem frame_shareControl (h : Hub) (s : Serial) : Frame view h (h.shareControl s).2 := by
  unfold shareControl
  split
  · exact frame_modifyQueue h _ _
  · exact Frame.refl view h

theorem frame_receive (h : Hub) (q : QueueId) : Frame view h (h.receive q).2 := by
  unfold receive
  split
  · exact Frame.refl view h
  · split
    · exact frame_modifyQueue h _ _
    · exact Frame.refl view h

theorem frame_abandon (h : Hub) (q : QueueId) : Frame view h (h.abandon q) := by
  -- the answers are dropped one after the other
  have dropped : ∀ (tickets : List Ticket) (h : Hub),
      Frame view h (tickets.foldl (fun h t => h.reply t .dropped) h) := by
    intro tickets
    induction tickets with
    | nil => exact Frame.refl view
    | cons t rest ih =>
      intro h
      exact (frame_reply h t .dropped).trans (ih _)
  unfold abandon
  split
  · exact Frame.refl view h
  · exact (frame_modifyQueue h q _).trans (dropped _ _)

/-- Taking a queue out of a session shows in nothing but the session's control
queue. -/
theorem frame_detach (h : Hub) (s : Serial)
    (hf : ∀ x q, view { x with control := q } = view x) : Frame view h (h.detach s) := by
  have taken : Frame view h (h.takeControl s).2 := frame_takeControl h s fun x => hf x none
  unfold detach
  cases hq : h.takeControl s with
  | mk q? h' =>
    rw [hq] at taken
    cases q? with
    | none => exact taken
    | some q => exact taken.trans (frame_dropSender h' q)

/-- So does installing one. -/
theorem frame_attach (h : Hub) (s : Serial)
    (hf : ∀ x q, view { x with control := q } = view x) : Frame view h (h.attach s).2 := by
  have set : Frame view (h.detach s)
      ((h.detach s).modify s fun x => { x with control := some (h.detach s).nextQueue }) :=
    frame_modify (h.detach s) s fun x => hf x _
  exact (frame_detach h s hf).trans ⟨set.clock, set.registered, set.nextSerial, set.sessions⟩

end ShellGateway.Hub
