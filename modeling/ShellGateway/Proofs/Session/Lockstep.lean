import ShellGateway.Proofs.Session.Shares

/-!
# Steps in a party's share

A step of a call is the same in the party's share of the hub as in the hub itself.
`CallTwins` says what a party's call is alone: the same call, with the party's own names
for queues and tickets. `CallTwins.step` says that of two such calls one can take a step
exactly if the other can; that they are twins again after it; that the hubs are, and that
nobody else has lost or gained anything by it.

The first part says so of what calls do to the hub, the second of each kind of call.
-/

namespace ShellGateway.Session

variable {ι : Type} [DecidableEq ι]

variable {owner : String → ι} {n : Names ι} {p : ι} {K : ι → Hub} {k h : Hub} {s : Serial}
  {a b : QueueId} {id : String}

/-! ## The hub's steps -/

/-- What does not look at control queues is the same of a session alone. -/
theorem Mirrors.look (m : Mirrors owner n p k h) (own : n.sessions[s]? = some p) {α : Type}
    {f : Session → α} (aside : ∀ x c, f { x with control := c } = f x) :
    (k.sessions.get? s).map f = (h.sessions.get? s).map f :=
  map_eq_of_rel (fun _ _ x => x.same aside) (m.sessions s own)

theorem Mirrors.any (m : Mirrors owner n p k h) (own : n.sessions[s]? = some p)
    {f : Session → Bool} (aside : ∀ x c, f { x with control := c } = f x) :
    (k.sessions.get? s).any f = (h.sessions.get? s).any f := by
  have same := m.look own aside
  have any_map : ∀ x : Option Session, x.any f = (x.map f).any id := by
    rintro (_ | _) <;> rfl
  rw [any_map, same, ← any_map]

theorem Apart.touch (x : Apart owner n p K k h) (own : n.sessions[s]? = some p) :
    Apart owner n p K (k.touch s) (h.touch s) := by
  unfold Hub.touch
  rw [x.own.clock]
  exact x.modify_aside own (fun _ _ => rfl) fun _ => rfl

theorem Apart.markClosed (x : Apart owner n p K k h) (own : n.sessions[s]? = some p) :
    Apart owner n p K (k.markClosed s).2 (h.markClosed s).2 :=
  x.modify_aside own (fun _ _ => rfl) fun _ => rfl

theorem Apart.takeShell (x : Apart owner n p K k h) (own : n.sessions[s]? = some p) :
    Apart owner n p K (k.takeShell s).2 (h.takeShell s).2 :=
  x.modify_aside own (fun _ _ => rfl) fun _ => rfl

theorem Apart.release (x : Apart owner n p K k h) (own : n.sessions[s]? = some p)
    (handle : Handle) (failed : Bool) :
    Apart owner n p K (k.release s handle failed) (h.release s handle failed) :=
  x.modify_aside own (fun _ _ => rfl) fun _ => rfl

/-- The control queue of a session, under either name. -/
theorem Mirrors.control (m : Mirrors owner n p k h) (own : n.sessions[s]? = some p) :
    Option.Rel (IsNth n.queues p) ((k.sessions.get? s).bind (·.control))
      ((h.sessions.get? s).bind (·.control)) := by
  obtain ⟨hk, hh⟩ | ⟨_, _, hk, hh, t⟩ := rel_cases (m.sessions s own)
  · rw [hk, hh]
    exact .none
  · rw [hk, hh]
    exact t.control

theorem Apart.takeControl (x : Apart owner n p K k h) (own : n.sessions[s]? = some p) :
    Apart owner n p K (k.takeControl s).2 (h.takeControl s).2 :=
  x.modify own fun _ _ t => ⟨by rw [t.fields], .none, t.owned⟩

theorem Apart.dropSender (x : Apart owner n p K k h) (named : IsNth n.queues p a b) :
    Apart owner n p K (k.dropSender a) (h.dropSender b) :=
  x.modifyQueue named fun _ _ t => ⟨t.queued, congrArg (· - 1) t.senders, t.reading⟩

theorem Apart.detach (x : Apart owner n p K k h) (own : n.sessions[s]? = some p) :
    Apart owner n p K (k.detach s) (h.detach s) := by
  have left := x.takeControl own
  unfold Hub.detach Hub.takeControl
  obtain ⟨hk, hh⟩ | ⟨_, _, hk, hh, named⟩ := rel_cases (x.own.control own)
  · rw [hk, hh]
    exact left
  · rw [hk, hh]
    exact left.dropSender named

/-- Installing a control queue takes a new name. -/
theorem Apart.attach (x : Apart owner n p K k h) (own : n.sessions[s]? = some p) :
    IsNth (n.withQueue p).queues p (k.attach s).1 (h.attach s).1 ∧
      Apart owner (n.withQueue p) p K (k.attach s).2 (h.attach s).2 := by
  have out := x.detach own
  rw [Hub.attach_eq, Hub.attach_eq]
  refine ⟨out.own.isNth_newQueue, out.newQueue.modify own fun _ _ t => ⟨?_, ?_, t.owned⟩⟩
  · rw [t.fields]
  · exact .some out.own.isNth_newQueue

theorem Apart.shareControl (x : Apart owner n p K k h) (own : n.sessions[s]? = some p) :
    Option.Rel (IsNth n.queues p) (k.shareControl s).1 (h.shareControl s).1 ∧
      Apart owner n p K (k.shareControl s).2 (h.shareControl s).2 := by
  unfold Hub.shareControl
  obtain ⟨hk, hh⟩ | ⟨_, _, hk, hh, named⟩ := rel_cases (x.own.control own)
  · rw [hk, hh]
    exact ⟨.none, x⟩
  · rw [hk, hh]
    exact ⟨.some named,
      x.modifyQueue named fun _ _ t => ⟨t.queued, congrArg (· + 1) t.senders, t.reading⟩⟩

/-- Twins have room for as many. -/
theorem QueueTwins.hasRoom {x y : ControlQueue} (t : QueueTwins n p x y) :
    x.hasRoom = y.hasRoom := by
  unfold ControlQueue.hasRoom
  rw [t.queued.length_eq]

theorem QueueTwins.push {x y : ControlQueue} (t : QueueTwins n p x y) {c d : Command}
    (command : CommandTwins n p c d) : QueueTwins n p (x.push c) (y.push d) :=
  ⟨List.rel_append t.queued (.cons command .nil), t.senders, t.reading⟩

theorem Apart.trySend (x : Apart owner n p K k h) (named : IsNth n.queues p a b)
    {c d : Command} (command : CommandTwins n p c d) :
    Apart owner n p K (k.trySend a c) (h.trySend b d) := by
  refine x.modifyQueue named fun x y t => ?_
  have accepts : x.accepts = y.accepts := by
    unfold ControlQueue.accepts
    rw [t.reading, t.hasRoom]
  rw [accepts]
  split
  · exact t.push command
  · exact t

/-- What a reader finds, alone and together with others. -/
inductive ReceivedTwins (n : Names ι) (p : ι) : Hub.Received → Hub.Received → Prop
  | command {c d : Command} (command : CommandTwins n p c d) :
    ReceivedTwins n p (.command c) (.command d)
  | ended : ReceivedTwins n p .ended .ended
  | nothingYet : ReceivedTwins n p .nothingYet .nothingYet

theorem Apart.receive (x : Apart owner n p K k h) (named : IsNth n.queues p a b) :
    ReceivedTwins n p (k.receive a).1 (h.receive b).1 ∧
      Apart owner n p K (k.receive a).2 (h.receive b).2 := by
  unfold Hub.receive
  obtain ⟨hk, hh⟩ | ⟨⟨queued, senders, _⟩, ⟨queued', _, _⟩, hk, hh, t⟩ :=
    rel_cases (x.own.queues a b named)
  · rw [hk, hh]
    exact ⟨.ended, x⟩
  · obtain rfl : senders = _ := t.senders
    rw [hk, hh]
    cases t.queued with
    | cons command rest =>
      exact ⟨.command command, x.modifyQueue named fun _ _ t => ⟨rest, t.senders, t.reading⟩⟩
    | nil =>
      dsimp only
      split
      · exact ⟨.ended, x⟩
      · exact ⟨.nothingYet, x⟩

/-- Nobody will answer the commands of a queue: the answers are dropped one after the
other. -/
theorem Apart.dropAll (x : Apart owner n p K k h) {cs ds : List Command}
    (commands : List.Forall₂ (CommandTwins n p) cs ds) :
    Apart owner n p K ((cs.filterMap Command.ticket?).foldl (fun h t => h.reply t .dropped) k)
      ((ds.filterMap Command.ticket?).foldl (fun h t => h.reply t .dropped) h) := by
  induction commands generalizing k h with
  | nil => exact x
  | cons command rest ih =>
    cases command with
    | resize ticket window => exact ih (x.reply ticket .dropped)
    | close => exact ih x

theorem Apart.abandon (x : Apart owner n p K k h) (named : IsNth n.queues p a b) :
    Apart owner n p K (k.abandon a) (h.abandon b) := by
  unfold Hub.abandon
  obtain ⟨hk, hh⟩ | ⟨_, _, hk, hh, t⟩ := rel_cases (x.own.queues a b named)
  · rw [hk, hh]
    exact x
  · rw [hk, hh]
    have emptied : ∀ y z, QueueTwins n p y z → QueueTwins n p y.abandoned z.abandoned :=
      fun _ _ t => ⟨.nil, t.senders, rfl⟩
    exact (x.modifyQueue named emptied).dropAll t.queued

theorem Apart.put (x : Apart owner n p K k h) (own : n.sessions[s]? = some p) :
    (k.put s).1 = (h.put s).1 ∧ Apart owner n p K (k.put s).2 (h.put s).2 := by
  unfold Hub.put
  obtain ⟨hk, hh⟩ | ⟨y, z, hk, hh, t⟩ := rel_cases (x.own.sessions s own)
  · rw [hk, hh]
    exact ⟨rfl, x⟩
  · have info : y.info = z.info := t.same fun _ _ => rfl
    rw [hk, hh]
    dsimp only
    rw [info]
    exact ⟨x.own.registered _ t.owned, x.register t.owned own⟩

theorem Apart.remove (x : Apart owner n p K k h) (own : owner id = p) :
    (k.remove id).1 = (h.remove id).1 ∧ (∀ s, (h.remove id).1 = some s → n.sessions[s]? = some p) ∧
      Apart owner n p K (k.remove id).2 (h.remove id).2 := by
  have found := x.own.found id
  unfold Hub.remove
  rw [x.own.registered id own]
  cases there : h.find? id with
  | none => exact ⟨rfl, nofun, x⟩
  | some s =>
    exact ⟨rfl, fun s' same => found s' own (there.trans same), x.unregister own⟩

/-! ## Calls -/

/-- The queue that a closing is about to stop the reader of. -/
def Closing.queue? : Closing → Option QueueId
  | signalling q => some q
  | marking | takingControl | releasingTransfer | takingShell | releasingShell
  | releasingTransport => none

/-- How far a closing has come, alone and together with others. -/
inductive StageTwins (n : Names ι) (p : ι) : Closing → Closing → Prop
  | signalling {a b : QueueId} (named : IsNth n.queues p a b) :
    StageTwins n p (.signalling a) (.signalling b)
  | plain {stage : Closing} (unnamed : stage.queue? = none) : StageTwins n p stage stage

/-- A call alone and together with others. -/
inductive CallTwins (owner : String → ι) (n : Names ι) (p : ι) : Call → Call → Prop
  | asked {r : Request} (mine : r.party? owner n.sessions = some p) :
    CallTwins owner n p (.asked r) (.asked r)
  | touching {s : Serial} (mine : n.sessions[s]? = some p) (answer : Answer) :
    CallTwins owner n p (.touching s answer) (.touching s answer)
  | viewing {s : Serial} (mine : n.sessions[s]? = some p) :
    CallTwins owner n p (.viewing s) (.viewing s)
  | beginning {s : Serial} (mine : n.sessions[s]? = some p) (u : Use) :
    CallTwins owner n p (.beginning s u) (.beginning s u)
  | underway {s : Serial} (mine : n.sessions[s]? = some p) (u : Use) :
    CallTwins owner n p (.underway s u) (.underway s u)
  | removing {id : String} (mine : owner id = p) (found absent : Answer) :
    CallTwins owner n p (.removing id (.answer found) (.answer absent))
      (.removing id (.answer found) (.answer absent))
  | closing {s : Serial} (mine : n.sessions[s]? = some p) {stage stage' : Closing}
    (stages : StageTwins n p stage stage') (answer : Answer) :
    CallTwins owner n p (.closing s stage (.answer answer)) (.closing s stage' (.answer answer))
  | sharing {s : Serial} (mine : n.sessions[s]? = some p) (window : Window)
    {evict : Option String} (given : ∀ id ∈ evict, owner id = p) :
    CallTwins owner n p (.sharing s window evict) (.sharing s window evict)
  | sending {s : Serial} (mine : n.sessions[s]? = some p) {a b : QueueId}
    (queue : IsNth n.queues p a b) (window : Window) {evict : Option String}
    (given : ∀ id ∈ evict, owner id = p) :
    CallTwins owner n p (.sending s a window evict) (.sending s b window evict)
  | awaiting {s : Serial} (mine : n.sessions[s]? = some p) {a b : QueueId}
    (queue : IsNth n.queues p a b) {c d : Ticket} (ticket : IsNth n.tickets p c d)
    {evict : Option String} (given : ∀ id ∈ evict, owner id = p) :
    CallTwins owner n p (.awaiting s a c evict) (.awaiting s b d evict)
  | applied {s : Serial} (mine : n.sessions[s]? = some p) {a b : QueueId}
    (queue : IsNth n.queues p a b) : CallTwins owner n p (.applied s a) (.applied s b)
  | takingShell {id : String} (given : owner id = p) {s : Serial}
    (mine : n.sessions[s]? = some p) (window : Window) :
    CallTwins owner n p (.takingShell id s window) (.takingShell id s window)
  | attending {id : String} (given : owner id = p) {s : Serial}
    (mine : n.sessions[s]? = some p) (window : Window) :
    CallTwins owner n p (.attending id s window) (.attending id s window)
  | bridging {id : String} (given : owner id = p) {s : Serial} (mine : n.sessions[s]? = some p)
    {q q' : Option QueueId} (queue : Option.Rel (IsNth n.queues p) q q')
    {task task' : TerminalTask} (tasks : task.anonymous = task'.anonymous) :
    CallTwins owner n p (.bridging id s q task) (.bridging id s q' task')
  | answered (answer : Answer) : CallTwins owner n p (.answered answer) (.answered answer)

theorem CallTwins.answered_of_eq {a b : Answer} (same : a = b) :
    CallTwins owner n p (.answered a) (.answered b) :=
  same ▸ .answered a

/-- More names make no difference to a call. -/
theorem CallTwins.grow {n' : Names ι} {c c' : Call} (t : CallTwins owner n p c c')
    (grown : n.Grows n') : CallTwins owner n' p c c' := by
  have session : ∀ {s : Serial}, n.sessions[s]? = some p → n'.sessions[s]? = some p := by
    intro s mine
    obtain ⟨more, same⟩ := grown.sessions
    rw [← same, List.getElem?_append_left (List.getElem?_eq_some_iff.mp mine).1, mine]
  have queue : ∀ {a b}, IsNth n.queues p a b → IsNth n'.queues p a b :=
    fun named => named.of_prefix grown.queues
  cases t with
  | @asked r mine =>
    refine .asked ?_
    cases r with
    | put s | closeSession s | resizeSession s w | execSession s c | touchSession s
    | takeShell s => exact session mine
    | _ => exact mine
  | touching mine answer => exact .touching (session mine) answer
  | viewing mine => exact .viewing (session mine)
  | beginning mine u => exact .beginning (session mine) u
  | underway mine u => exact .underway (session mine) u
  | removing mine found absent => exact .removing mine found absent
  | closing mine stages answer =>
    refine .closing (session mine) ?_ answer
    cases stages with
    | signalling named => exact .signalling (queue named)
    | plain unnamed => exact .plain unnamed
  | sharing mine window given => exact .sharing (session mine) window given
  | sending mine named window given => exact .sending (session mine) (queue named) window given
  | awaiting mine named ticket given =>
    exact .awaiting (session mine) (queue named) (ticket.of_prefix grown.tickets) given
  | applied mine named => exact .applied (session mine) (queue named)
  | takingShell given mine window => exact .takingShell given (session mine) window
  | attending given mine window => exact .attending given (session mine) window
  | bridging given mine named tasks =>
    exact .bridging given (session mine) (rel_imp (fun _ _ => queue) named) tasks
  | answered answer => exact .answered answer

/-- Twins have the same answer. -/
theorem CallTwins.answer? {c c' : Call} (t : CallTwins owner n p c c') :
    c.answer? = c'.answer? := by
  cases t <;> rfl

/-- Twins run the same terminal. -/
theorem CallTwins.terminal? {c c' : Call} (t : CallTwins owner n p c c') :
    c.terminal?.map TerminalTask.anonymous = c'.terminal?.map TerminalTask.anonymous := by
  cases t with
  | bridging given mine named tasks => exact congrArg some tasks
  | _ => rfl

/-! ## What a step leads to -/

/-- A call has come equally far in the party's share and in the hub. -/
def Abreast (owner : String → ι) (n : Names ι) (p : ι) (K : ι → Hub) (r r' : Hub × Call) : Prop :=
  ∃ n', n.Grows n' ∧ n'.sessions = n.sessions ∧ Apart owner n' p K r.1 r'.1 ∧
    CallTwins owner n' p r.2 r'.2

/-- One of two steps can be taken exactly if the other can, and they lead equally far. -/
abbrev Lockstep (owner : String → ι) (n : Names ι) (p : ι) (K : ι → Hub) :
    Option (Hub × Call) → Option (Hub × Call) → Prop :=
  Option.Rel (Abreast owner n p K)

variable {c c' : Call} {e : Event} {r r' : Hub × Call} {x y : Option (Hub × Call)}

theorem Abreast.of_apart (x : Apart owner n p K k h) (t : CallTwins owner n p c c') :
    Abreast owner n p K (k, c) (h, c') :=
  ⟨n, .refl n, rfl, x, t⟩

theorem Lockstep.onGo (step : Abreast owner n p K r r') :
    Lockstep owner n p K (Call.onGo e r) (Call.onGo e r') := by
  unfold Call.onGo
  split
  · exact .some step
  · exact .none

theorem Lockstep.ifGo (step : Lockstep owner n p K x y) :
    Lockstep owner n p K (if e = .go then x else none) (if e = .go then y else none) := by
  split
  · exact step
  · exact .none

/-! ### Requests -/

theorem Abreast.lookUp (x : Apart owner n p K k h) (given : owner id = p) {found : Serial → Call}
    (twins : ∀ s, n.sessions[s]? = some p → CallTwins owner n p (found s) (found s)) :
    Abreast owner n p K (Call.lookUp k id found) (Call.lookUp h id found) := by
  have mine := x.own.found id
  unfold Call.lookUp
  rw [x.own.registered id given]
  cases there : h.find? id with
  | none => exact .of_apart x (.answered _)
  | some s => exact .of_apart x (twins s (mine s given there))

theorem Abreast.lookUpFor (x : Apart owner n p K k h) (given : owner id = p) (w : Window)
    {found : Serial → Call}
    (twins : ∀ s, n.sessions[s]? = some p → CallTwins owner n p (found s) (found s)) :
    Abreast owner n p K (Call.lookUpFor k id w found) (Call.lookUpFor h id w found) := by
  unfold Call.lookUpFor
  split
  · exact .lookUp x given twins
  · exact .of_apart x (.answered _)

theorem Abreast.start (g : Gateway) (x : Apart owner n p K k h) {r : Request}
    (mine : r.party? owner n.sessions = some p) :
    Abreast owner n p K (Call.start g k r) (Call.start g h r) := by
  cases r with
  | put s =>
    obtain ⟨same, left⟩ := x.put mine
    exact .of_apart left (.answered_of_eq (congrArg Answer.session same))
  | get id =>
    have same := x.own.registered id (Option.some.inj mine)
    exact .of_apart x (.answered_of_eq (congrArg Answer.session same))
  | delete id => exact .of_apart x (.removing (Option.some.inj mine) _ _)
  | touch id =>
    have known := x.own.found id
    have given : owner id = p := Option.some.inj mine
    unfold Call.start
    dsimp only
    rw [x.own.registered id given]
    cases there : h.find? id with
    | none => exact .of_apart x (.answered _)
    | some s => exact .of_apart x (.touching (known s given there) _)
  | disconnect id => exact .of_apart x (.removing (Option.some.inj mine) _ _)
  | keepAlive id => exact .lookUp x (Option.some.inj mine) fun s own => .touching own _
  | view id => exact .lookUp x (Option.some.inj mine) fun s own => .viewing own
  | exec id command => exact .lookUp x (Option.some.inj mine) fun s own => .beginning own _
  | transfer id => exact .lookUp x (Option.some.inj mine) fun s own => .beginning own _
  | resize id w =>
    have given : owner id = p := Option.some.inj mine
    exact .lookUpFor x given w fun s own =>
      .sharing own w fun id' same => Option.mem_some.mp same ▸ given
  | terminal id w =>
    have given : owner id = p := Option.some.inj mine
    exact .lookUpFor x given w fun s own => .takingShell given own w
  | closeSession s => exact .of_apart x (.closing mine (.plain rfl) _)
  | resizeSession s w =>
    exact .of_apart x (.sharing mine w fun id none => absurd none (Option.not_mem_none id))
  | execSession s command => exact .of_apart x (.beginning mine _)
  | touchSession s => exact .of_apart x (.touching mine _)
  | takeShell s =>
    have same : (k.takeShell s).1 = (h.takeShell s).1 := x.own.any mine fun _ _ => rfl
    exact .of_apart (x.takeShell mine) (.answered_of_eq (congrArg Answer.flag same))
  | sweep maxIdle => cases mine
  | create client target login term => cases mine
  | attachControl s => cases mine

/-! ### Using and closing a session -/

theorem Abreast.begin (x : Apart owner n p K k h) (mine : n.sessions[s]? = some p) (u : Use) :
    Abreast owner n p K (Call.begin k s u) (Call.begin h s u) := by
  have touched := x.touch mine
  unfold Call.begin
  dsimp only
  rw [touched.own.any mine fun _ _ => rfl]
  split
  · exact .of_apart touched (.answered _)
  · exact .of_apart touched (.underway mine u)

theorem Abreast.view (x : Apart owner n p K k h) (mine : n.sessions[s]? = some p) :
    Abreast owner n p K
      (k, .answered (match k.sessions.get? s with
        | some session => .view session.view
        | none => .done))
      (h, .answered (match h.sessions.get? s with
        | some session => .view session.view
        | none => .done)) := by
  obtain ⟨hk, hh⟩ | ⟨y, z, hk, hh, t⟩ := rel_cases (x.own.sessions s mine)
  · rw [hk, hh]
    exact .of_apart x (.answered _)
  · rw [hk, hh]
    -- a view tells that there is a control queue, and not what it is called
    obtain ⟨control, rfl, named⟩ := t.exists_control
    have attached : control.isSome = z.control.isSome := by
      obtain ⟨hk, hh⟩ | ⟨_, _, hk, hh, -⟩ := rel_cases named
      · rw [hk, hh]
      · rw [hk, hh]
        rfl
    have same : Session.view { z with control } = z.view :=
      congrArg (fun attached => { z.view with shellAttached := attached }) attached
    exact .of_apart x (.answered_of_eq (congrArg Answer.view same))

theorem Lockstep.closing (x : Apart owner n p K k h) (mine : n.sessions[s]? = some p)
    {stage stage' : Closing} (stages : StageTwins n p stage stage') (answer : Answer) :
    Lockstep owner n p K (Call.stepClosing k s (.answer answer) e stage)
      (Call.stepClosing h s (.answer answer) e stage') := by
  cases stages with
  | signalling named =>
    exact .ifGo (.some (.of_apart ((x.trySend named .close).dropSender named)
      (.closing mine (.plain rfl) answer)))
  | plain unnamed =>
    cases stage with
    | signalling q => cases unnamed
    | marking =>
      refine .ifGo (.some (.of_apart (x.markClosed mine) ?_))
      rw [x.own.any mine fun _ _ => rfl]
      split
      · exact .answered answer
      · exact .closing mine (.plain rfl) answer
    | takingControl =>
      refine .ifGo (.some (.of_apart (x.takeControl mine) ?_))
      obtain ⟨hk, hh⟩ | ⟨_, _, hk, hh, named⟩ := rel_cases (x.own.control mine)
      · rw [hk, hh]
        exact .closing mine (.plain rfl) answer
      · rw [hk, hh]
        exact .closing mine (.signalling named) answer
    | takingShell =>
      refine .ifGo (.some (.of_apart (x.takeShell mine) ?_))
      rw [x.own.any mine fun _ _ => rfl]
      split <;> exact .closing mine (.plain rfl) answer
    | releasingTransfer =>
      unfold Call.stepClosing
      dsimp only
      rw [x.own.any mine fun _ _ => rfl]
      split
      · cases e with
        | released failed =>
          exact .some (.of_apart (x.release mine _ failed) (.closing mine (.plain rfl) answer))
        | _ => exact .none
      · exact .ifGo (.some (.of_apart x (.closing mine (.plain rfl) answer)))
    | releasingShell =>
      cases e with
      | released failed =>
        exact .some (.of_apart (x.release mine _ failed) (.closing mine (.plain rfl) answer))
      | _ => exact .none
    | releasingTransport =>
      cases e with
      | released failed => exact .some (.of_apart (x.release mine _ failed) (.answered answer))
      | _ => exact .none

/-- To give an id up is to take what is registered there out and to close it. -/
theorem Lockstep.removing (x : Apart owner n p K k h) (given : owner id = p)
    (found absent : Answer) :
    Lockstep owner n p K
      (Call.onGo e ((k.remove id).2,
        .closeRemoved (k.remove id).1 (.answer found) (.answer absent)))
      (Call.onGo e ((h.remove id).2,
        .closeRemoved (h.remove id).1 (.answer found) (.answer absent))) := by
  obtain ⟨same, mine, left⟩ := x.remove given
  rw [same]
  refine .onGo (.of_apart left ?_)
  cases there : (h.remove id).1 with
  | none => exact .answered absent
  | some s => exact .closing (mine s there) (.plain rfl) found

/-! ### Windows -/

theorem Abreast.resizeFailed (x : Apart owner n p K k h) (queue : IsNth n.queues p a b)
    {evict : Option String} (given : ∀ id ∈ evict, owner id = p) (why : Failure) :
    Abreast owner n p K (Call.resizeFailed k a evict why) (Call.resizeFailed h b evict why) := by
  have left := x.dropSender queue
  unfold Call.resizeFailed
  cases evict with
  | none => exact .of_apart left (.answered _)
  | some id =>
    dsimp only
    split
    · exact .of_apart left (.removing (given id rfl) _ _)
    · exact .of_apart left (.answered _)

theorem Lockstep.send (x : Apart owner n p K k h) (mine : n.sessions[s]? = some p)
    (queue : IsNth n.queues p a b) (w : Window) {evict : Option String}
    (given : ∀ id ∈ evict, owner id = p) :
    Lockstep owner n p K (Call.send k s a w evict) (Call.send h s b w evict) := by
  unfold Call.send
  obtain ⟨hk, hh⟩ | ⟨y, z, hk, hh, t⟩ := rel_cases (x.own.queues a b queue)
  · rw [hk, hh]
    exact .some (.resizeFailed x queue given _)
  · rw [hk, hh]
    dsimp only
    rw [t.reading, t.hasRoom]
    split
    · exact .some (.resizeFailed x queue given _)
    · split
      · have grown := n.grows_withTicket p
        have named := queue.of_prefix grown.queues
        have ticket := x.own.isNth_newTicket
        have mine : (n.withTicket p).sessions[s]? = some p := mine
        exact .some ⟨n.withTicket p, grown, rfl, x.newTicket.trySend named (.resize ticket w),
          .awaiting mine named ticket given⟩
      · exact .none

theorem Lockstep.await (x : Apart owner n p K k h) (mine : n.sessions[s]? = some p)
    (queue : IsNth n.queues p a b) {c d : Ticket} (ticket : IsNth n.tickets p c d)
    {evict : Option String} (given : ∀ id ∈ evict, owner id = p) :
    Lockstep owner n p K (Call.await k s a c evict) (Call.await h s b d evict) := by
  unfold Call.await
  rw [x.own.replies c d ticket]
  split
  · exact .some (.of_apart x (.applied mine queue))
  · exact .some (.resizeFailed x queue given _)
  · exact .some (.resizeFailed x queue given _)
  · exact .none
  · exact .none

theorem Abreast.share (x : Apart owner n p K k h) (mine : n.sessions[s]? = some p) (w : Window)
    {evict : Option String} (given : ∀ id ∈ evict, owner id = p) :
    Abreast owner n p K
      (match k.shareControl s with
        | (some q, k) => (k, .sending s q w evict)
        | (none, k) => (k, .answered (.failed noTerminal)))
      (match h.shareControl s with
        | (some q, h) => (h, .sending s q w evict)
        | (none, h) => (h, .answered (.failed noTerminal))) := by
  obtain ⟨queue, left⟩ := x.shareControl mine
  generalize k.shareControl s = alone at *
  generalize h.shareControl s = together at *
  obtain ⟨a?, k'⟩ := alone
  obtain ⟨b?, h'⟩ := together
  cases queue with
  | some named => exact .of_apart left (.sending mine named w given)
  | none => exact .of_apart left (.answered _)

/-! ### Terminals -/

theorem Abreast.takeShellFor (x : Apart owner n p K k h) (given : owner id = p)
    (mine : n.sessions[s]? = some p) (w : Window) :
    Abreast owner n p K (Call.takeShellFor k id s w) (Call.takeShellFor h id s w) := by
  refine .of_apart (x.takeShell mine) ?_
  rw [x.own.any mine fun _ _ => rfl]
  split
  · exact .attending given mine w
  · exact .answered _

theorem Abreast.attend (x : Apart owner n p K k h) (given : owner id = p)
    (mine : n.sessions[s]? = some p) (w : Window) :
    Abreast owner n p K (Call.attend k id s w) (Call.attend h id s w) := by
  unfold Call.attend
  rw [x.own.look mine fun _ _ => rfl]
  exact .of_apart (x.touch mine) (.bridging given mine .none rfl)

/-- A terminal that has ended abandons its queue and gives its session up. -/
theorem Abreast.bridged (x : Apart owner n p K k h) (given : owner id = p)
    (mine : n.sessions[s]? = some p) {q q' : Option QueueId}
    (queue : Option.Rel (IsNth n.queues p) q q') {task task' : TerminalTask}
    (tasks : task.anonymous = task'.anonymous) :
    Abreast owner n p K (Call.bridged k id s q task) (Call.bridged h id s q' task') := by
  have ends : task.end? = task'.end? := by
    rw [← task.anonymous_end?, tasks, task'.anonymous_end?]
  unfold Call.bridged
  rw [ends]
  split
  · exact .of_apart x (.bridging given mine queue tasks)
  · cases queue with
    | some named => exact .of_apart (x.abandon named) (.removing given _ _)
    | none => exact .of_apart x (.removing given _ _)

/-- Two terminals take an event, one with its queue and its tickets under the party's own
names. -/
theorem Lockstep.bridged {task task' : TerminalTask} {e e' : Terminal.Event}
    (tasks : task.anonymous = task'.anonymous) (events : e.anonymous = e'.anonymous)
    {f f' : TerminalTask → Hub × Call}
    (after : ∀ t t', t.anonymous = t'.anonymous → Abreast owner n p K (f t) (f' t')) :
    Lockstep owner n p K (task.step e >>= fun t => some (f t))
      (task'.step e' >>= fun t => some (f' t)) := by
  have same := TerminalTask.step_of_anonymous_eq tasks events
  cases alone : task.step e with
  | none =>
    rw [alone] at same
    rw [Option.map_eq_none_iff.mp same.symm]
    exact .none
  | some t =>
    rw [alone] at same
    obtain ⟨t', together, alike⟩ := Option.map_eq_some_iff.mp same.symm
    rw [together]
    exact .some (after t t' alike.symm)

theorem Lockstep.terminal (x : Apart owner n p K k h) (given : owner id = p)
    (mine : n.sessions[s]? = some p) {q q' : Option QueueId}
    (queue : Option.Rel (IsNth n.queues p) q q') {task task' : TerminalTask}
    (tasks : task.anonymous = task'.anonymous) (e : Event) :
    Lockstep owner n p K (Call.stepTerminal k id s q task e)
      (Call.stepTerminal h id s q' task' e) := by
  cases e with
  | terminal e =>
    cases e with
    | attached =>
      have ⟨fresh, left⟩ := x.attach mine
      have grown := n.grows_withQueue p
      have mine : (n.withQueue p).sessions[s]? = some p := mine
      refine .bridged tasks rfl fun t t' alike => ?_
      obtain ⟨n', more, same, rest⟩ := Abreast.bridged left given mine (.some fresh) alike
      exact ⟨n', grown.trans more, same, rest⟩
    | input chunk fault =>
      exact .bridged tasks rfl fun t t' alike =>
        .bridged (x.touch mine) given mine queue alike
    | command c fault => exact .none
    | queueEnd => exact .none
    | _ => exact .bridged tasks rfl fun t t' alike => .bridged x given mine queue alike
  | control fault =>
    cases queue with
    | none => exact .none
    | @some a b named =>
      have ⟨front, left⟩ := x.receive named
      simp only [Call.stepTerminal, Option.bind_eq_bind, Option.bind_some]
      generalize k.receive a = alone at *
      generalize h.receive b = together at *
      obtain ⟨ra, k'⟩ := alone
      obtain ⟨rb, h'⟩ := together
      cases front with
      | nothingYet => exact .none
      | ended =>
        exact .bridged tasks rfl fun t t' alike => .bridged left given mine (.some named) alike
      | command command =>
        cases command with
        | close =>
          exact .bridged tasks rfl fun t t' alike => .bridged left given mine (.some named) alike
        | @resize c d ticket window =>
          -- the one event on which the two names are different
          have events : (Terminal.Event.command (.resize c window) fault).anonymous =
              (Terminal.Event.command (.resize d window) fault).anonymous := rfl
          refine .bridged tasks events fun t t' alike => ?_
          rw [TerminalTask.lastResult_eq alike]
          exact .bridged (left.reply ticket _) given mine (.some named) alike
  | _ => exact .none

/-! ## Every call -/

/-- **A party's call does the same in the party's share of the hub as in the hub**, and
takes nothing from the others and leaves nothing with them. -/
theorem CallTwins.step (g : Gateway) (e : Event) (t : CallTwins owner n p c c')
    (x : Apart owner n p K k h) : Lockstep owner n p K (c.step g e k) (c'.step g e h) := by
  cases t with
  | asked mine => exact .onGo (.start g x mine)
  | touching mine answer => exact .onGo (.of_apart (x.touch mine) (.answered answer))
  | viewing mine => exact .onGo (.view x mine)
  | beginning mine u => exact .onGo (.begin x mine u)
  | underway mine u =>
    cases u with
    | exec command =>
      cases e with
      | ran result => cases result <;> exact .some (.of_apart x (.answered _))
      | _ => exact .none
    | transfer =>
      cases e with
      | transferred result => cases result <;> exact .some (.of_apart x (.answered _))
      | _ => exact .none
  | removing given found absent => exact .removing x given found absent
  | closing mine stages answer => exact .closing x mine stages answer
  | sharing mine w given => exact .onGo (.share x mine w given)
  | sending mine queue w given => exact .ifGo (.send x mine queue w given)
  | awaiting mine queue ticket given => exact .ifGo (.await x mine queue ticket given)
  | applied mine queue =>
    exact .onGo (.of_apart ((x.touch mine).dropSender queue) (.answered _))
  | takingShell given mine w => exact .onGo (.takeShellFor x given mine w)
  | attending given mine w => exact .onGo (.attend x given mine w)
  | bridging given mine queue tasks => exact .terminal x given mine queue tasks e
  | answered answer => exact .none

end ShellGateway.Session
