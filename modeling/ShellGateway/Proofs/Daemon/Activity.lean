import Mathlib.Data.List.Induction
import Mathlib.Data.List.Infix
import ShellGateway.Daemon.Service

/-!
# One activity per channel

From when a channel is opened until it is closed, at most one of a shell, a
command and file transfer is started on it, whatever is requested on however many
channels, and whether or not shells can be started. What a channel holds tells
how far it has come (`Channel.Sound`).

`Channel.Step` lists what can become of an open channel, and `Effect` what a
request can do to a connection in terms of it. Both halves are proved from these
lists: a sound channel stays sound, and of the one start that a channel admits
(`Connection.budget`), each request leaves as much as it does not use.
-/

namespace ShellGateway.Daemon

/-- An answer says that an activity began: something was started, or the shell
that was to be started could not be, which closes the channel. -/
def begins (replies : List Reply) (launch : Option Launch) : Bool :=
  launch.isSome || decide (.close ∈ replies)

/-! ## What becomes of a channel -/

namespace Channel

/-- A change to an open channel, and whether an activity began with it. -/
inductive Step (c : Channel) : Bool → Channel → Prop where
  | configured (terminal : Terminal) (admits : c.phase.acceptsPty = true) :
      Step c false { c with phase := .ptyConfigured, terminal := some terminal }
  | resized (terminal : Terminal) (had : c.terminal.isSome = true) :
      Step c false { c with terminal := some terminal }
  | shellChanged (shell : Shell) (had : c.shell.isSome = true) :
      Step c false { c with shell := some shell }
  | variableSet (environment : Dictionary String String) :
      Step c false { c with environment }
  | shellStarted (shell : Shell) (admits : c.phase.acceptsPty = true) (held : c.held = true) :
      Step c true { c with phase := .shellAttached, held := false, shell := some shell }
  | shellFailed (admits : c.phase.acceptsPty = true) (held : c.held = true) :
      Step c true { c with phase := .closed, held := false }
  | taskStarted (a : Activity) (task : Task) (other : a ≠ .shell)
      (admits : c.phase.acceptsPty = true) (held : c.held = true) :
      Step c true { c with phase := .running a, held := false, tasks := c.tasks ++ [task] }

/-- The stream is handed out where the phase admits it, once. -/
theorem start?_eq_some {c c' : Channel} {a : Activity} (h : c.start? a = some c') :
    c.phase.acceptsPty = true ∧ c.held = true ∧
      c' = { c with phase := .running a, held := false } := by
  unfold start? Phase.begin? at h
  by_cases hp : c.phase.acceptsPty = true
  · rw [if_pos hp] at h
    obtain ⟨hh, hc'⟩ := Option.ite_none_right_eq_some.mp h
    exact ⟨hp, hh, (Option.some.inj hc').symm⟩
  · rw [if_neg hp] at h
    cases h

end Channel

/-- What a request on a channel can do to the connection. -/
inductive Effect (c : Connection) (id : ChannelId) : Request → Answer → Prop where
  /-- Nothing. -/
  | nothing (r : Request) (replies : List Reply) (quiet : begins replies none = false) :
      Effect c id r { connection := c, replies }
  | opened : Effect c id .openChannel { connection := c.put id {} }
  | closed : Effect c id .close { connection := { c with channels := c.channels.erase id } }
  | changed (r : Request) {channel channel' : Channel} {replies : List Reply}
      {launch : Option Launch} (found : c.channels.get? id = some channel)
      (step : channel.Step (begins replies launch) channel') :
      Effect c id r { connection := c.put id channel', replies, launch }

namespace Connection

variable {o : ChannelOptions} {c : Connection} {id : ChannelId}

theorem effect_refuse (r : Request) : Effect c id r c.refuse :=
  .nothing r _ (by decide)

theorem effect_configure (r : Request) (term : String) (window : Window) :
    Effect c id r (c.configure id term window) := by
  unfold configure
  cases hc : c.channels.get? id with
  | none => exact effect_refuse r
  | some channel =>
    dsimp only
    by_cases hp : channel.phase.acceptsPty = true
    · rw [if_pos hp]
      exact .changed r hc (.configured _ hp)
    · rw [if_neg hp]
      exact effect_refuse r

theorem effect_changeWindow (r : Request) (window : Window) :
    Effect c id r { connection := c.changeWindow id window } := by
  have unchanged : Effect c id r { connection := c } := .nothing r [] rfl
  unfold changeWindow
  cases hc : c.channels.get? id with
  | none => exact unchanged
  | some channel =>
    dsimp only
    cases hs : channel.shell with
    | some shell => exact .changed r hc (.shellChanged _ (by rw [hs]; rfl))
    | none =>
      cases ht : channel.terminal with
      | some terminal =>
        have step : channel.Step false { channel with terminal := some { terminal with window } } :=
          .resized _ (by rw [ht]; rfl)
        rw [hs] at step
        exact .changed r hc step
      | none => exact unchanged

theorem effect_setVariable (r : Request) (name value : String) :
    Effect c id r (c.setVariable o id name value) := by
  unfold setVariable
  cases o.envPassthrough with
  | false => exact effect_refuse r
  | true =>
    cases hc : c.channels.get? id with
    | none => exact effect_refuse r
    | some channel => exact .changed r hc (.variableSet _)

theorem effect_startShell (r : Request)
    (attach : Programs.Program → Terminal → Except Failure Unit) :
    Effect c id r (c.startShell o attach id) := by
  unfold startShell
  cases hc : c.channels.get? id with
  | none => exact effect_refuse r
  | some channel =>
    dsimp only
    cases hs : channel.start? .shell with
    | none => exact effect_refuse r
    | some started =>
      obtain ⟨hp, hh, rfl⟩ := Channel.start?_eq_some hs
      dsimp only
      cases attach _ _ with
      | ok => exact .changed r hc (.shellStarted _ hp hh)
      | error why => exact .changed r hc (.shellFailed hp hh)

/-- A task is started on a channel that admits it. -/
theorem effect_startTask (r : Request) {channel : Channel} (hc : c.channels.get? id = some channel)
    {a : Activity} (other : a ≠ .shell) (task : Task) (launch : Launch) :
    Effect c id r (match channel.start? a with
      | none => c.refuse
      | some started =>
        { connection := c.put id { started with tasks := started.tasks ++ [task] }
          replies := [.success]
          launch := some launch }) := by
  cases hs : channel.start? a with
  | none => exact effect_refuse r
  | some started =>
    obtain ⟨hp, hh, rfl⟩ := Channel.start?_eq_some hs
    exact .changed r hc (.taskStarted a task other hp hh)

theorem effect_startExec (r : Request) (command : Bytes) :
    Effect c id r (c.startExec o id command) := by
  unfold startExec
  cases hc : c.channels.get? id with
  | none => exact effect_refuse r
  | some channel => exact effect_startTask r hc (by decide) _ _

theorem effect_startSubsystem (r : Request) (name : String) :
    Effect c id r (c.startSubsystem o id name) := by
  unfold startSubsystem
  by_cases hn : name = sftpSubsystem
  · rw [if_pos hn]
    cases hc : c.channels.get? id with
    | none => exact effect_refuse r
    | some channel => exact effect_startTask r hc (by decide) _ _
  · rw [if_neg hn]
    exact effect_refuse r

/-- **Every request has one of the listed effects.** -/
theorem effect_handle (attach : Programs.Program → Terminal → Except Failure Unit) (r : Request) :
    Effect c id r (c.handle o attach id r) := by
  cases r with
  | openChannel => exact .opened
  | pty term window => exact effect_configure _ term window
  | windowChange window => exact effect_changeWindow _ window
  | setVariable name value => exact effect_setVariable _ name value
  | shell => exact effect_startShell _ attach
  | exec command => exact effect_startExec _ command
  | subsystem name => exact effect_startSubsystem _ name
  | eof => exact .nothing _ [] rfl
  | close => exact .closed

/-- Between requests, only shells change. -/
theorem changeShell_cases (c : Connection) (id : ChannelId) (f : Shell → Shell) :
    c.changeShell id f = c ∨ ∃ channel channel', c.channels.get? id = some channel ∧
      channel.Step false channel' ∧ c.changeShell id f = c.put id channel' := by
  unfold changeShell
  cases hc : c.channels.get? id with
  | none => exact .inl rfl
  | some channel =>
    dsimp only
    cases hs : channel.shell with
    | none => exact .inl rfl
    | some shell => exact .inr ⟨channel, _, rfl, .shellChanged _ (by rw [hs]; rfl), rfl⟩

end Connection

/-! ## What a channel holds -/

/-- What a channel holds goes by its phase. -/
structure Channel.Sound (c : Channel) : Prop where
  held_iff : c.held = true ↔ c.phase = .awaitingRequest ∨ c.phase = .ptyConfigured
  shell_iff : c.shell.isSome = true ↔ c.phase = .shellAttached
  tasks_length : c.tasks.length = if c.phase = .execRunning ∨ c.phase = .sftpServing then 1 else 0
  no_terminal : c.phase = .awaitingRequest → c.terminal = none
  terminal : c.phase = .ptyConfigured → c.terminal.isSome = true

theorem Phase.acceptsPty_iff (p : Phase) :
    p.acceptsPty = true ↔ p = .awaitingRequest ∨ p = .ptyConfigured := by
  cases p <;> decide

namespace Channel

/-- A channel that was just opened. -/
theorem sound_new : Sound {} where
  held_iff := by decide
  shell_iff := by decide
  tasks_length := rfl
  no_terminal _ := rfl
  terminal h := by cases h

namespace Sound

variable {c c' : Channel}

theorem held_iff_acceptsPty (h : c.Sound) : c.held = true ↔ c.phase.acceptsPty = true :=
  h.held_iff.trans c.phase.acceptsPty_iff.symm

/-- Where an activity may still be started, nothing runs yet. -/
theorem idle (h : c.Sound) (admits : c.phase.acceptsPty = true) :
    c.shell = none ∧ c.tasks = [] := by
  -- neither phase that admits an activity is one in which something runs
  have hlen := h.tasks_length
  have hshell := h.shell_iff
  rcases (Phase.acceptsPty_iff _).mp admits with hp | hp
  · rw [hp] at hlen hshell
    exact ⟨by simpa using hshell, List.eq_nil_of_length_eq_zero hlen⟩
  · rw [hp] at hlen hshell
    exact ⟨by simpa using hshell, List.eq_nil_of_length_eq_zero hlen⟩

/-- **A sound channel stays sound.** -/
theorem step {begun : Bool} (h : c.Sound) (hs : c.Step begun c') : c'.Sound := by
  cases hs with
  | configured terminal admits =>
    obtain ⟨hshell, htasks⟩ := h.idle admits
    have held : c.held = true := h.held_iff_acceptsPty.mpr admits
    exact ⟨by simp [held], by simp [hshell], by simp [htasks], by simp, by simp⟩
  | resized terminal had =>
    refine ⟨h.held_iff, h.shell_iff, h.tasks_length, fun hp => ?_, fun _ => rfl⟩
    rw [h.no_terminal hp] at had
    cases had
  | shellChanged shell had =>
    have attached : c.phase = .shellAttached := h.shell_iff.mp had
    exact ⟨h.held_iff, by simp [attached], h.tasks_length, h.no_terminal, h.terminal⟩
  | variableSet environment =>
    exact ⟨h.held_iff, h.shell_iff, h.tasks_length, h.no_terminal, h.terminal⟩
  | shellStarted shell admits held =>
    obtain ⟨-, htasks⟩ := h.idle admits
    exact ⟨by simp, by simp, by simp [htasks], by simp, by simp⟩
  | shellFailed admits held =>
    obtain ⟨hshell, htasks⟩ := h.idle admits
    exact ⟨by simp, by simp [hshell], by simp [htasks], by simp, by simp⟩
  | taskStarted a task other admits held =>
    obtain ⟨hshell, htasks⟩ := h.idle admits
    cases a with
    | shell => exact absurd rfl other
    | exec | sftp =>
      exact ⟨by simp [Phase.running], by simp [Phase.running, hshell],
        by simp [Phase.running, htasks], by simp [Phase.running], by simp [Phase.running]⟩

/-- A sound channel hands out its stream whenever its phase admits the activity. -/
theorem start?_of_begin? {a : Activity} {p : Phase} (h : c.Sound) (hp : c.phase.begin? a = some p) :
    c.start? a = some { c with phase := p, held := false } := by
  obtain ⟨admits, -⟩ := Option.ite_none_right_eq_some.mp hp
  have held : c.held = true := h.held_iff_acceptsPty.mpr admits
  unfold start?
  rw [hp]
  exact if_pos held

end Sound

end Channel

/-! ## How many activities a channel admits -/

/-- How many activities may still begin on a channel in this phase. -/
def Phase.budget (p : Phase) : Nat :=
  if p.acceptsPty then 1 else 0

/-- How many activities may still begin under an id, unless it is opened anew. -/
def Connection.budget (c : Connection) (id : ChannelId) : Nat :=
  match c.channels.get? id with
  | some channel => channel.phase.budget
  | none => 0

theorem Phase.budget_le (p : Phase) : p.budget ≤ 1 := by
  cases p <;> decide

/-- **What begins on a channel is taken from its budget.** -/
theorem Channel.Step.budget {c c' : Channel} {begun : Bool} (hs : c.Step begun c') :
    begun.toNat + c'.phase.budget ≤ c.phase.budget := by
  have admitted : c.phase.acceptsPty = true → c.phase.budget = 1 := fun h => if_pos h
  cases hs with
  | configured terminal admits =>
    rw [admitted admits]
    exact Nat.le_refl 1
  | resized | shellChanged | variableSet => exact Nat.le_of_eq (Nat.zero_add _)
  | shellStarted shell admits held =>
    rw [admitted admits]
    exact Nat.le_refl 1
  | shellFailed admits held =>
    rw [admitted admits]
    exact Nat.le_refl 1
  | taskStarted a task other admits held =>
    rw [admitted admits]
    show 1 + (Phase.running a).budget ≤ 1
    cases a <;> decide

namespace Connection

variable {c : Connection} {id id' : ChannelId}

theorem budget_le (c : Connection) (id : ChannelId) : c.budget id ≤ 1 := by
  unfold budget
  cases c.channels.get? id with
  | none => exact Nat.zero_le 1
  | some channel => exact channel.phase.budget_le

theorem budget_of_get? {channel : Channel} (h : c.channels.get? id = some channel) :
    c.budget id = channel.phase.budget := by
  unfold budget
  rw [h]

theorem get?_put (c : Connection) (id id' : ChannelId) (channel : Channel) :
    (c.put id channel).channels.get? id' =
      if id' = id then some channel else c.channels.get? id' :=
  Dictionary.get?_insert _ _ _ _

theorem budget_put_self (c : Connection) (id : ChannelId) (channel : Channel) :
    (c.put id channel).budget id = channel.phase.budget :=
  budget_of_get? (by rw [get?_put, if_pos rfl])

theorem budget_put_other (channel : Channel) (h : id' ≠ id) :
    (c.put id channel).budget id' = c.budget id' := by
  unfold budget
  rw [get?_put, if_neg h]

end Connection

/-- A request that does not open its channel spends no more than there is. -/
theorem Effect.budget {c : Connection} {id : ChannelId} {r : Request} {a : Answer}
    (h : Effect c id r a) (hr : r ≠ .openChannel) :
    (begins a.replies a.launch).toNat + a.connection.budget id ≤ c.budget id := by
  cases h with
  | nothing r replies quiet =>
    rw [quiet]
    exact Nat.le_of_eq (Nat.zero_add _)
  | opened => exact absurd rfl hr
  | closed =>
    have gone : ({ c with channels := c.channels.erase id } : Connection).budget id = 0 := by
      unfold Connection.budget
      rw [Dictionary.get?_erase, if_pos rfl]
    rw [gone]
    exact Nat.zero_le _
  | changed r found step =>
    rw [Connection.budget_put_self, Connection.budget_of_get? found]
    exact step.budget

/-- A request on another channel leaves the budget alone. -/
theorem Effect.budget_other {c : Connection} {id id' : ChannelId} {r : Request} {a : Answer}
    (h : Effect c id r a) (hid : id' ≠ id) : a.connection.budget id' = c.budget id' := by
  cases h with
  | nothing => rfl
  | opened => exact Connection.budget_put_other _ hid
  | closed =>
    unfold Connection.budget
    rw [Dictionary.get?_erase, if_neg hid]
  | changed r found step => exact Connection.budget_put_other _ hid

/-! ## Along a connection -/

namespace Answered

/-- A request that opened a channel. -/
def Opens (x : Answered) (id : ChannelId) : Prop :=
  x.id = id ∧ x.request = .openChannel

/-- A request with which an activity began on a channel. -/
def starts (x : Answered) (id : ChannelId) : Bool :=
  x.id = id && begins x.replies x.launch

end Answered

namespace Service

variable {o : ChannelOptions} {s t : Service} {e : Occurrence}

/-- An event answers a request, or changes a shell. -/
theorem step_cases (h : s.step o e = some t) :
    (∃ x : Answered, t.answered = s.answered ++ [x] ∧
      Effect s.connection x.id x.request ⟨t.connection, x.replies, x.launch⟩) ∨
    t.answered = s.answered ∧
      ∃ id f, t.connection = s.connection.changeShell id f := by
  cases e with
  | request id r attached =>
    obtain ⟨-, ht⟩ := Option.ite_none_left_eq_some.mp h
    obtain rfl := Option.some.inj ht
    exact .inl ⟨_, rfl, Connection.effect_handle (fun _ _ => attached) r⟩
  | resize id =>
    obtain rfl := Option.some.inj h
    exact .inr ⟨rfl, id, Shell.consume, rfl⟩
  | stop id =>
    obtain rfl := Option.some.inj h
    exact .inr ⟨rfl, id, Shell.stop, rfl⟩

/-- The last event of a run happens where the rest of it leads. -/
theorem run_concat (o : ChannelOptions) (s : Service) (events : List Occurrence) (e : Occurrence) :
    s.run o (events ++ [e]) = s.run o events >>= fun t => t.step o e := by
  rw [run_append]
  refine congrArg _ (funext fun t => ?_)
  show t.step o e >>= (some ·) = t.step o e
  cases t.step o e <;> rfl

end Service

/-! ## Sound connections -/

/-- All channels are sound. -/
def Connection.Sound (c : Connection) : Prop :=
  ∀ id channel, c.channels.get? id = some channel → channel.Sound

theorem Connection.Sound.put {c : Connection} (h : c.Sound) (id : ChannelId) {channel : Channel}
    (hc : channel.Sound) : (c.put id channel).Sound := by
  intro id' channel' h'
  rw [Connection.get?_put] at h'
  by_cases hid : id' = id
  · rw [if_pos hid] at h'
    obtain rfl := Option.some.inj h'
    exact hc
  · rw [if_neg hid] at h'
    exact h id' channel' h'

theorem Effect.sound {c : Connection} {id : ChannelId} {r : Request} {a : Answer}
    (h : Effect c id r a) (hc : c.Sound) : a.connection.Sound := by
  cases h with
  | nothing => exact hc
  | opened => exact hc.put id Channel.sound_new
  | closed =>
    intro id' channel' h'
    rw [Dictionary.get?_erase] at h'
    obtain ⟨-, h'⟩ := Option.ite_none_left_eq_some.mp h'
    exact hc id' channel' h'
  | changed r found step => exact hc.put id ((hc id _ found).step step)

namespace Service

variable {o : ChannelOptions} {s t : Service} {e : Occurrence} {events : List Occurrence}

theorem sound_step (h : s.step o e = some t) (hs : s.connection.Sound) : t.connection.Sound := by
  rcases step_cases h with ⟨x, -, effect⟩ | ⟨-, id, f, hf⟩
  · exact effect.sound hs
  · rw [hf]
    rcases s.connection.changeShell_cases id f with same | ⟨channel, channel', found, step, put⟩
    · rw [same]
      exact hs
    · rw [put]
      exact hs.put id ((hs id _ found).step step)

/-- **All channels are sound at all times.** -/
theorem sound_run (ran : Service.run o {} events = some t) : t.connection.Sound := by
  induction events using List.reverseRecOn generalizing t with
  | nil =>
    obtain rfl := Option.some.inj ran
    intro id channel h
    cases h
  | append_singleton events e ih =>
    rw [run_concat] at ran
    obtain ⟨s, hs, he⟩ := Option.bind_eq_some_iff.mp ran
    exact sound_step he (ih hs)

/-! ## Starts along a connection -/

/-- What happens between requests leaves all budgets alone. -/
theorem budget_changeShell (c : Connection) (id id' : ChannelId) (f : Shell → Shell) :
    (c.changeShell id f).budget id' ≤ c.budget id' := by
  rcases c.changeShell_cases id f with same | ⟨channel, channel', found, step, put⟩
  · rw [same]
  · rw [put]
    by_cases hid : id' = id
    · rw [hid, Connection.budget_put_self, Connection.budget_of_get? found]
      have := step.budget
      rw [Bool.toNat_false] at this
      omega
    · exact Nat.le_of_eq (Connection.budget_put_other _ hid)

/-- An answered request takes what it starts from the budget of its channel. -/
theorem budget_answered {x : Answered} {id : ChannelId} {c : Connection}
    (h : Effect s.connection x.id x.request ⟨c, x.replies, x.launch⟩) (hx : ¬ x.Opens id) :
    (x.starts id).toNat + c.budget id ≤ s.connection.budget id := by
  unfold Answered.starts
  by_cases hid : x.id = id
  · subst hid
    rw [decide_eq_true rfl, Bool.true_and]
    exact h.budget fun hr => hx ⟨rfl, hr⟩
  · rw [decide_eq_false hid, Bool.false_and, h.budget_other (Ne.symm hid)]
    exact Nat.le_of_eq (Nat.zero_add _)

/-- The starts since a channel was last opened, and what is left of its budget,
come to one at most. -/
theorem starts_recent (ran : Service.run o {} events = some t) (id : ChannelId)
    {b : List Answered} (hb : b <:+ t.answered) (unopened : ∀ x ∈ b, ¬ x.Opens id) :
    b.countP (·.starts id) + t.connection.budget id ≤ 1 := by
  -- what an event starts is taken from what the events before it have left
  induction events using List.reverseRecOn generalizing t b with
  | nil =>
    obtain rfl := Option.some.inj ran
    rw [List.suffix_nil.mp hb, List.countP_nil, Nat.zero_add]
    exact Connection.budget_le _ id
  | append_singleton events e ih =>
    rw [run_concat] at ran
    obtain ⟨s, hs, he⟩ := Option.bind_eq_some_iff.mp ran
    rcases step_cases he with ⟨x, hx, effect⟩ | ⟨hx, id', f, hf⟩
    · rw [hx] at hb
      rcases List.suffix_concat_iff.mp hb with rfl | ⟨b, rfl, hb'⟩
      · have := t.connection.budget_le id
        rw [List.countP_nil]
        omega
      · have before := ih hs hb' fun y hy => unopened y (List.mem_append_left _ hy)
        have now := budget_answered effect (unopened x List.mem_concat_self)
        have one : [x].countP (·.starts id) = (x.starts id).toNat := by
          rw [List.countP_singleton]
          cases x.starts id <;> rfl
        rw [List.countP_append, one]
        omega
    · rw [hx] at hb
      have before := ih hs hb unopened
      have now := budget_changeShell s.connection id' id f
      rw [hf]
      omega

/-- **At most one activity begins on a channel until it is opened anew.** -/
theorem starts_le_one (ran : Service.run o {} events = some t) (id : ChannelId)
    {b : List Answered} (hb : b <:+: t.answered) (unopened : ∀ x ∈ b, ¬ x.Opens id) :
    b.countP (·.starts id) ≤ 1 := by
  -- cut the events off where the requests end that are counted
  induction events using List.reverseRecOn generalizing t with
  | nil =>
    obtain rfl := Option.some.inj ran
    rw [List.infix_nil.mp hb]
    exact Nat.zero_le 1
  | append_singleton events e ih =>
    have recent := fun hb => starts_recent ran id (b := b) hb unopened
    rw [run_concat] at ran
    obtain ⟨s, hs, he⟩ := Option.bind_eq_some_iff.mp ran
    rcases step_cases he with ⟨x, hx, -⟩ | ⟨hx, -⟩
    · rw [hx] at hb recent
      rcases List.infix_concat_iff.mp hb with hb | hb
      · have := recent hb
        omega
      · exact ih hs hb
    · rw [hx] at hb
      exact ih hs hb

/-- **A channel runs one activity**, whatever is requested: what each channel
holds goes by its phase, it hands out its stream whenever the phase admits an
activity, and at most one activity begins on it from when it is opened until it
is opened anew. -/
theorem one_activity_per_channel (ran : Service.run o {} events = some t) :
    (∀ id channel, t.connection.channels.get? id = some channel →
      channel.Sound ∧ ∀ a p, channel.phase.begin? a = some p →
        channel.start? a = some { channel with phase := p, held := false }) ∧
    ∀ id b, b <:+: t.answered → (∀ x ∈ b, ¬ x.Opens id) → b.countP (·.starts id) ≤ 1 := by
  refine ⟨fun id channel found => ?_, fun id b hb unopened => starts_le_one ran id hb unopened⟩
  have sound : channel.Sound := sound_run ran id channel found
  exact ⟨sound, fun a p hp => sound.start?_of_begin? hp⟩

/-- A client that asks for more than it gets: on one channel for a command
besides the shell, on the other for a shell that cannot be started. -/
def greedyClient : List Occurrence :=
  [.request 0 .openChannel (.ok ()), .request 1 .openChannel (.ok ()),
    .request 0 (.pty "xterm" ⟨80, 24⟩) (.ok ()), .request 0 .shell (.ok ()),
    .request 1 .shell (.error (.session "no terminal left")), .request 0 (.exec []) (.ok ()),
    .request 1 (.subsystem "sftp") (.ok ()), .request 0 .close (.ok ())]

theorem one_activity_greedyClient : ∃ t,
    Service.run ⟨"/bin/sh", none, true, none⟩ {} greedyClient = some t ∧
      t.answered.countP (·.starts 0) = 1 ∧ t.answered.countP (·.starts 1) = 1 ∧
        ∀ b, b <:+: t.answered → (∀ x ∈ b, ¬ x.Opens 1) → b.countP (·.starts 1) ≤ 1 := by
  let o : ChannelOptions := ⟨"/bin/sh", none, true, none⟩
  have possible : (Service.run o {} greedyClient).isSome = true := by decide +kernel
  have ran : Service.run o {} greedyClient = some ((Service.run o {} greedyClient).getD {}) := by
    rw [← Option.get_eq_getD (h := possible), Option.some_get]
  exact ⟨_, ran, by decide +kernel, by decide +kernel, (one_activity_per_channel ran).2 1⟩

end Service

end ShellGateway.Daemon
