import ShellGateway.Proofs.Daemon.History

/-!
# The terminal that a channel keeps

A channel keeps the terminal that was asked for, for a shell to be started on. Two kinds of
request write it: one configures the terminal, the other changes its window. What each makes of
it goes by the channel's phase (`Request.settle`).

A terminal is configured before anything has begun on the channel, and only then. Its window is
changed in every phase but that of a shell, for a shell is sent the change itself. So a channel
that runs something else, or whose shell could not be started, still takes changes of its
window, although it will never start a shell: `kept_terminal`, `window_changed_beyond_shell`.
Nothing is started on it any more, so nobody gets to see that terminal.
-/

namespace ShellGateway.Daemon

open Programs (Program)

/-- Something other than a shell has begun on the channel, or its shell could not be started. -/
def Phase.BeyondShell (p : Phase) : Prop :=
  p = .execRunning ∨ p = .sftpServing ∨ p = .closed

/-- What a request makes of the terminal that its channel keeps. -/
def Request.settle (p : Phase) (kept : Option Terminal) : Request → Option Terminal
  | pty term window =>
    if p.acceptsPty then some ⟨if term.isEmpty then standardTerm else term, window⟩ else kept
  | windowChange window =>
    if p = .shellAttached then kept else kept.map fun t => { t with window }
  | openChannel | setVariable _ _ | shell | exec _ | subsystem _ | eof | close => kept

/-- A terminal after changes of its window. -/
def afterChanges (ws : List Window) (t : Terminal) : Terminal :=
  { t with window := ws.getLastD t.window }

/-- The terminal that a channel keeps in its phase, when these requests were made on it. -/
inductive Keeps : List Request → Phase → Option Terminal → Prop where
  /-- Nothing has begun. -/
  | unbegun {rs : List Request} {p : Phase} {asked : Option Terminal}
      (admits : p.acceptsPty = true) (wanted : AskedFor rs asked) : Keeps rs p asked
  /-- A shell was started on the terminal, which is kept as it was then. -/
  | shell {before after : List Request} {asked : Option Terminal} (wanted : AskedFor before asked) :
      Keeps (before ++ .shell :: after) .shellAttached asked
  /-- Something else began, or the shell could not be started. All changes of the window are
  taken, those before that and those after. -/
  | beyond {before after : List Request} {start : Request} {p : Phase} {asked : Option Terminal}
      (starts : start.isSetup = true ∧ start.isPty = false) (phase : p.BeyondShell)
      (wanted : AskedFor before asked) :
      Keeps (before ++ start :: after) p (asked.map (afterChanges (windowChanges after)))

variable {o : ChannelOptions} {rs : List Request} {r : Request} {p : Phase}
  {kept : Option Terminal} {ws : List Window}

namespace Phase.BeyondShell

theorem acceptsPty (beyond : p.BeyondShell) : p.acceptsPty = false := by
  rcases beyond with rfl | rfl | rfl <;> rfl

theorem ne_shellAttached (beyond : p.BeyondShell) : p ≠ .shellAttached := by
  rcases beyond with rfl | rfl | rfl <;> decide

end Phase.BeyondShell

theorem map_afterChanges_nil (kept : Option Terminal) : kept.map (afterChanges []) = kept :=
  congrFun Option.map_id kept

/-! ## One request -/

namespace Request

/-- Who configures no terminal can still change the window, unless a shell has it. -/
theorem settle_of_not_isPty (other : r.isPty = false) (free : p ≠ .shellAttached) :
    r.settle p kept = kept.map fun t => { t with window := r.window?.getD t.window } := by
  cases r with
  | pty => cases other
  | windowChange window => exact if_neg free
  | _ => exact (congrFun Option.map_id kept).symm

/-- A terminal that is not configured any more is changed in its window at most. -/
theorem settle_of_refused (refused : p.acceptsPty = false) (free : p ≠ .shellAttached) :
    r.settle p kept = kept.map fun t => { t with window := r.window?.getD t.window } := by
  cases r with
  | pty term window =>
    show (if p.acceptsPty = true then _ else kept) = _
    rw [refused, if_neg Bool.false_ne_true]
    exact (congrFun Option.map_id kept).symm
  | windowChange window => exact if_neg free
  | _ => exact (congrFun Option.map_id kept).symm

/-- The terminal of a shell stays as it was kept. -/
theorem settle_shellAttached : r.settle .shellAttached kept = kept := by
  cases r <;> rfl

end Request

namespace Channel

variable {c c' : Channel} {launch : Option Launch}

/-- A channel that takes no shell any more stays so, and starts nothing. -/
theorem Heeds.beyondShell (h : c.Heeds o r launch c') (beyond : c.phase.BeyondShell) :
    c'.phase.BeyondShell ∧ launch = none := by
  have busy : ¬ c.phase.acceptsPty = true := Bool.eq_false_iff.mp beyond.acceptsPty
  cases h with
  | windowSent | resized | variableSet | unheeded => exact ⟨beyond, rfl⟩
  | configured _ _ admits | shellStarted admits | shellFailed admits | execStarted _ admits
  | sftpStarted _ admits => exact absurd admits busy

/-- **What a request makes of the terminal** goes by the phase. -/
theorem Heeds.terminal_eq_settle (h : c.Heeds o r launch c') (sound : c.Sound) :
    c'.terminal = r.settle c.phase c.terminal := by
  have unattached : c.shell = none → ¬ c.phase = .shellAttached := by
    intro none attached
    have some := sound.shell_iff.mpr attached
    rw [none] at some
    cases some
  cases h with
  | configured term window admits => exact (if_pos admits).symm
  | windowSent window attached =>
    exact (if_pos (sound.shell_iff.mp (Option.isSome_of_eq_some attached))).symm
  | resized window none had =>
    show _ = if c.phase = .shellAttached then _ else _
    rw [if_neg (unattached none), had]
    rfl
  | variableSet | shellStarted | shellFailed | execStarted | sftpStarted => rfl
  | unheeded r busy bare =>
    cases r with
    | pty term window =>
      show _ = if c.phase.acceptsPty = true then _ else _
      rw [busy rfl, if_neg Bool.false_ne_true]
    | windowChange window =>
      obtain ⟨none, bare⟩ := bare rfl
      show _ = if c.phase = .shellAttached then _ else _
      rw [if_neg (unattached none), bare]
      rfl
    | _ => rfl

end Channel

/-! ## All requests -/

namespace Keeps

/-- Where nothing has begun, the terminal is the one that was asked for. -/
theorem wanted (keeps : Keeps rs p kept) (admits : p.acceptsPty = true) : AskedFor rs kept := by
  cases keeps with
  | unbegun _ wanted => exact wanted
  | shell => cases admits
  | beyond _ phase =>
    rw [phase.acceptsPty] at admits
    cases admits

/-- A request that leaves the phase settles what is kept. -/
theorem settle (keeps : Keeps rs p kept) (refused : r.isPty = true → p.acceptsPty = false) :
    Keeps (rs ++ [r]) p (r.settle p kept) := by
  cases keeps with
  | unbegun admits wanted =>
    have other : r.isPty = false := by
      by_contra asks
      cases (refused (by simpa using asks)).symm.trans admits
    have free : p ≠ .shellAttached := by
      rintro rfl
      cases admits
    rw [Request.settle_of_not_isPty other free]
    exact .unbegun admits (wanted.concat other)
  | shell wanted =>
    rw [Request.settle_shellAttached, List.append_assoc]
    exact .shell wanted
  | @beyond _ after _ _ asked starts phase wanted =>
    have changes : (asked.map (afterChanges (windowChanges after))).map
        (fun t => { t with window := r.window?.getD t.window }) =
        asked.map (afterChanges (windowChanges (after ++ [r]))) := by
      rw [Option.map_map, windowChanges_concat]
      refine congrArg (asked.map ·) (funext fun t => ?_)
      cases r.window? <;> simp [afterChanges]
    rw [Request.settle_of_refused phase.acceptsPty phase.ne_shellAttached, changes,
      List.append_assoc]
    exact .beyond starts phase wanted

variable {c c' : Channel} {launch : Option Launch}

/-- **What a channel keeps goes by all requests on it**, if it did before the last. -/
theorem heed (keeps : Keeps rs c.phase c.terminal) (sound : c.Sound)
    (h : c.Heeds o r launch c') : Keeps (rs ++ [r]) c'.phase c'.terminal := by
  have settled := h.terminal_eq_settle sound
  -- what has begun takes the terminal as it is
  have begins {r : Request} {p : Phase} (starts : r.isSetup = true ∧ r.isPty = false)
      (phase : p.BeyondShell) (admits : c.phase.acceptsPty = true) :
      Keeps (rs ++ [r]) p c.terminal := by
    have begun : Keeps (rs ++ [r]) p (c.terminal.map (afterChanges (windowChanges []))) :=
      .beyond starts phase (keeps.wanted admits)
    rwa [show windowChanges [] = [] from rfl, map_afterChanges_nil] at begun
  cases h with
  | configured term window => exact .unbegun rfl (.terminal rs term window nofun)
  | windowSent | resized | variableSet =>
    rw [settled]
    exact keeps.settle nofun
  | unheeded r refused =>
    rw [settled]
    exact keeps.settle refused
  | shellStarted admits => exact .shell (keeps.wanted admits)
  | shellFailed admits => exact begins ⟨rfl, rfl⟩ (.inr (.inr rfl)) admits
  | execStarted _ admits => exact begins ⟨rfl, rfl⟩ (.inl rfl) admits
  | sftpStarted _ admits => exact begins ⟨rfl, rfl⟩ (.inr (.inl rfl)) admits

end Keeps

namespace Service

variable {s : Service} {events : List Occurrence} {id : ChannelId} {channel : Channel}

/-- All channels keep what they were asked for. -/
theorem keeps_run (ran : Service.run o {} events = some s) :
    s.Throughout fun rs c => Keeps rs c.phase c.terminal :=
  throughout_run (o := o)
    { fresh := .unbegun rfl (.nothing nofun)
      heed := fun keeps sound heeds => keeps.heed sound heeds
      shell := fun _ keeps => keeps } ran

/-- What a request makes of the terminal that its channel keeps, phase by phase. -/
structure Settles (channel channel' : Channel) (r : Request) (launch : Option Launch) : Prop where
  terminal : channel'.terminal = r.settle channel.phase channel.terminal
  /-- A channel beyond a shell takes changes of its window and nothing else, and stays so. -/
  beyond : channel.phase.BeyondShell → channel'.phase.BeyondShell ∧ launch = none ∧
    (r.window? = none → channel'.terminal = channel.terminal) ∧
    channel'.terminal.map (·.term) = channel.terminal.map (·.term)
  /-- While a shell is attached, what is kept stays as it is. -/
  attached : channel.phase = .shellAttached → channel'.terminal = channel.terminal

/-- **The terminal that a channel keeps** is the one that its requests ask for, and every further
request settles it by the phase of the channel. -/
theorem kept_terminal (ran : Service.run o {} events = some s)
    (found : s.connection.channels.get? id = some channel) :
    (∃ rs, OpenSince id s.answered rs ∧ Keeps rs channel.phase channel.terminal) ∧
      ∀ attach r, r.Within → ∃ channel',
        (s.connection.handle o attach id r).connection.channels.get? id = some channel' ∧
          Settles channel channel' r (s.connection.handle o attach id r).launch := by
  refine ⟨keeps_run ran id channel found, fun attach r within => ?_⟩
  obtain ⟨channel', found', heeds⟩ := Connection.heeded_handle (o := o) attach found within
  have settled := heeds.terminal_eq_settle (sound_run ran id channel found)
  refine ⟨channel', found', settled, fun beyond => ?_, fun attached => ?_⟩
  · obtain ⟨still, nothing⟩ := heeds.beyondShell beyond
    rw [Request.settle_of_refused beyond.acceptsPty beyond.ne_shellAttached] at settled
    refine ⟨still, nothing, fun unchanged => ?_, ?_⟩
    · rw [settled, unchanged]
      exact congrFun Option.map_id _
    · rw [settled, Option.map_map]
      rfl
  · rw [settled, attached, Request.settle_shellAttached]

/-- A client that configures a terminal, and then runs a command all the same. -/
def commandOnTerminal : List Occurrence :=
  [.request 0 .openChannel (.ok ()), .request 0 (.pty "xterm" ⟨80, 24⟩) (.ok ()),
    .request 0 (.exec []) (.ok ())]

/-- Where that client's channel is when the command runs. -/
theorem run_commandOnTerminal : ∃ s channel,
    Service.run ⟨"/bin/sh", none, false, none⟩ {} commandOnTerminal = some s ∧
      s.connection.channels.get? 0 = some channel ∧ channel.phase = .execRunning ∧
      channel.terminal = some ⟨"xterm", ⟨80, 24⟩⟩ :=
  ⟨_, _, rfl, rfl, rfl, rfl⟩

theorem kept_terminal_commandOnTerminal : ∃ s channel channel',
    Service.run ⟨"/bin/sh", none, false, none⟩ {} commandOnTerminal = some s ∧
      s.connection.channels.get? 0 = some channel ∧ channel.phase.BeyondShell ∧
      (s.connection.handle ⟨"/bin/sh", none, false, none⟩ (fun _ _ => .ok ()) 0
        (.pty "vt100" ⟨100, 40⟩)).connection.channels.get? 0 = some channel' ∧
      channel'.terminal = channel.terminal := by
  obtain ⟨s, channel, ran, found, running, -⟩ := run_commandOnTerminal
  have beyond : channel.phase.BeyondShell := .inl running
  obtain ⟨channel', found', settles⟩ := (kept_terminal ran found).2 (fun _ _ => .ok ())
    (.pty "vt100" ⟨100, 40⟩) ⟨nofun, nofun⟩
  exact ⟨s, channel, channel', ran, found, beyond, found', (settles.beyond beyond).2.2.1 rfl⟩

/-- **A change of the window reaches the terminal of a channel that runs a command.** -/
theorem window_changed_beyond_shell :
    ¬ ∀ (o : ChannelOptions) (events : List Occurrence) (s : Service) (id : ChannelId)
      (channel channel' : Channel) (attach : Program → Terminal → Except Failure Unit)
      (r : Request), Service.run o {} events = some s →
        s.connection.channels.get? id = some channel → channel.phase.BeyondShell → r.Within →
        (s.connection.handle o attach id r).connection.channels.get? id = some channel' →
          channel'.terminal = channel.terminal := by
  intro frozen
  obtain ⟨s, channel, ran, found, running, had⟩ := run_commandOnTerminal
  have within : (Request.windowChange ⟨100, 40⟩).Within := ⟨nofun, nofun⟩
  obtain ⟨channel', found', heeds⟩ := Connection.heeded_handle
    (o := ⟨"/bin/sh", none, false, none⟩) (fun _ _ => .ok ()) found within
  have changed := heeds.terminal_eq_settle (sound_run ran 0 channel found)
  have same := frozen _ _ _ _ _ _ _ _ ran found (.inl running) within found'
  rw [changed, running, had] at same
  revert same
  decide

end Service

end ShellGateway.Daemon
