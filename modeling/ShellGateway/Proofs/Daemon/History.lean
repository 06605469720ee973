import ShellGateway.Proofs.Daemon.Verdicts
import ShellGateway.Proofs.Programs.Environment

/-!
# What a channel remembers

What is started on a channel depends on what was requested on it since it was opened, and on
nothing else: not on other channels, nor on one that had the same id before. `OpenSince` reads
those requests off the record of a connection, and `Channel.Remembers` says what the channel
has kept of them, the last value of each variable and the terminal that was asked for.

`Channel.Heeds` lists what a request makes of its channel in full, along with what it starts;
`Channel.Step` in turn forgets which terminal and which variable. What each of these keeps up
holds of all channels at all times (`Service.throughout_run`), and so channels remember their
requests (`Remembers.heed`, `Service.remembers_run`).
-/

namespace ShellGateway.Daemon

open Programs (Program)

/-! ## Reading the record -/

namespace Request

/-- The request configures a terminal. -/
def isPty : Request → Bool
  | pty _ _ => true
  | _ => false

/-- The window that a change asks for. -/
def window? : Request → Option Window
  | windowChange window => some window
  | _ => none

/-- The value that a request gives to a variable. -/
def valueOf? (name : String) : Request → Option String
  | setVariable name' value => if name' = name then some value else none
  | _ => none

/-- The request is about an open channel. -/
def Within (r : Request) : Prop :=
  r ≠ openChannel ∧ r ≠ close

end Request

/-- The windows that changes ask for, in order. -/
def windowChanges (rs : List Request) : List Window :=
  rs.filterMap Request.window?

/-- The value that a variable was last given. -/
def lastValue? (name : String) (rs : List Request) : Option String :=
  (rs.filterMap (Request.valueOf? name)).getLast?

/-- The requests on a channel, in order. -/
def requestsOn (id : ChannelId) (answered : List Answered) : List Request :=
  (answered.filter (·.id = id)).map (·.request)

/-- A channel is open, and these are the requests on it since it was opened. -/
def OpenSince (id : ChannelId) (answered : List Answered) (rs : List Request) : Prop :=
  ∃ before opening after, answered = before ++ opening :: after ∧ opening.Opens id ∧
    rs = requestsOn id after ∧ ∀ r ∈ rs, r.Within

/-- The terminal that was asked for: the type is that of the last request to configure it, and
the window is of the last change after that. An unnamed type is the standard one. -/
inductive AskedFor : List Request → Option Terminal → Prop where
  | nothing {rs : List Request} (unasked : ∀ r ∈ rs, r.isPty = false) : AskedFor rs none
  | terminal (before : List Request) (term : String) (window : Window) {after : List Request}
      (last : ∀ r ∈ after, r.isPty = false) :
      AskedFor (before ++ .pty term window :: after)
        (some ⟨if term.isEmpty then standardTerm else term,
          (windowChanges after).getLastD window⟩)

section

variable {rs : List Request} {r : Request} {id : ChannelId} {answered : List Answered}
  {x : Answered}

theorem windowChanges_concat (rs : List Request) (r : Request) :
    windowChanges (rs ++ [r]) = windowChanges rs ++ r.window?.toList := by
  unfold windowChanges
  rw [List.filterMap_append]
  cases h : r.window? <;> simp [h]

theorem lastValue?_concat (name : String) (rs : List Request) (r : Request) :
    lastValue? name (rs ++ [r]) = (r.valueOf? name).or (lastValue? name rs) := by
  unfold lastValue?
  rw [List.filterMap_append]
  cases h : r.valueOf? name <;> simp [h]

theorem requestsOn_concat_self (h : x.id = id) (answered : List Answered) :
    requestsOn id (answered ++ [x]) = requestsOn id answered ++ [x.request] := by
  simp [requestsOn, h]

theorem requestsOn_concat_other (h : x.id ≠ id) (answered : List Answered) :
    requestsOn id (answered ++ [x]) = requestsOn id answered := by
  simp [requestsOn, h]

/-- A channel that is opened has nothing to remember. -/
theorem OpenSince.opened (h : x.Opens id) : OpenSince id (answered ++ [x]) [] :=
  ⟨answered, x, [], rfl, h, rfl, nofun⟩

/-- It remembers what is requested on it, -/
theorem OpenSince.request (h : OpenSince id answered rs) (hx : x.id = id)
    (within : x.request.Within) : OpenSince id (answered ++ [x]) (rs ++ [x.request]) := by
  obtain ⟨before, opening, after, rfl, opens, rfl, all⟩ := h
  refine ⟨before, opening, after ++ [x], by simp, opens, ?_, ?_⟩
  · rw [requestsOn_concat_self hx]
  · intro r hr
    rcases List.mem_append.mp hr with hr | hr
    · exact all r hr
    · exact List.mem_singleton.mp hr ▸ within

/-- and nothing else. -/
theorem OpenSince.other (h : OpenSince id answered rs) (hx : x.id ≠ id) :
    OpenSince id (answered ++ [x]) rs := by
  obtain ⟨before, opening, after, rfl, opens, rfl, all⟩ := h
  refine ⟨before, opening, after ++ [x], by simp, opens, ?_, all⟩
  rw [requestsOn_concat_other hx]

/-- A request that configures no terminal can still change its window. -/
theorem AskedFor.concat {asked : Option Terminal} (h : AskedFor rs asked)
    (other : r.isPty = false) :
    AskedFor (rs ++ [r])
      (asked.map fun t => { t with window := r.window?.getD t.window }) := by
  cases h with
  | nothing unasked =>
    refine .nothing fun r' hr' => ?_
    rcases List.mem_append.mp hr' with hr' | hr'
    · exact unasked r' hr'
    · exact List.mem_singleton.mp hr' ▸ other
  | terminal before term window last =>
    rename_i after
    have window' : r.window?.getD ((windowChanges after).getLastD window) =
        (windowChanges (after ++ [r])).getLastD window := by
      rw [windowChanges_concat]
      cases r.window? <;> simp
    show AskedFor _ (some ⟨_, r.window?.getD _⟩)
    rw [window', List.append_assoc, List.cons_append]
    refine .terminal before term window fun r' hr' => ?_
    rcases List.mem_append.mp hr' with hr' | hr'
    · exact last r' hr'
    · exact List.mem_singleton.mp hr' ▸ other

/-- Other requests change nothing about it. -/
theorem AskedFor.concat_other {asked : Option Terminal} (h : AskedFor rs asked)
    (other : r.isPty = false) (bare : r.window?.isSome = true → asked = none) :
    AskedFor (rs ++ [r]) asked := by
  have asked' := h.concat other
  cases hw : r.window? with
  | none =>
    rw [hw] at asked'
    cases asked <;> exact asked'
  | some window =>
    rw [bare (by rw [hw]; rfl)] at asked' ⊢
    exact asked'

end

/-! ## What a request makes of its channel -/

namespace Channel

/-- What becomes of an open channel with a request on it, and what is started. -/
inductive Heeds (o : ChannelOptions) (c : Channel) : Request → Option Launch → Channel → Prop where
  | configured (term : String) (window : Window) (admits : c.phase.acceptsPty = true) :
      Heeds o c (.pty term window) none
        { c with
          phase := .ptyConfigured
          terminal := some ⟨if term.isEmpty then standardTerm else term, window⟩ }
  | windowSent (window : Window) {shell : Shell} (attached : c.shell = some shell) :
      Heeds o c (.windowChange window) none { c with shell := some (shell.send window) }
  | resized (window : Window) {terminal : Terminal} (unattached : c.shell = none)
      (had : c.terminal = some terminal) :
      Heeds o c (.windowChange window) none
        { c with terminal := some { terminal with window } }
  | variableSet (name value : String) (passed : o.envPassthrough = true) :
      Heeds o c (.setVariable name value) none
        { c with environment := c.environment.insert name value }
  | shellStarted (admits : c.phase.acceptsPty = true) {program : Program} {terminal : Terminal}
      (hprogram : program = .interactive o.shell c.environment o.workDir)
      (hterminal : terminal = c.terminal.getD .standard) :
      Heeds o c .shell (some (.shell program terminal))
        { c with phase := .shellAttached, held := false, shell := some { program, terminal } }
  | shellFailed (admits : c.phase.acceptsPty = true) :
      Heeds o c .shell none { c with phase := .closed, held := false }
  | execStarted (command : Bytes) (admits : c.phase.acceptsPty = true) {program : Program}
      (hprogram : program = .command o.shell command.lossyText c.environment o.workDir) :
      Heeds o c (.exec command) (some (.exec program))
        { c with phase := .execRunning, held := false, tasks := c.tasks ++ [.exec program] }
  | sftpStarted (name : String) (admits : c.phase.acceptsPty = true) :
      Heeds o c (.subsystem name) (some (.sftp o.sftpRoot))
        { c with phase := .sftpServing, held := false, tasks := c.tasks ++ [.sftp o.sftpRoot] }
  /-- The request is refused, or there is nothing to do. -/
  | unheeded (r : Request) (busy : r.isPty = true → c.phase.acceptsPty = false)
      (bare : r.window?.isSome = true → c.shell = none ∧ c.terminal = none)
      (withheld : ∀ name, (r.valueOf? name).isSome = true → o.envPassthrough = false) :
      Heeds o c r none c

end Channel

/-- An answer leaves the channel under its id as the request makes it. -/
def Heeded (o : ChannelOptions) (id : ChannelId) (channel : Channel) (r : Request) (a : Answer) :
    Prop :=
  ∃ channel', a.connection.channels.get? id = some channel' ∧ channel.Heeds o r a.launch channel'

/-- Where no channel is, none comes to be but by opening it, and nothing is started. -/
theorem Effect.absent {c : Connection} {id : ChannelId} {r : Request} {a : Answer}
    (h : Effect c id r a) (absent : c.channels.get? id = none) (hr : r ≠ .openChannel) :
    a.connection.channels.get? id = none ∧ a.launch = none := by
  cases h with
  | nothing => exact ⟨absent, rfl⟩
  | opened => exact absurd rfl hr
  | closed =>
    refine ⟨?_, rfl⟩
    show (c.channels.erase id).get? id = none
    rw [Dictionary.get?_erase, if_pos rfl]
  | changed r found step =>
    rw [found] at absent
    cases absent

section

variable {o : ChannelOptions} {attach : Program → Terminal → Except Failure Unit} {c : Connection}
  {id : ChannelId} {channel channel' : Channel} {r : Request} {replies : List Reply}
  {launch : Option Launch}

theorem heeded_put (h : channel.Heeds o r launch channel') :
    Heeded o id channel r { connection := c.put id channel', replies, launch } := by
  refine ⟨channel', ?_, h⟩
  show (c.put id channel').channels.get? id = _
  rw [Connection.get?_put, if_pos rfl]

theorem heeded_unchanged (found : c.channels.get? id = some channel)
    (h : channel.Heeds o r none channel) : Heeded o id channel r { connection := c, replies } :=
  ⟨channel, found, h⟩

/-- A request to start something changes nothing where it is refused. -/
theorem Channel.Heeds.refused (hr : r = .shell ∨ (∃ command, r = .exec command) ∨
    ∃ name, r = .subsystem name) : channel.Heeds o r none channel := by
  rcases hr with rfl | ⟨command, rfl⟩ | ⟨name, rfl⟩
  · exact .unheeded _ nofun nofun nofun
  · exact .unheeded _ nofun nofun nofun
  · exact .unheeded _ nofun nofun nofun

namespace Connection

theorem heeded_configure (found : c.channels.get? id = some channel) (term : String)
    (window : Window) : Heeded o id channel (.pty term window) (c.configure id term window) := by
  unfold configure
  rw [found]
  dsimp only
  by_cases admits : channel.phase.acceptsPty = true
  · rw [if_pos admits]
    exact heeded_put (.configured term window admits)
  · rw [if_neg admits]
    refine heeded_unchanged found (.unheeded _ (fun _ => ?_) nofun nofun)
    exact Bool.eq_false_iff.mpr admits

theorem heeded_changeWindow (found : c.channels.get? id = some channel) (window : Window) :
    Heeded o id channel (.windowChange window) { connection := c.changeWindow id window } := by
  unfold changeWindow
  rw [found]
  dsimp only
  cases hs : channel.shell with
  | some shell => exact heeded_put (.windowSent window hs)
  | none =>
    cases ht : channel.terminal with
    | some terminal =>
      have resized : channel.Heeds o _ none _ := .resized window hs ht
      rw [hs] at resized
      exact heeded_put resized
    | none => exact heeded_unchanged found (.unheeded _ nofun (fun _ => ⟨hs, ht⟩) nofun)

theorem heeded_setVariable (found : c.channels.get? id = some channel) (name value : String) :
    Heeded o id channel (.setVariable name value) (c.setVariable o id name value) := by
  unfold setVariable
  cases passed : o.envPassthrough with
  | false => exact heeded_unchanged found (.unheeded _ nofun nofun fun _ _ => passed)
  | true =>
    rw [found]
    exact heeded_put (.variableSet name value passed)

theorem heeded_startShell (found : c.channels.get? id = some channel) :
    Heeded o id channel .shell (c.startShell o attach id) := by
  unfold startShell
  rw [found]
  dsimp only
  cases hs : channel.start? .shell with
  | none => exact heeded_unchanged found (.refused (.inl rfl))
  | some started =>
    obtain ⟨admits, -, rfl⟩ := Channel.start?_eq_some hs
    dsimp only
    cases attach _ _ with
    | ok => exact heeded_put (.shellStarted admits rfl rfl)
    | error why => exact heeded_put (.shellFailed admits)

theorem heeded_startExec (found : c.channels.get? id = some channel) (command : Bytes) :
    Heeded o id channel (.exec command) (c.startExec o id command) := by
  unfold startExec
  rw [found]
  dsimp only
  cases hs : channel.start? .exec with
  | none => exact heeded_unchanged found (.refused (.inr (.inl ⟨command, rfl⟩)))
  | some started =>
    obtain ⟨admits, -, rfl⟩ := Channel.start?_eq_some hs
    exact heeded_put (.execStarted command admits rfl)

theorem heeded_startSubsystem (found : c.channels.get? id = some channel) (name : String) :
    Heeded o id channel (.subsystem name) (c.startSubsystem o id name) := by
  have refused : channel.Heeds o (.subsystem name) none channel :=
    .refused (.inr (.inr ⟨name, rfl⟩))
  unfold startSubsystem
  by_cases hn : name = sftpSubsystem
  · rw [if_pos hn, found]
    dsimp only
    cases hs : channel.start? .sftp with
    | none => exact heeded_unchanged found refused
    | some started =>
      obtain ⟨admits, -, rfl⟩ := Channel.start?_eq_some hs
      exact heeded_put (.sftpStarted name admits)
  · rw [if_neg hn]
    exact heeded_unchanged found refused

variable (attach) in
/-- **An open channel heeds every request on it.** -/
theorem heeded_handle (found : c.channels.get? id = some channel) (within : r.Within) :
    Heeded o id channel r (c.handle o attach id r) := by
  cases r with
  | openChannel => exact absurd rfl within.1
  | close => exact absurd rfl within.2
  | pty term window => exact heeded_configure found term window
  | windowChange window => exact heeded_changeWindow found window
  | setVariable name value => exact heeded_setVariable found name value
  | shell => exact heeded_startShell found
  | exec command => exact heeded_startExec found command
  | subsystem name => exact heeded_startSubsystem found name
  | eof => exact heeded_unchanged found (.unheeded _ nofun nofun nofun)

end Connection

end

/-! ## What a channel has kept -/

/-- A channel has kept what was requested on it. -/
structure Channel.Remembers (o : ChannelOptions) (rs : List Request) (c : Channel) : Prop where
  /-- Each variable has the value that it was last given, if any is passed on. -/
  value : ∀ name, c.environment.get? name =
    if o.envPassthrough = true then lastValue? name rs else none
  once : c.environment.keys.Nodup
  asked : c.phase.acceptsPty = true → AskedFor rs c.terminal

namespace Channel.Remembers

variable {o : ChannelOptions} {rs : List Request} {r : Request} {c c' : Channel}
  {launch : Option Launch}

/-- A new channel has nothing to keep. -/
theorem start (o : ChannelOptions) : Remembers o [] {} where
  value _ := (ite_self _).symm
  once := List.nodup_nil
  asked _ := .nothing nofun

/-- A request that gives no variable a value leaves all values. -/
theorem value_concat (remembers : c.Remembers o rs)
    (other : ∀ name, (r.valueOf? name).isSome = true → o.envPassthrough = false) (name : String) :
    c.environment.get? name =
      if o.envPassthrough = true then lastValue? name (rs ++ [r]) else none := by
  rw [remembers.value, lastValue?_concat]
  cases hv : r.valueOf? name with
  | none => rfl
  | some value =>
    have withheld := other name (by rw [hv]; rfl)
    rw [withheld]
    rfl

/-- **A channel remembers each request along with those before it.** -/
theorem heed (remembers : c.Remembers o rs) (sound : c.Sound) (h : c.Heeds o r launch c') :
    c'.Remembers o (rs ++ [r]) := by
  cases h with
  | configured term window admits =>
    exact ⟨remembers.value_concat nofun, remembers.once, fun _ => .terminal rs term window nofun⟩
  | windowSent window attached =>
    refine ⟨remembers.value_concat nofun, remembers.once, fun admits => ?_⟩
    have idle := (sound.idle admits).1
    rw [attached] at idle
    cases idle
  | resized window unattached had =>
    refine ⟨remembers.value_concat nofun, remembers.once, fun admits => ?_⟩
    have asked := (remembers.asked admits).concat (r := .windowChange window) rfl
    rw [had] at asked
    exact asked
  | variableSet name value passed =>
    refine ⟨fun name' => ?_, Dictionary.nodup_keys_insert remembers.once name value,
      fun admits => ?_⟩
    · rw [Dictionary.get?_insert, lastValue?_concat, remembers.value, if_pos passed, if_pos passed]
      show _ = (if name = name' then some value else none).or _
      by_cases same : name' = name
      · rw [if_pos same, if_pos same.symm]
        rfl
      · rw [if_neg same, if_neg (Ne.symm same)]
        rfl
    · exact (remembers.asked admits).concat_other rfl nofun
  | shellStarted | shellFailed | execStarted | sftpStarted =>
    exact ⟨remembers.value_concat nofun, remembers.once, nofun⟩
  | unheeded r busy bare withheld =>
    refine ⟨remembers.value_concat withheld, remembers.once, fun admits => ?_⟩
    refine (remembers.asked admits).concat_other ?_ fun hw => (bare hw).2
    cases hp : r.isPty with
    | false => rfl
    | true =>
      rw [busy hp] at admits
      cases admits

end Channel.Remembers

/-! ## Along a connection -/

namespace Connection

/-- Between requests a channel keeps all but its shell. -/
theorem get?_changeShell (c : Connection) (id id' : ChannelId) (f : Shell → Shell) :
    (c.changeShell id f).channels.get? id' = (c.channels.get? id').map fun channel =>
      if id' = id then { channel with shell := channel.shell.map f } else channel := by
  unfold changeShell
  cases hc : c.channels.get? id with
  | none =>
    dsimp only
    by_cases hid : id' = id
    · rw [hid, hc]
      rfl
    · simp only [if_neg hid, Option.map_id']
  | some channel =>
    dsimp only
    cases hs : channel.shell with
    | none =>
      dsimp only
      by_cases hid : id' = id
      · subst hid
        rw [hc, Option.map_some, if_pos rfl]
        obtain ⟨phase, held, terminal, environment, shell, tasks⟩ := channel
        subst hs
        rfl
      · simp only [if_neg hid, Option.map_id']
    | some shell =>
      dsimp only
      rw [get?_put]
      by_cases hid : id' = id
      · subst hid
        rw [hc, Option.map_some, if_pos rfl, if_pos rfl, hs]
        rfl
      · simp only [if_neg hid, Option.map_id']

end Connection

namespace Service

variable {o : ChannelOptions} {s t : Service} {e : Occurrence} {events : List Occurrence}

/-- All channels remember what was requested on them since they were opened. -/
def Remembers (o : ChannelOptions) (s : Service) : Prop :=
  ∀ id channel, s.connection.channels.get? id = some channel →
    ∃ rs, OpenSince id s.answered rs ∧ channel.Remembers o rs

/-- What holds of a new channel, and of every channel along with what was requested on it, if it
did before the last request. -/
structure Lasting (o : ChannelOptions) (P : List Request → Channel → Prop) : Prop where
  fresh : P [] {}
  heed : ∀ {rs c r launch c'}, P rs c → c.Sound → c.Heeds o r launch c' → P (rs ++ [r]) c'
  /-- Between requests, only shells change. -/
  shell : ∀ {rs c} (f : Shell → Shell), P rs c → P rs { c with shell := c.shell.map f }

/-- Something holds of all channels and what was requested on them since they were opened. -/
def Throughout (P : List Request → Channel → Prop) (s : Service) : Prop :=
  ∀ id channel, s.connection.channels.get? id = some channel →
    ∃ rs, OpenSince id s.answered rs ∧ P rs channel

section

variable {P : List Request → Channel → Prop}

theorem throughout_step (lasting : Lasting o P) (holds : s.Throughout P)
    (sound : s.connection.Sound) (h : s.step o e = some t) : t.Throughout P := by
  intro id channel' found'
  cases e with
  | resize id' | stop id' =>
    obtain rfl := Option.some.inj h
    rw [Connection.get?_changeShell] at found'
    obtain ⟨channel, found, rfl⟩ := Option.map_eq_some_iff.mp found'
    obtain ⟨rs, since, kept⟩ := holds id channel found
    refine ⟨rs, since, ?_⟩
    split_ifs
    · exact lasting.shell _ kept
    · exact kept
  | request id' r attached =>
    obtain ⟨hconnection, hanswered⟩ := step_request h
    rw [hconnection] at found'
    rw [hanswered]
    by_cases hid : id' = id
    · subst hid
      by_cases within : r.Within
      · cases found : s.connection.channels.get? id' with
        | none =>
          have effect : Effect s.connection id' r _ :=
            Connection.effect_handle (o := o) (fun _ _ => attached) r
          rw [(effect.absent found within.1).1] at found'
          cases found'
        | some channel =>
          obtain ⟨channel₁, found₁, heeds⟩ :=
            Connection.heeded_handle (fun _ _ => attached) found within
          obtain rfl := Option.some.inj (found₁.symm.trans found')
          obtain ⟨rs, since, kept⟩ := holds id' channel found
          exact ⟨rs ++ [r], since.request rfl within,
            lasting.heed kept (sound id' channel found) heeds⟩
      · rcases not_and_or.mp within with opens | closes
        · obtain rfl := Decidable.of_not_not opens
          rw [show (s.connection.handle o _ id' .openChannel).connection = s.connection.put id' {}
            from rfl, Connection.get?_put, if_pos rfl] at found'
          obtain rfl := Option.some.inj found'
          exact ⟨[], .opened ⟨rfl, rfl⟩, lasting.fresh⟩
        · obtain rfl := Decidable.of_not_not closes
          rw [show (s.connection.handle o _ id' .close).connection =
            { s.connection with channels := s.connection.channels.erase id' } from rfl,
            Dictionary.get?_erase, if_pos rfl] at found'
          cases found'
    · rw [(Connection.effect_handle _ r).get?_other (Ne.symm hid)] at found'
      obtain ⟨rs, since, kept⟩ := holds id channel' found'
      exact ⟨rs, since.other hid, kept⟩

/-- **What lasts holds of all channels at all times.** -/
theorem throughout_run (lasting : Lasting o P) (ran : Service.run o {} events = some t) :
    t.Throughout P := by
  induction events using List.reverseRecOn generalizing t with
  | nil =>
    obtain rfl := Option.some.inj ran
    intro id channel h
    cases h
  | append_singleton events e ih =>
    rw [run_concat] at ran
    obtain ⟨s, hs, he⟩ := Option.bind_eq_some_iff.mp ran
    exact throughout_step lasting (ih hs) (sound_run hs) he

end

/-- **All channels remember what was requested on them.** -/
theorem remembers_run (ran : Service.run o {} events = some t) : t.Remembers o :=
  throughout_run
    { fresh := .start o
      heed := fun kept sound heeds => kept.heed sound heeds
      shell := fun _ kept => ⟨kept.value, kept.once, kept.asked⟩ } ran

/-- Each request was answered at some point, by what the connection was at that point. -/
theorem moment {before after : List Answered} {x : Answered}
    (ran : Service.run o {} events = some t) (split : t.answered = before ++ x :: after) :
    ∃ past attached s u, Service.run o {} past = some s ∧ s.answered = before ∧
      s.step o (.request x.id x.request attached) = some u ∧ u.answered = before ++ [x] := by
  induction events using List.reverseRecOn generalizing t after with
  | nil =>
    obtain rfl := Option.some.inj ran
    cases before <;> cases split
  | append_singleton past e ih =>
    rw [run_concat] at ran
    obtain ⟨s, hs, he⟩ := Option.bind_eq_some_iff.mp ran
    cases e with
    | resize id | stop id =>
      obtain rfl := Option.some.inj he
      exact ih hs split
    | request id r attached =>
      obtain ⟨-, hanswered⟩ := step_request he
      rw [hanswered] at split
      rcases after.eq_nil_or_concat with rfl | ⟨after, last, rfl⟩
      · obtain ⟨same, hx⟩ := List.append_inj' split rfl
        obtain rfl := (List.cons.inj hx).1
        exact ⟨past, attached, s, t, hs, same, he, hanswered.trans (same ▸ rfl)⟩
      · rw [List.concat_eq_append, ← List.cons_append, ← List.append_assoc] at split
        exact ih hs (List.append_inj' split rfl).1

end Service

end ShellGateway.Daemon
