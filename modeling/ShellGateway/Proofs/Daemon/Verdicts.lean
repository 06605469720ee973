import ShellGateway.Proofs.Daemon.Activity

/-!
# Every request gets its answer

A client waits for an answer when it configures a terminal, sets a variable, or
starts a shell, a command or a subsystem. It counts on one answer for each of
these: with none it would wait for good, with two it would take the second for the
answer to its next request. And it takes a refusal to mean that nothing has
happened.

`Verdict` lists what such a request can come to. A refusal leaves the whole
connection as it was. There is one exception, a shell that is to be started and
cannot be (`Connection.ShellFails`): its channel is closed with the refusal, and
starts nothing from then on (`Connection.Inert`) until the id is opened anew. What
is opened then knows nothing of what was there before.

None of this takes a connection that a client has brought about: it holds of every
connection, and so of those.
-/

namespace ShellGateway.Daemon

open Programs (Program)

/-- The client waits for an answer to the request. -/
def Request.wantsReply : Request → Bool
  | pty _ _ | setVariable _ _ | shell | exec _ | subsystem _ => true
  | openChannel | windowChange _ | eof | close => false

/-- The request needs a channel on which nothing has been started. -/
def Request.isSetup : Request → Bool
  | pty _ _ | shell | exec _ | subsystem _ => true
  | _ => false

/-- What is sent tells whether a request was granted. -/
def Reply.isVerdict : Reply → Bool
  | success | failure => true
  | errorText _ | close => false

theorem Request.wantsReply_of_isSetup {r : Request} (h : r.isSetup = true) :
    r.wantsReply = true := by
  cases r with
  | pty | shell | exec | subsystem => rfl
  | openChannel | windowChange | setVariable | eof | close => cases h

namespace Connection

/-- The channel admits a shell, and the shell cannot be started. -/
def ShellFails (o : ChannelOptions) (attach : Program → Terminal → Except Failure Unit)
    (c : Connection) (id : ChannelId) (why : Failure) : Prop :=
  ∃ channel started, c.channels.get? id = some channel ∧ channel.start? .shell = some started ∧
    attach (Program.interactive o.shell channel.environment o.workDir)
      (channel.terminal.getD .standard) = .error why

/-- There is no channel under the id, or none that starts anything. -/
def Inert (c : Connection) (id : ChannelId) : Prop :=
  ∀ channel, c.channels.get? id = some channel → channel.phase = .closed

end Connection

/-! ## What a request comes to -/

section

variable {o : ChannelOptions} {attach : Program → Terminal → Except Failure Unit} {c : Connection}
  {id id' : ChannelId} {r : Request}

/-- What a request that wants an answer can come to. -/
inductive Verdict (o : ChannelOptions) (attach : Program → Terminal → Except Failure Unit)
    (c : Connection) (id : ChannelId) : Request → Answer → Prop where
  | refused (r : Request) : Verdict o attach c id r c.refuse
  | variableSet {channel : Channel} (name value : String)
      (found : c.channels.get? id = some channel) :
      Verdict o attach c id (.setVariable name value)
        { connection :=
            c.put id { channel with environment := channel.environment.insert name value }
          replies := [.success] }
  | granted (r : Request) {channel : Channel} (channel' : Channel) (launch : Option Launch)
      (found : c.channels.get? id = some channel) (admits : channel.phase.acceptsPty = true) :
      Verdict o attach c id r { connection := c.put id channel', replies := [.success], launch }
  | shellFailed {channel : Channel} (why : Failure) (found : c.channels.get? id = some channel)
      (fails : c.ShellFails o attach id why) :
      Verdict o attach c id .shell
        { connection := c.put id { channel with phase := .closed, held := false }
          replies := [.errorText (shellFailureText why), .failure, .close] }

namespace Connection

theorem verdict_configure (r : Request) (term : String) (window : Window) :
    Verdict o attach c id r (c.configure id term window) := by
  unfold configure
  cases hc : c.channels.get? id with
  | none => exact .refused r
  | some channel =>
    dsimp only
    by_cases hp : channel.phase.acceptsPty = true
    · rw [if_pos hp]
      exact .granted r _ none hc hp
    · rw [if_neg hp]
      exact .refused r

theorem verdict_setVariable (name value : String) :
    Verdict o attach c id (.setVariable name value) (c.setVariable o id name value) := by
  unfold setVariable
  cases o.envPassthrough with
  | false => exact .refused _
  | true =>
    cases hc : c.channels.get? id with
    | none => exact .refused _
    | some channel => exact .variableSet name value hc

/-- A task is started where the channel admits it. -/
theorem verdict_startTask (r : Request) {channel : Channel}
    (hc : c.channels.get? id = some channel) (a : Activity) (task : Task) (launch : Launch) :
    Verdict o attach c id r (match channel.start? a with
      | none => c.refuse
      | some started =>
        { connection := c.put id { started with tasks := started.tasks ++ [task] }
          replies := [.success]
          launch := some launch }) := by
  cases hs : channel.start? a with
  | none => exact .refused r
  | some started => exact .granted r _ _ hc (Channel.start?_eq_some hs).1

theorem verdict_startShell : Verdict o attach c id .shell (c.startShell o attach id) := by
  unfold startShell
  cases hc : c.channels.get? id with
  | none => exact .refused _
  | some channel =>
    dsimp only
    cases hs : channel.start? .shell with
    | none => exact .refused _
    | some started =>
      obtain ⟨admits, -, rfl⟩ := Channel.start?_eq_some hs
      dsimp only
      cases hw : attach _ _ with
      | ok => exact .granted _ _ _ hc admits
      | error why => exact .shellFailed why hc ⟨channel, _, hc, hs, hw⟩

/-- **Every request that wants an answer comes to one of the list.** -/
theorem verdict_handle (wants : r.wantsReply = true) :
    Verdict o attach c id r (c.handle o attach id r) := by
  cases r with
  | pty term window => exact verdict_configure _ term window
  | setVariable name value => exact verdict_setVariable name value
  | shell => exact verdict_startShell
  | exec command =>
    show Verdict o attach c id _ (c.startExec o id command)
    unfold startExec
    cases hc : c.channels.get? id with
    | none => exact .refused _
    | some channel => exact verdict_startTask _ hc .exec _ _
  | subsystem name =>
    show Verdict o attach c id _ (c.startSubsystem o id name)
    unfold startSubsystem
    by_cases hn : name = sftpSubsystem
    · rw [if_pos hn]
      cases hc : c.channels.get? id with
      | none => exact .refused _
      | some channel => exact verdict_startTask _ hc .sftp _ _
    · rw [if_neg hn]
      exact .refused _
  | openChannel | windowChange | eof | close => cases wants

end Connection

namespace Verdict

/-- Whatever else is sent, one message tells whether the request was granted. -/
theorem countP_isVerdict {a : Answer} (v : Verdict o attach c id r a) :
    a.replies.countP (·.isVerdict) = 1 := by
  cases v <;> rfl

/-- A refusal changes nothing, unless it is that of a shell that cannot be started. -/
theorem eq_refuse {a : Answer} (v : Verdict o attach c id r a) (failed : .failure ∈ a.replies)
    (other : r = .shell → ∀ why, ¬ c.ShellFails o attach id why) : a = c.refuse := by
  cases v with
  | refused => rfl
  | variableSet | granted => simp at failed
  | shellFailed why found fails => exact absurd fails (other rfl why)

/-- Nothing is started where nothing may be. -/
theorem eq_refuse_of_inert {a : Answer} (v : Verdict o attach c id r a) (inert : c.Inert id)
    (setup : r.isSetup = true) : a = c.refuse := by
  have idle : ∀ channel, c.channels.get? id = some channel →
      ¬ channel.phase.acceptsPty = true := by
    intro channel found admits
    rw [inert channel found] at admits
    cases admits
  cases v with
  | refused => rfl
  | variableSet => cases setup
  | granted _ _ _ found admits => exact absurd admits (idle _ found)
  | shellFailed why found fails =>
    obtain ⟨channel, started, found', hs, -⟩ := fails
    exact absurd (Channel.start?_eq_some hs).1 (idle channel found')

end Verdict

/-! ## Channels on their own -/

/-- A request changes no channel but its own. -/
theorem Effect.get?_other {a : Answer} (h : Effect c id r a) (other : id' ≠ id) :
    a.connection.channels.get? id' = c.channels.get? id' := by
  cases h with
  | nothing => rfl
  | opened =>
    show (c.put id {}).channels.get? id' = _
    rw [Connection.get?_put, if_neg other]
  | closed =>
    show (c.channels.erase id).get? id' = _
    rw [Dictionary.get?_erase, if_neg other]
  | changed r found step =>
    show (c.put id _).channels.get? id' = _
    rw [Connection.get?_put, if_neg other]

namespace Connection

/-- A shell that cannot be started closes its channel; what is sent on it is an
explanation, the refusal and the end. -/
theorem startShell_of_fails {why : Failure} (h : c.ShellFails o attach id why) :
    (c.startShell o attach id).replies = [.errorText (shellFailureText why), .failure, .close] ∧
      ∃ channel, (c.startShell o attach id).connection.channels.get? id = some channel ∧
        channel.phase = .closed := by
  obtain ⟨channel, started, hc, hs, hw⟩ := h
  have answer : c.startShell o attach id =
      { connection := c.put id { started with phase := .closed }
        replies := [.errorText (shellFailureText why), .failure, .close] } := by
    unfold startShell
    simp only [hc, hs, hw]
  rw [answer]
  refine ⟨rfl, { started with phase := .closed }, ?_, rfl⟩
  rw [get?_put, if_pos rfl]

end Connection

end

/-! ## From then on -/

/-- A channel on which nothing is started any more stays so. -/
theorem Channel.Step.phase_closed {c c' : Channel} {begun : Bool} (h : c.Step begun c')
    (closed : c.phase = .closed) : c'.phase = .closed := by
  have idle : ¬ c.phase.acceptsPty = true := by
    rw [closed]
    decide
  cases h with
  | resized | shellChanged | variableSet => exact closed
  | configured _ admits | shellStarted _ admits | shellFailed admits | taskStarted _ _ _ admits =>
    exact absurd admits idle

/-- What becomes of a channel on which nothing is started any more. -/
theorem Connection.Inert.put {c : Connection} {id id' : ChannelId} {channel channel' : Channel}
    {begun : Bool} (inert : c.Inert id) (found : c.channels.get? id' = some channel)
    (step : channel.Step begun channel') : (c.put id' channel').Inert id := by
  intro last hlast
  rw [Connection.get?_put] at hlast
  by_cases hid : id = id'
  · subst hid
    rw [if_pos rfl] at hlast
    obtain rfl := Option.some.inj hlast
    exact step.phase_closed (inert channel found)
  · rw [if_neg hid] at hlast
    exact inert last hlast

/-- A request starts something on such a channel only by opening it anew. -/
theorem Effect.inert {c : Connection} {id id' : ChannelId} {r : Request} {a : Answer}
    (h : Effect c id' r a) (inert : c.Inert id) (unopened : ¬ (id' = id ∧ r = .openChannel)) :
    a.connection.Inert id := by
  cases h with
  | nothing => exact inert
  | opened =>
    have other : id ≠ id' := by
      rintro rfl
      exact unopened ⟨rfl, rfl⟩
    intro channel found
    rw [Connection.get?_put, if_neg other] at found
    exact inert channel found
  | closed =>
    intro channel found
    rw [Dictionary.get?_erase] at found
    exact inert channel (Option.ite_none_left_eq_some.mp found).2
  | changed r found step => exact inert.put found step

namespace Service

variable {o : ChannelOptions} {s t : Service} {id : ChannelId}

/-- A request that starts something was refused. -/
def Refused (id : ChannelId) (x : Answered) : Prop :=
  x.id = id → x.request.isSetup = true → x.replies = [.failure] ∧ x.launch = none

theorem step_request {r : Request} {attached : Except Failure Unit}
    (h : s.step o (.request id r attached) = some t) :
    t.connection = (s.connection.handle o (fun _ _ => attached) id r).connection ∧
      t.answered = s.answered ++
        [⟨id, r, (s.connection.handle o (fun _ _ => attached) id r).replies,
          (s.connection.handle o (fun _ _ => attached) id r).launch⟩] := by
  obtain ⟨-, ht⟩ := Option.ite_none_left_eq_some.mp h
  obtain rfl := Option.some.inj ht
  exact ⟨rfl, rfl⟩

theorem inert_step {e : Occurrence} (inert : s.connection.Inert id)
    (unopened : ∀ a, e ≠ .request id .openChannel a) (h : s.step o e = some t) :
    t.connection.Inert id ∧ ∃ new, t.answered = s.answered ++ new ∧ ∀ x ∈ new, Refused id x := by
  -- a window that reaches a shell starts nothing
  have changed : ∀ id' f, (s.connection.changeShell id' f).Inert id := by
    intro id' f
    rcases s.connection.changeShell_cases id' f with same | ⟨channel, channel', found, step, put⟩
    · rw [same]
      exact inert
    · rw [put]
      exact inert.put found step
  cases e with
  | request id' r attached =>
    obtain ⟨hconnection, hanswered⟩ := step_request h
    constructor
    · have effect : Effect s.connection id' r _ :=
        Connection.effect_handle (o := o) (fun _ _ => attached) r
      rw [hconnection]
      refine effect.inert inert ?_
      rintro ⟨rfl, rfl⟩
      exact unopened attached rfl
    · refine ⟨_, hanswered, fun x hx => ?_⟩
      obtain rfl := List.mem_singleton.mp hx
      rintro rfl setup
      have verdict : Verdict o (fun _ _ => attached) s.connection id' r _ :=
        Connection.verdict_handle (Request.wantsReply_of_isSetup setup)
      rw [verdict.eq_refuse_of_inert inert setup]
      exact ⟨rfl, rfl⟩
  | resize id' | stop id' =>
    obtain rfl := Option.some.inj h
    exact ⟨changed id' _, [], (List.append_nil _).symm, fun x hx => by cases hx⟩

/-- **Nothing is started on an inert channel until it is opened anew.** -/
theorem inert_run {events : List Occurrence} (inert : s.connection.Inert id)
    (unopened : ∀ a, .request id .openChannel a ∉ events) (ran : s.run o events = some t) :
    ∃ later, t.answered = s.answered ++ later ∧ ∀ x ∈ later, Refused id x := by
  induction events generalizing s with
  | nil =>
    obtain rfl := Option.some.inj ran
    exact ⟨[], (List.append_nil _).symm, fun x hx => by cases hx⟩
  | cons e rest ih =>
    obtain ⟨u, hstep, hrest⟩ := Option.bind_eq_some_iff.mp ran
    have now : ∀ a, e ≠ .request id .openChannel a := by
      rintro a rfl
      exact unopened a List.mem_cons_self
    obtain ⟨inert', new, hnew, refused⟩ := inert_step inert now hstep
    obtain ⟨later, hlater, refused'⟩ :=
      ih inert' (fun a h => unopened a (List.mem_cons_of_mem e h)) hrest
    refine ⟨new ++ later, by rw [hlater, hnew, List.append_assoc], fun x hx => ?_⟩
    rcases List.mem_append.mp hx with hx | hx
    · exact refused x hx
    · exact refused' x hx

/-! ## All of it -/

/-- How a service answers requests from here on. -/
structure Answers (o : ChannelOptions) (s : Service) : Prop where
  /-- Every request that wants an answer is answered once, whatever channel it is on. -/
  one_verdict : ∀ attach id r, r.wantsReply = true →
    (s.connection.handle o attach id r).replies.countP (·.isVerdict) = 1
  /-- A refusal leaves the connection as it was. -/
  refused : ∀ attach id r, r.wantsReply = true →
    .failure ∈ (s.connection.handle o attach id r).replies →
    (r = .shell → ∀ why, ¬ s.connection.ShellFails o attach id why) →
    (s.connection.handle o attach id r).connection = s.connection
  /-- A shell that cannot be started closes its channel, and the client is told why. -/
  shell_failed : ∀ attach id why, s.connection.ShellFails o attach id why →
    (s.connection.handle o attach id .shell).replies =
        [.errorText (shellFailureText why), .failure, .close] ∧
      ∃ channel, (s.connection.handle o attach id .shell).connection.channels.get? id =
        some channel ∧ channel.phase = .closed
  /-- Until the id is opened anew, nothing is started on that channel. -/
  then_refused : ∀ id why events t u,
    s.connection.ShellFails o (fun _ _ => .error why) id why →
    s.step o (.request id .shell (.error why)) = some t → t.run o events = some u →
    (∀ a, .request id .openChannel a ∉ events) →
    ∃ later, u.answered = t.answered ++ later ∧ ∀ x ∈ later, Refused id x
  /-- A request leaves all channels alone but its own. -/
  elsewhere : ∀ attach id r id', id' ≠ id →
    (s.connection.handle o attach id r).connection.channels.get? id' =
      s.connection.channels.get? id'
  /-- A channel whose id was closed and is opened again is like any new one. -/
  reopened : ∀ id a a' events t,
    s.run o (.request id .close a :: (events ++ [.request id .openChannel a'])) = some t →
    t.connection.channels.get? id = some {}

/-- **Every request gets its answer**, in whatever state the connection is. -/
theorem requests_answered (o : ChannelOptions) (s : Service) : Answers o s := by
  constructor
  case one_verdict =>
    intro attach id r wants
    exact (Connection.verdict_handle wants).countP_isVerdict
  case refused =>
    intro attach id r wants failed other
    rw [(Connection.verdict_handle wants).eq_refuse failed other]
    rfl
  case shell_failed =>
    intro attach id why fails
    exact Connection.startShell_of_fails fails
  case then_refused =>
    intro id why events t u fails hstep ran unopened
    refine inert_run ?_ unopened ran
    obtain ⟨-, channel, found, closed⟩ := Connection.startShell_of_fails fails
    intro channel' found'
    rw [(step_request hstep).1] at found'
    obtain rfl := Option.some.inj (found.symm.trans found')
    exact closed
  case elsewhere =>
    intro attach id r id' other
    exact (Connection.effect_handle attach r).get?_other other
  case reopened =>
    intro id a a' events t ran
    rw [← List.cons_append, run_concat] at ran
    obtain ⟨u, -, hopen⟩ := Option.bind_eq_some_iff.mp ran
    rw [(step_request hopen).1]
    show (u.connection.put id {}).channels.get? id = _
    rw [Connection.get?_put, if_pos rfl]

/-- A client whose shell cannot be started, and that will not take no for an answer. -/
def stubbornClient : List Occurrence :=
  [.request 0 (.exec []) (.ok ()), .request 1 .shell (.ok ()), .request 0 .shell (.ok ()),
    .request 0 (.pty "xterm" ⟨80, 24⟩) (.ok ()), .request 0 (.subsystem "sftp") (.ok ())]

theorem requests_answered_stubbornClient : ∃ t u,
    Service.step ⟨"/bin/sh", none, true, none⟩ { connection.channels := ⟨[(0, {}), (1, {})]⟩ }
        (.request 0 .shell (.error (.session "no terminal left"))) = some t ∧
      t.run ⟨"/bin/sh", none, true, none⟩ stubbornClient = some u ∧
      u.answered.map (·.replies) =
        [[.errorText (shellFailureText (.session "no terminal left")), .failure, .close],
          [.failure], [.success], [.failure], [.failure], [.failure]] ∧
      ∃ later, u.answered = t.answered ++ later ∧ ∀ x ∈ later, Refused 0 x := by
  let o : ChannelOptions := ⟨"/bin/sh", none, true, none⟩
  let s : Service := { connection.channels := ⟨[(0, {}), (1, {})]⟩ }
  let request : Occurrence := .request 0 .shell (.error (.session "no terminal left"))
  let t : Service := (s.step o request).getD {}
  have answers : (s.step o request).isSome = true := by decide +kernel
  have goesOn : (t.run o stubbornClient).isSome = true := by decide +kernel
  have step : s.step o request = some t := by
    rw [← Option.some_get answers, Option.get_eq_getD]
  have ran : t.run o stubbornClient = some ((t.run o stubbornClient).getD {}) := by
    rw [← Option.get_eq_getD (h := goesOn), Option.some_get]
  refine ⟨t, _, step, ran, by decide +kernel, ?_⟩
  refine (requests_answered o s).then_refused 0 _ stubbornClient t _ ⟨{}, _, rfl, rfl, rfl⟩ step
    ran fun a => ?_
  simp [stubbornClient]

end Service

end ShellGateway.Daemon
