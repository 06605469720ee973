import Mathlib.Logic.Function.Iterate
import ShellGateway.Proofs.Daemon.Launched

/-!
# Windows reach the shell

A window change goes to the shell of its channel, once there is one. It waits in the shell's
queue until the shell's consumer takes it, and if the queue is full it waits for room, and the
whole connection with it. So whatever the two sides' pace, what has been applied, what is in the
queue and what waits for room are together the changes since the shell was started, in order
(`Shell.Fed`). A burst of changes thus ends with the last of them (`Shell.Fed.drain`).

Before that, changes are kept with the terminal that the shell is started on (`AskedFor`). The
consumer may stop at any time, since the shell can end; what was applied by then is a beginning
of the changes.
-/

namespace ShellGateway.Daemon

open Programs (Program)

namespace Shell

/-- What has become of the windows `ws` that a shell was sent; it has applied `done`. -/
structure Fed (ws done : List Window) (s : Shell) : Prop where
  /-- The system can hold no larger dimensions. -/
  applied : s.applied = done.map Window.capped
  queued_le : s.queued.length ≤ resizeCapacity
  waits : s.blocked.isSome = true → s.queued.length = resizeCapacity
  /-- None is lost or repeated, and all are in order. -/
  complete : s.stopped = false → done ++ s.queued ++ s.blocked.toList = ws
  /-- If the consumer has stopped, none is applied any more. -/
  cut_short : s.stopped = true → done <+: ws ∧ s.queued = [] ∧ s.blocked = none

variable {s : Shell} {ws done : List Window}

/-- A shell that was just started. -/
theorem Fed.start (program : Program) (terminal : Terminal) : Fed [] [] { program, terminal } where
  applied := rfl
  queued_le := Nat.zero_le _
  waits := nofun
  complete _ := rfl
  cut_short := nofun

/-- **A window is sent** to a shell for which none waits. -/
theorem Fed.send (fed : s.Fed ws done) (free : s.blocked = none) (w : Window) :
    (s.send w).Fed (ws ++ [w]) done := by
  unfold Shell.send
  cases stopped : s.stopped with
  | true =>
    obtain ⟨begun, queued, blocked⟩ := fed.cut_short stopped
    rw [if_pos rfl]
    refine ⟨fed.applied, fed.queued_le, fed.waits, fun running => ?_, fun _ => ?_⟩
    · rw [stopped] at running
      cases running
    · exact ⟨begun.trans (List.prefix_append ws [w]), queued, blocked⟩
  | false =>
    have complete := fed.complete stopped
    rw [free, Option.toList_none, List.append_nil] at complete
    rw [if_neg Bool.false_ne_true]
    by_cases room : s.queued.length < resizeCapacity
    · rw [if_pos room]
      refine ⟨fed.applied, ?_, fun waits => ?_, fun _ => ?_, nofun⟩
      · rw [List.length_append]
        exact room
      · rw [free] at waits
        cases waits
      · rw [free, Option.toList_none, List.append_nil, ← List.append_assoc, complete]
    · rw [if_neg room]
      have full : s.queued.length = resizeCapacity :=
        Nat.le_antisymm fed.queued_le (Nat.le_of_not_lt room)
      refine ⟨fed.applied, fed.queued_le, fun _ => full, fun _ => ?_, nofun⟩
      rw [complete]
      rfl

/-- How many windows are still to be applied. -/
def due (s : Shell) : Nat :=
  s.queued.length + s.blocked.toList.length

/-- Where nothing is queued, nothing waits for room. -/
theorem Fed.blocked_eq_none (fed : s.Fed ws done) (empty : s.queued = []) : s.blocked = none := by
  cases waits : s.blocked with
  | none => rfl
  | some w =>
    have full := fed.waits (by rw [waits]; rfl)
    rw [empty] at full
    cases full

theorem consume_of_stopped (stopped : s.stopped = true) : s.consume = s := by
  unfold Shell.consume
  rw [if_pos stopped]

theorem consume_of_empty (empty : s.queued = []) : s.consume = s := by
  unfold Shell.consume
  rw [empty, ite_self]

theorem consume_of_queued {w : Window} {rest : List Window} (running : s.stopped = false)
    (queued : s.queued = w :: rest) : s.consume =
      { s with
        applied := s.applied ++ [w.capped]
        queued := rest ++ s.blocked.toList
        blocked := none } := by
  unfold Shell.consume
  rw [if_neg (Bool.eq_false_iff.mp running), queued]

theorem consume_terminal (s : Shell) : s.consume.terminal = s.terminal := by
  unfold Shell.consume
  split
  · rfl
  · split <;> rfl

/-- **The consumer applies the next window**, if there is one; the one that waits for room gets
it. -/
theorem Fed.consume (fed : s.Fed ws done) : ∃ done', s.consume.Fed ws done' ∧
    (s.stopped = false → s.consume.stopped = false ∧ s.consume.due = s.due - 1) := by
  cases stopped : s.stopped with
  | true =>
    rw [consume_of_stopped stopped]
    exact ⟨done, fed, nofun⟩
  | false =>
    have complete := fed.complete stopped
    cases queued : s.queued with
    | nil =>
      have due : s.due = 0 := by
        unfold Shell.due
        rw [queued, fed.blocked_eq_none queued]
        rfl
      rw [consume_of_empty queued, due]
      exact ⟨done, fed, fun _ => ⟨stopped, rfl⟩⟩
    | cons w rest =>
      have queued_le := fed.queued_le
      rw [queued, List.length_cons] at queued_le
      rw [consume_of_queued stopped queued]
      refine ⟨done ++ [w], ⟨?_, ?_, nofun, fun _ => ?_, ?_⟩, fun _ => ⟨stopped, ?_⟩⟩
      · rw [fed.applied, List.map_append]
        rfl
      · rw [List.length_append]
        cases s.blocked with
        | none => exact Nat.le_of_succ_le queued_le
        | some waiting => exact queued_le
      · rw [← complete, queued]
        simp
      · intro ended
        exact absurd (stopped.symm.trans ended) Bool.false_ne_true
      · unfold Shell.due
        rw [queued, List.length_append, List.length_cons]
        simp only [Option.toList_none, List.length_nil]
        omega

/-- **A consumer that goes on applies everything it was sent**, whether or not it had room. -/
theorem Fed.drain (fed : s.Fed ws done) (running : s.stopped = false) {n : Nat} (h : s.due ≤ n) :
    (Shell.consume^[n] s).applied = ws.map Window.capped := by
  induction n generalizing s done with
  | zero =>
    have complete := fed.complete running
    obtain ⟨queued, blocked⟩ := Nat.add_eq_zero_iff.mp (Nat.le_zero.mp h)
    rw [List.length_eq_zero_iff] at queued blocked
    rw [queued, blocked, List.append_nil, List.append_nil] at complete
    rw [← complete]
    exact fed.applied
  | succ n ih =>
    obtain ⟨done', fed', next⟩ := fed.consume
    obtain ⟨running', due⟩ := next running
    rw [Function.iterate_succ_apply]
    exact ih fed' running' (by omega)

/-- The consumer stops. -/
theorem Fed.stop (fed : s.Fed ws done) : s.stop.Fed ws done := by
  refine ⟨fed.applied, Nat.zero_le _, nofun, nofun, fun _ => ⟨?_, rfl, rfl⟩⟩
  cases stopped : s.stopped with
  | true => exact (fed.cut_short stopped).1
  | false =>
    rw [← fed.complete stopped, List.append_assoc]
    exact List.prefix_append _ _

/-- The size of the shell's terminal is that of the last window it has applied. -/
theorem Fed.size (fed : s.Fed ws done) : s.size = (done.getLastD s.terminal.window).capped := by
  unfold Shell.size
  rw [fed.applied]
  cases done using List.reverseRecOn with
  | nil => rfl
  | append_singleton done w => simp

end Shell

/-! ## Along a connection -/

/-- Where no request waits, no shell has one waiting. -/
theorem Connection.free_of_not_waiting {c : Connection} {id : ChannelId} {channel : Channel}
    {shell : Shell} (idle : c.isWaiting = false) (found : c.channels.get? id = some channel)
    (attached : channel.shell = some shell) : shell.blocked = none := by
  obtain ⟨⟨id, channel⟩, hfind, rfl⟩ := Option.map_eq_some_iff.mp found
  have free := List.any_eq_false.mp idle _ (List.mem_of_find?_eq_some hfind)
  dsimp only at free attached
  rw [attached, Option.bind_some, Option.not_isSome_iff_eq_none] at free
  exact free

/-- The terminal of a shell that is started. -/
def Launch.terminal? : Launch → Option Terminal
  | .shell _ terminal => some terminal
  | .exec _ | .sftp _ => none

theorem Launch.terminal?_eq_some {launch : Option Launch} {terminal : Terminal}
    (h : launch.bind terminal? = some terminal) :
    ∃ program, launch = some (.shell program terminal) := by
  obtain ⟨launch, rfl, hl⟩ := Option.bind_eq_some_iff.mp h
  cases launch with
  | shell program terminal' =>
    obtain rfl := Option.some.inj hl
    exact ⟨program, rfl⟩
  | exec | sftp => cases hl

/-- What is started as a shell is a shell that was sent nothing yet. -/
theorem Channel.Heeds.starts {o : ChannelOptions} {c c' : Channel} {r : Request}
    {program : Program} {terminal : Terminal}
    (h : c.Heeds o r (some (.shell program terminal)) c') :
    ∃ shell, c'.shell = some shell ∧ shell.terminal = terminal ∧ shell.Fed [] [] := by
  cases h with
  | shellStarted => exact ⟨_, rfl, rfl, .start program terminal⟩

/-- It is started on the terminal that its channel has kept. -/
theorem Channel.Heeds.terminal {o : ChannelOptions} {c c' : Channel} {r : Request}
    {program : Program} {terminal : Terminal}
    (h : c.Heeds o r (some (.shell program terminal)) c') :
    c.phase.acceptsPty = true ∧ terminal = c.terminal.getD .standard := by
  cases h with
  | shellStarted admits hprogram hterminal => exact ⟨admits, hterminal⟩

/-- **A request on the channel of a shell** leaves the shell, and sends it what it shall be
sent. -/
theorem Channel.Heeds.fed {o : ChannelOptions} {c c' : Channel} {shell : Shell} {r : Request}
    {rs : List Request} {done : List Window} {launch : Option Launch} (h : c.Heeds o r launch c')
    (sound : c.Sound) (attached : c.shell = some shell) (free : shell.blocked = none)
    (fed : shell.Fed (windowChanges rs) done) :
    ∃ shell', c'.shell = some shell' ∧ shell'.terminal = shell.terminal ∧
      shell'.Fed (windowChanges (rs ++ [r])) done := by
  have busy : ¬ c.phase.acceptsPty = true := by
    intro admits
    have idle := (sound.idle admits).1
    rw [attached] at idle
    cases idle
  -- a request that changes no window sends nothing
  have quiet : r.window? = none → windowChanges (rs ++ [r]) = windowChanges rs := by
    intro hr
    rw [windowChanges_concat, hr]
    exact List.append_nil _
  cases h with
  | windowSent window attached' =>
    obtain rfl := Option.some.inj (attached.symm.trans attached')
    refine ⟨_, rfl, ?_, ?_⟩
    · unfold Shell.send
      split_ifs <;> rfl
    · rw [windowChanges_concat]
      exact fed.send free window
  | variableSet name value => exact ⟨shell, attached, rfl, quiet rfl ▸ fed⟩
  | unheeded r _ bare _ =>
    refine ⟨shell, attached, rfl, ?_⟩
    cases hr : r.window? with
    | none => exact quiet hr ▸ fed
    | some window =>
      have bare := (bare (by rw [hr]; rfl)).1
      rw [attached] at bare
      cases bare
  | resized _ unattached =>
    rw [attached] at unattached
    cases unattached
  | configured _ _ admits | shellStarted admits | shellFailed admits | execStarted _ admits
  | sftpStarted _ admits => exact absurd admits busy

namespace Service

variable {o : ChannelOptions} {s t u : Service} {events : List Occurrence}
  {before after : List Answered} {x : Answered} {program : Program} {terminal : Terminal}

/-- A channel has a shell on this terminal, and these are the windows it was sent. -/
def Feeds (s : Service) (id : ChannelId) (terminal : Terminal) (ws : List Window) : Prop :=
  ∃ channel shell done, s.connection.channels.get? id = some channel ∧
    channel.shell = some shell ∧ shell.terminal = terminal ∧ shell.Fed ws done

/-- Between requests, shells take what they were sent. -/
theorem Feeds.changeShell {id id' : ChannelId} {ws : List Window} {f : Shell → Shell}
    (feeds : s.Feeds id terminal ws)
    (kept : ∀ shell done, shell.Fed ws done →
      (f shell).terminal = shell.terminal ∧ ∃ done', (f shell).Fed ws done') :
    Feeds { s with connection := s.connection.changeShell id' f } id terminal ws := by
  obtain ⟨channel, shell, done, found, attached, onTerminal, fed⟩ := feeds
  by_cases hid : id = id'
  · obtain ⟨same, done', fed'⟩ := kept shell done fed
    refine ⟨{ channel with shell := some (f shell) }, f shell, done', ?_, rfl,
      same.trans onTerminal, fed'⟩
    show (s.connection.changeShell id' f).channels.get? id = _
    rw [Connection.get?_changeShell, found, Option.map_some, if_pos hid, attached]
    rfl
  · refine ⟨channel, shell, done, ?_, attached, onTerminal, fed⟩
    show (s.connection.changeShell id' f).channels.get? id = _
    rw [Connection.get?_changeShell, found, Option.map_some, if_neg hid]

/-- A request is answered while no window waits for room. -/
theorem Feeds.request {id id' : ChannelId} {rs : List Request} {r : Request}
    {attached : Except Failure Unit} (feeds : s.Feeds id terminal (windowChanges rs))
    (sound : s.connection.Sound) (h : s.step o (.request id' r attached) = some u)
    (within : id' = id → r.Within) :
    u.Feeds id terminal (windowChanges (if id' = id then rs ++ [r] else rs)) := by
  obtain ⟨channel, shell, done, found, hasShell, onTerminal, fed⟩ := feeds
  have idle : s.connection.isWaiting = false :=
    Bool.eq_false_iff.mpr (Option.ite_none_left_eq_some.mp h).1
  have hconnection := (step_request h).1
  by_cases hid : id' = id
  · subst hid
    rw [if_pos rfl]
    obtain ⟨channel', found', heeds⟩ :=
      Connection.heeded_handle (fun _ _ => attached) found (within rfl)
    obtain ⟨shell', hasShell', same, fed'⟩ := heeds.fed (sound id' channel found) hasShell
      (Connection.free_of_not_waiting idle found hasShell) fed
    exact ⟨channel', shell', done, hconnection ▸ found', hasShell', same.trans onTerminal, fed'⟩
  · rw [if_neg hid]
    refine ⟨channel, shell, done, ?_, hasShell, onTerminal, fed⟩
    rw [hconnection, (Connection.effect_handle _ r).get?_other (Ne.symm hid)]
    exact found

/-- **A shell is sent the changes of its window** for as long as its channel is open. -/
theorem feeds_run (ran : Service.run o {} events = some t)
    (split : t.answered = before ++ x :: after)
    (launched : x.launch = some (.shell program terminal))
    (within : ∀ r ∈ requestsOn x.id after, r.Within) :
    t.Feeds x.id terminal (windowChanges (requestsOn x.id after)) := by
  induction events using List.reverseRecOn generalizing t after with
  | nil =>
    obtain rfl := Option.some.inj ran
    cases before <;> cases split
  | append_singleton past e ih =>
    rw [run_concat] at ran
    obtain ⟨s, hs, he⟩ := Option.bind_eq_some_iff.mp ran
    cases e with
    | resize id =>
      obtain rfl := Option.some.inj he
      refine (ih hs split within).changeShell fun shell done fed => ⟨shell.consume_terminal, ?_⟩
      obtain ⟨done', fed', -⟩ := fed.consume
      exact ⟨done', fed'⟩
    | stop id =>
      obtain rfl := Option.some.inj he
      exact (ih hs split within).changeShell fun shell done fed => ⟨rfl, done, fed.stop⟩
    | request id r attached =>
      have hanswered := (step_request he).2
      rw [hanswered] at split
      rcases after.eq_nil_or_concat with rfl | ⟨after, last, rfl⟩
      · -- the shell is started
        obtain ⟨-, hx⟩ := List.append_inj' split rfl
        obtain rfl := (List.cons.inj hx).1
        obtain ⟨channel, channel', -, found', heeds⟩ := launch_heeds he hanswered launched
        obtain ⟨shell, attached, rfl, fresh⟩ := heeds.starts
        exact ⟨channel', shell, [], found', attached, rfl, fresh⟩
      · rw [List.concat_eq_append, ← List.cons_append, ← List.append_assoc] at split
        obtain ⟨before', hlast⟩ := List.append_inj' split rfl
        obtain rfl := (List.cons.inj hlast).1
        rw [List.concat_eq_append] at within ⊢
        by_cases hid : id = x.id
        · rw [requestsOn_concat_self hid] at within ⊢
          have feeds := (ih hs before' fun r' h => within r' (List.mem_append_left _ h)).request
            (sound_run hs) he fun _ => within r List.mem_concat_self
          rw [if_pos hid] at feeds
          exact feeds
        · rw [requestsOn_concat_other hid] at within ⊢
          have feeds := (ih hs before' within).request (sound_run hs) he fun same => absurd same hid
          rw [if_neg hid] at feeds
          exact feeds

/-- How a shell comes to its size: from what was asked of its channel before it was started,
and from each change after that. -/
structure Sized (before after : List Answered) (id : ChannelId) (terminal : Terminal)
    (t : Service) : Prop where
  /-- It is started on the terminal that was asked for, or else on the standard one. -/
  started : ∃ rs asked, OpenSince id before rs ∧ AskedFor rs asked ∧
    terminal = asked.getD .standard
  /-- As long as the channel is open, the shell is sent each change of the window. -/
  sent : (∀ r ∈ requestsOn id after, r.Within) →
    ∃ channel shell done, t.connection.channels.get? id = some channel ∧
      channel.shell = some shell ∧ shell.terminal = terminal ∧
      shell.Fed (windowChanges (requestsOn id after)) done ∧
      shell.size = (done.getLastD terminal.window).capped ∧
      (shell.stopped = false → ∀ n, shell.due ≤ n → (Shell.consume^[n] shell).applied =
        (windowChanges (requestsOn id after)).map Window.capped)

/-- **Windows reach the shell in order**, none lost or repeated. -/
theorem windows_reach_shell (ran : Service.run o {} events = some t)
    (split : t.answered = before ++ x :: after)
    (launched : x.launch = some (.shell program terminal)) :
    Sized before after x.id terminal t := by
  constructor
  case started =>
    obtain ⟨past, attached, s, u, hs, rfl, step, hu⟩ := moment ran split
    obtain ⟨channel, channel', found, -, heeds⟩ := launch_heeds step hu launched
    obtain ⟨rs, since, remembers⟩ := remembers_run hs x.id channel found
    obtain ⟨admits, given⟩ := heeds.terminal
    exact ⟨rs, channel.terminal, since, remembers.asked admits, given⟩
  case sent =>
    intro within
    obtain ⟨channel, shell, done, found, attached, rfl, fed⟩ := feeds_run ran split launched within
    exact ⟨channel, shell, done, found, attached, rfl, fed, fed.size, fun running n h =>
      fed.drain running h⟩

/-- A client that changes its window more often than the shell's queue can hold. -/
def restlessClient : List Occurrence :=
  [.request 0 .openChannel (.ok ()), .request 0 (.pty "xterm" ⟨80, 24⟩) (.ok ()),
    .request 0 (.windowChange ⟨100, 30⟩) (.ok ()), .request 0 .shell (.ok ())] ++
    (List.range 11).map (fun i => .request 0 (.windowChange ⟨80, 70000 + i⟩) (.ok ()))

theorem windows_reach_shell_restlessClient : ∃ t before x after program,
    Service.run ⟨"/bin/sh", none, false, none⟩ {} restlessClient = some t ∧
      t.answered = before ++ x :: after ∧
      x.launch = some (.shell program ⟨"xterm", ⟨100, 30⟩⟩) ∧
      (∀ r ∈ requestsOn x.id after, r.Within) ∧ t.connection.isWaiting = true ∧
      Sized before after x.id ⟨"xterm", ⟨100, 30⟩⟩ t := by
  let o : ChannelOptions := ⟨"/bin/sh", none, false, none⟩
  let t : Service := (Service.run o {} restlessClient).getD {}
  have possible : (Service.run o {} restlessClient).isSome = true := by decide +kernel
  have ran : Service.run o {} restlessClient = some t := by
    rw [← Option.some_get possible, Option.get_eq_getD]
  have launched : (t.answered[3]?.bind (·.launch)).bind Launch.terminal? =
      some ⟨"xterm", ⟨100, 30⟩⟩ := by decide +kernel
  have numbered : t.answered[3]?.map (·.id) = some 0 := by decide +kernel
  have within : ∀ r ∈ requestsOn 0 (t.answered.drop 4), r.Within := by
    unfold Request.Within
    decide +kernel
  obtain ⟨program, launched⟩ := Launch.terminal?_eq_some launched
  obtain ⟨x, third, launched⟩ := Option.bind_eq_some_iff.mp launched
  obtain ⟨there, rfl⟩ := List.getElem?_eq_some_iff.mp third
  have split : t.answered = t.answered.take 3 ++ t.answered[3] :: t.answered.drop 4 := by
    rw [← List.drop_eq_getElem_cons there, List.take_append_drop]
  rw [third] at numbered
  rw [← Option.some.inj numbered] at within
  exact ⟨t, _, _, _, program, ran, split, launched, within, by decide +kernel,
    windows_reach_shell ran split launched⟩

end Service

end ShellGateway.Daemon
