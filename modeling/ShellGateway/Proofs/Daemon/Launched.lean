import ShellGateway.Proofs.Daemon.History

/-!
# What is started, and with what

A shell or a command is started with the variables that were set on its channel since the
channel was opened, in the order of their names and each with the value it was given last. A
wrong one would hand one user's variables to another's program. The command is what was sent,
read as text; the shell's terminal is the one asked for, and its variable `TERM` goes by that
and not by what the client has set it to (`Runs`).
-/

namespace ShellGateway.Daemon

open Programs (Program)

/-- The variables of a program that is started after these requests on its channel. -/
structure Environment (o : ChannelOptions) (rs : List Request)
    (environment : List (String × String)) : Prop where
  /-- Names are in the order of their bytes, so each comes once. -/
  ascending : environment.Pairwise fun a b => Bytes.ofText a.1 < Bytes.ofText b.1
  /-- Each variable has the value that it was given last. -/
  mem_iff : ∀ name value, (name, value) ∈ environment ↔
    o.envPassthrough = true ∧ lastValue? name rs = some value
  /-- None is passed on where none shall be. -/
  withheld : o.envPassthrough = false → environment = []

/-- What a request starts on its channel, after these requests on it. -/
inductive Runs (o : ChannelOptions) (rs : List Request) : Request → Launch → Prop where
  | shell {program : Program} {terminal : Terminal} {asked : Option Terminal}
      (argv : program.argv = [o.shell]) (environment : Environment o rs program.environment)
      (wanted : AskedFor rs asked) (given : terminal = asked.getD .standard)
      (onTerminal : ∀ name value, (name, value) ∈ program.terminalVariables terminal.term ↔
        if name = Program.termVariable then value = terminal.term
        else (name, value) ∈ program.environment) :
      Runs o rs .shell (.shell program terminal)
  | exec {command : Bytes} {program : Program} {text : String}
      (argv : program.argv = [o.shell, "-c", text]) (reads : Utf8.Reads command text.toList)
      (environment : Environment o rs program.environment) :
      Runs o rs (.exec command) (.exec program)
  | sftp (name : String) : Runs o rs (.subsystem name) (.sftp o.sftpRoot)

namespace Channel

variable {o : ChannelOptions} {rs : List Request} {c c' : Channel}

/-- What a channel has kept of its variables is what a program is started with. -/
theorem Remembers.environment (remembers : c.Remembers o rs) :
    Environment o rs (Programs.sorted c.environment) := by
  have listed : ∀ name value, (name, value) ∈ Programs.sorted c.environment ↔
      o.envPassthrough = true ∧ lastValue? name rs = some value := by
    intro name value
    rw [Programs.mem_sorted remembers.once, remembers.value]
    exact Option.ite_none_right_eq_some
  constructor
  case ascending => exact Programs.sorted_ascending remembers.once
  case mem_iff => exact listed
  case withheld =>
    intro off
    refine List.eq_nil_iff_forall_not_mem.mpr fun v hv => ?_
    have passed := ((listed v.1 v.2).mp hv).1
    rw [off] at passed
    cases passed

/-- **What is started goes by what the channel remembers.** -/
theorem Remembers.runs {r : Request} {launch : Launch} (remembers : c.Remembers o rs)
    (heeds : c.Heeds o r (some launch) c') : Runs o rs r launch := by
  cases heeds with
  | shellStarted admits hprogram hterminal =>
    subst hprogram
    refine .shell rfl remembers.environment (remembers.asked admits) hterminal fun name value => ?_
    exact Program.mem_terminalVariables (Programs.nodup_sorted remembers.once) _
  | execStarted command admits hprogram =>
    subst hprogram
    exact .exec rfl (Bytes.lossyText_reads command) remembers.environment
  | sftpStarted name admits => exact .sftp name

end Channel

namespace Service

variable {o : ChannelOptions} {s t u : Service} {events : List Occurrence}

/-- Whatever is started is started on a channel that remembers what was requested on it. -/
theorem launch_heeds {x : Answered} {attached : Except Failure Unit} {launch : Launch}
    (h : s.step o (.request x.id x.request attached) = some u)
    (hu : u.answered = s.answered ++ [x]) (launched : x.launch = some launch) :
    ∃ channel channel', s.connection.channels.get? x.id = some channel ∧
      u.connection.channels.get? x.id = some channel' ∧
      channel.Heeds o x.request (some launch) channel' := by
  obtain ⟨hconnection, hanswered⟩ := step_request h
  have hx : (s.connection.handle o (fun _ _ => attached) x.id x.request).launch = some launch := by
    have last := (List.cons.inj (List.append_cancel_left (hanswered.symm.trans hu))).1
    rw [← launched, ← last]
  have effect : Effect s.connection x.id x.request _ :=
    Connection.effect_handle (o := o) (fun _ _ => attached) x.request
  have opens : x.request ≠ .openChannel := by
    intro hr
    rw [hr] at hx
    cases hx
  have closes : x.request ≠ .close := by
    intro hr
    rw [hr] at hx
    cases hx
  cases found : s.connection.channels.get? x.id with
  | none =>
    rw [(effect.absent found opens).2] at hx
    cases hx
  | some channel =>
    obtain ⟨channel', found', heeds⟩ :=
      Connection.heeded_handle (fun _ _ => attached) found ⟨opens, closes⟩
    rw [hx] at heeds
    rw [hconnection]
    exact ⟨channel, channel', rfl, found', heeds⟩

/-- **Every program is started as its channel was asked**: with the variables set on that
channel, and on that alone, since it was opened. -/
theorem launched_as_requested {before after : List Answered} {x : Answered} {launch : Launch}
    (ran : Service.run o {} events = some t) (split : t.answered = before ++ x :: after)
    (launched : x.launch = some launch) :
    ∃ rs, OpenSince x.id before rs ∧ Runs o rs x.request launch := by
  obtain ⟨past, attached, s, u, hs, rfl, step, hu⟩ := moment ran split
  obtain ⟨channel, channel', found, -, heeds⟩ := launch_heeds step hu launched
  obtain ⟨rs, since, remembers⟩ := remembers_run hs x.id channel found
  exact ⟨rs, since, remembers.runs heeds⟩

/-- A client that had another channel with this id before, has one beside it, and sets a
variable twice. -/
def returningClient : List Occurrence :=
  [.request 0 .openChannel (.ok ()), .request 0 (.setVariable "LANG" "C") (.ok ()),
    .request 0 .close (.ok ()), .request 0 .openChannel (.ok ()),
    .request 1 .openChannel (.ok ()), .request 1 (.setVariable "B" "3") (.ok ()),
    .request 0 (.setVariable "TERM" "vt100") (.ok ()),
    .request 0 (.setVariable "B" "1") (.ok ()), .request 0 (.setVariable "A" "1") (.ok ()),
    .request 0 (.setVariable "B" "2") (.ok ()), .request 0 (.pty "" ⟨80, 24⟩) (.ok ()),
    .request 0 .shell (.ok ())]

theorem launched_as_requested_returningClient :
    let program : Program :=
      ⟨"/bin/sh", [], [("A", "1"), ("B", "2"), ("TERM", "vt100")], none⟩
    ∃ t before, Service.run ⟨"/bin/sh", none, true, none⟩ {} returningClient = some t ∧
      t.answered = before ++
        [⟨0, .shell, [.success], some (.shell program ⟨standardTerm, ⟨80, 24⟩⟩)⟩] ∧
      ∃ rs, OpenSince 0 before rs ∧ Runs ⟨"/bin/sh", none, true, none⟩ rs .shell
        (.shell program ⟨standardTerm, ⟨80, 24⟩⟩) := by
  intro program
  let o : ChannelOptions := ⟨"/bin/sh", none, true, none⟩
  let kept : Dictionary String String := ⟨[("B", "2"), ("A", "1"), ("TERM", "vt100")]⟩
  have before_a : Programs.nameLe "B" "A" = false := by decide
  have after_a : Programs.nameLe "A" "TERM" = true := by decide
  have after_b : Programs.nameLe "B" "TERM" = true := by decide
  have listed : Program.interactive "/bin/sh" kept none = program := by
    simp [kept, program, Program.interactive, Programs.sorted, Dictionary.sortedBy,
      List.mergeSort, List.MergeSort.Internal.splitInTwo, before_a, after_a, after_b]
  have possible : (Service.run o {} returningClient).isSome = true := by decide +kernel
  have ran : Service.run o {} returningClient =
      some ((Service.run o {} returningClient).getD {}) := by
    rw [← Option.get_eq_getD (h := possible), Option.some_get]
  have split : ((Service.run o {} returningClient).getD {}).answered =
      ((Service.run o {} returningClient).getD {}).answered.dropLast ++
        [⟨0, .shell, [.success],
          some (.shell (.interactive "/bin/sh" kept none) ⟨standardTerm, ⟨80, 24⟩⟩)⟩] := by
    rfl
  rw [listed] at split
  exact ⟨_, _, ran, split, launched_as_requested ran split rfl⟩

end Service

end ShellGateway.Daemon
