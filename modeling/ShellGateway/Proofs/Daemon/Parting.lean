import ShellGateway.Daemon.Delivery

/-!
# How a channel ends

A program's channel ends in one way only: when all of its output has been sent, the client
gets the exit status, the end of output and the close, once each and in this order
(`Started.Told`, `ShellDelivery.Told`). This holds for every order in which the tasks of a
delivery take their steps.

- What has been sent and what is still to be sent make up the whole at every time
  (`CommandDelivery.Stands`, `ShellDelivery.Stands`): each kind of output in its own order,
  while the two kinds may be mixed in any way.
- Each step leaves less to be done (`left`), so a schedule cannot go on for ever.
- When no task can take a step the close has been sent (`CommandDelivery.Stands.told`,
  `ShellDelivery.Stands.told`): a delivery never waits for something that will not come.

Together they say of every schedule that is kept up for as long as it can be that the client
is told everything.
-/

namespace ShellGateway.Daemon

/-! ## Messages -/

namespace Outgoing

/-- The message carries output. -/
def isOutput : Outgoing → Bool
  | data _ | extendedData _ => true
  | exitStatus _ | eof | close => false

@[simp]
theorem output_append (a b : List Outgoing) : output (a ++ b) = output a ++ output b :=
  List.flatMap_append

@[simp]
theorem extendedOutput_append (a b : List Outgoing) :
    extendedOutput (a ++ b) = extendedOutput a ++ extendedOutput b :=
  List.flatMap_append

/-- Messages that are output and nothing else, and what they carry. -/
structure Carries (messages : List Outgoing) (plain extended : Bytes) : Prop where
  isOutput : ∀ m ∈ messages, m.isOutput = true
  output : output messages = plain
  extendedOutput : extendedOutput messages = extended

theorem Carries.nil : Carries [] [] [] :=
  ⟨nofun, rfl, rfl⟩

theorem Carries.data (bytes : Bytes) : Carries [.data bytes] bytes [] :=
  ⟨by simp [Outgoing.isOutput], by simp [Outgoing.output], rfl⟩

theorem Carries.extendedData (bytes : Bytes) : Carries [.extendedData bytes] [] bytes :=
  ⟨by simp [Outgoing.isOutput], rfl, by simp [Outgoing.extendedOutput]⟩

/-- What two runs of messages carry, one after the other. -/
theorem Carries.append {a b : List Outgoing} {plain extended plain' extended' : Bytes}
    (ha : Carries a plain extended) (hb : Carries b plain' extended') :
    Carries (a ++ b) (plain ++ plain') (extended ++ extended') where
  isOutput := by
    intro m hm
    obtain hm | hm := List.mem_append.mp hm
    · exact ha.isOutput m hm
    · exact hb.isOutput m hm
  output := by rw [output_append, ha.output, hb.output]
  extendedOutput := by rw [extendedOutput_append, ha.extendedOutput, hb.extendedOutput]

/-- The pieces of two outputs, one output after the other. -/
theorem Carries.pieces (output errors : List Bytes) :
    Carries (output.map .data ++ errors.map .extendedData) output.flatten errors.flatten where
  isOutput := by
    intro m hm
    obtain hm | hm := List.mem_append.mp hm
    · obtain ⟨piece, -, rfl⟩ := List.mem_map.mp hm
      rfl
    · obtain ⟨piece, -, rfl⟩ := List.mem_map.mp hm
      rfl
  output := by simp [Outgoing.output, List.flatMap_map, List.flatMap_id']
  extendedOutput := by simp [Outgoing.extendedOutput, List.flatMap_map, List.flatMap_id']

/-- The messages that end a channel. -/
def parting (status : Nat) : List Outgoing :=
  [.exitStatus status, .eof, .close]

end Outgoing

open Outgoing (Carries parting)

/-! ## The end of a channel -/

namespace Ending

variable {c c' : Closer} {e e' : Ending} {messages : List Outgoing} {status : Nat}

/-- Which of the messages that end a channel have been sent. -/
def sent (status : Nat) : Ending → List Outgoing
  | statusDue _ => []
  | closing .close | closing .killThenEnd | closing .sendEof => [.exitStatus status]
  | closing .sendClose => [.exitStatus status, .eof]
  | closing (.returned _) | closing .kill => parting status

/-- The ending takes its course: it is the only one to call the closer. -/
def IsProper (status : Nat) (c : Closer) : Ending → Prop
  | statusDue s => s = status ∧ c.marked = false
  | closing .close => c.marked = false
  | closing .killThenEnd | closing .sendEof | closing .sendClose => True
  | closing (.returned byMarker) => byMarker = true
  | closing .kill => False

/-- How many steps are left of it. -/
def left : Ending → Nat
  | statusDue _ => 5
  | closing .close => 4
  | closing .killThenEnd => 3
  | closing .sendEof => 2
  | closing .sendClose => 1
  | closing (.returned _) | closing .kill => 0

/-- **A step of an ending sends what comes next.** -/
theorem IsProper.step (proper : e.IsProper status c) (hs : e.step? c = some (messages, c', e')) :
    e'.IsProper status c' ∧ e'.sent status = e.sent status ++ messages ∧ e'.left < e.left := by
  cases e with
  | statusDue s =>
    obtain ⟨rfl, unmarked⟩ := proper
    cases hs
    exact ⟨unmarked, rfl, Nat.lt_succ_self 4⟩
  | closing call =>
    cases call with
    | close =>
      have unmarked : c.marked = false := proper
      simp only [step?, Closer.step, unmarked] at hs
      cases hs
      refine ⟨trivial, ?_, by decide⟩
      simp [sent]
    | killThenEnd =>
      have quiet : c.takeProgram.sent = c.sent := by
        unfold Closer.takeProgram
        split <;> rfl
      simp only [step?, Closer.step] at hs
      cases hs
      refine ⟨trivial, ?_, by decide⟩
      simp [sent, quiet]
    | sendEof =>
      simp only [step?, Closer.step, Closer.send, List.drop_left] at hs
      cases hs
      exact ⟨trivial, rfl, by decide⟩
    | sendClose =>
      simp only [step?, Closer.step, Closer.send, List.drop_left] at hs
      cases hs
      exact ⟨rfl, rfl, by decide⟩
    | kill => exact proper.elim
    | returned byMarker => cases hs

/-- An ending that has come to rest has sent the close. -/
theorem IsProper.sent_of_stuck (proper : e.IsProper status c) (stuck : e.step? c = none) :
    e.sent status = parting status := by
  cases e with
  | statusDue s => cases stuck
  | closing call =>
    cases call with
    | returned byMarker => rfl
    | kill => exact proper.elim
    | close | killThenEnd | sendEof | sendClose => cases stuck

theorem sent_isPrefix (status : Nat) (e : Ending) : e.sent status <+: parting status := by
  cases e with
  | statusDue s => exact List.nil_prefix
  | closing call => cases call <;> simp [sent, parting]

end Ending

/-! ## Commands -/

namespace Started

/-- The exit status that is reported. -/
def status : Started → Nat
  | failed _ => notStarted
  | running _ _ status => status.getD unknownStatus

/-- What the client is sent before the exit status: one message if the command cannot be
started, else the command's outputs. -/
def Outputs (program : String) (relayed : List Outgoing) : Started → Prop
  | failed why => relayed = [.extendedData (.ofText (startFailureText program why))]
  | running output errors _ => Carries relayed output.flatten errors.flatten

/-- The client has been sent everything. -/
def Told (program : String) (started : Started) (sent : List Outgoing) : Prop :=
  ∃ relayed, started.Outputs program relayed ∧ sent = relayed ++ parting started.status

end Started

namespace CommandDelivery

variable {program : String} {started : Started} {d d' : CommandDelivery}

/-- Where the delivery of a command's output stands, by what has been sent. -/
inductive Stands (program : String) (started : Started) :
    CommandStage → Closer → List Outgoing → Prop where
  | starting {c : Closer} (fresh : c.marked = false) : Stands program started (.starting started) c []
  /-- What has been sent and what is still to be copied make up both outputs. -/
  | copying {c : Closer} {sent : List Outgoing} {output errors restOutput restErrors : List Bytes}
      {status : Option Nat} {plain extended : Bytes} (fresh : c.marked = false)
      (of : started = .running output errors status) (carries : Carries sent plain extended)
      (outputs : plain ++ restOutput.flatten = output.flatten)
      (errors : extended ++ restErrors.flatten = errors.flatten) :
      Stands program started (.copying restOutput restErrors status) c sent
  | ending {c : Closer} {relayed : List Outgoing} {e : Ending}
      (outputs : started.Outputs program relayed) (proper : e.IsProper started.status c) :
      Stands program started (.ending e) c (relayed ++ e.sent started.status)

/-- A delivery that stands so. -/
structure Kept (program : String) (started : Started) (d : CommandDelivery) : Prop where
  program_eq : d.program = program
  stands : Stands program started d.stage d.closer d.sent

/-- When all output has been sent the exit status is due. -/
theorem Stands.statusDue {c : Closer} {relayed : List Outgoing} (fresh : c.marked = false)
    (outputs : started.Outputs program relayed) :
    Stands program started (.ending (.statusDue started.status)) c relayed := by
  have due : (Ending.statusDue started.status).IsProper started.status c := ⟨rfl, fresh⟩
  have stands := Stands.ending outputs due
  rw [Ending.sent, List.append_nil] at stands
  exact stands

/-- What has been sent is the beginning of what the client is told. -/
theorem Stands.goesOn {stage : CommandStage} {c : Closer} {sent : List Outgoing}
    (stands : Stands program started stage c sent) :
    ∃ rest, started.Told program (sent ++ rest) := by
  cases stands with
  | starting =>
    cases started with
    | failed why => exact ⟨_, _, rfl, rfl⟩
    | running output errors status => exact ⟨_, _, Carries.pieces output errors, rfl⟩
  | @copying _ _ output errors restOutput restErrors status _ _ _ of carries outputs extended =>
    subst of
    have whole := carries.append (Carries.pieces restOutput restErrors)
    rw [outputs, extended] at whole
    exact ⟨_, _, whole, (List.append_assoc _ _ _).symm⟩
  | ending outputs proper =>
    obtain ⟨rest, whole⟩ := Ending.sent_isPrefix started.status _
    exact ⟨rest, _, outputs, by rw [List.append_assoc, whole]⟩

theorem Kept.make (program : String) (started : Started) (input : List Bytes) :
    Kept program started (make program started input) :=
  ⟨rfl, .starting rfl⟩

/-- The task that runs the command keeps the account. -/
theorem Kept.stepRunner (kept : Kept program started d) (hs : d.stepRunner = some d') :
    Kept program started d' := by
  obtain ⟨_, stage, input, closer, sent⟩ := d
  obtain ⟨rfl, stands⟩ := kept
  dsimp only at stands
  cases stands with
  | starting fresh =>
    cases started with
    | failed why =>
      cases hs
      exact ⟨rfl, .statusDue fresh rfl⟩
    | running output errors status =>
      cases hs
      exact ⟨rfl, .copying fresh rfl Carries.nil rfl rfl⟩
  | @copying _ _ output errors restOutput restErrors status _ _ fresh of carries outputs extended =>
    cases restOutput with
    | cons piece rest => cases hs
    | nil =>
      cases restErrors with
      | cons piece rest => cases hs
      | nil =>
        cases hs
        subst of
        -- both outputs have been copied, so what has been sent is all of them
        rw [List.flatten_nil, List.append_nil] at outputs extended
        subst outputs extended
        exact ⟨rfl, .statusDue fresh carries⟩
  | @ending _ relayed e outputs proper =>
    simp only [CommandDelivery.stepRunner] at hs
    split at hs
    · rename_i messages closer' e' step
      cases hs
      obtain ⟨proper', told, -⟩ := proper.step step
      refine ⟨rfl, ?_⟩
      dsimp only
      rw [List.append_assoc, ← told]
      exact .ending outputs proper'
    · cases hs

/-- **Every task keeps the account.** -/
theorem Kept.step {task : CommandTask} (kept : Kept program started d)
    (hs : d.step task = some d') : Kept program started d' := by
  cases task with
  | runner => exact kept.stepRunner hs
  | inputPump refused =>
    obtain ⟨input, -, rfl⟩ := Option.map_eq_some_iff.mp hs
    exact ⟨kept.program_eq, kept.stands⟩
  | outputCopier =>
    obtain ⟨rfl, stands⟩ := kept
    simp only [CommandDelivery.step] at hs
    split at hs
    · rename_i piece output errors status stage
      cases hs
      rw [stage] at stands
      cases stands with
      | copying fresh of carries outputs extended =>
        refine ⟨rfl, .copying fresh of (carries.append (Carries.data piece)) ?_ ?_⟩
        · rw [List.append_assoc]
          exact outputs
        · rw [List.append_nil]
          exact extended
    · cases hs
  | errorCopier =>
    obtain ⟨rfl, stands⟩ := kept
    simp only [CommandDelivery.step] at hs
    split at hs
    · rename_i output piece errors status stage
      cases hs
      rw [stage] at stands
      cases stands with
      | copying fresh of carries outputs extended =>
        refine ⟨rfl, .copying fresh of (carries.append (Carries.extendedData piece)) ?_ ?_⟩
        · rw [List.append_nil]
          exact outputs
        · rw [List.append_assoc]
          exact extended
    · cases hs

/-! ### Coming to an end -/

/-- How many steps are left of a command's input. -/
def inputLeft (i : CommandInput) : Nat :=
  i.toCome.length + if i.pumping then 1 else 0

/-- How many steps are left of a delivery, the input apart. -/
def stageLeft : CommandStage → Nat
  | .starting (.failed _) => 6
  | .starting (.running output errors _) => output.length + errors.length + 8
  | .copying output errors _ => output.length + errors.length + 6
  | .ending e => e.left

/-- How many steps are left of a delivery, at most. -/
def left (d : CommandDelivery) : Nat :=
  stageLeft d.stage + inputLeft d.input

theorem inputLeft_step {i i' : CommandInput} {refused : Bool} (hs : i.step refused = some i') :
    inputLeft i' < inputLeft i := by
  unfold CommandInput.step at hs
  split at hs
  · cases hs
  · rename_i stopped
    have pumping : i.pumping = true := by simpa using stopped
    split at hs
    · cases hs
      simp [inputLeft, pumping]
    · rename_i toCome
      split at hs
      · cases hs
        simp [inputLeft, pumping]
      · cases hs
        simp [inputLeft, pumping, toCome]

/-- The input has no more to be done when it is not pumped. -/
theorem inputLeft_stopped (i : CommandInput) :
    inputLeft { i with pumping := false } ≤ inputLeft i := by
  simp [inputLeft]

theorem inputLeft_pumping (i : CommandInput) :
    inputLeft { i with pumping := true } ≤ inputLeft i + 1 := by
  simp [inputLeft]

theorem Kept.left_stepRunner (kept : Kept program started d) (hs : d.stepRunner = some d') :
    d'.left < d.left := by
  obtain ⟨_, stage, input, closer, sent⟩ := d
  obtain ⟨rfl, stands⟩ := kept
  dsimp only at stands
  cases stands with
  | starting fresh =>
    cases started with
    | failed why =>
      cases hs
      simp only [left, stageLeft, Ending.left]
      omega
    | running output errors status =>
      cases hs
      have more := inputLeft_pumping input
      simp only [left, stageLeft]
      omega
  | @copying _ _ output errors restOutput restErrors status =>
    cases restOutput with
    | cons piece rest => cases hs
    | nil =>
      cases restErrors with
      | cons piece rest => cases hs
      | nil =>
        cases hs
        have less := inputLeft_stopped input
        simp only [left, stageLeft, Ending.left, List.length_nil]
        omega
  | ending outputs proper =>
    simp only [CommandDelivery.stepRunner] at hs
    split at hs
    · rename_i step
      cases hs
      exact Nat.add_lt_add_right (proper.step step).2.2 _
    · cases hs

/-- **Every step leaves less to be done.** -/
theorem Kept.left_step {task : CommandTask} (kept : Kept program started d)
    (hs : d.step task = some d') : d'.left < d.left := by
  cases task with
  | runner => exact kept.left_stepRunner hs
  | inputPump refused =>
    obtain ⟨input, step, rfl⟩ := Option.map_eq_some_iff.mp hs
    exact Nat.add_lt_add_left (inputLeft_step step) _
  | outputCopier | errorCopier =>
    simp only [CommandDelivery.step] at hs
    split at hs
    · rename_i stage
      cases hs
      simp only [left, stage, stageLeft, List.length_cons]
      omega
    · cases hs

/-- **When no task can go on the client has been told everything.** -/
theorem Stands.told (stands : Stands program started d.stage d.closer d.sent)
    (stuck : ∀ task, d.step task = none) : started.Told program d.sent := by
  obtain ⟨_, stage, input, closer, sent⟩ := d
  have runner : stepRunner _ = none := stuck .runner
  dsimp only at stands
  cases stands with
  | starting =>
    cases started with
    | failed why => cases runner
    | running output errors status => cases runner
  | @copying _ _ output errors restOutput restErrors status =>
    cases restOutput with
    | cons piece rest => cases stuck .outputCopier
    | nil =>
      cases restErrors with
      | cons piece rest => cases stuck .errorCopier
      | nil => cases runner
  | ending outputs proper =>
    simp only [stepRunner] at runner
    split at runner
    · cases runner
    · rename_i rests
      exact ⟨_, outputs, congrArg _ (proper.sent_of_stuck rests)⟩

/-- What holds of every run of a delivery that begins so. -/
theorem Kept.run {schedule : List CommandTask} (kept : Kept program started d)
    (hr : d.run schedule = some d') :
    Kept program started d' ∧ schedule.length + d'.left ≤ d.left := by
  induction schedule generalizing d with
  | nil =>
    cases hr
    exact ⟨kept, by simp⟩
  | cons task rest ih =>
    obtain ⟨d₁, step, run⟩ := Option.bind_eq_some_iff.mp hr
    obtain ⟨kept', left'⟩ := ih (kept.step step) run
    have less := kept.left_step step
    refine ⟨kept', ?_⟩
    rw [List.length_cons]
    omega

end CommandDelivery

/-! ## Shells -/

namespace ShellDelivery

variable {output : List Bytes} {status : Nat} {d d' : ShellDelivery}

/-- The client has been sent everything: all that the terminal gave, and the end. -/
def Told (output : List Bytes) (status : Nat) (sent : List Outgoing) : Prop :=
  ∃ relayed, Carries relayed output.flatten [] ∧ sent = relayed ++ parting status

/-- Where the delivery of a shell's output stands, by what waits to be sent, what is still to
be read and what has been sent. -/
inductive Stands (output : List Bytes) (status : Nat) :
    SenderStage → Bool → List Bytes → List Bytes → Closer → List Outgoing → Prop where
  /-- What has been sent, what waits and what is still to be read make up the output. -/
  | relaying {readEnded : Bool} {waiting toRead : List Bytes} {c : Closer} {sent : List Outgoing}
      {plain : Bytes} (fresh : c.marked = false) (carries : Carries sent plain [])
      (outputs : plain ++ waiting.flatten ++ toRead.flatten = output.flatten)
      (ended : readEnded = true → toRead = []) :
      Stands output status .relaying readEnded waiting toRead c sent
  | awaitingExit {readEnded : Bool} {waiting toRead : List Bytes} {c : Closer}
      {sent : List Outgoing} (fresh : c.marked = false) (carries : Carries sent output.flatten []) :
      Stands output status .awaitingExit readEnded waiting toRead c sent
  | ending {readEnded : Bool} {waiting toRead : List Bytes} {c : Closer} {relayed : List Outgoing}
      {e : Ending} (carries : Carries relayed output.flatten []) (proper : e.IsProper status c) :
      Stands output status (.ending e) readEnded waiting toRead c (relayed ++ e.sent status)

/-- A delivery that stands so, of a shell that exits with this status. -/
structure Kept (output : List Bytes) (status : Nat) (d : ShellDelivery) : Prop where
  willExit : d.willExit = status
  exited : ∀ s, d.exited = some s → s = status
  stands : Stands output status d.stage d.readEnded d.waiting d.toRead d.closer d.sent

/-- What has been sent is the beginning of what the client is told. -/
theorem Stands.goesOn {stage : SenderStage} {readEnded : Bool} {waiting toRead : List Bytes}
    {c : Closer} {sent : List Outgoing}
    (stands : Stands output status stage readEnded waiting toRead c sent) :
    ∃ rest, Told output status (sent ++ rest) := by
  cases stands with
  | @relaying _ _ _ _ _ plain fresh carries outputs ended =>
    have whole := carries.append (Carries.pieces (waiting ++ toRead) [])
    rw [List.flatten_append, ← List.append_assoc plain, outputs] at whole
    exact ⟨_, _, whole, (List.append_assoc _ _ _).symm⟩
  | awaitingExit fresh carries => exact ⟨_, _, carries, rfl⟩
  | ending carries proper =>
    obtain ⟨rest, whole⟩ := Ending.sent_isPrefix status _
    exact ⟨rest, _, carries, by rw [List.append_assoc, whole]⟩

theorem Kept.make (output : List Bytes) (status : Nat) (input : List Bytes) :
    Kept output status (make output status input) where
  willExit := rfl
  exited := nofun
  stands := .relaying rfl Carries.nil rfl nofun

/-- The task that reads the terminal moves a piece from what is still to be read to what
waits. -/
theorem Kept.stepReader (kept : Kept output status d) (hs : d.stepReader = some d') :
    Kept output status d' := by
  obtain ⟨toRead, waiting, readEnded, willExit, exited, input, stage, closer, sent⟩ := d
  obtain ⟨exits, exited_eq, stands⟩ := kept
  dsimp only at stands
  simp only [ShellDelivery.stepReader] at hs
  split at hs
  · cases hs
  · rename_i unended
    split at hs
    · cases hs
      refine ⟨exits, exited_eq, ?_⟩
      cases stands with
      | relaying fresh carries outputs => exact .relaying fresh carries outputs fun _ => rfl
      | awaitingExit fresh carries => exact .awaitingExit fresh carries
      | ending carries proper => exact .ending carries proper
    · split at hs
      · rename_i piece rest room
        cases hs
        refine ⟨exits, exited_eq, ?_⟩
        cases stands with
        | relaying fresh carries outputs ended =>
          refine .relaying fresh carries ?_ fun still => absurd still unended
          rw [← outputs]
          simp
        | awaitingExit fresh carries => exact .awaitingExit fresh carries
        | ending carries proper => exact .ending carries proper
      · cases hs

/-- The task that sends to the client asks for the exit status when nothing is left. -/
theorem Kept.stepSender (kept : Kept output status d) (hs : d.stepSender = some d') :
    Kept output status d' := by
  obtain ⟨toRead, waiting, readEnded, willExit, exited, input, stage, closer, sent⟩ := d
  obtain ⟨exits, exited_eq, stands⟩ := kept
  dsimp only at stands exited_eq
  cases stands with
  | relaying fresh carries outputs ended =>
    cases waiting with
    | cons piece rest =>
      cases hs
      refine ⟨exits, exited_eq, .relaying fresh (carries.append (Carries.data piece)) ?_ ended⟩
      rw [← outputs]
      simp
    | nil =>
      simp only [ShellDelivery.stepSender] at hs
      split at hs
      · rename_i readEnded
        cases hs
        refine ⟨exits, exited_eq, .awaitingExit fresh ?_⟩
        rw [ended readEnded] at outputs
        rw [← outputs]
        simpa using carries
      · cases hs
  | awaitingExit fresh carries =>
    cases exited with
    | none => cases hs
    | some s =>
      cases hs
      refine ⟨exits, exited_eq, ?_⟩
      have due : (Ending.statusDue s).IsProper status closer := ⟨exited_eq s rfl, fresh⟩
      have stands : Stands output status (.ending (.statusDue s)) readEnded waiting toRead closer
          (sent ++ Ending.sent status (.statusDue s)) := .ending carries due
      rw [Ending.sent, List.append_nil] at stands
      exact stands
  | ending carries proper =>
    simp only [ShellDelivery.stepSender] at hs
    split at hs
    · rename_i step
      cases hs
      obtain ⟨proper', told, -⟩ := proper.step step
      refine ⟨exits, exited_eq, ?_⟩
      dsimp only
      rw [List.append_assoc, ← told]
      exact .ending carries proper'
    · cases hs

/-- **Every task keeps the account.** -/
theorem Kept.step {task : ShellTask} (kept : Kept output status d) (hs : d.step task = some d') :
    Kept output status d' := by
  cases task with
  | reader => exact kept.stepReader hs
  | sender => exact kept.stepSender hs
  | waiter =>
    simp only [ShellDelivery.step] at hs
    split at hs
    · cases hs
    · cases hs
      refine ⟨kept.willExit, ?_, kept.stands⟩
      rintro s ⟨⟩
      exact kept.willExit
  | inputReader =>
    obtain ⟨input, -, rfl⟩ := Option.map_eq_some_iff.mp hs
    exact ⟨kept.willExit, kept.exited, kept.stands⟩
  | inputWriter refused =>
    obtain ⟨input, -, rfl⟩ := Option.map_eq_some_iff.mp hs
    exact ⟨kept.willExit, kept.exited, kept.stands⟩

/-! ### Coming to an end -/

/-- How many steps are left of a shell's input, at most. -/
def inputLeft (i : ShellInput) : Nat :=
  2 * i.toCome.length + i.waiting.length + i.reading.toNat + i.writing.toNat

/-- How many steps are left of sending when nothing waits. -/
def stageLeft : SenderStage → Nat
  | .relaying => 7
  | .awaitingExit => 6
  | .ending e => e.left

/-- How many steps are left of a delivery, at most. -/
def left (d : ShellDelivery) : Nat :=
  2 * d.toRead.length + d.waiting.length + (!d.readEnded).toNat + d.exited.isNone.toNat +
    stageLeft d.stage + inputLeft d.input

theorem inputLeft_stepReader {i i' : ShellInput} (hs : i.stepReader = some i') :
    inputLeft i' < inputLeft i := by
  unfold ShellInput.stepReader at hs
  split at hs
  · cases hs
  · rename_i stopped
    have reading : i.reading = true := by simpa using stopped
    split at hs
    · cases hs
      simp [inputLeft, reading]
    · rename_i toCome
      split at hs
      · cases hs
        simp [inputLeft, reading]
      · split at hs
        · cases hs
          simp only [inputLeft, toCome, List.length_append, List.length_cons, List.length_nil]
          omega
        · cases hs

theorem inputLeft_stepWriter {i i' : ShellInput} {refused : Bool}
    (hs : i.stepWriter refused = some i') : inputLeft i' < inputLeft i := by
  unfold ShellInput.stepWriter at hs
  split at hs
  · cases hs
  · rename_i stopped
    have writing : i.writing = true := by simpa using stopped
    split at hs
    · split at hs
      · cases hs
      · cases hs
        simp [inputLeft, writing]
    · rename_i waiting
      split at hs
      · cases hs
        simp only [inputLeft, writing, waiting, List.length_cons, List.length_nil, Bool.toNat_true,
          Bool.toNat_false]
        omega
      · cases hs
        simp [inputLeft, waiting]

/-- The input has no more to be done when it is not read. -/
theorem inputLeft_stopped (i : ShellInput) : inputLeft { i with reading := false } ≤ inputLeft i := by
  simp [inputLeft]

theorem left_stepReader (hs : d.stepReader = some d') : d'.left < d.left := by
  unfold ShellDelivery.stepReader at hs
  split at hs
  · cases hs
  · rename_i unended
    split at hs
    · cases hs
      simp [left, unended]
    · rename_i toRead
      split at hs
      · cases hs
        simp only [left, toRead, List.length_append, List.length_cons, List.length_nil]
        omega
      · cases hs

theorem Kept.left_stepSender (kept : Kept output status d) (hs : d.stepSender = some d') :
    d'.left < d.left := by
  obtain ⟨toRead, waiting, readEnded, willExit, exited, input, stage, closer, sent⟩ := d
  obtain ⟨exits, exited_eq, stands⟩ := kept
  dsimp only at stands
  cases stands with
  | relaying =>
    cases waiting with
    | cons piece rest =>
      cases hs
      simp only [left, List.length_cons]
      omega
    | nil =>
      simp only [ShellDelivery.stepSender] at hs
      split at hs
      · cases hs
        have less := inputLeft_stopped input
        simp only [left, stageLeft]
        omega
      · cases hs
  | awaitingExit =>
    cases exited with
    | none => cases hs
    | some s =>
      cases hs
      simp only [left, stageLeft, Ending.left]
      omega
  | ending carries proper =>
    simp only [ShellDelivery.stepSender] at hs
    split at hs
    · rename_i step
      cases hs
      have less := (proper.step step).2.2
      simp only [left, stageLeft]
      omega
    · cases hs

/-- **Every step leaves less to be done.** -/
theorem Kept.left_step {task : ShellTask} (kept : Kept output status d)
    (hs : d.step task = some d') : d'.left < d.left := by
  cases task with
  | reader => exact left_stepReader hs
  | sender => exact kept.left_stepSender hs
  | waiter =>
    simp only [ShellDelivery.step] at hs
    split at hs
    · cases hs
    · rename_i running
      have unknown : d.exited = none := by simpa using running
      cases hs
      simp [left, unknown]
  | inputReader =>
    obtain ⟨input, step, rfl⟩ := Option.map_eq_some_iff.mp hs
    exact Nat.add_lt_add_left (inputLeft_stepReader step) _
  | inputWriter refused =>
    obtain ⟨input, step, rfl⟩ := Option.map_eq_some_iff.mp hs
    exact Nat.add_lt_add_left (inputLeft_stepWriter step) _

/-- **When no task can go on the client has been told everything.** A sender that has nothing
to send waits for the reader, which then has room for the next piece, or for the exit. -/
theorem Stands.told
    (stands : Stands output status d.stage d.readEnded d.waiting d.toRead d.closer d.sent)
    (stuck : ∀ task, d.step task = none) : Told output status d.sent := by
  obtain ⟨toRead, waiting, readEnded, willExit, exited, input, stage, closer, sent⟩ := d
  have reader : stepReader _ = none := stuck .reader
  have sender : stepSender _ = none := stuck .sender
  dsimp only at stands
  cases stands with
  | relaying =>
    cases waiting with
    | cons piece rest => cases sender
    | nil =>
      cases readEnded with
      | true => cases sender
      | false =>
        cases toRead with
        | nil => cases reader
        | cons piece rest => cases reader
  | awaitingExit =>
    cases exited with
    | none => cases stuck .waiter
    | some s => cases sender
  | ending carries proper =>
    simp only [stepSender] at sender
    split at sender
    · cases sender
    · rename_i rests
      exact ⟨_, carries, congrArg _ (proper.sent_of_stuck rests)⟩

/-- What holds of every run of a delivery that begins so. -/
theorem Kept.run {schedule : List ShellTask} (kept : Kept output status d)
    (hr : d.run schedule = some d') :
    Kept output status d' ∧ schedule.length + d'.left ≤ d.left := by
  induction schedule generalizing d with
  | nil =>
    cases hr
    exact ⟨kept, by simp⟩
  | cons task rest ih =>
    obtain ⟨d₁, step, run⟩ := Option.bind_eq_some_iff.mp hr
    obtain ⟨kept', left'⟩ := ih (kept.step step) run
    have less := kept.left_step step
    refine ⟨kept', ?_⟩
    rw [List.length_cons]
    omega

end ShellDelivery

/-! ## Every schedule -/

/-- **A channel ends in order, and once.** Whatever schedule its tasks follow and whatever input
the client sends, what a command's or a shell's client has been sent is the beginning of all its
output, the exit status, the end of output and the close; it is the whole of it as soon as no
task can go on; and this comes about after a number of steps that is known at the start. -/
theorem end_in_order :
    (∀ (program : String) (started : Started) (input : List Bytes) (schedule : List CommandTask)
        (d : CommandDelivery),
      (CommandDelivery.make program started input).run schedule = some d →
        (∃ rest, started.Told program (d.sent ++ rest)) ∧
        ((∀ task, d.step task = none) → started.Told program d.sent) ∧
        schedule.length ≤ (CommandDelivery.make program started input).left) ∧
    (∀ (output : List Bytes) (status : Nat) (input : List Bytes) (schedule : List ShellTask)
        (d : ShellDelivery),
      (ShellDelivery.make output status input).run schedule = some d →
        (∃ rest, ShellDelivery.Told output status (d.sent ++ rest)) ∧
        ((∀ task, d.step task = none) → ShellDelivery.Told output status d.sent) ∧
        schedule.length ≤ (ShellDelivery.make output status input).left) := by
  constructor
  · intro program started input schedule d hr
    obtain ⟨kept, left⟩ := (CommandDelivery.Kept.make program started input).run hr
    exact ⟨kept.stands.goesOn, kept.stands.told, by omega⟩
  · intro output status input schedule d hr
    obtain ⟨kept, left⟩ := (ShellDelivery.Kept.make output status input).run hr
    exact ⟨kept.stands.goesOn, kept.stands.told, by omega⟩

/-- A command whose errors are copied first and whose input is pumped after its output has
ended, and a shell that exits before its output has been read. -/
theorem end_in_order_late :
    (∃ d, (CommandDelivery.make "sh" (.running [[104], [105]] [[33]] none) [[120]]).run
        [.runner, .errorCopier, .outputCopier, .outputCopier, .inputPump false, .runner, .runner,
          .runner, .runner, .runner, .runner] = some d ∧
      d.sent = [.extendedData [33], .data [104], .data [105], .exitStatus 255, .eof, .close] ∧
      (Started.running [[104], [105]] [[33]] none).Told "sh" d.sent) ∧
    (∃ d, (ShellDelivery.make [[36], [32]] 3 [[120]]).run
        [.waiter, .reader, .inputReader, .reader, .sender, .reader, .sender, .sender,
          .inputWriter false, .inputWriter false, .sender, .sender, .sender, .sender, .sender,
          .sender] = some d ∧
      d.sent = [.data [36], .data [32], .exitStatus 3, .eof, .close] ∧
      ShellDelivery.Told [[36], [32]] 3 d.sent) := by
  constructor
  · have stops := (end_in_order.1 "sh" (.running [[104], [105]] [[33]] none) [[120]]
      [.runner, .errorCopier, .outputCopier, .outputCopier, .inputPump false, .runner, .runner,
        .runner, .runner, .runner, .runner] _ rfl).2.1
    refine ⟨_, rfl, rfl, stops fun task => ?_⟩
    cases task <;> rfl
  · have stops := (end_in_order.2 [[36], [32]] 3 [[120]]
      [.waiter, .reader, .inputReader, .reader, .sender, .reader, .sender, .sender,
        .inputWriter false, .inputWriter false, .sender, .sender, .sender, .sender, .sender,
        .sender] _ rfl).2.1
    refine ⟨_, rfl, rfl, stops fun task => ?_⟩
    cases task <;> rfl

end ShellGateway.Daemon
