import ShellGateway.Remote.OneShot

/-!
# Output and channels of commands that are run once

Of the messages that arrive for a command, those before its channel is closed are heard
(`heard`), and these decide what the command comes to (`collect_eq`): a refusal among them is
a failure, and without one their output is the command's, as it came.

Two results follow.

- *Output is a matter of bytes.* A message tells its output byte by byte, or that the command
  is refused, or that the channel is closed; of most messages it tells nothing
  (`Message.signals`). Messages that tell the same come to the same, whatever pieces the
  output arrived in and whatever arrived between them: `command_output`.
- *A refused command leaves its channel open.* The run ends at once, and nobody closes the
  channel. Commands that are run on one connection leave behind as many channels as were
  refused or could not be sent: `channels_left`, `refused_left_open`.
-/

namespace ShellGateway.Remote

/-! ## What messages tell -/

/-- The output that comes with a message. -/
def Message.output (m : Message) : Bytes :=
  m.payload?.getD []

/-- What is told of a command while it runs. -/
inductive Signal where
  | byte (b : UInt8)
  | refusal
  | closing
  deriving DecidableEq, Repr

/-- The byte of output that is told. -/
def Signal.byte? : Signal → Option UInt8
  | byte b => some b
  | refusal | closing => none

/-- What a message tells. -/
def Message.signals : Message → List Signal
  | failure => [.refusal]
  | close => [.closing]
  | m => m.output.map .byte

/-- The messages that arrive before the channel is closed. -/
def heard (messages : List Message) : List Message :=
  messages.takeWhile (· ≠ .close)

namespace Message

variable {m : Message}

theorem refusal_mem_signals_iff : .refusal ∈ m.signals ↔ m = .failure := by
  cases m <;> simp [signals]

theorem closing_mem_signals_iff : .closing ∈ m.signals ↔ m = .close := by
  cases m <;> simp [signals]

/-- What a message tells of output is its output. -/
theorem filterMap_signals (m : Message) : m.signals.filterMap Signal.byte? = m.output := by
  have bytes : ∀ output : Bytes, (output.map Signal.byte).filterMap Signal.byte? = output := by
    intro output
    rw [List.filterMap_map]
    exact List.filterMap_some
  cases m with
  | failure | close => rfl
  | _ => exact bytes _

end Message

section Signals

variable (messages : List Message)

theorem refusal_mem_iff : .refusal ∈ messages.flatMap Message.signals ↔ .failure ∈ messages := by
  simp only [List.mem_flatMap, Message.refusal_mem_signals_iff, exists_eq_right]

theorem closing_mem_iff : .closing ∈ messages.flatMap Message.signals ↔ .close ∈ messages := by
  simp only [List.mem_flatMap, Message.closing_mem_signals_iff, exists_eq_right]

theorem filterMap_flatMap_signals :
    (messages.flatMap Message.signals).filterMap Signal.byte? = messages.flatMap Message.output := by
  rw [List.filterMap_flatMap]
  exact congrArg (messages.flatMap ·) (funext Message.filterMap_signals)

/-- What is heard is what is told before a closing is. -/
theorem flatMap_signals_heard : (heard messages).flatMap Message.signals =
    (messages.flatMap Message.signals).takeWhile (· ≠ .closing) := by
  unfold heard
  induction messages with
  | nil => rfl
  | cons m rest ih =>
    by_cases closed : m = .close
    · subst closed
      rfl
    · have quiet : ∀ s ∈ m.signals, decide (s ≠ Signal.closing) = true := by
        intro s hs
        refine decide_eq_true ?_
        rintro rfl
        exact closed (Message.closing_mem_signals_iff.mp hs)
      have still : decide (m ≠ Message.close) = true := decide_eq_true closed
      rw [List.takeWhile_cons, if_pos still, List.flatMap_cons, List.flatMap_cons,
        List.takeWhile_append_of_pos quiet, ih]

end Signals

namespace OneShot

/-! ## One command -/

/-- **What is heard decides.** A refusal ends the run and leaves the channel to itself;
otherwise the output is added to what has been collected, and the channel is closed. -/
theorem collect_eq (command : String) (collected : Bytes) (messages : List Message) :
    collect command collected messages =
      if .failure ∈ heard messages then ⟨.error (refused command), false, false⟩
      else ⟨.ok (collected ++ (heard messages).flatMap Message.output), true,
        decide (.close ∈ messages)⟩ := by
  unfold heard
  induction messages generalizing collected with
  | nil => simp [collect]
  | cons m rest ih =>
    cases m with
    | close => simp [collect]
    | failure => simp [collect]
    | data bytes | extendedData code bytes =>
      simp [collect, ih, Message.output, Message.payload?]
    | success | exitStatus status | eof | other =>
      simp [collect, ih, Message.output, Message.payload?]

/-- A command fails if its refusal is heard, and only then. -/
theorem run_fails_iff (command : String) (messages : List Message) :
    (∃ why, (run command messages).result = .error why) ↔ .failure ∈ heard messages := by
  have decided : run command messages = _ := collect_eq command [] messages
  rw [decided]
  by_cases refusal : .failure ∈ heard messages
  · rw [if_pos refusal]
    exact ⟨fun _ => refusal, fun _ => ⟨_, rfl⟩⟩
  · rw [if_neg refusal]
    exact ⟨nofun, fun h => absurd h refusal⟩

/-- What a command comes to, as the messages tell it. -/
theorem run_eq (command : String) (messages : List Message) :
    let told := (messages.flatMap Message.signals).takeWhile (· ≠ .closing)
    run command messages =
      if .refusal ∈ told then ⟨.error (refused command), false, false⟩
      else ⟨.ok (told.filterMap Signal.byte?), true,
        decide (.closing ∈ messages.flatMap Message.signals)⟩ := by
  intro told
  have asHeard : told = (heard messages).flatMap Message.signals :=
    (flatMap_signals_heard messages).symm
  rw [asHeard]
  simp only [refusal_mem_iff, closing_mem_iff, filterMap_flatMap_signals]
  exact collect_eq command [] messages

/-- **A command fails if its refusal is heard, and has all output that is heard otherwise**,
in the order in which it arrived. Nothing else about the messages matters: not the pieces that
the output comes in, nor its kind, nor what else arrives between them. -/
theorem command_output (command : String) (messages : List Message) :
    ((∃ why, (run command messages).result = .error why) ↔ .failure ∈ heard messages) ∧
      (∀ why, (run command messages).result = .error why →
        why.kind = .process ∧ why = refused command) ∧
      (.failure ∉ heard messages →
        (run command messages).result = .ok ((heard messages).flatMap Message.output)) ∧
      ∀ others : List Message,
        others.flatMap Message.signals = messages.flatMap Message.signals →
          run command others = run command messages := by
  have decided : run command messages = _ := collect_eq command [] messages
  refine ⟨run_fails_iff command messages, fun why failed => ?_, fun accepted => ?_,
    fun others same => ?_⟩
  · rw [decided] at failed
    by_cases refusal : .failure ∈ heard messages
    · rw [if_pos refusal] at failed
      cases failed
      exact ⟨rfl, rfl⟩
    · rw [if_neg refusal] at failed
      cases failed
  · rw [decided, if_neg accepted]
    rfl
  · have told := run_eq command others
    rw [same] at told
    exact told.trans (run_eq command messages).symm

/-- Output comes in pieces and of both kinds, some of it after the command has ended, and a
refusal after the channel is closed. -/
theorem command_output_pieces :
    let messages : List Message :=
      [.success, .data [104], .exitStatus 0, .extendedData 1 [105, 10], .eof, .close, .failure]
    let others : List Message := [.data [104, 105], .other, .extendedData 7 [10], .close, .failure]
    .failure ∉ heard messages ∧
      others.flatMap Message.signals = messages.flatMap Message.signals ∧
      (run "greet" messages).result = .ok [104, 105, 10] ∧
      run "greet" others = run "greet" messages := by
  intro messages others
  have accepted : .failure ∉ heard messages := by decide
  have same : others.flatMap Message.signals = messages.flatMap Message.signals := by decide
  obtain ⟨-, -, output, alike⟩ := command_output "greet" messages
  exact ⟨accepted, same, output accepted, alike others same⟩

/-! ## Commands on one connection -/

/-- The command gets a channel that nobody closes: it is not sent, or it is refused. -/
def Attempt.abandons (a : Attempt) : Bool :=
  a.openFault.isNone && (a.sendFault.isSome || decide (.failure ∈ heard a.messages))

namespace Channels

variable (c : Channels)

/-- A channel that is closed as soon as it is opened leaves the others as they are. -/
theorem close_take : (c.take.2.close c.take.1).live = c.live := by
  have others : c.live.filter (· ≠ c.opened) = c.live := by
    refine List.filter_eq_self.mpr fun n hn => decide_eq_true ?_
    exact Nat.ne_of_lt (c.numbered n hn)
  show (c.live ++ [c.opened]).filter (· ≠ c.opened) = c.live
  rw [List.filter_append, others]
  simp

/-- What a command does to the channels of its connection. -/
theorem live_exec (a : Attempt) :
    (c.exec a).2.live = if a.abandons then c.live ++ [c.opened] else c.live := by
  unfold exec Attempt.abandons
  cases a.openFault with
  | some detail => rfl
  | none =>
    cases a.sendFault with
    | some detail => rfl
    | none =>
      have decided : run a.command a.messages = _ := collect_eq a.command [] a.messages
      by_cases refusal : .failure ∈ heard a.messages
      · simp only [decided, if_pos refusal, decide_eq_true refusal]
        rfl
      · simp only [decided, if_neg refusal, decide_eq_false refusal]
        exact c.close_take

/-- A command that gets a channel fails if the channel stays open. -/
theorem exec_fails_iff {a : Attempt} (opened : a.openFault = none) :
    (∃ why, (c.exec a).1 = .error why) ↔ a.abandons = true := by
  unfold exec Attempt.abandons
  rw [opened]
  cases a.sendFault with
  | some detail => exact ⟨fun _ => rfl, fun _ => ⟨_, rfl⟩⟩
  | none => simpa using run_fails_iff a.command a.messages

/-- **Each command leaves one channel open, or none.** -/
theorem live_execAll (attempts : List Attempt) :
    c.live <+: (c.execAll attempts).2.live ∧
      (c.execAll attempts).2.live.length = c.live.length + attempts.countP Attempt.abandons := by
  induction attempts generalizing c with
  | nil => exact ⟨List.prefix_refl _, rfl⟩
  | cons a rest ih =>
    obtain ⟨kept, count⟩ := ih (c.exec a).2
    show c.live <+: ((c.exec a).2.execAll rest).2.live ∧
      ((c.exec a).2.execAll rest).2.live.length = _
    rw [count, List.countP_cons]
    rw [live_exec] at kept ⊢
    split at kept
    · rename_i abandons
      refine ⟨(List.prefix_append _ _).trans kept, ?_⟩
      rw [if_pos abandons, List.length_append, List.length_singleton, if_pos abandons]
      omega
    · rename_i closed
      refine ⟨kept, ?_⟩
      rw [if_neg closed, if_neg closed]
      rfl

end Channels

/-- **Refused commands leave their channels open.** Commands that are run on one connection
close no channel but their own, and each that fails after it has got its channel leaves that
one open. So when all could be sent, no channel is left behind if none was refused, and only
then. -/
theorem channels_left (c : Channels) (attempts : List Attempt) :
    let after := (c.execAll attempts).2
    c.live <+: after.live ∧
      after.live.length = c.live.length + attempts.countP Attempt.abandons ∧
      (∀ a ∈ attempts, a.openFault = none →
        ((∃ why, (c.exec a).1 = .error why) ↔ a.abandons = true)) ∧
      ((∀ a ∈ attempts, a.openFault = none ∧ a.sendFault = none) →
        (after.live = c.live ↔ ∀ a ∈ attempts, .failure ∉ heard a.messages)) := by
  intro after
  obtain ⟨kept, count⟩ := c.live_execAll attempts
  refine ⟨kept, count, fun a _ opened => c.exec_fails_iff opened, fun sent => ?_⟩
  have closes : ∀ a ∈ attempts, (¬ a.abandons = true ↔ .failure ∉ heard a.messages) := by
    intro a ha
    unfold Attempt.abandons
    rw [(sent a ha).1, (sent a ha).2]
    simp
  calc after.live = c.live
      ↔ after.live.length = c.live.length :=
        ⟨congrArg List.length, fun same => (kept.eq_of_length same.symm).symm⟩
    _ ↔ attempts.countP Attempt.abandons = 0 := by rw [count, Nat.add_eq_left]
    _ ↔ ∀ a ∈ attempts, .failure ∉ heard a.messages := by
        rw [List.countP_eq_zero]
        exact forall₂_congr closes

/-- A command that runs, and one that the remote host has no use for. -/
def mixed : List Attempt :=
  [{ command := "true", messages := [.success, .exitStatus 0, .close] },
    { command := "id", messages := [.data [104], .failure, .close] }]

theorem channels_left_mixed :
    (∀ a ∈ mixed, a.openFault = none ∧ a.sendFault = none) ∧
      (Channels.start.execAll mixed).2.live ≠ Channels.start.live ∧
      (Channels.start.execAll mixed).2.live.length = 1 := by
  have sent : ∀ a ∈ mixed, a.openFault = none ∧ a.sendFault = none := by decide
  obtain ⟨-, count, -, iff⟩ := channels_left Channels.start mixed
  refine ⟨sent, fun same => ?_, count⟩
  exact absurd ((iff sent).mp same) (by decide)

/-- **One refusal, and a channel stays open** on the connection. -/
theorem refused_left_open :
    ¬ ∀ (c : Channels) (attempts : List Attempt),
      (∀ a ∈ attempts, a.openFault = none ∧ a.sendFault = none) →
        (c.execAll attempts).2.live = c.live := by
  intro released
  have none := released .start [{ command := "id", messages := [.failure] }] (by decide)
  exact absurd none (by decide)

end OneShot

end ShellGateway.Remote
