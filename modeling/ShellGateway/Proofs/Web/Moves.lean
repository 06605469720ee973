import Mathlib.Algebra.GroupWithZero.Nat
import ShellGateway.Proofs.Terminal.Transparency
import ShellGateway.Web.Connection

/-!
# The moves of a web terminal

`step_iff` says once what each move of a connection does and when it can be made (`Shape`), from
when the shell has been started (`Stage.InCourse`). A relay that is writing output makes no other
move; what it relays it meets while it relays, and at no other time.

Every move spends some of the work that is left (`Shape.work_lt`): a byte has so many hops to go, a
script so many words, and each party so many stages. So nobody moves for ever.
-/

namespace ShellGateway

open Terminal (Stage)

/-! ## What the relay does -/

/-- The stages of a terminal from when its shell has been started. -/
inductive Terminal.Stage.InCourse : Stage → Prop where
  | attaching : InCourse .attaching
  | relaying : InCourse .relaying
  | shuttingDown (result : Except Failure Unit) : InCourse (.shuttingDown result true)
  | closing (result : Except Failure Unit) : InCourse (.closing result)
  | ended (how : Programs.TaskEnd (Except Failure Unit)) : InCourse (.ended how)

namespace TerminalTask

variable {t t' : TerminalTask} {e : Terminal.Event}

theorem step_attached_iff (course : t.stage.InCourse) :
    t.step .attached = some t' ↔ t.stage = .attaching ∧ t' = { t with stage := .relaying } := by
  obtain ⟨terminal, stage, written, sent, forwarded, activities, shutdowns, closes⟩ := t
  cases course with
  | attaching => simp [step, end?, advance, eq_comm]
  | relaying => simp [step, end?, advance, stepRelaying]
  | shuttingDown | closing | ended => simp [step, end?, advance]

/-- What is relayed is met by a terminal that relays, and by no other. -/
theorem step_relayed_iff (course : t.stage.InCourse) (here : e.isRelayed = true) :
    t.step e = some t' ↔ t.stage = .relaying ∧ t' = t.after e := by
  by_cases relaying : t.stage = .relaying
  · rw [step_relaying relaying here, and_iff_right relaying, Option.some.injEq, eq_comm]
  · have nothing : t.step e = none := by
      obtain ⟨terminal, stage, written, sent, forwarded, activities, shutdowns, closes⟩ := t
      cases course with
      | relaying => exact absurd rfl relaying
      | attaching | shuttingDown | closing | ended =>
        cases e <;> first | rfl | cases here
    rw [nothing]
    exact ⟨nofun, fun h => absurd h.1 relaying⟩

theorem stage_after_of_none (goesOn : e.verdict? = none) : (t.after e).stage = t.stage := by
  rw [after, goesOn]

theorem stage_after_of_some {result : Except Failure Unit} (ends : e.verdict? = some result) :
    (t.after e).stage = .shuttingDown result true := by
  rw [after, ends]

/-- Releasing is two steps: the stream is shut down, the channel closed. -/
theorem step_released_iff (course : t.stage.InCourse) :
    t.step (.released false) = some t' ↔
      (∃ result, t.stage = .shuttingDown result true ∧
        t' = { t with stage := .closing result, shutdowns := t.shutdowns + 1 }) ∨
      (∃ result, t.stage = .closing result ∧
        t' = { t with stage := .ended (.finished result), closes := t.closes + 1 }) := by
  obtain ⟨terminal, stage, written, sent, forwarded, activities, shutdowns, closes⟩ := t
  cases course with
  | attaching | ended => simp [step, end?, advance]
  | relaying => simp [step, end?, advance, stepRelaying]
  | shuttingDown => simp [step, end?, advance, eq_comm]
  | closing => simp [step, end?, advance, eq_comm]

end TerminalTask

namespace Web.Connection

variable {c c' : Connection} {m : Move}

/-- What the moves do, and when they can be made. -/
inductive Shape (c : Connection) : Move → Connection → Prop where
  | clientSpeaks {i : Incoming} {rest : List Incoming} (speech : c.client = i :: rest)
    (on : c.inbound.shutdowns = 0) (idle : c.inbound.pending = []) :
    Shape c .clientSpeaks { c with
      client := rest
      inbound := if i.isLast then c.inbound.stop else { c.inbound with pending := i.payload }
      up := { c.up with closed := c.up.closed || i.isLast } }
  | inputWritten {n : Nat} (positive : 0 < n) (enough : n ≤ c.inbound.pending.length)
    (room : c.up.contents.length + n ≤ Pipe.capacity) :
    Shape c (.inputWritten n) { c with
      inbound := { c.inbound with
        pending := c.inbound.pending.drop n
        written := c.inbound.written ++ c.inbound.pending.take n }
      up := { c.up with contents := c.up.contents ++ c.inbound.pending.take n } }
  | relayBegins (idle : c.output = []) (stage : c.relay.stage = .attaching) :
    Shape c .relayBegins { c with relay := { c.relay with stage := .relaying } }
  | relayReads {n : Nat} (positive : 0 < n) (short : n ≤ readLength)
    (enough : n ≤ c.up.contents.length) (idle : c.output = [])
    (stage : c.relay.stage = .relaying) :
    Shape c (.relayReads n) { c with
      relay := c.relay.after (.input (c.up.contents.take n) none)
      up := { c.up with contents := c.up.contents.drop n } }
  | relayReadsEnd (dry : c.up.isDry = true) (idle : c.output = [])
    (stage : c.relay.stage = .relaying) :
    Shape c .relayReadsEnd { c with relay := c.relay.after .inputEnd }
  | remoteSpeaks {m : Option Remote.Message} {rest : List (Option Remote.Message)}
    (speech : c.remote = m :: rest) (idle : c.output = []) (stage : c.relay.stage = .relaying) :
    Shape c .remoteSpeaks { c with
      relay := c.relay.after (spoken m), remote := rest, output := spokenOutput m }
  | outputWritten {n : Nat} (positive : 0 < n) (enough : n ≤ c.output.length)
    (room : c.down.contents.length + n ≤ Pipe.capacity) :
    Shape c (.outputWritten n) { c with
      output := c.output.drop n
      down := { c.down with contents := c.down.contents ++ c.output.take n } }
  | ordered {o : Option (Session.Command × Option String)}
    {rest : List (Option (Session.Command × Option String))} (speech : c.orders = o :: rest)
    (idle : c.output = []) (stage : c.relay.stage = .relaying) :
    Shape c .ordered { c with relay := c.relay.after (order o), orders := rest }
  | shutDown {result : Except Failure Unit} (idle : c.output = [])
    (stage : c.relay.stage = .shuttingDown result true) :
    Shape c .relayReleases { c with
      relay := { c.relay with stage := .closing result, shutdowns := c.relay.shutdowns + 1 }
      down := { c.down with closed := true } }
  | close {result : Except Failure Unit} (idle : c.output = [])
    (stage : c.relay.stage = .closing result) :
    Shape c .relayReleases { c with
      relay := { c.relay with stage := .ended (.finished result), closes := c.relay.closes + 1 }
      down := { c.down with closed := true } }
  | pumpReads {n : Nat} (positive : 0 < n) (short : n ≤ readLength)
    (enough : n ≤ c.down.contents.length) (on : c.outbound.closes = 0)
    (idle : c.outbound.piece = []) :
    Shape c (.pumpReads n) { c with
      down := { c.down with contents := c.down.contents.drop n }
      outbound := { c.outbound with piece := c.down.contents.take n } }
  | pumpReadsEnd (dry : c.down.isDry = true) (on : c.outbound.closes = 0)
    (idle : c.outbound.piece = []) :
    Shape c .pumpReadsEnd { c with outbound := c.outbound.stop }
  | pumpSends (busy : c.outbound.piece ≠ []) :
    Shape c .pumpSends { c with
      outbound := { c.outbound with
        piece := [], sent := c.outbound.sent ++ [.binary c.outbound.piece] } }

theorem spoken_isRelayed (m : Option Remote.Message) : (spoken m).isRelayed = true := by
  cases m <;> rfl

theorem order_isRelayed (o : Option (Session.Command × Option String)) :
    (order o).isRelayed = true := by
  cases o <;> rfl

theorem meet_eq_some {e : Terminal.Event} :
    c.meet e = some c' ↔ c.output = [] ∧ ∃ relay, c.relay.step e = some relay ∧
      c' = { c with relay } := by
  unfold meet
  rw [Option.ite_none_right_eq_some, Option.map_eq_some_iff]
  simp only [eq_comm]

/-- **A connection moves in these ways and in no other.** -/
theorem step_iff (course : c.relay.stage.InCourse) : c.step m = some c' ↔ c.Shape m c' := by
  constructor
  -- A move is made of a step of each party that has a part in it, and is taken apart into these.
  · intro h
    cases m with
    | clientSpeaks =>
      cases speech : c.client with
      | nil => simp [step, speech] at h
      | cons i rest =>
        simp only [step, speech, Option.map_eq_some_iff] at h
        obtain ⟨inbound, stepped, rfl⟩ := h
        obtain ⟨⟨on, idle⟩, ⟨⟩⟩ := Option.ite_none_right_eq_some.mp stepped
        exact .clientSpeaks speech on idle
    | inputWritten n =>
      obtain ⟨inbound, stepped, h⟩ := Option.bind_eq_some_iff.mp h
      obtain ⟨up, written, h⟩ := Option.bind_eq_some_iff.mp h
      obtain ⟨⟨positive, enough⟩, ⟨⟩⟩ := Option.ite_none_right_eq_some.mp stepped
      obtain ⟨room, ⟨⟩⟩ := Option.ite_none_right_eq_some.mp written
      cases h
      rw [List.length_take, Nat.min_eq_left enough] at room
      exact .inputWritten positive enough room
    | relayBegins =>
      obtain ⟨idle, relay, stepped, rfl⟩ := meet_eq_some.mp h
      obtain ⟨stage, rfl⟩ := (TerminalTask.step_attached_iff course).mp stepped
      exact .relayBegins idle stage
    | relayReads n =>
      obtain ⟨⟨chunk, up⟩, read, h⟩ := Option.bind_eq_some_iff.mp h
      obtain ⟨c₁, met, h⟩ := Option.bind_eq_some_iff.mp h
      obtain ⟨⟨positive, short, enough⟩, found⟩ := Option.ite_none_right_eq_some.mp read
      cases found
      obtain ⟨idle, relay, stepped, rfl⟩ := meet_eq_some.mp met
      obtain ⟨stage, rfl⟩ := (TerminalTask.step_relayed_iff course rfl).mp stepped
      cases h
      exact .relayReads positive short enough idle stage
    | relayReadsEnd =>
      obtain ⟨dry, met⟩ := Option.ite_none_right_eq_some.mp h
      obtain ⟨idle, relay, stepped, rfl⟩ := meet_eq_some.mp met
      obtain ⟨stage, rfl⟩ := (TerminalTask.step_relayed_iff course rfl).mp stepped
      exact .relayReadsEnd dry idle stage
    | remoteSpeaks =>
      cases speech : c.remote with
      | nil => simp [step, speech] at h
      | cons m rest =>
        simp only [step, speech, Option.map_eq_some_iff] at h
        obtain ⟨c₁, met, rfl⟩ := h
        obtain ⟨idle, relay, stepped, rfl⟩ := meet_eq_some.mp met
        obtain ⟨stage, rfl⟩ :=
          (TerminalTask.step_relayed_iff course (spoken_isRelayed m)).mp stepped
        exact .remoteSpeaks speech idle stage
    | outputWritten n =>
      obtain ⟨⟨positive, enough⟩, h⟩ := Option.ite_none_right_eq_some.mp h
      obtain ⟨down, written, rfl⟩ := Option.map_eq_some_iff.mp h
      obtain ⟨room, ⟨⟩⟩ := Option.ite_none_right_eq_some.mp written
      rw [List.length_take, Nat.min_eq_left enough] at room
      exact .outputWritten positive enough room
    | ordered =>
      cases speech : c.orders with
      | nil => simp [step, speech] at h
      | cons o rest =>
        simp only [step, speech, Option.map_eq_some_iff] at h
        obtain ⟨c₁, met, rfl⟩ := h
        obtain ⟨idle, relay, stepped, rfl⟩ := meet_eq_some.mp met
        obtain ⟨stage, rfl⟩ :=
          (TerminalTask.step_relayed_iff course (order_isRelayed o)).mp stepped
        exact .ordered speech idle stage
    | relayReleases =>
      obtain ⟨c₁, met, rfl⟩ := Option.map_eq_some_iff.mp h
      obtain ⟨idle, relay, stepped, rfl⟩ := meet_eq_some.mp met
      obtain ⟨result, stage, rfl⟩ | ⟨result, stage, rfl⟩ :=
        (TerminalTask.step_released_iff course).mp stepped
      · exact .shutDown idle stage
      · exact .close idle stage
    | pumpReads n =>
      obtain ⟨⟨piece, down⟩, read, h⟩ := Option.bind_eq_some_iff.mp h
      obtain ⟨outbound, stepped, h⟩ := Option.bind_eq_some_iff.mp h
      obtain ⟨⟨positive, short, enough⟩, found⟩ := Option.ite_none_right_eq_some.mp read
      cases found
      obtain ⟨⟨on, idle, -⟩, ⟨⟩⟩ := Option.ite_none_right_eq_some.mp stepped
      cases h
      exact .pumpReads positive short enough on idle
    | pumpReadsEnd =>
      obtain ⟨dry, h⟩ := Option.ite_none_right_eq_some.mp h
      obtain ⟨outbound, stepped, rfl⟩ := Option.map_eq_some_iff.mp h
      obtain ⟨⟨on, idle⟩, ⟨⟩⟩ := Option.ite_none_right_eq_some.mp stepped
      exact .pumpReadsEnd dry on idle
    | pumpSends =>
      obtain ⟨outbound, stepped, rfl⟩ := Option.map_eq_some_iff.mp h
      obtain ⟨busy, ⟨⟩⟩ := Option.ite_none_left_eq_some.mp stepped
      exact .pumpSends busy
  -- The other way the conditions of the shape are those that the steps ask for.
  · intro h
    cases h with
    | clientSpeaks speech on idle => simp [step, speech, InputPump.step, on, idle]
    | inputWritten positive enough room =>
      simp [step, InputPump.step, positive, enough, Pipe.write, room]
    | relayBegins idle stage =>
      have met := (TerminalTask.step_attached_iff course).mpr ⟨stage, rfl⟩
      exact meet_eq_some.mpr ⟨idle, _, met, rfl⟩
    | @relayReads n positive short enough idle stage =>
      have met := TerminalTask.step_relaying stage (e := .input (c.up.contents.take n) none) rfl
      simp [step, Pipe.read, positive, short, enough, meet, idle, met]
    | relayReadsEnd dry idle stage =>
      have met := TerminalTask.step_relaying stage (e := .inputEnd) rfl
      simp [step, dry, meet, idle, met]
    | @remoteSpeaks m rest speech idle stage =>
      have met := TerminalTask.step_relaying stage (spoken_isRelayed m)
      simp [step, speech, meet, idle, met]
    | outputWritten positive enough room =>
      simp [step, positive, enough, Pipe.write, room]
    | @ordered o rest speech idle stage =>
      have met := TerminalTask.step_relaying stage (order_isRelayed o)
      simp [step, speech, meet, idle, met]
    | shutDown idle stage =>
      have met := (TerminalTask.step_released_iff course).mpr (.inl ⟨_, stage, rfl⟩)
      simp [step, meet, idle, met]
    | close idle stage =>
      have met := (TerminalTask.step_released_iff course).mpr (.inr ⟨_, stage, rfl⟩)
      simp [step, meet, idle, met]
    | @pumpReads n positive short enough on idle =>
      have some : c.down.contents ≠ [] :=
        List.length_pos_iff.mp (Nat.lt_of_lt_of_le positive enough)
      simp [step, Pipe.read, positive, short, enough, OutputPump.step, on, idle, some,
        Nat.pos_iff_ne_zero.mp positive]
    | pumpReadsEnd dry on idle => simp [step, dry, OutputPump.step, on, idle]
    | pumpSends busy => simp [step, OutputPump.step, busy]

/-! ## Work -/

/-- How many stages a relay has to go. -/
def stagesLeft : Stage → Nat
  | .attaching => 4
  | .relaying => 3
  | .shuttingDown _ _ => 2
  | .closing _ => 1
  | _ => 0

/-- The moves that are left at most. A byte of input is written, read and sent; a byte of output is
relayed, written, read and sent. -/
def work (c : Connection) : Nat :=
  (c.client.map fun i => 1 + 3 * i.payload.length).sum + 2 * c.inbound.pending.length +
    c.up.contents.length + (c.remote.map fun m => 1 + 4 * (spokenOutput m).length).sum +
    3 * c.output.length + 2 * c.down.contents.length + c.outbound.piece.length + c.orders.length +
    stagesLeft c.relay.stage + (if c.outbound.closes = 0 then 1 else 0)

theorem stagesLeft_after (e : Terminal.Event) (stage : c.relay.stage = .relaying) :
    stagesLeft (c.relay.after e).stage ≤ stagesLeft c.relay.stage := by
  cases verdict : e.verdict? with
  | none => exact Nat.le_of_eq (congrArg stagesLeft (TerminalTask.stage_after_of_none verdict))
  | some result =>
    rw [TerminalTask.stage_after_of_some verdict, stage]
    exact Nat.le_succ 2

theorem Shape.work_lt (shape : c.Shape m c') : c'.work < c.work := by
  -- Bytes that move on lose a hop each, words are said, and a party that ends has a stage less.
  cases shape with
  | @clientSpeaks i rest speech on idle =>
    unfold work
    simp only [speech, idle, List.map_cons, List.sum_cons, List.length_nil]
    split
    · simp only [InputPump.stop, List.length_nil]
      omega
    · dsimp only
      omega
  | inputWritten positive enough room =>
    unfold work
    simp only [List.length_append, List.length_take, List.length_drop]
    omega
  | relayBegins idle stage =>
    unfold work
    simp only [stage, stagesLeft]
    omega
  | @relayReads n positive short enough idle stage =>
    have stages := stagesLeft_after (.input (c.up.contents.take n) none) stage
    unfold work
    simp only [List.length_drop]
    omega
  | relayReadsEnd dry idle stage =>
    unfold work
    simp only [stage, stagesLeft, TerminalTask.after, Terminal.Event.verdict?]
    omega
  | @remoteSpeaks m rest speech idle stage =>
    have stages := stagesLeft_after (spoken m) stage
    unfold work
    simp only [speech, idle, List.map_cons, List.sum_cons, List.length_nil]
    omega
  | outputWritten positive enough room =>
    unfold work
    simp only [List.length_append, List.length_take, List.length_drop]
    omega
  | @ordered o rest speech idle stage =>
    have stages := stagesLeft_after (order o) stage
    unfold work
    simp only [speech, List.length_cons]
    omega
  | shutDown idle stage =>
    unfold work
    simp only [stage, stagesLeft]
    omega
  | close idle stage =>
    unfold work
    simp only [stage, stagesLeft]
    omega
  | pumpReads positive short enough on idle =>
    unfold work
    simp only [idle, List.length_take, List.length_drop, List.length_nil]
    omega
  | pumpReadsEnd dry on idle =>
    unfold work
    simp only [OutputPump.stop, on, idle, List.length_nil, Nat.zero_add, Nat.one_ne_zero, if_true,
      if_false]
    omega
  | pumpSends busy =>
    have some := List.length_pos_iff.mpr busy
    unfold work
    simp only [List.length_nil]
    omega

end Web.Connection

end ShellGateway
