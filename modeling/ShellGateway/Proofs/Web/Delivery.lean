import Mathlib.Data.List.TakeWhile
import ShellGateway.Proofs.Web.Moves
import ShellGateway.Proofs.Web.Pumps

/-!
# A web terminal delivers what both sides say

A byte of input is in the client's script, with the input pump, in a pipe, or with the remote host;
a byte of output in the remote host's script, with the relay, in a pipe, with the output pump, or
with the client. Moves take bytes from the front of one place to the end of the next, so all places
together always hold what was said (`Upward`, `Downward`, `Course`), however it is cut into frames,
writes and reads.

When nobody can move any more, the places on the way are empty: everything has arrived, unless the
relay has ended before. It ends when one of the sides has, or when it is told to, and never loses
what the side that has ended said before (`Ended`).
-/

namespace ShellGateway.Web

namespace Connection

variable {c c' : Connection} {m : Move}

/-! ## What has been said, and what is under way -/

/-- What comes with the members of a list before the first that is the last to be heard. -/
def upTo {α : Type} (last : α → Bool) (carry : α → Bytes) (l : List α) : Bytes :=
  (l.takeWhile (!last ·)).flatMap carry

theorem upTo_cons {α : Type} (last : α → Bool) (carry : α → Bytes) (a : α) (l : List α) :
    upTo last carry (a :: l) = if last a then [] else carry a ++ upTo last carry l := by
  unfold upTo
  rw [List.takeWhile_cons]
  cases last a <;> simp

theorem upTo_append {α : Type} {last : α → Bool} {carry : α → Bytes} {l : List α}
    (goesOn : ∀ a ∈ l, last a = false) (l' : List α) :
    upTo last carry (l ++ l') = upTo last carry l ++ upTo last carry l' := by
  have all : ∀ a ∈ l, (!last a) = true := fun a ha => by rw [goesOn a ha, Bool.not_false]
  rw [upTo, upTo, upTo, List.takeWhile_append_of_pos all, List.takeWhile_eq_self_iff.mpr all,
    List.flatMap_append]

theorem upTo_isPrefix {α : Type} (last : α → Bool) (carry : α → Bytes) (l l' : List α) :
    upTo last carry l <+: upTo last carry (l ++ l') := by
  induction l with
  | nil => exact List.nil_prefix
  | cons a l ih =>
    rw [List.cons_append, upTo_cons, upTo_cons]
    cases last a with
    | true => exact List.prefix_refl _
    | false => exact (List.prefix_append_right_inj _).mpr ih

/-- The input of a client: what its text and binary frames carry before it closes, breaks off or
ends. -/
def said (client : List Incoming) : Bytes :=
  upTo Incoming.isLast Incoming.payload client

/-- The remote host closes its channel, or the channel has ended. -/
def hangsUp : Option Remote.Message → Bool
  | some .close | none => true
  | some _ => false

/-- The output of a remote host, plain and extended, before it hangs up. -/
def shown (remote : List (Option Remote.Message)) : Bytes :=
  upTo hangsUp spokenOutput remote

/-- The control queue tells the relay to end, or has ended. -/
def closes : Option (Session.Command × Option String) → Bool
  | some (.close, _) | none => true
  | some (.resize _ _, _) => false

theorem verdict_spoken (m : Option Remote.Message) :
    (spoken m).verdict? = if hangsUp m then some (.ok ()) else none := by
  cases m with
  | none => rfl
  | some m => cases m <;> rfl

theorem spokenOutput_of_hangsUp {m : Option Remote.Message} (h : hangsUp m = true) :
    spokenOutput m = [] := by
  cases m with
  | none => rfl
  | some m =>
    cases m with
    | close => rfl
    | _ => cases h

theorem delivered_spoken (m : Option Remote.Message) : (spoken m).delivered = spokenOutput m := by
  cases m <;> rfl

theorem conveyed_spoken (m : Option Remote.Message) : (spoken m).conveyed = [] := by
  cases m <;> rfl

theorem verdict_order (o : Option (Session.Command × Option String)) :
    (order o).verdict? = if closes o then some (.ok ()) else none := by
  cases o with
  | none => rfl
  | some o =>
    obtain ⟨command, fault⟩ := o
    cases command <;> rfl

theorem delivered_order (o : Option (Session.Command × Option String)) :
    (order o).delivered = [] := by
  cases o <;> rfl

theorem conveyed_order (o : Option (Session.Command × Option String)) :
    (order o).conveyed = [] := by
  cases o <;> rfl

/-- What the client will still say to be heard. -/
def unsaid (c : Connection) : Bytes :=
  if c.inbound.shutdowns = 0 then said c.client else []

/-- On the way to the remote host nothing is lost, and nothing changes its order. The pump has met
the front of what the client says. -/
structure Upward (client met : List Incoming) (c : Connection) : Prop where
  cut : client = met ++ c.client
  whole : c.relay.sent ++ (c.up.contents ++ (c.inbound.pending ++ c.unsaid)) = said client
  stopped : c.inbound.shutdowns ≠ 0 → c.inbound.pending = [] ∧ c.up.closed = true
  closed : c.up.closed = true → c.inbound.shutdowns ≠ 0
  hungUp : c.inbound.shutdowns ≠ 0 → ∃ i ∈ met, i.isLast = true
  room : c.up.contents.length ≤ Pipe.capacity

/-- On the way to the client nothing is lost, and nothing changes its order. -/
structure Downward (c : Connection) : Prop where
  whole : carried c.outbound.sent ++ (c.outbound.piece ++ (c.down.contents ++ c.output)) =
    c.relay.written
  frames : ∀ f ∈ c.outbound.sent, OutputPump.IsPiece f
  short : c.outbound.piece.length ≤ readLength
  room : c.down.contents.length ≤ Pipe.capacity
  begun : c.relay.stage = .attaching → c.output = []
  closed : c.down.closed = true →
    c.output = [] ∧ c.relay.stage ≠ .attaching ∧ c.relay.stage ≠ .relaying
  stopped : c.outbound.closes ≠ 0 → c.down.isDry = true ∧ c.outbound.piece = []

/-- Why a relay has ended: the client has, and all that it said has arrived; the remote host has,
and all that it said is on its way; or the relay was told to. -/
inductive Ended (client : List Incoming) (remote heard : List (Option Remote.Message))
    (told : List (Option (Session.Command × Option String))) (c : Connection) : Prop where
  | client (stopped : c.inbound.shutdowns ≠ 0) (sent : c.relay.sent = said client)
  | remote (hungUp : ∃ m ∈ heard, hangsUp m = true) (written : c.relay.written = shown remote)
  | order (closed : ∃ o ∈ told, closes o = true)

/-- The relay has heard the front of what the remote host says, and of what it is told itself. It
has written what it has heard, and has not ended without a reason. -/
structure Course (client : List Incoming) (remote heard : List (Option Remote.Message))
    (orders told : List (Option (Session.Command × Option String))) (c : Connection) : Prop where
  stage : c.relay.stage.InCourse
  cut : remote = heard ++ c.remote
  cutOrders : orders = told ++ c.orders
  written : c.relay.written = shown heard
  on : c.relay.stage = .attaching ∨ c.relay.stage = .relaying → ∀ m ∈ heard, hangsUp m = false
  off : c.relay.stage ≠ .attaching → c.relay.stage ≠ .relaying →
    Ended client remote heard told c

variable {client met : List Incoming} {remote heard : List (Option Remote.Message)}
  {orders told : List (Option (Session.Command × Option String))}

/-- A reason stays one. -/
theorem Ended.congr (h : Ended client remote heard told c)
    (stopped : c.inbound.shutdowns ≠ 0 → c'.inbound.shutdowns ≠ 0)
    (sent : c'.relay.sent = c.relay.sent) (written : c'.relay.written = c.relay.written) :
    Ended client remote heard told c' := by
  cases h with
  | client off h => exact .client (stopped off) (sent.trans h)
  | remote hungUp h => exact .remote hungUp (written.trans h)
  | order closed => exact .order closed

theorem Upward.step (upward : Upward client met c) (shape : c.Shape m c') :
    ∃ met', Upward client met' c' := by
  obtain ⟨cut, whole, stopped, closed, hungUp, room⟩ := upward
  cases shape with
  | @clientSpeaks i rest speech on idle =>
    have cut : client = (met ++ [i]) ++ rest := by
      rw [cut, speech, List.append_assoc]
      rfl
    -- The pump takes the word when it has written the last one, so nothing stands between the pipe
    -- and what is unsaid.
    rw [idle, unsaid, if_pos on, speech, said, upTo_cons] at whole
    cases isLast : i.isLast with
    | true =>
      rw [isLast] at whole
      refine ⟨met ++ [i], cut, whole, fun _ => ⟨rfl, Bool.or_true _⟩, fun _ => ?_, fun _ => ?_,
        room⟩
      · exact Nat.succ_ne_zero _
      · exact ⟨i, List.mem_append_right _ List.mem_cons_self, isLast⟩
    | false =>
      rw [isLast] at whole
      refine ⟨met ++ [i], cut, ?_, fun off => absurd on off, fun shut => ?_,
        fun off => absurd on off, room⟩
      · show c.relay.sent ++ (c.up.contents ++ (i.payload ++
          (if c.inbound.shutdowns = 0 then said rest else []))) = said client
        rw [if_pos on]
        exact whole
      · exact closed (by simpa using shut)
  | @inputWritten n positive enough below =>
    refine ⟨met, cut, ?_, fun off => ?_, closed, hungUp, ?_⟩
    · rw [← whole]
      show _ ++ ((c.up.contents ++ c.inbound.pending.take n) ++ (c.inbound.pending.drop n ++
        c.unsaid)) = _
      rw [List.append_assoc, ← List.append_assoc (c.inbound.pending.take n),
        List.take_append_drop]
    · rw [(stopped off).1] at enough
      exact absurd positive (Nat.not_lt_of_le enough)
    · rw [List.length_append, List.length_take, Nat.min_eq_left enough]
      exact below
  | @relayReads n positive short enough idle stage =>
    refine ⟨met, cut, ?_, stopped, closed, hungUp, ?_⟩
    · rw [← whole]
      show (c.relay.sent ++ c.up.contents.take n) ++ (c.up.contents.drop n ++ _) = _
      rw [List.append_assoc, ← List.append_assoc (c.up.contents.take n), List.take_append_drop]
      rfl
    · rw [List.length_drop]
      omega
  | relayReadsEnd dry idle stage =>
    have same := (congrArg (· ++ _) (List.append_nil c.relay.sent)).trans whole
    exact ⟨met, cut, same, stopped, closed, hungUp, room⟩
  | @remoteSpeaks m rest speech idle stage =>
    refine ⟨met, cut, ?_, stopped, closed, hungUp, room⟩
    rw [← whole]
    show (c.relay.sent ++ (spoken m).conveyed) ++ _ = _
    rw [conveyed_spoken, List.append_nil]
    rfl
  | @ordered o rest speech idle stage =>
    refine ⟨met, cut, ?_, stopped, closed, hungUp, room⟩
    rw [← whole]
    show (c.relay.sent ++ (order o).conveyed) ++ _ = _
    rw [conveyed_order, List.append_nil]
    rfl
  | relayBegins | outputWritten | shutDown | close | pumpReads | pumpReadsEnd | pumpSends =>
    exact ⟨met, cut, whole, stopped, closed, hungUp, room⟩

/-- A relay meets an event that ends it or does not. -/
theorem after_cases (e : Terminal.Event) (stage : c.relay.stage = .relaying) :
    (e.verdict? = none ∧ (c.relay.after e).stage = .relaying) ∨
      ∃ result, e.verdict? = some result ∧
        (c.relay.after e).stage = .shuttingDown result true := by
  cases verdict : e.verdict? with
  | none => exact .inl ⟨rfl, (TerminalTask.stage_after_of_none verdict).trans stage⟩
  | some result => exact .inr ⟨result, rfl, TerminalTask.stage_after_of_some verdict⟩

theorem after_ne_attaching (e : Terminal.Event) (stage : c.relay.stage = .relaying) :
    (c.relay.after e).stage ≠ .attaching := by
  obtain ⟨-, after⟩ | ⟨result, -, after⟩ := after_cases e stage
  · rw [after]
    exact nofun
  · rw [after]
    exact nofun

/-- What a relay meets comes with output, which it then has to write. -/
theorem Downward.meets (downward : Downward c) {e : Terminal.Event} (idle : c.output = [])
    (stage : c.relay.stage = .relaying) {up : Pipe} {remote : List (Option Remote.Message)}
    {orders : List (Option (Session.Command × Option String))} {output : Bytes}
    (h : e.delivered = output) :
    Downward { c with relay := c.relay.after e, up, remote, orders, output } := by
  obtain ⟨whole, frames, short, room, -, closed, stopped⟩ := downward
  refine ⟨?_, frames, short, room, fun h => absurd h (after_ne_attaching _ stage),
    fun shut => absurd stage (closed shut).2.2, stopped⟩
  -- The relay meets nothing while it writes, so the output comes behind all that was written.
  show _ = c.relay.written ++ e.delivered
  rw [h, ← whole, idle]
  simp only [List.append_nil, List.append_assoc]

/-- A relay that has ended closes the pipe behind all that it has written. -/
theorem Downward.releases (downward : Downward c) (idle : c.output = []) {relay : TerminalTask}
    (written : relay.written = c.relay.written) (stage : relay.stage ≠ .attaching)
    (stage' : relay.stage ≠ .relaying) :
    Downward { c with relay, down := { c.down with closed := true } } := by
  obtain ⟨whole, frames, short, room, -, closed, stopped⟩ := downward
  refine ⟨whole.trans written.symm, frames, short, room, fun h => absurd h stage,
    fun _ => ⟨idle, stage, stage'⟩, fun off => ?_⟩
  obtain ⟨dry, piece⟩ := stopped off
  rw [Pipe.isDry, Bool.and_eq_true] at dry
  exact ⟨dry.2, piece⟩

theorem Downward.step (downward : Downward c) (shape : c.Shape m c') : Downward c' := by
  cases shape with
  | relayReads positive below enough idle stage => exact downward.meets idle stage idle.symm
  | relayReadsEnd dry idle stage => exact downward.meets idle stage idle.symm
  | @remoteSpeaks m rest speech idle stage =>
    exact downward.meets idle stage (delivered_spoken m)
  | @ordered o rest speech idle stage =>
    exact downward.meets idle stage ((delivered_order o).trans idle.symm)
  | shutDown idle stage => exact downward.releases idle rfl nofun nofun
  | close idle stage => exact downward.releases idle rfl nofun nofun
  | relayBegins idle stage =>
    obtain ⟨whole, frames, short, room, begun, closed, stopped⟩ := downward
    exact ⟨whole, frames, short, room, nofun, fun shut => absurd stage (closed shut).2.1, stopped⟩
  | @outputWritten n positive enough below =>
    obtain ⟨whole, frames, short, room, begun, closed, stopped⟩ := downward
    -- The pipe is closed when the output has been written, so it is open yet.
    have flowing : c.down.closed ≠ true := by
      intro shut
      rw [(closed shut).1] at enough
      exact absurd positive (Nat.not_lt_of_le enough)
    refine ⟨?_, frames, short, ?_, ?_, fun shut => absurd shut flowing, fun off => ?_⟩
    · rw [← whole]
      show _ ++ (_ ++ ((c.down.contents ++ c.output.take n) ++ c.output.drop n)) = _
      rw [List.append_assoc c.down.contents, List.take_append_drop]
    · rw [List.length_append, List.length_take, Nat.min_eq_left enough]
      exact below
    · intro stage
      show c.output.drop n = []
      rw [begun stage, List.drop_nil]
    · have dry := (stopped off).1
      rw [Pipe.isDry, Bool.and_eq_true] at dry
      exact absurd dry.1 flowing
  | @pumpReads n positive below enough on idle =>
    obtain ⟨whole, frames, short, room, begun, closed, stopped⟩ := downward
    refine ⟨?_, frames, ?_, ?_, begun, closed, fun off => absurd on off⟩
    · rw [← whole, idle]
      show _ ++ (c.down.contents.take n ++ (c.down.contents.drop n ++ _)) = _
      rw [← List.append_assoc (c.down.contents.take n), List.take_append_drop]
      rfl
    · rw [List.length_take]
      omega
    · rw [List.length_drop]
      omega
  | pumpReadsEnd dry on idle =>
    obtain ⟨whole, frames, short, room, begun, closed, stopped⟩ := downward
    refine ⟨?_, frames, Nat.zero_le _, room, begun, closed, fun _ => ⟨dry, rfl⟩⟩
    rw [← whole, idle]
    rfl
  | pumpSends busy =>
    obtain ⟨whole, frames, short, room, begun, closed, stopped⟩ := downward
    refine ⟨?_, ?_, Nat.zero_le _, room, begun, closed, fun off => absurd (stopped off).2 busy⟩
    · rw [← whole]
      show carried (c.outbound.sent ++ [.binary c.outbound.piece]) ++ _ = _
      rw [carried_concat, List.append_assoc]
      rfl
    · have piece : OutputPump.IsPiece (.binary c.outbound.piece) :=
        ⟨_, rfl, List.length_pos_iff.mpr busy, short⟩
      exact List.forall_mem_append.mpr ⟨frames, List.forall_mem_singleton.mpr piece⟩
  | clientSpeaks | inputWritten =>
    obtain ⟨whole, frames, short, room, begun, closed, stopped⟩ := downward
    exact ⟨whole, frames, short, room, begun, closed, stopped⟩

/-- What a relay meets keeps its course, when the output that comes with it is what the remote host
says now, and what ends it is a reason. -/
theorem Course.meets (course : Course client remote heard orders told c) {e : Terminal.Event}
    (stage : c.relay.stage = .relaying) {now rest : List (Option Remote.Message)}
    {order ordersRest : List (Option (Session.Command × Option String))} {up : Pipe}
    {output : Bytes} (speech : c.remote = now ++ rest) (ordered : c.orders = order ++ ordersRest)
    (taken : e.delivered = shown now)
    (goesOn : e.verdict? = none → ∀ m ∈ now, hangsUp m = false)
    (ends : ∀ result, e.verdict? = some result →
      Ended client remote (heard ++ now) (told ++ order) { c with relay := c.relay.after e }) :
    Course client remote (heard ++ now) orders (told ++ order) { c with
      relay := c.relay.after e, up, output, remote := rest, orders := ordersRest } := by
  have quiet := course.on (.inr stage)
  have cut : remote = (heard ++ now) ++ rest := by
    rw [course.cut, speech, List.append_assoc]
  have cutOrders : orders = (told ++ order) ++ ordersRest := by
    rw [course.cutOrders, ordered, List.append_assoc]
  have written : c.relay.written ++ e.delivered = shown (heard ++ now) := by
    rw [course.written, taken, shown, shown, shown, upTo_append quiet]
  -- Whether it goes on or ends, it has written what it has heard.
  obtain ⟨still, after⟩ | ⟨result, ended, after⟩ := after_cases e stage
  · exact ⟨after ▸ .relaying, cut, cutOrders, written,
      fun _ => List.forall_mem_append.mpr ⟨quiet, goesOn still⟩, fun _ h => absurd after h⟩
  · refine ⟨after ▸ .shuttingDown result, cut, cutOrders, written, fun h => ?_,
      fun _ _ => (ends result ended).congr id rfl rfl⟩
    obtain h | h := h
    · exact absurd (after.symm.trans h) nofun
    · exact absurd (after.symm.trans h) nofun

/-- When the input of the relay has ended, all that the client said has been sent. -/
theorem Upward.sent_of_isDry (upward : Upward client met c) (dry : c.up.isDry = true) :
    c.inbound.shutdowns ≠ 0 ∧ c.relay.sent = said client := by
  rw [Pipe.isDry, Bool.and_eq_true, List.isEmpty_iff] at dry
  have stopped := upward.closed dry.1
  have whole := upward.whole
  rw [dry.2, (upward.stopped stopped).1, unsaid, if_neg stopped] at whole
  exact ⟨stopped, (List.append_nil _).symm.trans whole⟩

theorem Course.step (course : Course client remote heard orders told c)
    (upward : Upward client met c) (shape : c.Shape m c') :
    ∃ heard' told', Course client remote heard' orders told' c' := by
  have noRemote : c.remote = [] ++ c.remote := rfl
  have noOrders : c.orders = [] ++ c.orders := rfl
  cases shape with
  | relayBegins idle stage =>
    exact ⟨heard, told, .relaying, course.cut, course.cutOrders, course.written,
      fun _ => course.on (.inl stage), fun _ h => absurd rfl h⟩
  | @relayReads n positive below enough idle stage =>
    exact ⟨_, _, course.meets stage noRemote noOrders rfl nofun nofun⟩
  | relayReadsEnd dry idle stage =>
    refine ⟨_, _, course.meets stage noRemote noOrders rfl nofun fun _ _ => ?_⟩
    obtain ⟨stopped, sent⟩ := upward.sent_of_isDry dry
    exact .client stopped ((List.append_nil _).trans sent)
  | @remoteSpeaks m rest speech idle stage =>
    have taken : (spoken m).delivered = shown [m] := by
      rw [delivered_spoken, shown, upTo_cons]
      cases last : hangsUp m with
      | true => exact spokenOutput_of_hangsUp last
      | false => exact (List.append_nil _).symm
    have verdict := verdict_spoken m
    have front : c.remote = [m] ++ rest := speech
    refine ⟨_, _, course.meets stage front noOrders taken ?_ ?_⟩
    · intro still
      rw [verdict, ite_eq_right_iff] at still
      refine List.forall_mem_singleton.mpr (Bool.eq_false_iff.mpr fun last => ?_)
      cases still last
    -- With the word that ends it no output comes, so everything has been heard before it.
    · intro result ends
      have last := (Option.ite_none_right_eq_some.mp (verdict ▸ ends)).1
      refine .remote ⟨m, List.mem_append_right _ List.mem_cons_self, last⟩ ?_
      have nothing : shown (m :: rest) = [] := by rw [shown, upTo_cons, if_pos last]
      show c.relay.written ++ (spoken m).delivered = shown remote
      rw [course.cut, speech, shown, upTo_append (course.on (.inr stage)), ← shown, ← shown,
        nothing, delivered_spoken, spokenOutput_of_hangsUp last, course.written]
  | @ordered o rest speech idle stage =>
    have front : c.orders = [o] ++ rest := speech
    refine ⟨_, _, course.meets stage noRemote front (delivered_order o) nofun ?_⟩
    intro result ends
    rw [verdict_order] at ends
    have last := (Option.ite_none_right_eq_some.mp ends).1
    exact .order ⟨o, List.mem_append_right _ List.mem_cons_self, last⟩
  | @shutDown result idle stage =>
    obtain ⟨inCourse, cut, cutOrders, written, on, off⟩ := course
    have why := off (by rw [stage]; exact nofun) (by rw [stage]; exact nofun)
    exact ⟨heard, told, .closing result, cut, cutOrders, written, nofun,
      fun _ _ => why.congr id rfl rfl⟩
  | close idle stage =>
    obtain ⟨inCourse, cut, cutOrders, written, on, off⟩ := course
    have why := off (by rw [stage]; exact nofun) (by rw [stage]; exact nofun)
    exact ⟨heard, told, .ended _, cut, cutOrders, written, nofun,
      fun _ _ => why.congr id rfl rfl⟩
  | clientSpeaks speech still idle =>
    obtain ⟨inCourse, cut, cutOrders, written, on, off⟩ := course
    exact ⟨heard, told, inCourse, cut, cutOrders, written, on,
      fun h h' => (off h h').congr (absurd still) rfl rfl⟩
  | inputWritten | outputWritten | pumpReads | pumpReadsEnd | pumpSends =>
    obtain ⟨inCourse, cut, cutOrders, written, on, off⟩ := course
    exact ⟨heard, told, inCourse, cut, cutOrders, written, on,
      fun h h' => (off h h').congr id rfl rfl⟩

/-! ## At rest -/

/-- What holds of a connection at any time. -/
structure Sound (client : List Incoming) (remote : List (Option Remote.Message))
    (orders : List (Option (Session.Command × Option String))) (c : Connection) : Prop where
  upward : ∃ met, Upward client met c
  downward : Downward c
  course : ∃ heard told, Course client remote heard orders told c

theorem Sound.inCourse (sound : Sound client remote orders c) : c.relay.stage.InCourse := by
  obtain ⟨heard, told, course⟩ := sound.course
  exact course.stage

theorem Sound.start (terminal : Terminal) (client : List Incoming)
    (remote : List (Option Remote.Message))
    (orders : List (Option (Session.Command × Option String))) :
    Sound client remote orders (start terminal client remote orders) where
  upward := ⟨[], rfl, rfl, fun h => absurd rfl h, nofun, fun h => absurd rfl h, Nat.zero_le _⟩
  downward := ⟨rfl, nofun, Nat.zero_le _, Nat.zero_le _, fun _ => rfl, nofun, fun h => absurd rfl h⟩
  course := ⟨[], [], .attaching, rfl, rfl, rfl, nofun, fun h => absurd rfl h⟩

theorem Sound.step (sound : Sound client remote orders c) (hs : c.step m = some c') :
    Sound client remote orders c' := by
  have shape := (step_iff sound.inCourse).mp hs
  obtain ⟨met, upward⟩ := sound.upward
  obtain ⟨heard, told, course⟩ := sound.course
  exact ⟨upward.step shape, sound.downward.step shape, course.step upward shape⟩

theorem Sound.run (sound : Sound client remote orders c) {moves : List Move}
    (hr : c.run moves = some c') :
    Sound client remote orders c' ∧ moves.length + c'.work ≤ c.work := by
  induction moves generalizing c with
  | nil =>
    cases hr
    exact ⟨sound, Nat.le_of_eq (Nat.zero_add _)⟩
  | cons m moves ih =>
    obtain ⟨c₁, step, run⟩ := Option.bind_eq_some_iff.mp hr
    have spent := ((step_iff sound.inCourse).mp step).work_lt
    obtain ⟨sound', bound⟩ := ih (sound.step step) run
    refine ⟨sound', ?_⟩
    rw [List.length_cons]
    omega

/-- Wherever the connection is, its parties come to rest. -/
theorem Sound.comes_to_rest (sound : Sound client remote orders c) :
    ∃ moves c', c.run moves = some c' ∧ c'.AtRest := by
  -- By induction on the work that is left: either nobody can move, or a move spends some of it.
  induction h : c.work using Nat.strongRecOn generalizing c with
  | ind n ih =>
    by_cases rest : c.AtRest
    · exact ⟨[], c, rfl, rest⟩
    · obtain ⟨m, hm⟩ := Classical.not_forall.mp rest
      obtain ⟨c₁, step⟩ := Option.ne_none_iff_exists'.mp hm
      have spent := ((step_iff sound.inCourse).mp step).work_lt
      obtain ⟨moves, c', run, rest⟩ := ih c₁.work (h ▸ spent) (sound.step step) rfl
      refine ⟨m :: moves, c', ?_, rest⟩
      show (c.step m >>= fun c => c.run moves) = some c'
      rw [step]
      exact run

theorem AtRest.no_shape (rest : c.AtRest) (stage : c.relay.stage.InCourse) (shape : c.Shape m c') :
    False := by
  have moves := (step_iff stage).mpr shape
  rw [rest m] at moves
  cases moves

/-- At rest nothing is on its way to the client. -/
theorem Sound.nothing_on_its_way (sound : Sound client remote orders c) (rest : c.AtRest) :
    c.output = [] ∧ carried c.outbound.sent = c.relay.written := by
  have stage := sound.inCourse
  -- Whatever is on its way could be moved by whoever is next: from the client back to the relay.
  have sent : c.outbound.piece = [] := by
    by_contra busy
    exact rest.no_shape stage (.pumpSends busy)
  have read : c.down.contents = [] := by
    by_contra some
    by_cases on : c.outbound.closes = 0
    · exact rest.no_shape stage
        (.pumpReads Nat.one_pos (by decide) (List.length_pos_iff.mpr some) on sent)
    · have dry := (sound.downward.stopped on).1
      rw [Pipe.isDry, Bool.and_eq_true, List.isEmpty_iff] at dry
      exact some dry.2
  have written : c.output = [] := by
    by_contra some
    refine rest.no_shape stage (.outputWritten Nat.one_pos (List.length_pos_iff.mpr some) ?_)
    rw [read]
    decide
  refine ⟨written, ?_⟩
  have whole := sound.downward.whole
  rw [sent, read, written] at whole
  exact (List.append_nil _).symm.trans whole

/-- At rest a relay that still relays has sent all that the client said and written all that the
remote host showed. -/
theorem Sound.relayed_at_rest (sound : Sound client remote orders c) (rest : c.AtRest)
    (relaying : c.relay.stage = .relaying) :
    c.relay.sent = said client ∧ c.relay.written = shown remote := by
  have stage := sound.inCourse
  have idle := (sound.nothing_on_its_way rest).1
  obtain ⟨met, upward⟩ := sound.upward
  obtain ⟨heard, told, course⟩ := sound.course
  constructor
  -- The relay would read, or hear that the input has ended; the pump would write or listen.
  · have read : c.up.contents = [] := by
      by_contra some
      exact rest.no_shape stage
        (.relayReads Nat.one_pos (by decide) (List.length_pos_iff.mpr some) idle relaying)
    have on : c.inbound.shutdowns = 0 := by
      by_contra off
      have dry : c.up.isDry = true := by
        rw [Pipe.isDry, (upward.stopped off).2, read]
        rfl
      exact rest.no_shape stage (.relayReadsEnd dry idle relaying)
    have taken : c.inbound.pending = [] := by
      by_contra some
      refine rest.no_shape stage (.inputWritten Nat.one_pos (List.length_pos_iff.mpr some) ?_)
      rw [read]
      decide
    have silent : c.client = [] := by
      cases speech : c.client with
      | nil => rfl
      | cons i client' => exact (rest.no_shape stage (.clientSpeaks speech on taken)).elim
    have whole := upward.whole
    rw [read, taken, unsaid, if_pos on, silent] at whole
    exact (List.append_nil _).symm.trans whole
  · have silent : c.remote = [] := by
      cases speech : c.remote with
      | nil => rfl
      | cons m remote' => exact (rest.no_shape stage (.remoteSpeaks speech idle relaying)).elim
    rw [course.written, course.cut, silent, List.append_nil]

/-- What has arrived, when the pump has met the front of what the client says, and the relay has
heard the front of what the remote host says and of what it is told itself. Whoever was not heard to
hang up has received everything from the other side, unless the relay was told to end. -/
structure Arrived (client met : List Incoming) (remote heard : List (Option Remote.Message))
    (orders told : List (Option (Session.Command × Option String))) (c : Connection) : Prop where
  ofClient : client = met ++ c.client
  ofRemote : remote = heard ++ c.remote
  ofOrders : orders = told ++ c.orders
  received : carried c.outbound.sent = shown heard
  sentAll : (∀ o ∈ told, closes o = false) → (∀ m ∈ heard, hangsUp m = false) →
    c.relay.sent = said client
  receivedAll : (∀ o ∈ told, closes o = false) → (∀ i ∈ met, i.isLast = false) →
    carried c.outbound.sent = shown remote

theorem Sound.arrived (sound : Sound client remote orders c) (rest : c.AtRest) :
    ∃ met heard told, Arrived client met remote heard orders told c := by
  obtain ⟨met, upward⟩ := sound.upward
  obtain ⟨heard, told, course⟩ := sound.course
  obtain ⟨idle, received⟩ := sound.nothing_on_its_way rest
  have attached : c.relay.stage ≠ .attaching := fun attaching =>
    rest.no_shape course.stage (.relayBegins idle attaching)
  refine ⟨met, heard, told, upward.cut, course.cut, course.cutOrders,
    received.trans course.written, fun untold stays => ?_, fun untold stays => ?_⟩
  -- The relay is still there, and then everything has arrived, or it has ended for one of the
  -- reasons, of which only the one that is left out by the other side's staying is in question.
  · by_cases relaying : c.relay.stage = .relaying
    · exact (sound.relayed_at_rest rest relaying).1
    · cases course.off attached relaying with
      | client stopped sent => exact sent
      | remote hungUp written =>
        obtain ⟨m, hm, last⟩ := hungUp
        exact absurd last (by simp [stays m hm])
      | order closed =>
        obtain ⟨o, ho, last⟩ := closed
        exact absurd last (by simp [untold o ho])
  · rw [received]
    by_cases relaying : c.relay.stage = .relaying
    · exact (sound.relayed_at_rest rest relaying).2
    · cases course.off attached relaying with
      | client stopped sent =>
        obtain ⟨i, hi, last⟩ := upward.hungUp stopped
        exact absurd last (by simp [stays i hi])
      | remote hungUp written => exact written
      | order closed =>
        obtain ⟨o, ho, last⟩ := closed
        exact absurd last (by simp [untold o ho])

/-- What has been delivered is the front of what was said. -/
theorem Sound.delivered_isPrefix (sound : Sound client remote orders c) :
    c.relay.sent <+: said client ∧ carried c.outbound.sent <+: shown remote := by
  obtain ⟨met, upward⟩ := sound.upward
  obtain ⟨heard, told, course⟩ := sound.course
  refine ⟨⟨_, upward.whole⟩, ?_⟩
  have taken : carried c.outbound.sent <+: c.relay.written := ⟨_, sound.downward.whole⟩
  refine taken.trans ?_
  rw [course.written, course.cut]
  exact upTo_isPrefix _ _ _ _

end Connection

open Connection in
/-- **Pumps and relay preserve bytes.** An input pump has written what came in the text and binary
frames before the first event that stopped it, but for the rest of a frame whose write failed, and
shuts the terminal down once; an output pump has sent what it read, in binary frames that are not
empty and no longer than its buffer, and closes once. Connected through pipes and a relay, when
nothing fails, they come to rest after finitely many moves, and what has arrived until then is
always the front of what was said. At rest the client has received what the relay has heard. The
remote host has received all of the input, unless it was heard to hang up or the relay was told to
end, and so has the client all of the output (`Arrived`). -/
theorem pumps_preserve_bytes :
    (∀ (es : List InputPump.Event) (p : InputPump), ({} : InputPump).run es = some p →
      p.Pumping es ∧ p.Ready ∨ ∃ before last, es = before ++ [last] ∧ p.Stopped before last) ∧
    (∀ (es : List OutputPump.Event) (p : OutputPump), ({} : OutputPump).run es = some p →
      p.Pumping es ∧ p.Ready ∨ ∃ before last, es = before ++ [last] ∧ p.Stopped before last) ∧
    ∀ (terminal : Terminal) (client : List Incoming) (remote : List (Option Remote.Message))
      (orders : List (Option (Session.Command × Option String))) (moves : List Move)
      (c : Connection), (start terminal client remote orders).run moves = some c →
        moves.length ≤ (start terminal client remote orders).work ∧
        (∃ more c', c.run more = some c' ∧ c'.AtRest) ∧
        c.relay.sent <+: said client ∧ carried c.outbound.sent <+: shown remote ∧
        (c.AtRest → ∃ met heard told, Arrived client met remote heard orders told c) := by
  refine ⟨fun es p run => ?_, fun es p run => ?_, ?_⟩
  · obtain pumping | stopped := InputPump.pumped run
    · exact .inl ⟨pumping, pumping.ready⟩
    · exact .inr stopped
  · obtain pumping | stopped := OutputPump.pumped run
    · exact .inl ⟨pumping, pumping.ready⟩
    · exact .inr stopped
  · intro terminal client remote orders moves c run
    obtain ⟨sound, bound⟩ := (Sound.start terminal client remote orders).run run
    obtain ⟨input, output⟩ := sound.delivered_isPrefix
    exact ⟨Nat.le_of_add_right_le bound, sound.comes_to_rest, input, output, sound.arrived⟩

open Connection in
/-- A terminal takes two bytes of three and then no more, and a client one piece of two; a command
is typed in two frames with an empty one and a ping between them, and answered on both streams. -/
theorem pumps_preserve_bytes_cutShort :
    (∃ p, ({} : InputPump).run [.incoming (.frame (.binary [1, 2, 3])), .taken 2, .refused] =
        some p ∧
      p.written = [1, 2] ∧
      p.Stopped [.incoming (.frame (.binary [1, 2, 3])), .taken 2] .refused) ∧
    (∃ p, ({} : OutputPump).run [.read [1, 2], .sent, .read [3], .sendFailed] = some p ∧
      p.sent = [.binary [1, 2]] ∧ p.Stopped [.read [1, 2], .sent, .read [3]] .sendFailed) ∧
    ∃ moves c, (start ⟨"xterm", ⟨80, 24⟩⟩
        [.frame (.text "ls"), .frame (.binary []), .frame (.ping [1]), .frame (.binary [10])]
        [some (.data [36, 32]), some (.exitStatus 0), some (.extendedData 1 [33])] []).run moves =
          some c ∧
      c.AtRest ∧ c.relay.sent = [108, 115, 10] ∧ carried c.outbound.sent = [36, 32, 33] := by
  obtain ⟨input, output, connection⟩ := pumps_preserve_bytes
  have inputRan : ({} : InputPump).run
      ([.incoming (.frame (.binary [1, 2, 3])), .taken 2] ++ [.refused]) =
        some ⟨[], [1, 2], 1⟩ := rfl
  have outputRan : ({} : OutputPump).run ([.read [1, 2], .sent, .read [3]] ++ [.sendFailed]) =
      some ⟨[], [.binary [1, 2]], 1⟩ := rfl
  refine ⟨⟨_, inputRan, rfl, ?_⟩, ⟨_, outputRan, rfl, ?_⟩, ?_⟩
  · obtain ⟨pumping, -⟩ | ⟨before, last, cut, stopped⟩ := input _ _ inputRan
    · exact absurd pumping.on (by decide)
    · obtain ⟨rfl, ⟨⟩⟩ := List.append_inj' cut rfl
      exact stopped
  · obtain ⟨pumping, -⟩ | ⟨before, last, cut, stopped⟩ := output _ _ outputRan
    · exact absurd pumping.on (by decide)
    · obtain ⟨rfl, ⟨⟩⟩ := List.append_inj' cut rfl
      exact stopped
  · obtain ⟨-, ⟨moves, c, run, rest⟩, -⟩ := connection ⟨"xterm", ⟨80, 24⟩⟩
      [.frame (.text "ls"), .frame (.binary []), .frame (.ping [1]), .frame (.binary [10])]
      [some (.data [36, 32]), some (.exitStatus 0), some (.extendedData 1 [33])] [] [] _ rfl
    obtain ⟨-, -, -, -, atRest⟩ := connection _ _ _ _ moves c run
    obtain ⟨met, heard, told, arrived⟩ := atRest rest
    have untold : ∀ o ∈ told, closes o = false := by
      rw [(List.nil_eq_append_iff.mp arrived.ofOrders).1]
      exact nofun
    have clientStays : ∀ i ∈ met ++ c.client, i.isLast = false := arrived.ofClient ▸ by decide
    have remoteStays : ∀ m ∈ heard ++ c.remote, hangsUp m = false := arrived.ofRemote ▸ by decide
    have sent := arrived.sentAll untold fun m hm => remoteStays m (List.mem_append_left _ hm)
    have received :=
      arrived.receivedAll untold fun i hi => clientStays i (List.mem_append_left _ hi)
    have input := sent.trans (show said _ = [108, 115, 10] by decide +kernel)
    have output := received.trans (show shown _ = [36, 32, 33] by decide)
    exact ⟨moves, c, run, rest, input, output⟩

end ShellGateway.Web
