import Mathlib.Data.List.TakeWhile
import ShellGateway.Proofs.Remote.OneShot
import ShellGateway.Proofs.Terminal.Transparency

/-!
# What is put out before a terminal relays

A terminal asks the remote host for two things and waits for the answers before it relays.
While it waits it reads the channel that output arrives on as well, and takes up nothing but
the answers (`Asking.answer`). Output that arrives before them is passed over: it is not
written then, and it is not kept for later.

So what a terminal has written is what it has met since it was attached, or, if it never was,
the text that says why, as far as that could be written (`Told`); that holds of every course
that it can take (`TerminalTask.told`). For a client who only watches, all of it can be read
off the messages of the channel (`shown`): whatever these are, the terminal comes to its end
and has written just that (`TerminalTask.run_watching`).

A remote host that explains itself before it refuses is not heard (`opening_output_lost`).
-/

namespace ShellGateway

open Terminal
open Remote (Message heard)

/-! ## Answers among messages -/

/-- The message answers a request, or says that nothing will. -/
def Remote.Message.isReply : Message → Bool
  | success | failure | close => true
  | data _ | extendedData _ _ | exitStatus _ | eof | other => false

namespace Terminal

/-- What the messages of a channel come to for a request that awaits its answer: the messages
that are left after it, or why the request is given up. -/
def Asking.answer (what : Asking) (messages : List Message) : Except Failure (List Message) :=
  match messages.dropWhile (!·.isReply) with
  | .success :: rest => .ok rest
  | .failure :: _ => .error what.refused
  | _ => .error what.unanswered

/-- What arrives before the answer makes no difference to it. -/
theorem Asking.answer_append (what : Asking) {before : List Message}
    (quiet : ∀ m ∈ before, m.isReply = false) (rest : List Message) :
    what.answer (before ++ rest) = what.answer rest := by
  unfold Asking.answer
  rw [List.dropWhile_append_of_pos fun m hm => by rw [quiet m hm]; rfl]

/-- What they come to for both requests: the messages that are left for the relay, or why
there is none. -/
def opening (messages : List Message) : Except Failure (List Message) :=
  Asking.pty.answer messages >>= Asking.shell.answer

/-- What is written for a client who only watches. -/
def shown (messages : List Message) : Bytes :=
  match opening messages with
  | .ok rest => (heard rest).flatMap Message.output
  | .error why => .ofText (TerminalTask.startFailureText why)

/-- What arrives before either answer is not shown. -/
theorem shown_append {before between : List Message}
    (quietBefore : ∀ m ∈ before, m.isReply = false)
    (quietBetween : ∀ m ∈ between, m.isReply = false) (rest : List Message) :
    shown (before ++ rest) = shown rest ∧
      shown (before ++ .success :: (between ++ rest)) = shown (.success :: rest) := by
  have passed : ∀ rest, opening (before ++ rest) = opening rest := by
    intro rest
    unfold opening
    rw [Asking.answer_append _ quietBefore]
  have passedToo : opening (.success :: (between ++ rest)) = opening (.success :: rest) :=
    Asking.answer_append .shell quietBetween rest
  unfold shown
  rw [passed, passed, passedToo]
  exact ⟨rfl, rfl⟩

/-! ## The course of a terminal that is only watched -/

/-- Reading a channel up to the first message that ends the reading, or to the end of the
channel. -/
def reading (last : Message → Bool) : List Message → List Event
  | [] => [.channelEnd]
  | m :: rest => if last m then [.message m none] else .message m none :: reading last rest

/-- The relay, once the shell has been granted. -/
def watchingRelay (messages : List Message) : List Event :=
  .attached :: reading (· = .close) messages

/-- The request for the shell and what follows, once the terminal has been granted. -/
def watchingShell (messages : List Message) : List Event :=
  .requested none :: reading Message.isReply messages ++
    match Asking.shell.answer messages with
    | .ok rest => watchingRelay rest ++ [.released false]
    | .error _ => [.reported none]

/-- The whole course of a terminal on whose channel the given messages arrive, as long as
nobody types and nothing fails. -/
def watching (messages : List Message) : List Event :=
  .requested none :: reading Message.isReply messages ++
    (match Asking.pty.answer messages with
    | .ok rest => watchingShell rest
    | .error _ => [.reported none]) ++
    [.released false]

/-- Nothing fails that an event brings with it. -/
def Event.goesWell : Event → Bool
  | requested none | message _ none | channelEnd | attached | input _ none | inputEnd
  | command _ none | queueEnd | reported none | released false => true
  | requested (some _) | message _ (some _) | input _ (some _) | inputFailed _
  | command _ (some _) | reported (some _) | released true | brokeDown | stopped _ => false

end Terminal

namespace TerminalTask

variable {t t' : TerminalTask} {e : Event} {met es : List Event} {what : Asking}

/-! ## One event -/

/-- The terminal is on its way out, or has ended. -/
def isOver (t : TerminalTask) : Bool :=
  match t.stage with
  | .shuttingDown _ _ | .closing _ | .ended _ => true
  | _ => false

/-- Until it is attached, a terminal writes nothing. -/
theorem step_of_starting (starting : t.isStarting = true) (hs : t.step e = some t') :
    t'.written = t.written ∧
      (e = .attached ∧ t'.stage = .relaying ∨
        e ≠ .attached ∧
          (t'.isStarting = true ∨ (∃ why, t'.stage = .reporting why) ∨ t'.isOver = true)) := by
  obtain ⟨rfl | ⟨task, rfl⟩, how, rfl⟩ | own := step_cases hs
  · exact ⟨rfl, .inr ⟨nofun, .inr (.inr rfl)⟩⟩
  · exact ⟨rfl, .inr ⟨nofun, .inr (.inr rfl)⟩⟩
  · unfold advance at own
    split at own
    case h_1 =>
      split at own <;> cases own
      · exact ⟨rfl, .inr ⟨nofun, .inl rfl⟩⟩
      · exact ⟨rfl, .inr ⟨nofun, .inr (.inl ⟨_, rfl⟩)⟩⟩
    case h_2 what stage =>
      unfold stepAwaiting at own
      split at own <;> cases own
      · exact ⟨rfl, .inr ⟨nofun, .inl (by cases what <;> rfl)⟩⟩
      · exact ⟨rfl, .inr ⟨nofun, .inr (.inl ⟨_, rfl⟩)⟩⟩
      · exact ⟨rfl, .inr ⟨nofun, .inr (.inl ⟨_, rfl⟩)⟩⟩
      · exact ⟨rfl, .inr ⟨nofun, .inl starting⟩⟩
      · exact ⟨rfl, .inr ⟨nofun, .inr (.inl ⟨_, rfl⟩)⟩⟩
    case h_3 =>
      obtain ⟨attached, here⟩ := Option.ite_none_right_eq_some.mp own
      cases here
      exact ⟨rfl, .inl ⟨attached, rfl⟩⟩
    all_goals
      rename_i stage
      unfold isStarting at starting
      rw [stage] at starting
      cases starting

/-- How much a terminal that was never attached has written of why: nothing, all of it, or
what was taken when the writing failed. -/
def Accounts (written : Bytes) (met : List Event) : Prop :=
  written = [] ∨ ∃ why, written = .ofText (startFailureText why) ∨
    ∃ taken, .reported (some taken) ∈ met ∧
      written = (Bytes.ofText (startFailureText why)).take taken

theorem Accounts.concat {written : Bytes} (account : Accounts written met) (e : Event) :
    Accounts written (met ++ [e]) := by
  obtain nothing | ⟨why, all | ⟨taken, cut, some⟩⟩ := account
  · exact .inl nothing
  · exact .inr ⟨why, .inl all⟩
  · exact .inr ⟨why, .inr ⟨taken, List.mem_append_left _ cut, some⟩⟩

/-- One that cannot start tells why, as far as it can. -/
theorem step_of_reporting {why : Failure} (reporting : t.stage = .reporting why)
    (nothing : t.written = []) (hs : t.step e = some t') :
    e ≠ .attached ∧ t'.isOver = true ∧ Accounts t'.written (met ++ [e]) := by
  obtain ⟨rfl | ⟨task, rfl⟩, how, rfl⟩ | own := step_cases hs
  · exact ⟨nofun, rfl, .inl nothing⟩
  · exact ⟨nofun, rfl, .inl nothing⟩
  · unfold advance at own
    rw [reporting] at own
    cases e with
    | reported cut =>
      cases own
      refine ⟨nofun, rfl, .inr ⟨why, ?_⟩⟩
      unfold report
      rw [nothing]
      cases cut with
      | none => exact .inl rfl
      | some taken => exact .inr ⟨taken, List.mem_append_right _ List.mem_cons_self, rfl⟩
    | _ => cases own

/-- While it relays, it writes what it meets. -/
theorem step_of_relaying (relaying : t.stage = .relaying) (hs : t.step e = some t') :
    t'.written = t.written ++ e.delivered ∧ (t'.stage = .relaying ∨ t'.isOver = true) := by
  cases here : e.isRelayed with
  | true =>
    cases (step_relaying relaying here).symm.trans hs
    refine ⟨rfl, ?_⟩
    unfold after isOver
    cases e.verdict? with
    | none => exact .inl relaying
    | some result => exact .inr rfl
  | false =>
    have nothing : e.delivered = [] := by
      cases e <;> first | rfl | cases here
    rw [nothing, List.append_nil]
    obtain ⟨-, how, rfl⟩ | own := step_cases hs
    · exact ⟨rfl, .inr rfl⟩
    · have deaf : t.stepRelaying e = none := by
        cases e <;> first | rfl | cases here
      unfold advance at own
      rw [relaying] at own
      cases deaf.symm.trans own

/-- Afterwards it writes nothing any more. -/
theorem step_of_isOver (finishing : t.isOver = true) (hs : t.step e = some t') :
    e.delivered = [] ∧ e ≠ .attached ∧ t'.written = t.written ∧ t'.isOver = true := by
  obtain ⟨rfl | ⟨task, rfl⟩, how, rfl⟩ | own := step_cases hs
  · exact ⟨rfl, nofun, rfl, rfl⟩
  · exact ⟨rfl, nofun, rfl, rfl⟩
  · unfold advance at own
    split at own
    case h_6 result hadShell stage =>
      split at own <;> cases own
      cases hadShell <;> exact ⟨rfl, nofun, rfl, rfl⟩
    case h_7 =>
      split at own <;> cases own
      exact ⟨rfl, nofun, rfl, rfl⟩
    case h_8 => cases own
    all_goals
      rename_i stage
      unfold isOver at finishing
      rw [stage] at finishing
      cases finishing

/-! ## Any course -/

/-- What a terminal has met since it was attached. -/
def sinceAttached (met : List Event) : List Event :=
  met.dropWhile (· ≠ .attached)

theorem sinceAttached_of_not_mem (never : .attached ∉ met) : sinceAttached met = [] := by
  refine List.dropWhile_eq_nil_iff.2 fun e he => decide_eq_true ?_
  rintro rfl
  exact never he

theorem sinceAttached_concat_of_mem (attached : .attached ∈ met) (e : Event) :
    sinceAttached (met ++ [e]) = sinceAttached met ++ [e] := by
  have some : (met.dropWhile (· ≠ .attached)).isEmpty = false := by
    refine List.isEmpty_eq_false_iff.mpr fun none => ?_
    exact of_decide_eq_true (List.dropWhile_eq_nil_iff.mp none _ attached) rfl
  unfold sinceAttached
  rw [List.dropWhile_append, some]
  rfl

theorem sinceAttached_attached (never : .attached ∉ met) :
    sinceAttached (met ++ [.attached]) = [.attached] := by
  have passed : met.dropWhile (· ≠ .attached) = [] := sinceAttached_of_not_mem never
  unfold sinceAttached
  rw [List.dropWhile_append, passed]
  rfl

/-- What a terminal has written that has met the events given. -/
inductive Told (t : TerminalTask) (met : List Event) : Prop
  /-- It has not been attached yet, and may never be. -/
  | opening (never : .attached ∉ met)
      (pending : t.isStarting = true ∨ ∃ why, t.stage = .reporting why) (nothing : t.written = [])
  | gaveUp (never : .attached ∉ met) (finishing : t.isOver = true)
      (account : Accounts t.written met)
  | relayed (attached : .attached ∈ met) (place : t.stage = .relaying ∨ t.isOver = true)
      (written : t.written = (sinceAttached met).flatMap Event.delivered)

theorem Told.step (told : t.Told met) (hs : t.step e = some t') : t'.Told (met ++ [e]) := by
  have still (never : .attached ∉ met) (other : e ≠ .attached) : .attached ∉ met ++ [e] := by
    rw [List.mem_append, List.mem_singleton, not_or]
    exact ⟨never, Ne.symm other⟩
  cases told with
  | opening never pending nothing =>
    obtain starting | ⟨why, reporting⟩ := pending
    · obtain ⟨same, ⟨rfl, relaying⟩ | ⟨other, goesOn⟩⟩ := step_of_starting starting hs
      · refine .relayed (List.mem_append_right _ List.mem_cons_self) (.inl relaying) ?_
        rw [same, nothing, sinceAttached_attached never]
        rfl
      · obtain starting | reporting | finishing := goesOn
        · exact .opening (still never other) (.inl starting) (same.trans nothing)
        · exact .opening (still never other) (.inr reporting) (same.trans nothing)
        · exact .gaveUp (still never other) finishing (.inl (same.trans nothing))
    · obtain ⟨other, finishing, account⟩ := step_of_reporting reporting nothing hs
      exact .gaveUp (still never other) finishing account
  | gaveUp never finishing account =>
    obtain ⟨-, other, same, finishing⟩ := step_of_isOver finishing hs
    rw [← same] at account
    exact .gaveUp (still never other) finishing (account.concat e)
  | relayed attached place written =>
    have adds : t'.written = t.written ++ e.delivered ∧
        (t'.stage = .relaying ∨ t'.isOver = true) := by
      obtain relaying | finishing := place
      · exact step_of_relaying relaying hs
      · obtain ⟨nothing, -, same, finishing⟩ := step_of_isOver finishing hs
        rw [nothing, List.append_nil]
        exact ⟨same, .inr finishing⟩
    refine .relayed (List.mem_append_left _ attached) adds.2 ?_
    rw [adds.1, written, sinceAttached_concat_of_mem attached, List.flatMap_append,
      List.flatMap_singleton]

/-- **Whatever a terminal meets**, it writes what it meets once it is attached, and otherwise at
most why it never was. -/
theorem told {terminal : Terminal} (ran : ({ terminal } : TerminalTask).run es = some t) :
    t.Told es := by
  induction es using List.reverseRecOn generalizing t with
  | nil =>
    cases ran
    exact .opening List.not_mem_nil (.inl rfl) rfl
  | append_singleton es e ih =>
    rw [run_append] at ran
    obtain ⟨t₁, before, last⟩ := Option.bind_eq_some_iff.mp ran
    obtain ⟨t₂, step, last⟩ := Option.bind_eq_some_iff.mp last
    cases last
    exact (ih before).step step

/-! ## Any messages -/

/-- While a request awaits its answer, what is met is for that request. -/
theorem step_awaiting (awaiting : t.stage = .awaiting what) (here : e.isRelayed = true) :
    t.step e = t.stepAwaiting what e := by
  unfold step end? advance
  rw [awaiting]
  cases e <;> first | rfl | cases here

/-- The answer to a request is found among the messages, and what comes before it leaves no
trace. -/
theorem run_reading_reply (awaiting : t.stage = .awaiting what) (messages : List Message) :
    t.run (reading Message.isReply messages) = some (match what.answer messages with
      | .ok _ => { t with stage := granted what }
      | .error why => t.giveUp why) := by
  unfold Asking.answer
  induction messages with
  | nil =>
    show (t.step .channelEnd >>= fun t => t.run []) = _
    rw [step_awaiting awaiting rfl]
    rfl
  | cons m rest ih =>
    cases m with
    | success | failure | close =>
      show (t.step _ >>= fun t => t.run []) = _
      rw [step_awaiting awaiting rfl]
      rfl
    | _ =>
      show (t.step _ >>= fun t => t.run (reading Message.isReply rest)) = _
      rw [step_awaiting awaiting rfl]
      exact ih

/-- From then on everything that is heard is written. -/
theorem run_reading_close (relaying : t.stage = .relaying) (messages : List Message) :
    t.run (reading (· = .close) messages) = some { t with
      stage := .shuttingDown (.ok ()) true
      written := t.written ++ (heard messages).flatMap Message.output } := by
  induction messages generalizing t with
  | nil =>
    show (t.step .channelEnd >>= fun t => t.run []) = _
    rw [step_relaying relaying rfl]
    simp [after, Event.windows, heard, TerminalTask.run]
  | cons m rest ih =>
    by_cases closed : m = .close
    · subst closed
      show (t.step (.message .close none) >>= fun t => t.run []) = _
      rw [step_relaying relaying rfl]
      simp [after, Event.windows, heard, TerminalTask.run, Message.payload?]
    · have goesOn : reading (· = .close) (m :: rest) =
          .message m none :: reading (· = .close) rest :=
        if_neg (by simpa using closed)
      have written : t.after (.message m none) = { t with written := t.written ++ m.output } := by
        cases m with
        | close => exact absurd rfl closed
        | _ => simp [after, Event.windows, Message.output]
      have heardToo : heard (m :: rest) = m :: heard rest := by
        unfold heard
        exact List.takeWhile_cons_of_pos (by simpa using closed)
      have later := @ih { t with written := t.written ++ m.output } relaying
      rw [goesOn, TerminalTask.run, step_relaying relaying rfl, written]
      rw [heardToo, List.flatMap_cons, ← List.append_assoc]
      exact later

/-- A request is sent and its answer found among the messages. -/
theorem run_asking (asking : t.stage = .asking what) (messages : List Message) :
    t.run (.requested none :: reading Message.isReply messages) =
      some (match what.answer messages with
        | .ok _ => { t with stage := granted what }
        | .error why => t.giveUp why) := by
  have sent : t.step (.requested none) = some { t with stage := .awaiting what } := by
    unfold step end? advance
    rw [asking]
  rw [TerminalTask.run, sent]
  exact run_reading_reply rfl messages

/-- A terminal that could not be opened says why and ends. -/
theorem run_giveUp (t : TerminalTask) (why : Failure) :
    ∃ t', (t.giveUp why).run [.reported none, .released false] = some t' ∧
      t'.stage = .ended (.finished (.error why)) ∧
      t'.written = t.written ++ .ofText (startFailureText why) :=
  ⟨_, rfl, rfl, rfl⟩

/-- One that was opened shows what it is sent and ends. -/
theorem run_watchingRelay (ready : t.stage = .attaching) (messages : List Message) :
    ∃ t', t.run (watchingRelay messages ++ [.released false, .released false]) = some t' ∧
      t'.stage = .ended (.finished (.ok ())) ∧
      t'.written = t.written ++ (heard messages).flatMap Message.output := by
  have attached : t.step .attached = some { t with stage := .relaying } := by
    unfold step end? advance
    rw [ready]
    rfl
  rw [run_append, watchingRelay, TerminalTask.run, attached, Option.bind_eq_bind, Option.bind_some,
    run_reading_close rfl]
  exact ⟨_, rfl, rfl, rfl⟩

/-- **Whatever messages arrive**, the terminal of a client who only watches comes to its end,
and has written what is shown of them. -/
theorem run_watching (terminal : Terminal) (messages : List Message) :
    ∃ t, ({ terminal } : TerminalTask).run (watching messages) = some t ∧
      t.stage = .ended (.finished ((opening messages).map fun _ => ())) ∧
      t.written = shown messages := by
  have asked := @run_asking { terminal } .pty rfl messages
  unfold watching shown opening
  rw [List.append_assoc, run_append, asked]
  cases Asking.pty.answer messages with
  | error why => exact run_giveUp { terminal } why
  | ok rest =>
    have asked := @run_asking { terminal, stage := .asking .shell } .shell rfl rest
    have both : (.ok rest >>= Asking.shell.answer) = Asking.shell.answer rest := rfl
    show ∃ t, TerminalTask.run { terminal, stage := .asking .shell }
      (watchingShell rest ++ [.released false]) = some t ∧ _
    rw [watchingShell, List.append_assoc, run_append, asked, both]
    cases Asking.shell.answer rest with
    | error why => exact run_giveUp { terminal } why
    | ok rest =>
      show ∃ t, TerminalTask.run { terminal, stage := .attaching }
        (watchingRelay rest ++ [.released false] ++ [.released false]) = some t ∧ _
      rw [List.append_assoc]
      exact @run_watchingRelay { terminal, stage := .attaching } rfl rest

/-! ## What is not seen -/

/-- **Output that arrives before a terminal relays is not seen.** Whatever a terminal meets, it
has written what it met after it was attached; if it never was, it has written why at most, and
only part of that if the writing failed. So a client who only watches is shown nothing of what
arrives before the remote host has granted the terminal and then the shell, and of a refusal
only that there was one. -/
theorem opening_output_unseen (terminal : Terminal) :
    (∀ (es : List Event) (t : TerminalTask), ({ terminal } : TerminalTask).run es = some t →
      (.attached ∈ es → t.written = (sinceAttached es).flatMap Event.delivered) ∧
      (.attached ∉ es → t.written = [] ∨ ∃ why, t.written = .ofText (startFailureText why) ∨
        ∃ taken, .reported (some taken) ∈ es ∧
          t.written = (Bytes.ofText (startFailureText why)).take taken)) ∧
    (∀ messages : List Message, ∃ t,
      ({ terminal } : TerminalTask).run (watching messages) = some t ∧
        t.stage = .ended (.finished ((opening messages).map fun _ => ())) ∧
        t.written = shown messages) ∧
    ∀ before between rest : List Message,
      (∀ m ∈ before, m.isReply = false) → (∀ m ∈ between, m.isReply = false) →
        shown (before ++ rest) = shown rest ∧
          shown (before ++ .success :: (between ++ rest)) = shown (.success :: rest) := by
  refine ⟨fun es t ran => ?_, run_watching terminal, fun before between rest quiet quietToo =>
    shown_append quiet quietToo rest⟩
  obtain ⟨never, -, nothing⟩ | ⟨never, -, account⟩ | ⟨attached, -, written⟩ := told ran
  · exact ⟨fun attached => absurd attached never, fun _ => .inl nothing⟩
  · exact ⟨fun attached => absurd attached never, fun _ => account⟩
  · exact ⟨fun _ => written, fun never => absurd attached never⟩

/-- A remote host greets before it grants the terminal and again before it grants the shell.
What it says after that is all that is shown. -/
theorem opening_output_unseen_greetings :
    let terminal : Terminal := ⟨"xterm", ⟨80, 24⟩⟩
    let before : List Message := [.data [72, 105]]
    let between : List Message := [.extendedData 1 [33], .other]
    let rest : List Message := [.success, .data [36, 32], .exitStatus 0, .close, .data [63]]
    let messages := before ++ .success :: (between ++ rest)
    (∀ m ∈ before, m.isReply = false) ∧ (∀ m ∈ between, m.isReply = false) ∧
      shown messages = [36, 32] ∧
      ∃ t, ({ terminal } : TerminalTask).run (watching messages) = some t ∧
        .attached ∈ watching messages ∧ t.written = [36, 32] ∧
        (sinceAttached (watching messages)).flatMap Event.delivered = [36, 32] := by
  intro terminal before between rest messages
  have quiet : ∀ m ∈ before, m.isReply = false := by decide
  have quietToo : ∀ m ∈ between, m.isReply = false := by decide
  obtain ⟨any, watched, passed⟩ := opening_output_unseen terminal
  have seen : shown messages = [36, 32] := (passed before between rest quiet quietToo).2
  have attached : .attached ∈ watching messages := by decide
  obtain ⟨t, ran, -, written⟩ := watched messages
  refine ⟨quiet, quietToo, seen, t, ran, attached, written.trans seen, ?_⟩
  rw [← (any _ t ran).1 attached, written, seen]

/-- **A refusal that is explained is not understood**: the remote host grants a terminal, says
why it has no shell for it, and refuses. The client reads that it was refused, and nothing of
why. -/
theorem opening_output_lost :
    ¬ ∀ (terminal : Terminal) (es : List Event) (t : TerminalTask),
      ({ terminal } : TerminalTask).run es = some t → t.end?.isSome = true →
        (∀ e ∈ es, e.goesWell = true) →
          (es.takeWhile (· ≠ .attached)).flatMap Event.payload <+: t.written := by
  intro kept
  have explained := kept ⟨"xterm", ⟨80, 24⟩⟩
    (watching [.success, .extendedData 1 [110, 111], .failure, .close]) _ rfl rfl (by decide)
  exact absurd explained (by decide +kernel)

end TerminalTask

end ShellGateway
