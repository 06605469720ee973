import ShellGateway.Proofs.Session.Resizing

/-!
# No terminal is sent a window of any other size

Web clients may ask for the sizes that a terminal page can show. The gateway looks at the size
before it looks at anything else, so a call that carries a window on has asked for an admissible
one. A remote host gets windows in two ways: when its terminal is asked for, and when a terminal
takes one off its control queue and passes it on, which somebody has sent there (`Balanced`).
Either way the window was in a call.

Whoever holds a session itself may send it any window. So the result names these windows as the
only others (`Welcome`).
-/

namespace ShellGateway.Session

variable {g : Gateway} {h h' : Hub} {c c' : Call} {e : Event} {w : Window} {moves : List Move}
  {t : System}

/-- The window that a call has been given and has not sent, or has asked the remote host for. -/
def Call.window? : Call → Option Window
  | asked (.resizeSession _ w) => some w
  | sharing _ w _ | sending _ _ w _ | takingShell _ _ w | attending _ _ w => some w
  | bridging _ _ _ task => some task.terminal.window
  | _ => none

/-! ## Calls -/

namespace Call

theorem window?_ofNext (n : Next) : (ofNext n).window? = none := by
  cases n <;> rfl

theorem window?_closeRemoved (removed : Option Serial) (n n' : Next) :
    (closeRemoved removed n n').window? = none := by
  cases removed with
  | some s => rfl
  | none => exact window?_ofNext n'

theorem Leaving.window? {a : Answer} (leaving : c.Leaving a) : c.window? = none := by
  cases leaving <;> rfl

/-- A request that comes with a window is refused, or goes on with an admissible one. -/
theorem window?_lookUpFor {id : String} {w' : Window} {found : Serial → Call}
    (carries : ∀ s, (found s).window? = some w') (hp : lookUpFor h id w' found = (h', c'))
    (hw : c'.window? = some w) : w.Admissible := by
  by_cases admissible : w'.Admissible
  · rw [lookUpFor, Window.checked, if_pos admissible, lookUp] at hp
    dsimp only at hp
    split at hp
    · cases hp
      rw [carries] at hw
      cases hw
      exact admissible
    · cases hp
      cases hw
  · rw [lookUpFor, Window.checked, if_neg admissible] at hp
    cases hp
    cases hw

theorem window?_start {r : Request} (hp : start g h r = (h', c')) (hw : c'.window? = some w) :
    w.Admissible ∨ (asked r).window? = some w := by
  cases r with
  | resize id w' => exact .inl (window?_lookUpFor (fun _ => rfl) hp hw)
  | terminal id w' => exact .inl (window?_lookUpFor (fun _ => rfl) hp hw)
  | resizeSession s w' =>
    cases hp
    exact .inr hw
  | touch id | create =>
    unfold start at hp
    dsimp only at hp
    split at hp
    · cases hp
      cases hw
    · cases hp
      cases hw
  | keepAlive id | view id | exec id command | transfer id =>
    unfold start lookUp at hp
    dsimp only at hp
    split at hp
    · cases hp
      cases hw
    · cases hp
      cases hw
  | _ =>
    cases hp
    cases hw

/-- **A call carries the window on that it was asked with, which was looked at, or which somebody
sends who holds the session.** -/
theorem window?_step (hs : c.step g e h = some (h', c')) (hw : c'.window? = some w) :
    w.Admissible ∨ c.window? = some w := by
  cases c with
  | asked r => exact window?_start (onGo_eq hs) hw
  | connecting client target login term =>
    have hp := onGo_eq hs
    unfold connect at hp
    split at hp <;> cases hp <;> cases hw
  | registering s =>
    cases onGo_eq hs
    rw [window?_closeRemoved] at hw
    cases hw
  | touching s a | viewing s | applied s q =>
    cases onGo_eq hs
    cases hw
  | beginning s u =>
    have hp := onGo_eq hs
    unfold begin at hp
    dsimp only at hp
    split at hp <;> cases hp <;> cases hw
  | underway s u =>
    obtain ⟨-, a, rfl⟩ := step_underway hs
    cases hw
  | removing id next absent =>
    cases onGo_eq hs
    rw [window?_closeRemoved] at hw
    cases hw
  | closing s stage next =>
    have ended := window?_ofNext next
    cases piece hs with
    | late | transportReleased =>
      rw [ended] at hw
      cases hw
    | plain keeps before => cases before
    | aboard id s keeps before => cases before
    | ashore id s how keeps before => cases before
    | _ => cases hw
  | sweeping maxIdle stale evicted =>
    have hp := onGo_eq hs
    cases stale with
    | nil =>
      cases hp
      cases hw
    | cons id rest =>
      cases hp
      rw [window?_closeRemoved] at hw
      cases hw
  | sharing s w' evict =>
    obtain ⟨q, rfl⟩ | ⟨-, rfl⟩ := share_cases hs
    · exact .inr hw
    · cases hw
  | sending s q w' evict =>
    obtain ⟨t, rfl⟩ | ⟨-, leaving⟩ := send_cases hs
    · cases hw
    · rw [leaving.window?] at hw
      cases hw
  | awaiting s q ticket evict =>
    obtain ⟨-, rfl⟩ | ⟨reply, a, -, -, leaving⟩ := await_cases hs
    · cases hw
    · rw [leaving.window?] at hw
      cases hw
  | takingShell id s w' =>
    have hp := onGo_eq hs
    obtain ⟨-, rfl⟩ := Prod.mk.inj hp
    split at hw
    · exact .inr hw
    · cases hw
  | attending id s w' =>
    cases onGo_eq hs
    exact .inr hw
  | bridging id s q task =>
    obtain ⟨m, q', met, task', ht, hb, -⟩ := stepTerminal_cases hs
    obtain rfl | ⟨how, rfl⟩ := bridged_cases hb
    · rw [window?, TerminalTask.terminal_step ht] at hw
      exact .inr hw
    · cases hw
  | answered a => cases hs

end Call

/-! ## Schedules -/

/-- A window that may be sent to a remote host: web clients may ask for it, or somebody who holds
the session has sent it. -/
def Welcome (moves : List Move) (w : Window) : Prop :=
  w.Admissible ∨ ∃ s, .start (.resizeSession s w) ∈ moves

theorem Welcome.append {past : List Move} (welcome : Welcome past w) (m : Move) :
    Welcome (past ++ [m]) w :=
  welcome.imp_right fun ⟨s, asked⟩ => ⟨s, List.mem_append_left _ asked⟩

/-- **Every window that a call carries is welcome.** -/
theorem welcome_of_call (ran : System.initial.run g moves = some t) {call : Call}
    (there : call ∈ t.calls) (hw : call.window? = some w) : Welcome moves w := by
  induction moves using List.reverseRecOn generalizing t call with
  | nil =>
    cases ran
    cases there
  | append_singleton past m ih =>
    obtain ⟨u, hu, -⟩ := System.run_append_eq_some ran
    rw [System.run_concat, hu] at ran
    cases m with
    | start r =>
      cases ran
      obtain old | new := List.mem_append.mp there
      · exact (ih hu old hw).append _
      · cases List.mem_singleton.mp new
        cases r with
        | resizeSession s w' =>
          cases hw
          exact .inr ⟨s, by simp⟩
        | _ => cases hw
    | step d e =>
      obtain ⟨before, h, after, hd, stepped, rfl⟩ := System.move_step_eq_some ran
      obtain old | rfl := List.mem_or_eq_of_mem_set there
      · exact (ih hu old hw).append _
      · obtain admissible | carried := Call.window?_step stepped hw
        · exact .inl admissible
        · exact (ih hu (List.mem_of_getElem? hd) carried).append _
    | make | wait =>
      cases ran
      exact (ih hu there hw).append _

/-- Every window that was sent through a control queue is welcome. -/
theorem welcome_of_sent (ran : System.initial.run g moves = some t) {x : CallId × Errand}
    (there : x ∈ sent g moves) : Welcome moves x.2.window := by
  induction moves using List.reverseRecOn generalizing t with
  | nil => cases there
  | append_singleton past m ih =>
    obtain ⟨u, hu, -⟩ := System.run_append_eq_some ran
    unfold sent at there
    rw [System.trail_concat _ m hu] at there
    obtain old | new := List.mem_append.mp there
    · exact (ih hu old).append m
    · rw [System.run_concat, hu] at ran
      cases m with
      | step d e =>
        obtain ⟨call, h, call', hd, stepped, -⟩ := System.move_step_eq_some ran
        rw [System.noticing_step Call.sends hd stepped] at new
        obtain ⟨errand, sends, rfl⟩ := List.mem_map.mp new
        -- who sends a window has it until then
        have carried : call.window? = some errand.window := by
          unfold Call.sends at sends
          split at sends
          · cases List.mem_singleton.mp sends
            rfl
          · cases sends
        exact (welcome_of_call hu (List.mem_of_getElem? hd) carried).append _
      | _ => cases new

/-- What remote hosts are sent along a schedule that leads to system `t`. -/
structure OnlyWelcome (g : Gateway) (moves : List Move) (t : System) : Prop where
  /-- Each terminal asks for a welcome window, and has passed on no others. -/
  terminals : ∀ {id s q task}, .bridging id s q task ∈ t.calls →
    Welcome moves task.terminal.window ∧ ∀ f ∈ task.forwarded, Welcome moves f.window
  /-- All windows that were ever passed on are welcome. -/
  passed : ∀ x ∈ passed g moves, Welcome moves x.2.2.window

/-- **No remote host is ever sent a window that is not welcome.** -/
theorem onlyWelcome (ran : System.initial.run g moves = some t) : OnlyWelcome g moves t := by
  have b := Balanced.run ran
  have all : ∀ x ∈ Session.passed g moves, Welcome moves x.2.2.window := by
    intro x there
    obtain ⟨y, hy, same⟩ := List.mem_map.mp (b.desk.mem_sent (List.mem_map_of_mem there))
    have sent := welcome_of_sent ran hy
    rw [same] at sent
    exact sent
  refine ⟨?_, all⟩
  intro id s q task there
  refine ⟨welcome_of_call ran there rfl, fun f hf => ?_⟩
  obtain ⟨d, hd⟩ := List.getElem?_of_mem there
  have account : task.forwarded = _ := b.account d _ hd rfl
  rw [account] at hf
  obtain ⟨p, hp, rfl⟩ := List.mem_map.mp hf
  exact all (d, p) (mem_of_mem_notesOf hp)

end ShellGateway.Session
