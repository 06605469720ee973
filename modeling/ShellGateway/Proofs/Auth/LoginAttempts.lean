import ShellGateway.Daemon.Login
import ShellGateway.Proofs.Auth.PasswordDecision

/-!
# What a client learns from logins, and whom they let in

A client makes attempts, by password and by key, in any order and under any names.
`Accounts.admits?` is what the accounts have to say of one of them: the identity that it
is accepted as, if it is. A connection takes up that identity and nothing else
(`Connection.login_eq`), so the replies to a run of attempts are told by which of them
are accepted (`Connection.replies_logins`), and a run of denials leaves the connection as
it was (`Connection.logins_of_denied`).

Two results follow.

- *Denials look alike.* Accounts that deny the same attempts, for whatever reasons, give
  the same replies and leave the same connection (`denials_reveal_nothing`). The reason
  itself does not tell a wrong secret for an account that is switched off from one for an
  account that does not exist.
- *Only a key gets past a record that is switched off.* No password is accepted under a
  user name whose record is disabled or has ended. Keys do not belong to users: an
  authorised one is accepted under any name, that one included
  (`switchedOff_replies`, `switchedOff_let_in`).
-/

namespace ShellGateway

open Daemon (Connection LoginAttempt LoginReply)

namespace Auth

/-! ## What a lookup decides -/

namespace Lookup

/-- The secret is looked at before the state of the account. -/
theorem verdict_eq_badCredential_iff (l : Lookup) (username : String) :
    l.verdict username = .error .badCredential ↔ l.ok = false := by
  unfold verdict
  cases l.ok <;> cases l.disabled <;> cases l.expired <;> simp

theorem verdict_eq_ok_iff (l : Lookup) (username identity : String) :
    l.verdict username = .ok identity ↔
      l.ok = true ∧ l.disabled = false ∧ l.expired = false ∧
        identity = l.identity.getD username := by
  unfold verdict
  cases l.ok <;> cases l.disabled <;> cases l.expired <;> simp [eq_comm]

end Lookup

/-- The account is disabled, or has ended by `now`. -/
def Record.IsOff (r : Record) (now : Instant) : Prop :=
  r.enabled = false ∨ r.HasEnded now

namespace Accounts

variable {accounts : Accounts} {username secret : String} {now : Instant} {r : Record}

/-- The user has the presented secret. -/
def HasSecret (accounts : Accounts) (username secret : String) : Prop :=
  ∃ r, accounts.users.get? username = some r ∧ r.HasSecret secret

theorem lookup_of_known (known : accounts.users.get? username = some r) :
    accounts.lookup username secret now = r.lookup secret now := by
  unfold lookup
  rw [known]

/-- Without the right secret the reason is always the same one. -/
theorem decidePassword_eq_badCredential_iff (accounts : Accounts) (username secret : String)
    (now : Instant) :
    accounts.decidePassword username secret now = .error .badCredential ↔
      ¬ accounts.HasSecret username secret := by
  unfold decidePassword HasSecret
  rw [Lookup.verdict_eq_badCredential_iff]
  cases known : accounts.users.get? username with
  | none => simp [lookup, known]
  | some r =>
    rw [lookup_of_known known, ← Bool.not_eq_true, Record.lookup_ok_iff]
    simp

/-- No password opens an account that is switched off. -/
theorem decidePassword_of_isOff (known : accounts.users.get? username = some r)
    (off : r.IsOff now) (identity : String) :
    accounts.decidePassword username secret now ≠ .ok identity := by
  unfold decidePassword
  rw [lookup_of_known known, Ne, Lookup.verdict_eq_ok_iff]
  rintro ⟨-, enabled, current, -⟩
  rcases off with disabled | ended
  · simp [Record.lookup, disabled] at enabled
  · have expired : (r.lookup secret now).expired = true := (r.isExpiredAt_iff now).mpr ended
    cases expired.symm.trans current

/-- The identity that an attempt is accepted as, if it is. -/
def admits? (accounts : Accounts) (now : Instant) : LoginAttempt → Option String
  | .password username secret => (accounts.decidePassword username secret now).toOption
  | .key username bytes => if accounts.acceptsKey bytes then some username else .none

/-- The attempt is made with an authorised key. -/
def Authorises (accounts : Accounts) (a : LoginAttempt) : Prop :=
  ∃ username bytes, a = .key username bytes ∧ accounts.acceptsKey bytes = true

/-- Under the name of an account that is switched off, authorised keys are accepted and
nothing else. -/
theorem admits?_of_isOff {a : LoginAttempt} (known : accounts.users.get? a.username = some r)
    (off : r.IsOff now) : (accounts.admits? now a).isSome ↔ accounts.Authorises a := by
  cases a with
  | password username secret =>
    have denied : (accounts.decidePassword username secret now).toOption = .none := by
      cases decided : accounts.decidePassword username secret now with
      | error why => rfl
      | ok identity => exact absurd decided (decidePassword_of_isOff known off identity)
    simp [admits?, Authorises, denied]
  | key username bytes =>
    cases accepted : accounts.acceptsKey bytes <;> simp [admits?, Authorises, accepted]

end Accounts

end Auth

/-! ## Attempts, one after the other -/

namespace Daemon.Connection

open Auth (Accounts)

variable {accounts : Accounts} {c : Connection} {attempts : List (Instant × LoginAttempt)}

/-- A connection takes up the identity that an attempt is accepted as. After an attempt
that is denied it is as before. -/
theorem login_eq (accounts : Accounts) (now : Instant) (c : Connection) (a : LoginAttempt) :
    c.login accounts now a = match accounts.admits? now a with
      | some identity => ({ c with user := some identity }, .accept)
      | none => (c, .reject none) := by
  cases a with
  | password username secret =>
    unfold login loginWithPassword Accounts.admits?
    dsimp only
    cases accounts.decidePassword username secret now <;> rfl
  | key username bytes =>
    unfold login loginWithKey Accounts.admits?
    dsimp only
    cases accounts.acceptsKey bytes <;> rfl

/-- **The replies tell which attempts are accepted, and nothing else.** -/
theorem replies_logins (accounts : Accounts) (c : Connection)
    (attempts : List (Instant × LoginAttempt)) :
    (c.logins accounts attempts).2 =
      attempts.map fun x => .ofAccepted (accounts.admits? x.1 x.2).isSome := by
  induction attempts generalizing c with
  | nil => rfl
  | cons x rest ih =>
    obtain ⟨now, a⟩ := x
    show (c.login accounts now a).2 :: ((c.login accounts now a).1.logins accounts rest).2 = _
    rw [ih, login_eq, List.map_cons]
    cases accounts.admits? now a <;> rfl

theorem accept_mem_logins_iff :
    .accept ∈ (c.logins accounts attempts).2 ↔
      ∃ x ∈ attempts, (accounts.admits? x.1 x.2).isSome := by
  rw [replies_logins, List.mem_map]
  refine exists_congr fun x => and_congr_right fun _ => ?_
  cases (accounts.admits? x.1 x.2).isSome <;> simp [LoginReply.ofAccepted]

/-- **Denials leave a connection as it was**, and all get the same reply. -/
theorem logins_of_denied (denied : .accept ∉ (c.logins accounts attempts).2) :
    c.logins accounts attempts = (c, List.replicate attempts.length (.reject none)) := by
  induction attempts with
  | nil => rfl
  | cons x rest ih =>
    obtain ⟨now, a⟩ := x
    have first : accounts.admits? now a = none := by
      by_contra admitted
      exact denied (accept_mem_logins_iff.mpr
        ⟨_, List.mem_cons_self, Option.isSome_iff_ne_none.mpr admitted⟩)
    have later : .accept ∉ (c.logins accounts rest).2 := by
      intro accepted
      obtain ⟨y, hy, admitted⟩ := accept_mem_logins_iff.mp accepted
      exact denied (accept_mem_logins_iff.mpr ⟨y, List.mem_cons_of_mem _ hy, admitted⟩)
    unfold logins
    rw [login_eq, first]
    dsimp only
    rw [ih later]
    rfl

end Daemon.Connection

namespace Auth

/-! ## Denials -/

/-- **Accounts that deny the same attempts cannot be told apart by it**: the replies are
the same, and so is the connection afterwards. Where the secret is wrong, not even the
reason for the denial depends on the state of the account. -/
theorem denials_reveal_nothing (a b : Accounts) (c : Connection)
    (first second : List (Instant × LoginAttempt))
    (same : first.map Prod.snd = second.map Prod.snd)
    (deniedByFirst : .accept ∉ (c.logins a first).2)
    (deniedBySecond : .accept ∉ (c.logins b second).2) :
    c.logins a first = c.logins b second ∧
      ∀ accounts ∈ [a, b], ∀ username secret now,
        ¬ accounts.HasSecret username secret ↔
          accounts.decidePassword username secret now = .error .badCredential := by
  constructor
  · have length : first.length = second.length := by
      simpa using congrArg List.length same
    rw [c.logins_of_denied deniedByFirst, c.logins_of_denied deniedBySecond, length]
  · intro accounts _ username secret now
    exact (accounts.decidePassword_eq_badCredential_iff username secret now).symm

/-- A user who has left, and whose account was disabled. -/
def departed : Record :=
  { username := "ann", secret := some "new", enabled := false }

/-- Somebody tries ann's passwords, and then a key. -/
def prying (now : Instant) : List (Instant × LoginAttempt) :=
  [(now, .password "ann" "new"), (now, .password "ann" "old"), (now, .key "ann" [7])]

theorem denials_reveal_nothing_prying :
    let a : Accounts := .ofAdditions [.record departed, .key [8] "laptop"]
    let b : Accounts := .ofAdditions [.record { renamed with secret := some "old" }]
    let c : Connection := {}
    a.decidePassword "ann" "new" ⟨5, 0⟩ = .error .disabled ∧
      b.decidePassword "ann" "new" ⟨200, 0⟩ = .error .badCredential ∧
      b.decidePassword "ann" "old" ⟨200, 0⟩ = .error .expired ∧
      .accept ∉ (c.logins a (prying ⟨5, 0⟩)).2 ∧ .accept ∉ (c.logins b (prying ⟨200, 0⟩)).2 ∧
      c.logins a (prying ⟨5, 0⟩) = c.logins b (prying ⟨200, 0⟩) := by
  intro a b c
  have deniedByA : .accept ∉ (c.logins a (prying ⟨5, 0⟩)).2 := by decide +kernel
  have deniedByB : .accept ∉ (c.logins b (prying ⟨200, 0⟩)).2 := by decide +kernel
  have alike := denials_reveal_nothing a b c (prying ⟨5, 0⟩) (prying ⟨200, 0⟩) rfl deniedByA
    deniedByB
  exact ⟨by decide +kernel, by decide +kernel, by decide +kernel, deniedByA, deniedByB, alike.1⟩

/-! ## Accounts that are switched off -/

/-- **While an account is switched off, attempts under its name are accepted exactly if
they come with an authorised key.** -/
theorem switchedOff_replies (accounts : Accounts) (username : String) (r : Record)
    (known : accounts.users.get? username = some r) (c : Connection)
    (attempts : List (Instant × LoginAttempt))
    (own : ∀ x ∈ attempts, x.2.username = username) (off : ∀ x ∈ attempts, r.IsOff x.1) :
    (∀ i (hi : i < attempts.length), (c.logins accounts attempts).2[i]? = some .accept ↔
      accounts.Authorises attempts[i].2) ∧
    ((∀ x ∈ attempts, ¬ accounts.Authorises x.2) →
      c.logins accounts attempts = (c, List.replicate attempts.length (.reject none))) := by
  have admitted : ∀ x ∈ attempts,
      ((accounts.admits? x.1 x.2).isSome ↔ accounts.Authorises x.2) := by
    intro x hx
    exact Accounts.admits?_of_isOff ((own x hx).symm ▸ known) (off x hx)
  constructor
  · intro i hi
    rw [c.replies_logins, List.getElem?_map, List.getElem?_eq_getElem hi, Option.map_some,
      ← admitted _ (List.getElem_mem hi)]
    cases (accounts.admits? attempts[i].1 attempts[i].2).isSome <;> simp [LoginReply.ofAccepted]
  · intro keyless
    refine c.logins_of_denied fun accepted => ?_
    obtain ⟨x, hx, some⟩ := c.accept_mem_logins_iff.mp accepted
    exact keyless x hx ((admitted x hx).mp some)

/-- Ann comes back. -/
def returning : List (Instant × LoginAttempt) :=
  [(⟨5, 0⟩, .password "ann" "new"), (⟨6, 0⟩, .key "ann" [7]), (⟨7, 0⟩, .key "ann" [8]),
    (⟨8, 0⟩, .password "ann" "new")]

theorem switchedOff_replies_returning :
    let accounts : Accounts := .ofAdditions [.record departed, .key [8] "laptop"]
    let c : Connection := {}
    accounts.users.get? "ann" = some departed ∧ (∀ x ∈ returning, x.2.username = "ann") ∧
      (∀ x ∈ returning, departed.IsOff x.1) ∧
      (c.logins accounts returning).2[2]? = some .accept ∧
      (c.logins accounts returning).2[3]? ≠ some .accept := by
  intro accounts c
  have known : accounts.users.get? "ann" = some departed := rfl
  have own : ∀ x ∈ returning, x.2.username = "ann" := by decide
  have off : ∀ x ∈ returning, departed.IsOff x.1 := fun _ _ => .inl rfl
  obtain ⟨replies, -⟩ := switchedOff_replies accounts "ann" departed known c returning own off
  have authorised : accounts.Authorises returning[2].2 := ⟨"ann", [8], rfl, rfl⟩
  have password : ¬ accounts.Authorises returning[3].2 := by
    rintro ⟨username, bytes, isKey, -⟩
    cases isKey
  exact ⟨known, own, off, (replies 2 (by decide)).mpr authorised,
    fun accepted => password ((replies 3 (by decide)).mp accepted)⟩

/-- **An authorised key lets in under the name of an account that is switched off.** -/
theorem switchedOff_let_in :
    ¬ ∀ (accounts : Accounts) (username : String) (r : Record) (now : Instant) (c : Connection)
      (attempts : List LoginAttempt),
      accounts.users.get? username = some r → r.IsOff now →
        (∀ a ∈ attempts, a.username = username) →
          .accept ∉ (c.logins accounts (attempts.map fun a => (now, a))).2 := by
  intro denied
  refine denied (.ofAdditions [.record departed, .key [8] "laptop"]) "ann" departed ⟨5, 0⟩ {}
    [.key "ann" [8]] rfl (.inl rfl) (by decide) ?_
  decide +kernel

end Auth

end ShellGateway
