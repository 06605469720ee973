import Mathlib.Data.List.Induction
import ShellGateway.Daemon.Channel
import ShellGateway.Proofs.Auth.Comparing

/-!
# Who may log in with a password

The daemon's users come from a list of additions, of which the last one for a
user name counts (`get?_users_ofAdditions`). A login is accepted if that record
has a secret with the bytes that were presented, is enabled and has not ended;
otherwise the first of these that fails is the reason for the denial
(`password_decision`).

Secrets are compared by collecting differences rather than by looking for one,
which comes to equality of their bytes (`sameBytes_iff`).
-/

namespace ShellGateway

namespace Instant

theorem le_trans {a b c : Instant} (hab : a.le b = true) (hbc : b.le c = true) :
    a.le c = true := by
  simp only [le, Bool.or_eq_true, Bool.and_eq_true, decide_eq_true_eq, beq_iff_eq] at *
  omega

end Instant

namespace Auth

/-! ## Decisions about records -/

/-- The record's secret has the bytes of the presented one. -/
def Record.HasSecret (r : Record) (secret : String) : Prop :=
  ∃ stored, r.secret = some stored ∧ Bytes.ofText stored = Bytes.ofText secret

/-- The account has ended by `now`. -/
def Record.HasEnded (r : Record) (now : Instant) : Prop :=
  ∃ t, r.expiresAt = some t ∧ t.le now = true

namespace Record

variable {r : Record} {secret : String} {now : Instant}

theorem lookup_ok_iff (r : Record) (secret : String) (now : Instant) :
    (r.lookup secret now).ok = true ↔ r.HasSecret secret := by
  unfold lookup HasSecret
  rw [Option.any_eq_true]
  simp only [sameBytes_iff]

theorem isExpiredAt_iff (r : Record) (now : Instant) :
    r.isExpiredAt now = true ↔ r.HasEnded now := by
  unfold isExpiredAt HasEnded
  cases r.expiresAt <;> simp

/-- An account that has ended stays so. -/
theorem HasEnded.later {later : Instant} (h : r.HasEnded now) (hle : now.le later = true) :
    r.HasEnded later := by
  obtain ⟨t, ht, hnow⟩ := h
  exact ⟨t, ht, Instant.le_trans hnow hle⟩

end Record

/-! ## Additions -/

/-- One addition to the daemon's users and keys. -/
inductive Addition where
  | user (username secret : String)
  | record (r : Record)
  | key (bytes : Bytes) (comment : String)
  | authorizedKeys (content : String)

namespace Addition

/-- The accounts with an addition. -/
def apply (a : Accounts) : Addition → Accounts
  | user username secret => a.withUser username secret
  | record r => a.withRecord r
  | key bytes comment => a.withKey bytes comment
  | authorizedKeys content => a.withAuthorizedKeys content

/-- The record that an addition brings. -/
def record? : Addition → Option Record
  | user username secret => some (.ofPassword username secret)
  | record r => some r
  | key _ _ | authorizedKeys _ => none

/-- The last record for a user name. -/
def lastRecord? (additions : List Addition) (username : String) : Option Record :=
  ((additions.filterMap record?).filter (·.username = username)).getLast?

theorem lastRecord?_concat (additions : List Addition) (x : Addition) (username : String) :
    lastRecord? (additions ++ [x]) username = match x.record? with
      | some r => if r.username = username then some r else lastRecord? additions username
      | none => lastRecord? additions username := by
  unfold lastRecord?
  rw [List.filterMap_append, List.filter_append]
  cases hx : x.record? with
  | none => simp [hx]
  | some r =>
    by_cases hr : r.username = username
    · simp [hx, hr]
    · simp [hx, hr]

end Addition

/-- The accounts that additions come to, in order. -/
def Accounts.ofAdditions (additions : List Addition) : Accounts :=
  additions.foldl Addition.apply .none

namespace Accounts

/-- Keys do not change the users. -/
theorem users_withAuthorizedKeys (a : Accounts) (content : String) :
    (a.withAuthorizedKeys content).users = a.users := by
  unfold withAuthorizedKeys
  induction AuthorizedKey.ofText content.toList generalizing a with
  | nil => rfl
  | cons k rest ih =>
    rw [List.foldl_cons, ih]
    rfl

theorem get?_users_apply (a : Accounts) (x : Addition) (username : String) :
    (x.apply a).users.get? username = match x.record? with
      | some r => if r.username = username then some r else a.users.get? username
      | .none => a.users.get? username := by
  -- a user that is added comes with a record
  have added : ∀ r : Record, (a.withRecord r).users.get? username =
      if r.username = username then some r else a.users.get? username := by
    intro r
    show (a.users.insert r.username r).get? username = _
    rw [Dictionary.get?_insert]
    simp only [eq_comm]
  cases x with
  | user name secret => exact added (.ofPassword name secret)
  | record r => exact added r
  | key bytes comment => rfl
  | authorizedKeys content =>
    show (a.withAuthorizedKeys content).users.get? username = _
    rw [users_withAuthorizedKeys]
    rfl

/-- **Of the additions, the last record for a user name counts.** -/
theorem get?_users_ofAdditions (additions : List Addition) (username : String) :
    (ofAdditions additions).users.get? username = Addition.lastRecord? additions username := by
  induction additions using List.reverseRecOn with
  | nil => rfl
  | append_singleton additions x ih =>
    unfold ofAdditions at ih ⊢
    rw [List.foldl_append, List.foldl_cons, List.foldl_nil, get?_users_apply, ih,
      Addition.lastRecord?_concat]

end Accounts

/-- A name is looked up among the records under that name. -/
theorem Addition.username_of_lastRecord? {additions : List Addition} {username : String}
    {r : Record} (h : lastRecord? additions username = some r) : r.username = username := by
  have hmem := List.mem_of_getLast? h
  exact of_decide_eq_true (List.mem_filter.mp hmem).2

/-! ## Decisions -/

/-- What comparing a secret with the last record for a user name decides. -/
inductive Decision (r? : Option Record) (username secret : String) (now : Instant) :
    Except Denial String → Prop where
  | badCredential (wrong : ∀ r, r? = some r → ¬ r.HasSecret secret) :
      Decision r? username secret now (.error .badCredential)
  | disabled (r : Record) (known : r? = some r) (same : r.HasSecret secret)
      (disabled : r.enabled = false) : Decision r? username secret now (.error .disabled)
  | expired (r : Record) (known : r? = some r) (same : r.HasSecret secret)
      (enabled : r.enabled = true) (ended : r.HasEnded now) :
      Decision r? username secret now (.error .expired)
  | accepted (r : Record) (known : r? = some r) (same : r.HasSecret secret)
      (enabled : r.enabled = true) (current : ¬ r.HasEnded now) :
      Decision r? username secret now (.ok (r.identity.getD username))

/-- A record decides as is said. -/
theorem decision_lookup {r : Record} {username : String} (hr : r.username = username)
    (secret : String) (now : Instant) :
    Decision (some r) username secret now ((r.lookup secret now).verdict username) := by
  have ok := r.lookup_ok_iff secret now
  have expired := r.isExpiredAt_iff now
  unfold Lookup.verdict
  -- the cases come in the order in which the verdict looks at them
  by_cases hs : r.HasSecret secret
  · rw [ok.mpr hs]
    cases he : r.enabled with
    | false =>
      have disabled : (r.lookup secret now).disabled = true := by simp [Record.lookup, he]
      rw [disabled]
      exact .disabled r rfl hs he
    | true =>
      have enabled : (r.lookup secret now).disabled = false := by simp [Record.lookup, he]
      rw [enabled]
      by_cases hx : r.HasEnded now
      · have ended : (r.lookup secret now).expired = true := expired.mpr hx
        rw [ended]
        exact .expired r rfl hs he hx
      · have current : (r.lookup secret now).expired = false :=
          Bool.eq_false_iff.mpr fun h => hx (expired.mp h)
        rw [current]
        have accepted : Decision (some r) username secret now (.ok (r.identity.getD username)) :=
          .accepted r rfl hs he hx
        simpa [Record.lookup, hr] using accepted
  · rw [Bool.eq_false_iff.mpr fun h => hs (ok.mp h)]
    exact .badCredential fun r' hr' => Option.some.inj hr' ▸ hs

/-- **Additions decide as is said.** -/
theorem decision_ofAdditions (additions : List Addition) (username secret : String)
    (now : Instant) :
    Decision (Addition.lastRecord? additions username) username secret now
      ((Accounts.ofAdditions additions).decidePassword username secret now) := by
  unfold Accounts.decidePassword Accounts.lookup
  rw [Accounts.get?_users_ofAdditions]
  cases hr : Addition.lastRecord? additions username with
  | none => exact .badCredential fun r h => by cases h
  | some r => exact decision_lookup (Addition.username_of_lastRecord? hr) secret now

namespace Decision

variable {r? : Option Record} {username secret identity : String} {now : Instant}
  {result result' : Except Denial String}

/-- There is one decision at a time. -/
theorem unique (d : Decision r? username secret now result)
    (d' : Decision r? username secret now result') : result = result' := by
  cases d with
  | badCredential wrong =>
    cases d' with
    | badCredential => rfl
    | disabled r known same | expired r known same | accepted r known same =>
      exact absurd same (wrong r known)
  | disabled r known same disabled =>
    cases d' with
    | badCredential wrong => exact absurd same (wrong r known)
    | disabled => rfl
    | expired r' known' _ enabled | accepted r' known' _ enabled =>
      cases known.symm.trans known'
      cases disabled.symm.trans enabled
  | expired r known same enabled ended =>
    cases d' with
    | badCredential wrong => exact absurd same (wrong r known)
    | disabled r' known' _ disabled =>
      cases known.symm.trans known'
      cases disabled.symm.trans enabled
    | expired => rfl
    | accepted r' known' _ _ current =>
      cases known.symm.trans known'
      exact absurd ended current
  | accepted r known same enabled current =>
    cases d' with
    | badCredential wrong => exact absurd same (wrong r known)
    | disabled r' known' _ disabled =>
      cases known.symm.trans known'
      cases disabled.symm.trans enabled
    | expired r' known' _ _ ended =>
      cases known.symm.trans known'
      exact absurd ended current
    | accepted r' known' =>
      cases known.symm.trans known'
      rfl

/-- A login is accepted if nothing speaks against it. -/
theorem eq_ok_iff (d : Decision r? username secret now result) :
    result = .ok identity ↔ ∃ r, r? = some r ∧ r.HasSecret secret ∧ r.enabled = true ∧
      ¬ r.HasEnded now ∧ identity = r.identity.getD username := by
  constructor
  · rintro rfl
    cases d with
    | accepted r known same enabled current => exact ⟨r, known, same, enabled, current, rfl⟩
  · rintro ⟨r, hr, hs, he, hx, rfl⟩
    exact d.unique (.accepted r hr hs he hx)

/-- The secret is looked at first. -/
theorem eq_badCredential_iff (d : Decision r? username secret now result) :
    result = .error .badCredential ↔ ∀ r, r? = some r → ¬ r.HasSecret secret := by
  constructor
  · rintro rfl
    cases d with
    | badCredential wrong => exact wrong
  · intro h
    exact d.unique (.badCredential h)

/-- Then whether the account is enabled. -/
theorem eq_disabled_iff (d : Decision r? username secret now result) :
    result = .error .disabled ↔
      ∃ r, r? = some r ∧ r.HasSecret secret ∧ r.enabled = false := by
  constructor
  · rintro rfl
    cases d with
    | disabled r known same disabled => exact ⟨r, known, same, disabled⟩
  · rintro ⟨r, hr, hs, he⟩
    exact d.unique (.disabled r hr hs he)

/-- And last whether it has ended. -/
theorem eq_expired_iff (d : Decision r? username secret now result) :
    result = .error .expired ↔
      ∃ r, r? = some r ∧ r.HasSecret secret ∧ r.enabled = true ∧ r.HasEnded now := by
  constructor
  · rintro rfl
    cases d with
    | expired r known same enabled ended => exact ⟨r, known, same, enabled, ended⟩
  · rintro ⟨r, hr, hs, he, hx⟩
    exact d.unique (.expired r hr hs he hx)

end Decision

/-- A connection knows its user after a login that was accepted, and is as before
after one that was not. -/
theorem loginWithPassword_eq_iff (accounts : Accounts) (now : Instant) (c c' : Daemon.Connection)
    (username secret : String) :
    c.loginWithPassword accounts now username secret = (c', true) ↔
      ∃ identity, accounts.decidePassword username secret now = .ok identity ∧
        c' = { c with user := some identity } := by
  unfold Daemon.Connection.loginWithPassword
  cases accounts.decidePassword username secret now with
  | error why => simp
  | ok identity => simp [eq_comm]

/-- **Password logins go by the last record for the user name.** -/
theorem password_decision (additions : List Addition) (c : Daemon.Connection)
    (username secret : String) (now : Instant) :
    let accounts := Accounts.ofAdditions additions
    let r? := Addition.lastRecord? additions username
    -- who is accepted, and as whom
    (∀ c', c.loginWithPassword accounts now username secret = (c', true) ↔
      ∃ r, r? = some r ∧ r.HasSecret secret ∧ r.enabled = true ∧ ¬ r.HasEnded now ∧
        c' = { c with user := some (r.identity.getD username) }) ∧
    -- why the others are not
    (∀ c', c.loginWithPassword accounts now username secret = (c', false) →
      c' = c ∧ ∃ why, accounts.decidePassword username secret now = .error why) ∧
    (accounts.decidePassword username secret now = .error .badCredential ↔
      ∀ r, r? = some r → ¬ r.HasSecret secret) ∧
    (accounts.decidePassword username secret now = .error .disabled ↔
      ∃ r, r? = some r ∧ r.HasSecret secret ∧ r.enabled = false) ∧
    (accounts.decidePassword username secret now = .error .expired ↔
      ∃ r, r? = some r ∧ r.HasSecret secret ∧ r.enabled = true ∧ r.HasEnded now) ∧
    -- who is accepted now would have been before
    ∀ earlier : Instant, earlier.le now = true →
      (c.loginWithPassword accounts now username secret).2 = true →
        c.loginWithPassword accounts earlier username secret =
          c.loginWithPassword accounts now username secret := by
  intro accounts r?
  have decision : ∀ now, Decision r? username secret now
      (accounts.decidePassword username secret now) :=
    decision_ofAdditions additions username secret
  have accepted : ∀ now c', c.loginWithPassword accounts now username secret = (c', true) ↔
      ∃ r, r? = some r ∧ r.HasSecret secret ∧ r.enabled = true ∧ ¬ r.HasEnded now ∧
        c' = { c with user := some (r.identity.getD username) } := by
    intro now c'
    rw [loginWithPassword_eq_iff]
    constructor
    · rintro ⟨identity, hok, rfl⟩
      obtain ⟨r, hr, hs, he, hx, rfl⟩ := (decision now).eq_ok_iff.mp hok
      exact ⟨r, hr, hs, he, hx, rfl⟩
    · rintro ⟨r, hr, hs, he, hx, rfl⟩
      exact ⟨_, (decision now).eq_ok_iff.mpr ⟨r, hr, hs, he, hx, rfl⟩, rfl⟩
  refine ⟨accepted now, fun c' h => ?_, (decision now).eq_badCredential_iff,
    (decision now).eq_disabled_iff, (decision now).eq_expired_iff, fun earlier hle h => ?_⟩
  · unfold Daemon.Connection.loginWithPassword at h
    cases hd : accounts.decidePassword username secret now with
    | ok identity =>
      rw [hd] at h
      cases h
    | error why =>
      rw [hd] at h
      cases h
      exact ⟨rfl, why, rfl⟩
  · have login : c.loginWithPassword accounts now username secret =
        ((c.loginWithPassword accounts now username secret).1, true) := Prod.ext rfl h
    obtain ⟨r, hr, hs, he, hx, hc⟩ := (accepted now _).mp login
    rw [login]
    exact (accepted earlier _).mpr ⟨r, hr, hs, he, fun hend => hx (hend.later hle), hc⟩

/-- The record of a user who was renamed, and given a new password for a time. -/
def renamed : Record :=
  { username := "ann", secret := some "new", expiresAt := some ⟨100, 0⟩, identity := some "Ann" }

theorem password_decision_renamed :
    let accounts := Accounts.ofAdditions
      [.user "ann" "old", .record renamed, .user "bob" "new", .authorizedKeys ""]
    let c : Daemon.Connection := {}
    c.loginWithPassword accounts ⟨99, 5⟩ "ann" "new" = ({ c with user := some "Ann" }, true) ∧
      accounts.decidePassword "ann" "new" ⟨100, 0⟩ = .error .expired := by
  have decided := password_decision
    [.user "ann" "old", .record renamed, .user "bob" "new", .authorizedKeys ""] {} "ann" "new"
  refine ⟨((decided ⟨99, 5⟩).1 _).mpr ⟨renamed, rfl, ⟨"new", rfl, rfl⟩, rfl, ?_, rfl⟩,
    (decided ⟨100, 0⟩).2.2.2.2.1.mpr ⟨renamed, rfl, ⟨"new", rfl, rfl⟩, rfl, ⟨100, 0⟩, rfl, rfl⟩⟩
  rintro ⟨t, ht, hle⟩
  cases ht
  cases hle

end Auth

end ShellGateway
