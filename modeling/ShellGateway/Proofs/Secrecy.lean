import Mathlib.Data.List.Forall2
import ShellGateway.Daemon.Options
import ShellGateway.Json.Printer
import ShellGateway.Session.Basic

/-!
# What is shown does not depend on secrets

Two values are akin if they differ in secret contents only: the text of a password, of a private
key and of its passphrase, the secret of a user's record, a host key, its text, the seed that it
is drawn from. That there is a passphrase or a secret, or no seed, is not secret.

Whatever is shown of such values is the same. Descriptions are laid out from outlines, so it is
enough that the outlines are equal, and then it does not matter how they are laid out; views and
the records made from them are compared as they are (`secrets_unseen`). An outline of a secret
does tell what is not secret about it, which is its kind (`Secret.outline_eq_iff`).
-/

namespace ShellGateway

open Text (Outline)

/-! ## Values that differ in secret contents only -/

/-- Secrets of one kind: a passphrase seals both keys or neither. -/
inductive Secret.Akin : Secret → Secret → Prop where
  | password (text text' : String) : Akin (.password text) (.password text')
  | bare (pem pem' : String) : Akin (.privateKey pem none) (.privateKey pem' none)
  | sealed (pem pem' passphrase passphrase' : String) :
    Akin (.privateKey pem (some passphrase)) (.privateKey pem' (some passphrase'))

/-- Logins of one user. -/
structure Login.Akin (l l' : Login) : Prop where
  username : l.username = l'.username
  secret : l.secret.Akin l'.secret

/-- Sessions that differ in the secret of their login. -/
def Session.Akin (s s' : Session) : Prop :=
  ∃ login, s.info.login.Akin login ∧ s' = { s with info := { s.info with login } }

/-- Records that differ in the text of their secret. -/
def Auth.Record.Akin (r r' : Record) : Prop :=
  ∃ secret, r.secret.isSome = secret.isSome ∧ r' = { r with secret }

/-- The same users, with records that differ in the text of their secrets. -/
structure Auth.Accounts.Akin (a a' : Accounts) : Prop where
  users : List.Forall₂ (fun e e' => e.1 = e'.1 ∧ e.2.Akin e'.2) a.users.entries a'.users.entries
  keys : a.keys = a'.keys

/-- Sources of one kind. Where a key is kept is no secret, nor that it is drawn at random. -/
inductive HostKey.Source.Akin : Source → Source → Prop where
  | pair (key key' : PublicKey) : Akin (.pair key) (.pair key')
  | text (pem pem' : String) : Akin (.text pem) (.text pem')
  | file (path : String) : Akin (.file path) (.file path)
  | random : Akin .random .random
  | seed {text text' : String} (given : text ≠ "") (given' : text' ≠ "") :
    Akin (.seed text) (.seed text')

/-- Options that differ in what they hold of the host key and in secrets of users. -/
structure Daemon.Options.Akin (o o' : Options) : Prop where
  hostKey : o.hostKey.Akin o'.hostKey
  accounts : o.accounts.Akin o'.accounts
  others : o' = { o with hostKey := o'.hostKey, accounts := o'.accounts }

/-! ## Outlines of such values -/

/-- **The outline of a secret tells its kind, and no more.** -/
theorem Secret.outline_eq_iff {s s' : Secret} : s.outline = s'.outline ↔ s.Akin s' := by
  constructor
  · intro same
    cases s with
    | password text =>
      cases s' with
      | password text' => exact .password text text'
      | privateKey pem' passphrase' => cases same
    | privateKey pem passphrase =>
      cases s' with
      | password text' => cases same
      | privateKey pem' passphrase' =>
        cases passphrase with
        | none =>
          cases passphrase' with
          | none => exact .bare pem pem'
          | some text' => simp [outline, Outline.option] at same
        | some text =>
          cases passphrase' with
          | none => simp [outline, Outline.option] at same
          | some text' => exact .sealed pem pem' text text'
  · intro akin
    cases akin <;> rfl

theorem Login.Akin.outline_eq {l l' : Login} (akin : l.Akin l') : l.outline = l'.outline := by
  unfold outline
  rw [akin.username, Secret.outline_eq_iff.mpr akin.secret]

/-- Of a login a session shows the user only. -/
theorem Session.Akin.outline_eq {s s' : Session} (akin : s.Akin s') :
    s.outline = s'.outline := by
  obtain ⟨login, akin, rfl⟩ := akin
  unfold outline
  rw [akin.username]

theorem Session.Akin.view_eq {s s' : Session} (akin : s.Akin s') : s.view = s'.view := by
  obtain ⟨login, akin, rfl⟩ := akin
  unfold view
  rw [akin.username]
  rfl

theorem Auth.Record.Akin.outline_eq {r r' : Record} (akin : r.Akin r') :
    r.outline = r'.outline := by
  obtain ⟨secret, both, rfl⟩ := akin
  unfold outline
  -- That there is a secret is shown, so both have one or neither has.
  cases here : r.secret with
  | none =>
    rw [here] at both
    have none : secret = none := Option.not_isSome_iff_eq_none.mp (by simp [← both])
    rw [none]
  | some text =>
    rw [here] at both
    obtain ⟨text', rfl⟩ := Option.isSome_iff_exists.mp both.symm
    rfl

theorem HostKey.Source.Akin.outline_eq {s s' : Source} (akin : s.Akin s') :
    s.outline = s'.outline := by
  cases akin with
  | @seed text text' given given' =>
    show (if text.isEmpty then _ else _) = if text'.isEmpty then _ else _
    rw [if_neg (by simpa using given), if_neg (by simpa using given')]
  | _ => rfl

theorem Daemon.Options.Akin.outline_eq {o o' : Options} (akin : o.Akin o') :
    o.outline = o'.outline := by
  -- Of the users the outline tells nothing, of the host key what its own outline tells.
  rw [akin.others]
  unfold outline
  rw [akin.hostKey.outline_eq]

/-! ## Main statement -/

/-- **Secrets are unseen.** Nothing that is shown of a session, a login, a secret, a user's
record, a host key's source or a daemon's options tells apart two of them that differ in secret
contents only. -/
theorem secrets_unseen :
    (∀ s s' : Secret, s.Akin s' → s.outline = s'.outline ∧ s.describe = s'.describe) ∧
      (∀ l l' : Login, l.Akin l' → l.outline = l'.outline ∧ l.describe = l'.describe) ∧
      (∀ s s' : Session, s.Akin s' → s.view = s'.view ∧
        (∀ boot, (s.view.toJson boot).toText = (s'.view.toJson boot).toText) ∧
        s.outline = s'.outline ∧ s.describe = s'.describe) ∧
      (∀ r r' : Auth.Record, r.Akin r' → r.outline = r'.outline ∧ r.describe = r'.describe) ∧
      (∀ s s' : HostKey.Source, s.Akin s' → s.outline = s'.outline ∧ s.describe = s'.describe) ∧
      ∀ o o' : Daemon.Options, o.Akin o' → o.outline = o'.outline ∧ o.describe = o'.describe := by
  refine ⟨fun s s' akin => ?_, fun l l' akin => ?_, fun s s' akin => ?_, fun r r' akin => ?_,
    fun s s' akin => ?_, fun o o' akin => ?_⟩
  · have same := Secret.outline_eq_iff.mpr akin
    exact ⟨same, congrArg Outline.toText same⟩
  · exact ⟨akin.outline_eq, congrArg Outline.toText akin.outline_eq⟩
  · refine ⟨akin.view_eq, fun boot => ?_, akin.outline_eq, congrArg Outline.toText akin.outline_eq⟩
    rw [akin.view_eq]
  · exact ⟨akin.outline_eq, congrArg Outline.toText akin.outline_eq⟩
  · exact ⟨akin.outline_eq, congrArg Outline.toText akin.outline_eq⟩
  · exact ⟨akin.outline_eq, congrArg Outline.toText akin.outline_eq⟩

/-- Two options of a daemon with one user: host keys from different seeds, and different
passwords; and two sessions with keys of their own, both sealed. -/
theorem secrets_unseen_daemon :
    let options (seed password : String) : Daemon.Options :=
      { hostKey := .seed seed, accounts := Auth.Accounts.none.withUser "u" password }
    let session (pem passphrase : String) : Session :=
      .make ⟨"id", ⟨"host", 22, .any⟩, ⟨"u", .privateKey pem (some passphrase)⟩, "xterm",
        .loopback, false⟩ true 0
    (options "webssh" "p").Akin (options "other" "q") ∧
      (options "webssh" "p").describe = (options "other" "q").describe ∧
      (session "A" "a").Akin (session "B" "b") ∧
      (session "A" "a").view = (session "B" "b").view := by
  intro options session
  have akin : (options "webssh" "p").Akin (options "other" "q") :=
    ⟨.seed (by decide) (by decide),
      ⟨.cons ⟨rfl, some "q", rfl, rfl⟩ .nil, rfl⟩, rfl⟩
  have sealed : (session "A" "a").Akin (session "B" "b") :=
    ⟨⟨"u", .privateKey "B" (some "b")⟩, ⟨rfl, .sealed "A" "B" "a" "b"⟩, rfl⟩
  obtain ⟨-, -, sessions, -, -, daemons⟩ := secrets_unseen
  exact ⟨akin, (daemons _ _ akin).2, sealed, (sessions _ _ sealed).1⟩

end ShellGateway
