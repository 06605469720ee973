import Mathlib.Data.List.Forall2
import Mathlib.Data.Option.Basic
import ShellGateway.Proofs.Session.Frame
import ShellGateway.Proofs.Session.Parties

/-!
# A party's share in a hub

Serials, queues and tickets are names that the hub hands out in order. `Names` says whose
each of them is. What a party has alone and what it has together with others are twins:
the same but for what queues and tickets are called, where the party's `a`-th alone is the
one that `IsNth` finds among everybody's.

`Mirrors` says that one hub is a party's share in another, and `Apart` that each party has
such a share, in a hub of its own. A step of the hub on what a party owns is taken in the
party's share and in nobody else's: each section below says so of one kind of step, once
for the owner (`Mirrors.modify`), once for the others (`Mirrors.modify_foreign`) and then
for all (`Apart.modify`).
-/

namespace ShellGateway

variable {ι : Type}

namespace Session

/-! ## Names -/

/-- Whose the serials, the queues and the tickets are, in the order in which they were
handed out. -/
structure Names (ι : Type) where
  sessions : List ι := []
  queues : List ι := []
  tickets : List ι := []

/-- More names have been handed out. -/
structure Names.Grows (n n' : Names ι) : Prop where
  sessions : n.sessions <+: n'.sessions
  queues : n.queues <+: n'.queues
  tickets : n.tickets <+: n'.tickets

theorem Names.Grows.refl (n : Names ι) : n.Grows n :=
  ⟨List.prefix_rfl, List.prefix_rfl, List.prefix_rfl⟩

theorem Names.Grows.trans {n n' n'' : Names ι} (a : n.Grows n') (b : n'.Grows n'') : n.Grows n'' :=
  ⟨a.sessions.trans b.sessions, a.queues.trans b.queues, a.tickets.trans b.tickets⟩

/-- Another queue of a party. -/
def Names.withQueue (n : Names ι) (p : ι) : Names ι :=
  { n with queues := n.queues ++ [p] }

/-- Another ticket of a party. -/
def Names.withTicket (n : Names ι) (p : ι) : Names ι :=
  { n with tickets := n.tickets ++ [p] }

/-- Another session of a party. -/
def Names.withSession (n : Names ι) (p : ι) : Names ι :=
  { n with sessions := n.sessions ++ [p] }

theorem Names.grows_withQueue (n : Names ι) (p : ι) : n.Grows (n.withQueue p) :=
  ⟨List.prefix_rfl, List.prefix_append _ _, List.prefix_rfl⟩

theorem Names.grows_withTicket (n : Names ι) (p : ι) : n.Grows (n.withTicket p) :=
  ⟨List.prefix_rfl, List.prefix_rfl, List.prefix_append _ _⟩

theorem Names.grows_withSession (n : Names ι) (p : ι) : n.Grows (n.withSession p) :=
  ⟨List.prefix_append _ _, List.prefix_rfl, List.prefix_rfl⟩

end Session

variable [DecidableEq ι]

namespace Session

/-! ## Counting what belongs to a party -/

/-- What belongs to `p` in a list, the `a`-th of it from zero, is the list's `b`-th. -/
structure IsNth (l : List ι) (p : ι) (a b : Nat) : Prop where
  here : l[b]? = some p
  before : (l.take b).count p = a

namespace IsNth

variable {l m : List ι} {p q : ι} {a a' b b' : Nat}

theorem lt_length (h : IsNth l p a b) : b < l.length :=
  (List.getElem?_eq_some_iff.mp h.here).1

/-- Up to and with the `b`-th there is one more. -/
theorem count_take_succ (h : IsNth l p a b) : (l.take (b + 1)).count p = a + 1 := by
  rw [List.take_add_one, h.here, List.count_append, h.before]
  simp

theorem lt_count (h : IsNth l p a b) : a < l.count p := by
  have some_more : (l.take (b + 1)).count p ≤ l.count p :=
    (List.take_sublist _ l).count_le p
  rw [h.count_take_succ] at some_more
  exact some_more

theorem left_unique (h : IsNth l p a b) (h' : IsNth l p a' b) : a = a' :=
  h.before.symm.trans h'.before

theorem owner_unique (h : IsNth l p a b) (h' : IsNth l q a' b) : p = q :=
  Option.some.inj (h.here.symm.trans h'.here)

/-- Of two members the later has more before it. -/
theorem lt_of_lt (h : IsNth l p a b) (h' : IsNth l p a' b') (lt : b < b') : a < a' := by
  have more : (l.take (b + 1)).count p ≤ (l.take b').count p :=
    (List.take_sublist_take_left (Nat.succ_le_of_lt lt)).count_le p
  rw [h.count_take_succ, h'.before] at more
  exact more

theorem right_unique (h : IsNth l p a b) (h' : IsNth l p a b') : b = b' := by
  rcases Nat.lt_trichotomy b b' with lt | same | lt
  · exact absurd (h.lt_of_lt h' lt) (Nat.lt_irrefl a)
  · exact same
  · exact absurd (h'.lt_of_lt h lt) (Nat.lt_irrefl a)

/-- Names are the same alone exactly if they are the same together. -/
theorem eq_iff (h : IsNth l p a b) (h' : IsNth l p a' b') : a = a' ↔ b = b' := by
  constructor
  · rintro rfl
    exact h.right_unique h'
  · rintro rfl
    exact h.left_unique h'

theorem append (h : IsNth l p a b) (m : List ι) : IsNth (l ++ m) p a b where
  here := by rw [List.getElem?_append_left h.lt_length, h.here]
  before := by rw [List.take_append_of_le_length (Nat.le_of_lt h.lt_length), h.before]

theorem of_prefix (h : IsNth l p a b) (grown : l <+: m) : IsNth m p a b := by
  obtain ⟨more, rfl⟩ := grown
  exact h.append more

/-- What is added last is the last of its owner's. -/
theorem last (l : List ι) (p : ι) : IsNth (l ++ [p]) p (l.count p) l.length where
  here := by simp
  before := by simp

theorem of_concat (h : IsNth (l ++ [q]) p a b) :
    IsNth l p a b ∨ q = p ∧ a = l.count p ∧ b = l.length := by
  rcases Nat.lt_or_ge b l.length with old | new
  · refine .inl ⟨?_, ?_⟩
    · rw [← h.here, List.getElem?_append_left old]
    · rw [← h.before, List.take_append_of_le_length (Nat.le_of_lt old)]
  · have bound := h.lt_length
    rw [List.length_append, List.length_singleton] at bound
    obtain rfl : b = l.length := by omega
    have there := h.here
    rw [List.getElem?_concat_length] at there
    obtain rfl := Option.some.inj there
    exact .inr ⟨rfl, h.left_unique (last l q), rfl⟩

end IsNth

/-! ## Twins -/

/-- A command alone and together with others. -/
inductive CommandTwins (n : Names ι) (p : ι) : Command → Command → Prop
  | resize {a b : Ticket} (ticket : IsNth n.tickets p a b) (window : Window) :
    CommandTwins n p (.resize a window) (.resize b window)
  | close : CommandTwins n p .close .close

/-- A queue alone and together with others. -/
structure QueueTwins (n : Names ι) (p : ι) (x y : ControlQueue) : Prop where
  queued : List.Forall₂ (CommandTwins n p) x.queued y.queued
  senders : x.senders = y.senders
  reading : x.reading = y.reading

/-- A session alone and together with others. -/
structure SessionTwins (owner : String → ι) (n : Names ι) (p : ι) (x y : Session) : Prop where
  fields : x = { y with control := x.control }
  control : Option.Rel (IsNth n.queues p) x.control y.control
  owned : owner y.info.id = p

variable {owner : String → ι} {n n' : Names ι} {p : ι}

theorem CommandTwins.grow {c d : Command} (h : CommandTwins n p c d) (grown : n.Grows n') :
    CommandTwins n' p c d := by
  cases h with
  | resize ticket window => exact .resize (ticket.of_prefix grown.tickets) window
  | close => exact .close

theorem QueueTwins.grow {x y : ControlQueue} (h : QueueTwins n p x y) (grown : n.Grows n') :
    QueueTwins n' p x y :=
  ⟨h.queued.imp fun _ _ twins => twins.grow grown, h.senders, h.reading⟩

theorem CommandTwins.anonymous {c d : Command} (h : CommandTwins n p c d) :
    c.anonymous = d.anonymous := by
  cases h <;> rfl

/-- But for names, twins are equal. -/
theorem QueueTwins.anonymous {x y : ControlQueue} (h : QueueTwins n p x y) :
    x.anonymous = y.anonymous := by
  have commands : ∀ {cs ds : List Command}, List.Forall₂ (CommandTwins n p) cs ds →
      cs.map Command.anonymous = ds.map Command.anonymous := by
    intro cs ds twins
    induction twins with
    | nil => rfl
    | cons command _ ih => rw [List.map_cons, List.map_cons, command.anonymous, ih]
  unfold ControlQueue.anonymous
  rw [commands h.queued, h.senders, h.reading]

/-- There is either neither of two twins or both. -/
theorem rel_cases {α β : Type} {R : α → β → Prop} {x : Option α} {y : Option β}
    (h : Option.Rel R x y) :
    (x = none ∧ y = none) ∨ ∃ a b, x = some a ∧ y = some b ∧ R a b := by
  cases h with
  | some r => exact .inr ⟨_, _, rfl, rfl, r⟩
  | none => exact .inl ⟨rfl, rfl⟩

/-- Twins stay twins if less is asked of them. -/
theorem rel_imp {α β : Type} {R S : α → β → Prop} (imp : ∀ a b, R a b → S a b) {x : Option α}
    {y : Option β} (h : Option.Rel R x y) : Option.Rel S x y := by
  cases h with
  | some r => exact .some (imp _ _ r)
  | none => exact .none

/-- Twins stay twins if both are changed alike. -/
theorem rel_map {α β γ δ : Type} {R : α → β → Prop} {S : γ → δ → Prop} {f : α → γ} {f' : β → δ}
    (change : ∀ a b, R a b → S (f a) (f' b)) {x : Option α} {y : Option β}
    (h : Option.Rel R x y) : Option.Rel S (x.map f) (y.map f') := by
  cases h with
  | some r => exact .some (change _ _ r)
  | none => exact .none

/-- What twins have in common is the same for both. -/
theorem map_eq_of_rel {α β γ : Type} {R : α → β → Prop} {f : α → γ} {f' : β → γ}
    (same : ∀ a b, R a b → f a = f' b) {x : Option α} {y : Option β} (h : Option.Rel R x y) :
    x.map f = y.map f' := by
  cases h with
  | some r => exact congrArg some (same _ _ r)
  | none => rfl

theorem SessionTwins.grow {x y : Session} (h : SessionTwins owner n p x y)
    (grown : n.Grows n') : SessionTwins owner n' p x y :=
  ⟨h.fields, rel_imp (fun _ _ q => q.of_prefix grown.queues) h.control, h.owned⟩

/-- A session alone is the session together with others, under another control queue. -/
theorem SessionTwins.exists_control {x y : Session}
    (h : SessionTwins owner n p x y) :
    ∃ c, x = { y with control := c } ∧ Option.Rel (IsNth n.queues p) c y.control :=
  ⟨x.control, h.fields, h.control⟩

/-- A change that has nothing to do with control queues is the same for twins. -/
theorem SessionTwins.map {x y : Session} {f : Session → Session}
    (h : SessionTwins owner n p x y)
    (aside : ∀ z c, f { z with control := c } = { f z with control := c })
    (info : ∀ z, (f z).info = z.info) : SessionTwins owner n p (f x) (f y) := by
  have kept : ∀ z, (f z).control = z.control := by
    intro z
    have same := congrArg Session.control (aside z z.control)
    exact same
  refine ⟨?_, ?_, ?_⟩
  · rw [kept x]
    conv_lhs => rw [h.fields]
    exact aside y x.control
  · rw [kept x, kept y]
    exact h.control
  · rw [info y]
    exact h.owned

/-- What does not look at the control queue is the same of twins. -/
theorem SessionTwins.same {α : Type} {x y : Session} (h : SessionTwins owner n p x y)
    {f : Session → α} (aside : ∀ z c, f { z with control := c } = f z) : f x = f y := by
  rw [h.fields]
  exact aside y x.control

end Session

open Session

namespace Hub

/-! ## What a change leaves -/

theorem modify_eq (h : Hub) (s : Serial) (f : Session → Session) :
    h.modify s f = { h with sessions := (h.modify s f).sessions } := by
  unfold modify
  split <;> rfl

theorem modifyQueue_eq (h : Hub) (q : QueueId) (f : ControlQueue → ControlQueue) :
    h.modifyQueue q f = { h with queues := (h.modifyQueue q f).queues } := by
  unfold modifyQueue
  split <;> rfl

/-- Changing a queue changes what is found under its name and nothing else. -/
theorem get?_modifyQueue (h : Hub) (q q' : QueueId) (f : ControlQueue → ControlQueue) :
    (h.modifyQueue q f).queues.get? q' =
      if q' = q then (h.queues.get? q).map f else h.queues.get? q' := by
  unfold modifyQueue
  cases found : h.queues.get? q with
  | none =>
    by_cases same : q' = q
    · rw [if_pos same, same, found]
      rfl
    · rw [if_neg same]
  | some queue =>
    show (h.queues.insert q (f queue)).get? q' = _
    rw [Dictionary.get?_insert]
    rfl

end Hub

namespace Session

/-! ## Shares -/

/-- `k` is the share of party `p` in the hub `h`. -/
structure Mirrors (owner : String → ι) (n : Names ι) (p : ι) (k h : Hub) : Prop where
  clock : k.clock = h.clock
  nextSerial : k.nextSerial = n.sessions.length ∧ h.nextSerial = n.sessions.length
  nextQueue : k.nextQueue = n.queues.count p ∧ h.nextQueue = n.queues.length
  nextTicket : k.nextTicket = n.tickets.count p ∧ h.nextTicket = n.tickets.length
  registered : ∀ id, owner id = p → k.find? id = h.find? id
  /-- Ids are given to sessions of the same party. -/
  found : ∀ id s, owner id = p → h.find? id = some s → n.sessions[s]? = some p
  sessions : ∀ s, n.sessions[s]? = some p →
    Option.Rel (SessionTwins owner n p) (k.sessions.get? s) (h.sessions.get? s)
  queues : ∀ a b, IsNth n.queues p a b →
    Option.Rel (QueueTwins n p) (k.queues.get? a) (h.queues.get? b)
  replies : ∀ a b, IsNth n.tickets p a b → k.replies.get? a = h.replies.get? b

/-- Each party has its share in the hub `h`, the party `p` in `k` and the others in `K`. -/
structure Apart (owner : String → ι) (n : Names ι) (p : ι) (K : ι → Hub) (k h : Hub) : Prop where
  own : Mirrors owner n p k h
  others : ∀ q, q ≠ p → Mirrors owner n q (K q) h

variable {owner : String → ι} {n n' : Names ι} {p q : ι} {K : ι → Hub} {k h : Hub} {s : Serial}

/-! ### Sessions -/

theorem Mirrors.modify (m : Mirrors owner n p k h) (s : Serial) {f f' : Session → Session}
    (change : ∀ x y, SessionTwins owner n p x y → SessionTwins owner n p (f x) (f' y)) :
    Mirrors owner n p (k.modify s f) (h.modify s f') := by
  have sessions : ∀ s', n.sessions[s']? = some p →
      Option.Rel (SessionTwins owner n p) ((k.modify s f).sessions.get? s')
        ((h.modify s f').sessions.get? s') := by
    intro s' own
    rw [Hub.get?_modify, Hub.get?_modify]
    by_cases here : s' = s
    · rw [if_pos here, if_pos here]
      exact rel_map change (m.sessions s (here ▸ own))
    · rw [if_neg here, if_neg here]
      exact m.sessions s' own
  rw [Hub.modify_eq k, Hub.modify_eq h]
  exact { m with sessions }

theorem Mirrors.modify_foreign (m : Mirrors owner n q k h) (foreign : n.sessions[s]? ≠ some q)
    (f : Session → Session) : Mirrors owner n q k (h.modify s f) := by
  have sessions : ∀ s', n.sessions[s']? = some q →
      Option.Rel (SessionTwins owner n q) (k.sessions.get? s')
        ((h.modify s f).sessions.get? s') := by
    intro s' own
    rw [Hub.get?_modify, if_neg fun here : s' = s => foreign (here ▸ own)]
    exact m.sessions s' own
  rw [Hub.modify_eq h]
  exact { m with sessions }

theorem Apart.modify (a : Apart owner n p K k h) (own : n.sessions[s]? = some p)
    {f f' : Session → Session}
    (change : ∀ x y, SessionTwins owner n p x y → SessionTwins owner n p (f x) (f' y)) :
    Apart owner n p K (k.modify s f) (h.modify s f') where
  own := a.own.modify s change
  others q other := (a.others q other).modify_foreign
    (fun his => other (Option.some.inj (his.symm.trans own))) f'

/-- A change that has nothing to do with control queues. -/
theorem Apart.modify_aside (a : Apart owner n p K k h) (own : n.sessions[s]? = some p)
    {f : Session → Session}
    (aside : ∀ z c, f { z with control := c } = { f z with control := c })
    (info : ∀ z, (f z).info = z.info) : Apart owner n p K (k.modify s f) (h.modify s f) :=
  a.modify own fun _ _ t => t.map aside info

/-! ### Queues -/

theorem Mirrors.modifyQueue (m : Mirrors owner n p k h) {a b : QueueId}
    (named : IsNth n.queues p a b) {f f' : ControlQueue → ControlQueue}
    (change : ∀ x y, QueueTwins n p x y → QueueTwins n p (f x) (f' y)) :
    Mirrors owner n p (k.modifyQueue a f) (h.modifyQueue b f') := by
  have queues : ∀ a' b', IsNth n.queues p a' b' →
      Option.Rel (QueueTwins n p) ((k.modifyQueue a f).queues.get? a')
        ((h.modifyQueue b f').queues.get? b') := by
    intro a' b' named'
    rw [Hub.get?_modifyQueue, Hub.get?_modifyQueue]
    by_cases here : a' = a
    · rw [if_pos here, if_pos ((named'.eq_iff named).mp here)]
      exact rel_map change (m.queues a b named)
    · rw [if_neg here, if_neg (here ∘ (named'.eq_iff named).mpr)]
      exact m.queues a' b' named'
  rw [Hub.modifyQueue_eq k, Hub.modifyQueue_eq h]
  exact { m with queues }

theorem Mirrors.modifyQueue_foreign (m : Mirrors owner n q k h) {a b : QueueId}
    (named : IsNth n.queues p a b) (other : q ≠ p) (f : ControlQueue → ControlQueue) :
    Mirrors owner n q k (h.modifyQueue b f) := by
  have queues : ∀ a' b', IsNth n.queues q a' b' →
      Option.Rel (QueueTwins n q) (k.queues.get? a') ((h.modifyQueue b f).queues.get? b') := by
    intro a' b' named'
    have elsewhere : b' ≠ b := fun here => other ((here ▸ named').owner_unique named)
    rw [Hub.get?_modifyQueue, if_neg elsewhere]
    exact m.queues a' b' named'
  rw [Hub.modifyQueue_eq h]
  exact { m with queues }

theorem Apart.modifyQueue (x : Apart owner n p K k h) {a b : QueueId}
    (named : IsNth n.queues p a b) {f f' : ControlQueue → ControlQueue}
    (change : ∀ x y, QueueTwins n p x y → QueueTwins n p (f x) (f' y)) :
    Apart owner n p K (k.modifyQueue a f) (h.modifyQueue b f') where
  own := x.own.modifyQueue named change
  others q other := (x.others q other).modifyQueue_foreign named other f'

/-! ### The registry -/

/-- What is registered under one id is changed for the party that owns the id. -/
theorem Mirrors.edit (m : Mirrors owner n p k h) (id : String) (left : Option Serial)
    (mine : ∀ s, left = some s → n.sessions[s]? = some p) {d d' : Dictionary String Serial}
    (edited : ∀ i, d.get? i = if i = id then left else k.find? i)
    (edited' : ∀ i, d'.get? i = if i = id then left else h.find? i) :
    Mirrors owner n p { k with registered := d } { h with registered := d' } := by
  refine { m with registered := fun i own => ?_, found := fun i s own there => ?_ }
  · show d.get? i = d'.get? i
    rw [edited, edited', m.registered i own]
  · have there : d'.get? i = some s := there
    rw [edited'] at there
    by_cases here : i = id
    · rw [if_pos here] at there
      exact mine s there
    · rw [if_neg here] at there
      exact m.found i s own there

theorem Mirrors.edit_foreign (m : Mirrors owner n q k h) {id : String} (foreign : owner id ≠ q)
    {left : Option Serial} {d : Dictionary String Serial}
    (edited : ∀ i, d.get? i = if i = id then left else h.find? i) :
    Mirrors owner n q k { h with registered := d } := by
  have elsewhere : ∀ i, owner i = q → d.get? i = h.find? i := fun i own => by
    rw [edited, if_neg fun here : i = id => foreign (here ▸ own)]
  exact { m with
    registered := fun i own => (m.registered i own).trans (elsewhere i own).symm
    found := fun i s own there => m.found i s own ((elsewhere i own).symm.trans there) }

theorem Apart.edit (a : Apart owner n p K k h) {id : String} (own : owner id = p)
    (left : Option Serial) (mine : ∀ s, left = some s → n.sessions[s]? = some p)
    {d d' : Dictionary String Serial}
    (edited : ∀ i, d.get? i = if i = id then left else k.find? i)
    (edited' : ∀ i, d'.get? i = if i = id then left else h.find? i) :
    Apart owner n p K { k with registered := d } { h with registered := d' } where
  own := a.own.edit id left mine edited edited'
  others q other := (a.others q other).edit_foreign (fun his => other (his.symm.trans own)) edited'

theorem Apart.register (a : Apart owner n p K k h) {id : String} (own : owner id = p)
    (mine : n.sessions[s]? = some p) :
    Apart owner n p K { k with registered := k.registered.insert id s }
      { h with registered := h.registered.insert id s } :=
  a.edit own (some s) (fun _ same => Option.some.inj same ▸ mine)
    (fun i => Dictionary.get?_insert k.registered id i s)
    fun i => Dictionary.get?_insert h.registered id i s

theorem Apart.unregister (a : Apart owner n p K k h) {id : String} (own : owner id = p) :
    Apart owner n p K { k with registered := k.registered.erase id }
      { h with registered := h.registered.erase id } :=
  a.edit own none (fun _ none => nomatch none)
    (fun i => Dictionary.get?_erase k.registered id i)
    fun i => Dictionary.get?_erase h.registered id i

/-! ### Answers -/

theorem Mirrors.reply (m : Mirrors owner n p k h) {a b : Ticket} (named : IsNth n.tickets p a b)
    (r : Reply) : Mirrors owner n p (k.reply a r) (h.reply b r) := by
  refine { m with replies := fun a' b' named' => ?_ }
  show (k.replies.insert a r).get? a' = (h.replies.insert b r).get? b'
  rw [Dictionary.get?_insert, Dictionary.get?_insert]
  by_cases here : a' = a
  · rw [if_pos here, if_pos ((named'.eq_iff named).mp here)]
  · rw [if_neg here, if_neg (here ∘ (named'.eq_iff named).mpr)]
    exact m.replies a' b' named'

theorem Mirrors.reply_foreign (m : Mirrors owner n q k h) {a b : Ticket}
    (named : IsNth n.tickets p a b) (other : q ≠ p) (r : Reply) :
    Mirrors owner n q k (h.reply b r) := by
  refine { m with replies := fun a' b' named' => ?_ }
  show k.replies.get? a' = (h.replies.insert b r).get? b'
  have elsewhere : b' ≠ b := fun here => other ((here ▸ named').owner_unique named)
  rw [Dictionary.get?_insert, if_neg elsewhere]
  exact m.replies a' b' named'

theorem Apart.reply (x : Apart owner n p K k h) {a b : Ticket} (named : IsNth n.tickets p a b)
    (r : Reply) : Apart owner n p K (k.reply a r) (h.reply b r) where
  own := x.own.reply named r
  others q other := (x.others q other).reply_foreign named other r

/-! ### Fresh names

What has a name keeps it when more names are handed out. -/

theorem Mirrors.sessions_of_grows (m : Mirrors owner n p k h) (grown : n.Grows n')
    (mine : n.sessions[s]? = some p) :
    Option.Rel (SessionTwins owner n' p) (k.sessions.get? s) (h.sessions.get? s) :=
  rel_imp (fun _ _ t => t.grow grown) (m.sessions s mine)

theorem Mirrors.queues_of_grows (m : Mirrors owner n p k h) (grown : n.Grows n') {a b : QueueId}
    (named : IsNth n.queues p a b) :
    Option.Rel (QueueTwins n' p) (k.queues.get? a) (h.queues.get? b) :=
  rel_imp (fun _ _ t => t.grow grown) (m.queues a b named)

theorem Mirrors.newTicket (m : Mirrors owner n p k h) :
    Mirrors owner (n.withTicket p) p k.newTicket.2 h.newTicket.2 := by
  have grown := n.grows_withTicket p
  refine { m with
    nextTicket := by simp [Hub.newTicket, Names.withTicket, m.nextTicket]
    sessions := fun _ => m.sessions_of_grows grown
    queues := fun _ _ => m.queues_of_grows grown
    replies := fun a b named => ?_ }
  show (k.replies.insert k.nextTicket .awaited).get? a =
    (h.replies.insert h.nextTicket .awaited).get? b
  rw [Dictionary.get?_insert, Dictionary.get?_insert, m.nextTicket.1, m.nextTicket.2]
  rcases named.of_concat with old | ⟨-, rfl, rfl⟩
  · rw [if_neg (Nat.ne_of_lt old.lt_count), if_neg (Nat.ne_of_lt old.lt_length)]
    exact m.replies a b old
  · rw [if_pos rfl, if_pos rfl]

theorem Mirrors.newTicket_foreign (m : Mirrors owner n q k h) (other : q ≠ p) :
    Mirrors owner (n.withTicket p) q k h.newTicket.2 := by
  have grown := n.grows_withTicket p
  refine { m with
    nextTicket := by simp [Hub.newTicket, Names.withTicket, m.nextTicket, other.symm]
    sessions := fun _ => m.sessions_of_grows grown
    queues := fun _ _ => m.queues_of_grows grown
    replies := fun a b named => ?_ }
  show k.replies.get? a = (h.replies.insert h.nextTicket .awaited).get? b
  rcases named.of_concat with old | ⟨same, -, -⟩
  · rw [Dictionary.get?_insert, m.nextTicket.2, if_neg (Nat.ne_of_lt old.lt_length)]
    exact m.replies a b old
  · exact absurd same.symm other

theorem Apart.newTicket (a : Apart owner n p K k h) :
    Apart owner (n.withTicket p) p K k.newTicket.2 h.newTicket.2 where
  own := a.own.newTicket
  others q other := (a.others q other).newTicket_foreign other

end Session

namespace Hub

/-- A fresh control queue, installed nowhere. -/
def newQueue (h : Hub) : QueueId × Hub :=
  (h.nextQueue,
   { h with queues := h.queues.insert h.nextQueue {}, nextQueue := h.nextQueue + 1 })

/-- To install a control queue is to make one and to change the session. -/
theorem attach_eq (h : Hub) (s : Serial) :
    h.attach s = ((h.detach s).newQueue.1,
      (h.detach s).newQueue.2.modify s fun x =>
        { x with control := some (h.detach s).newQueue.1 }) := by
  unfold attach newQueue modify
  dsimp only
  split <;> rfl

end Hub

namespace Session

variable {owner : String → ι} {n : Names ι} {p q : ι} {K : ι → Hub} {k h : Hub} {s : Serial}

theorem Mirrors.newQueue (m : Mirrors owner n p k h) :
    Mirrors owner (n.withQueue p) p k.newQueue.2 h.newQueue.2 := by
  have grown := n.grows_withQueue p
  refine { m with
    nextQueue := by simp [Hub.newQueue, Names.withQueue, m.nextQueue]
    sessions := fun _ => m.sessions_of_grows grown
    queues := fun a b named => ?_ }
  show Option.Rel _ ((k.queues.insert k.nextQueue {}).get? a)
    ((h.queues.insert h.nextQueue {}).get? b)
  rw [Dictionary.get?_insert, Dictionary.get?_insert, m.nextQueue.1, m.nextQueue.2]
  rcases named.of_concat with old | ⟨-, rfl, rfl⟩
  · rw [if_neg (Nat.ne_of_lt old.lt_count), if_neg (Nat.ne_of_lt old.lt_length)]
    exact m.queues_of_grows grown old
  · rw [if_pos rfl, if_pos rfl]
    exact .some ⟨.nil, rfl, rfl⟩

theorem Mirrors.newQueue_foreign (m : Mirrors owner n q k h) (other : q ≠ p) :
    Mirrors owner (n.withQueue p) q k h.newQueue.2 := by
  have grown := n.grows_withQueue p
  refine { m with
    nextQueue := by simp [Hub.newQueue, Names.withQueue, m.nextQueue, other.symm]
    sessions := fun _ => m.sessions_of_grows grown
    queues := fun a b named => ?_ }
  show Option.Rel _ (k.queues.get? a) ((h.queues.insert h.nextQueue {}).get? b)
  rcases named.of_concat with old | ⟨same, -, -⟩
  · rw [Dictionary.get?_insert, m.nextQueue.2, if_neg (Nat.ne_of_lt old.lt_length)]
    exact m.queues_of_grows grown old
  · exact absurd same.symm other

theorem Apart.newQueue (a : Apart owner n p K k h) :
    Apart owner (n.withQueue p) p K k.newQueue.2 h.newQueue.2 where
  own := a.own.newQueue
  others q other := (a.others q other).newQueue_foreign other

/-- The name of a fresh queue. -/
theorem Mirrors.isNth_newQueue (m : Mirrors owner n p k h) :
    IsNth (n.withQueue p).queues p k.newQueue.1 h.newQueue.1 := by
  show IsNth (n.queues ++ [p]) p k.nextQueue h.nextQueue
  rw [m.nextQueue.1, m.nextQueue.2]
  exact IsNth.last n.queues p

/-- The name of a fresh ticket. -/
theorem Mirrors.isNth_newTicket (m : Mirrors owner n p k h) :
    IsNth (n.withTicket p).tickets p k.newTicket.1 h.newTicket.1 := by
  show IsNth (n.tickets ++ [p]) p k.nextTicket h.nextTicket
  rw [m.nextTicket.1, m.nextTicket.2]
  exact IsNth.last n.tickets p

/-! ### What happens for all -/

/-- A session is made in every share, and everywhere under the same serial. -/
theorem Mirrors.make (m : Mirrors owner n q k h) (info : Info) (shellHere : Bool) :
    Mirrors owner (n.withSession (owner info.id)) q (k.make info shellHere).2
      (h.make info shellHere).2 := by
  have grown := n.grows_withSession (owner info.id)
  have old : ∀ {s}, s < n.sessions.length →
      (n.sessions ++ [owner info.id])[s]? = n.sessions[s]? := List.getElem?_append_left
  refine { m with
    nextSerial := by simp [Hub.make, Names.withSession, m.nextSerial]
    found := fun id s own there => ?_
    sessions := fun s mine => ?_
    queues := fun _ _ => m.queues_of_grows grown }
  · have known := m.found id s own there
    exact (old (List.getElem?_eq_some_iff.mp known).1).trans known
  · have mine : (n.sessions ++ [owner info.id])[s]? = some q := mine
    show Option.Rel _
      ((k.sessions.insert k.nextSerial (Session.make info shellHere k.clock)).get? s)
      ((h.sessions.insert h.nextSerial (Session.make info shellHere h.clock)).get? s)
    rw [Dictionary.get?_insert, Dictionary.get?_insert, m.nextSerial.1, m.nextSerial.2, m.clock]
    by_cases new : s = n.sessions.length
    · rw [if_pos new, if_pos new]
      rw [new, List.getElem?_concat_length] at mine
      exact .some ⟨rfl, .none, Option.some.inj mine⟩
    · rw [if_neg new, if_neg new]
      have bound := (List.getElem?_eq_some_iff.mp mine).1
      rw [List.length_append, List.length_singleton] at bound
      rw [old (Nat.lt_of_le_of_ne (Nat.lt_succ_iff.mp bound) new)] at mine
      exact m.sessions_of_grows grown mine

theorem Mirrors.later (m : Mirrors owner n q k h) (time : Nat) :
    Mirrors owner n q (k.later time) (h.later time) :=
  { m with clock := congrArg (· + (time : Int)) m.clock }

end Session

end ShellGateway
