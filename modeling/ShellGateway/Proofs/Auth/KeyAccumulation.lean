import ShellGateway.Proofs.Auth.KeyGrammar
import ShellGateway.Proofs.Auth.LoginAttempts
import ShellGateway.Proofs.Programs.Environment

/-!
# Key lists that are added one after the other

A key list is read line by line, and a line feed ends a line whatever stands before it. So
two lists with a line feed between them hold the keys of the first and then those of the
second, however the first one ends (`AuthorizedKey.ofText_join`).

Adding a list puts its keys into the accounts one by one, and a key that is put in again
takes the place of what was there. What a key comes to is therefore decided by the last line
that holds it, in whichever list that is, and by the accounts if no line does
(`Accounts.get?_keys_withAuthorizedKeys`). Adding two lists comes to adding them as one:
`keys_accumulate`.
-/

namespace ShellGateway

namespace Dictionary

variable {κ ν : Type} [DecidableEq κ]

/-- Of entries that are put in, the last one for a key counts. -/
theorem get?_foldl_insert_last (d : Dictionary κ ν) (entries : List (κ × ν)) (k : κ) :
    (entries.foldl (fun d e => d.insert e.1 e.2) d).get? k =
      ((entries.filter (·.1 = k)).getLast?.map (·.2)).or (d.get? k) := by
  induction entries using List.reverseRecOn with
  | nil => rfl
  | append_singleton entries e ih =>
    rw [List.foldl_append, List.foldl_cons, List.foldl_nil, get?_insert, ih, List.filter_append]
    by_cases same : e.1 = k
    · rw [if_pos same.symm, List.filter_singleton, decide_eq_true same, cond_true,
        List.getLast?_concat]
      rfl
    · rw [if_neg (Ne.symm same), List.filter_singleton, decide_eq_false same, cond_false,
        List.append_nil]

theorem mem_keys_iff (d : Dictionary κ ν) (k : κ) : k ∈ d.keys ↔ (d.get? k).isSome := by
  unfold keys get?
  rw [Option.isSome_map, List.find?_isSome, List.mem_map]
  simp

end Dictionary

namespace Auth

open Text

/-! ## Two lists in one -/

namespace AuthorizedKey

/-- **Lists with a line feed between them are read one after the other.** -/
theorem ofText_join (a b : List Char) : ofText (a ++ '\n' :: b) = ofText a ++ ofText b := by
  have cut : (a ++ '\n' :: b).splitOn '\n' = a.splitOn '\n' ++ b.splitOn '\n' :=
    List.splitOnP_append_cons a b (beq_self_eq_true '\n')
  rw [ofText_eq, ofText_eq, ofText_eq, splitOn_eq, splitOn_eq, splitOn_eq, cut,
    List.filterMap_append]

/-- The comment of a key as a text, which is empty when there is none. -/
def commentText (k : AuthorizedKey) : String :=
  String.ofList (k.comment.getD [])

/-- The comment that a list gives to a key, which is that of its last line. -/
def lastComment? (ks : List AuthorizedKey) (key : Bytes) : Option String :=
  (ks.filter (·.bytes = key)).getLast?.map commentText

theorem lastComment?_eq_none_iff {ks : List AuthorizedKey} {key : Bytes} :
    lastComment? ks key = none ↔ ∀ k ∈ ks, k.bytes ≠ key := by
  unfold lastComment?
  rw [Option.map_eq_none_iff, List.getLast?_eq_none_iff, List.filter_eq_nil_iff]
  simp

end AuthorizedKey

/-! ## Adding a list -/

namespace Accounts

/-- A list puts in one entry for each of its keys. -/
theorem keys_withAuthorizedKeys (a : Accounts) (content : String) :
    (a.withAuthorizedKeys content).keys =
      ((AuthorizedKey.ofText content.toList).map fun k => (k.bytes, k.commentText)).foldl
        (fun d e => d.insert e.1 e.2) a.keys := by
  unfold withAuthorizedKeys
  induction AuthorizedKey.ofText content.toList generalizing a with
  | nil => rfl
  | cons k rest ih => exact ih (a.withKey k.bytes k.commentText)

/-- **A key has the comment of its last line, or is as it was.** -/
theorem get?_keys_withAuthorizedKeys (a : Accounts) (content : String) (key : Bytes) :
    (a.withAuthorizedKeys content).keys.get? key =
      (AuthorizedKey.lastComment? (AuthorizedKey.ofText content.toList) key).or
        (a.keys.get? key) := by
  rw [keys_withAuthorizedKeys, Dictionary.get?_foldl_insert_last, List.filter_map,
    List.getLast?_map, Option.map_map]
  rfl

/-- Lists that are added one after the other come to their keys, one after the other. -/
theorem withAuthorizedKeys_twice {a : Accounts} {first second both : String}
    (joined : AuthorizedKey.ofText both.toList =
      AuthorizedKey.ofText first.toList ++ AuthorizedKey.ofText second.toList) :
    (a.withAuthorizedKeys first).withAuthorizedKeys second = a.withAuthorizedKeys both := by
  unfold withAuthorizedKeys
  rw [joined, List.foldl_append]

theorem nodup_keys_withAuthorizedKeys {a : Accounts} (once : a.keys.keys.Nodup)
    (content : String) : (a.withAuthorizedKeys content).keys.keys.Nodup := by
  rw [keys_withAuthorizedKeys]
  exact Dictionary.nodup_keys_foldl_insert once _

/-- Whatever is added, no key stands in the accounts twice. -/
theorem nodup_keys_ofAdditions (additions : List Addition) :
    (ofAdditions additions).keys.keys.Nodup := by
  induction additions using List.reverseRecOn with
  | nil => exact List.nodup_nil
  | append_singleton additions x ih =>
    unfold ofAdditions at ih ⊢
    rw [List.foldl_append, List.foldl_cons, List.foldl_nil]
    cases x with
    | user name secret => exact ih
    | record r => exact ih
    | key bytes comment => exact Dictionary.nodup_keys_insert ih bytes comment
    | authorizedKeys content => exact nodup_keys_withAuthorizedKeys ih content

/-- A key is accepted if it stands in the accounts, byte for byte. -/
theorem acceptsKey_iff (a : Accounts) (key : Bytes) :
    a.acceptsKey key = true ↔ key ∈ a.keys.keys :=
  (a.keys.mem_keys_iff key).symm

end Accounts

/-! ## Key lists accumulate -/

/-- **Two key lists come to the same as one list of both**, added to accounts one after the
other. The accounts then have the keys that they had and the keys of the lists, each once and
with the comment of its last line, and the same users; and whoever presents one of these keys
is let in, under any name, and nobody else who presents a key. -/
theorem keys_accumulate (additions : List Addition) (a b : String) :
    let s := Accounts.ofAdditions additions
    let ks := AuthorizedKey.ofText a.toList ++ AuthorizedKey.ofText b.toList
    let t := s.withAuthorizedKeys (a ++ "\n" ++ b)
    AuthorizedKey.ofText (a ++ "\n" ++ b).toList = ks ∧
      (s.withAuthorizedKeys a).withAuthorizedKeys b = t ∧
      t.users = s.users ∧
      t.keys.keys.Nodup ∧
      (∀ key comment, (key, comment) ∈ t.keys.entries ↔
        AuthorizedKey.lastComment? ks key = some comment ∨
          (∀ k ∈ ks, k.bytes ≠ key) ∧ (key, comment) ∈ s.keys.entries) ∧
      ∀ (c : Daemon.Connection) (now : Instant) (username : String) (key : Bytes),
        c.login t now (.key username key) =
          if key ∈ t.keys.keys then ({ c with user := some username }, .accept)
          else (c, .reject none) := by
  intro s ks t
  have text : (a ++ "\n" ++ b).toList = a.toList ++ '\n' :: b.toList := by
    rw [String.toList_append, String.toList_append, List.append_assoc]
    rfl
  have joined : AuthorizedKey.ofText (a ++ "\n" ++ b).toList = ks := by
    rw [text, AuthorizedKey.ofText_join]
  have once : s.keys.keys.Nodup := Accounts.nodup_keys_ofAdditions additions
  have onceMore : t.keys.keys.Nodup := Accounts.nodup_keys_withAuthorizedKeys once _
  refine ⟨joined, Accounts.withAuthorizedKeys_twice joined, s.users_withAuthorizedKeys _, onceMore,
    fun key comment => ?_, fun c now username key => ?_⟩
  · rw [← Dictionary.get?_eq_some_iff onceMore, s.get?_keys_withAuthorizedKeys, joined,
      ← Dictionary.get?_eq_some_iff once, ← AuthorizedKey.lastComment?_eq_none_iff]
    exact Option.or_eq_some_iff
  · rw [c.login_eq]
    unfold Accounts.admits?
    dsimp only
    by_cases held : key ∈ t.keys.keys
    · rw [if_pos held, if_pos ((t.acceptsKey_iff key).mpr held)]
    · rw [if_neg held, if_neg fun accepted => held ((t.acceptsKey_iff key).mp accepted)]

/-- A key of the accounts comes again in both lists, the first of which ends with a carriage
return. Its last line says nothing about it. -/
example :
    ((Accounts.none.withKey [1] "old").withAuthorizedKeys
      "ssh-dss AQ== new\nssh-rsa Ag== b\r\nssh-dss AQ==").keys.entries = [([1], ""), ([2], "b")] := by
  decide +kernel

end Auth

end ShellGateway
