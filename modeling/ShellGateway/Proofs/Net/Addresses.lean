import ShellGateway.Net.Address
import ShellGateway.Proofs.Text.Digits

/-!
# Addresses are written as they are read

Every address that is printed is read back, and so is every socket address
(`IpAddress.parse?_toString`, `SocketAddress.parse?_toString`).

The readers are followed part by part: a number, an IPv4 address, groups with colons between them.
Each part ends before something that does not belong to it (`Apart`). A run of zero groups that is
left out is put back as a gap, since nothing but zeros was left out (`longestZeros_spec`).

No text of an IPv6 address goes on like one of an IPv4 address: what comes before its first colon
holds no dot (`IPv6.exists_colon`).
-/

namespace ShellGateway.Net

/-- No number and no IPv4 address goes on with this text. -/
def Apart (rest : List Char) : Prop :=
  ∀ c ∈ rest.head?, c ≠ '.' ∧ Digit.value? 10 c = none ∧ Digit.value? 16 c = none

theorem apart_nil : Apart [] := by
  rintro _ ⟨⟩

theorem apart_cons {c : Char} {rest : List Char}
    (h : c ≠ '.' ∧ Digit.value? 10 c = none ∧ Digit.value? 16 c = none) : Apart (c :: rest) := by
  rintro _ ⟨⟩
  exact h

theorem apart_colon (rest : List Char) : Apart (':' :: rest) :=
  apart_cons (by decide)

section

variable {rest : List Char}

theorem takeChar_self (c : Char) (rest : List Char) : takeChar c (c :: rest) = some rest :=
  if_pos rfl

theorem takeChar_eq_some {c : Char} {s : List Char} :
    takeChar c s = some rest ↔ s = c :: rest := by
  cases s with
  | nil => simp [takeChar]
  | cons x s => simp [takeChar]

/-! ## Numbers -/

theorem takeGroup_write {base most n : Nat} {bare : Bool} (two : 2 ≤ base) (hb : base ≤ 16)
    (small : n < Nat.pow base most) (some : 0 < most)
    (stop : ∀ c ∈ rest.head?, Digit.value? base c = none) :
    takeGroup base most bare (Digit.write base n ++ rest) = .some (n, rest) := by
  have run : Digit.span base (Digit.write base n ++ rest) = (Digit.write base n, rest) :=
    Digit.span_append (Digit.isSome_of_mem_write two hb) stop
  have short := Digit.length_write_le two small some
  have plain : ¬ (bare && (Digit.write base n).length > 1 &&
      (Digit.write base n).head? == .some '0') = true := by
    rw [Bool.and_eq_true, Bool.and_eq_true, decide_eq_true_iff, beq_iff_eq]
    rintro ⟨⟨-, long⟩, zero⟩
    rcases Nat.eq_zero_or_pos n with rfl | positive
    · rw [Digit.write_of_lt (by omega)] at long
      exact absurd long (by decide)
    · exact Digit.head?_write two hb positive zero
  unfold takeGroup
  rw [run]
  dsimp only
  rw [if_neg (by omega), if_neg plain, Digit.read?_write two hb]
  rfl

/-- What is left is what the run of digits leaves. -/
theorem takeGroup_rest {base most n : Nat} {bare : Bool} {s : List Char}
    (h : takeGroup base most bare s = some (n, rest)) : (Digit.span base s).2 = rest := by
  unfold takeGroup at h
  dsimp only at h
  split at h
  · cases h
  · split at h
    · cases h
    · obtain ⟨m, -, same⟩ := Option.map_eq_some_iff.mp h
      exact (Prod.mk.inj same).2

theorem takeGroup_apart {most : Nat} {bare : Bool} (apart : Apart rest) :
    takeGroup 16 most bare rest = none := by
  have run : Digit.span 16 ([] ++ rest) = ([], rest) :=
    Digit.span_append nofun fun c hc => (apart c hc).2.2
  unfold takeGroup
  rw [List.nil_append] at run
  rw [run]
  dsimp only
  split
  · rfl
  · split <;> rfl

theorem takeNumber_write {limit n : Nat} (small : n < limit)
    (stop : ∀ c ∈ rest.head?, Digit.value? 10 c = none) :
    takeNumber limit (Digit.write 10 n ++ rest) = some (n, rest) := by
  have run : Digit.span 10 (Digit.write 10 n ++ rest) = (Digit.write 10 n, rest) :=
    Digit.span_append (Digit.isSome_of_mem_write (by decide) (by decide)) stop
  unfold takeNumber
  rw [run]
  dsimp only
  rw [Digit.read?_write (by decide) (by decide), Option.filter_some, if_pos (decide_eq_true small)]
  rfl

/-! ## IPv4 -/

theorem takeOctet_write (b : UInt8) (stop : ∀ c ∈ rest.head?, Digit.value? 10 c = none) :
    takeOctet (Digit.write 10 b.toNat ++ rest) = some (b, rest) := by
  have small := b.toNat_lt
  unfold takeOctet
  rw [takeGroup_write (by decide) (by decide) (by show _ < 1000; omega) (by decide) stop,
    Option.bind_eq_bind, Option.bind_some]
  dsimp only
  rw [if_pos small, UInt8.ofNat_toNat]

/-- An IPv4 address is taken, unless a digit comes after it. -/
theorem IPv4.take_toText (ip : IPv4) (stop : ∀ c ∈ rest.head?, Digit.value? 10 c = none) :
    IPv4.take (ip.toText ++ rest) = some (ip, rest) := by
  have dot (s : List Char) : ∀ c ∈ ('.' :: s).head?, Digit.value? 10 c = none := by
    rintro _ ⟨⟩
    decide
  unfold IPv4.take IPv4.toText
  simp only [List.append_assoc, List.cons_append]
  refine Option.bind_eq_some_iff.mpr ⟨_, takeOctet_write ip.a (dot _), ?_⟩
  refine Option.bind_eq_some_iff.mpr ⟨_, takeChar_self '.' _, ?_⟩
  refine Option.bind_eq_some_iff.mpr ⟨_, takeOctet_write ip.b (dot _), ?_⟩
  refine Option.bind_eq_some_iff.mpr ⟨_, takeChar_self '.' _, ?_⟩
  refine Option.bind_eq_some_iff.mpr ⟨_, takeOctet_write ip.c (dot _), ?_⟩
  refine Option.bind_eq_some_iff.mpr ⟨_, takeChar_self '.' _, ?_⟩
  exact Option.bind_eq_some_iff.mpr ⟨_, takeOctet_write ip.d stop, rfl⟩

/-- The digits at the front of an IPv4 address end in a dot. -/
theorem IPv4.head?_span {s : List Char} {found : IPv4 × List Char} (h : IPv4.take s = some found) :
    (Digit.span 10 s).2.head? = some '.' := by
  obtain ⟨⟨a, afterA⟩, octet, h⟩ := Option.bind_eq_some_iff.mp h
  obtain ⟨beyond, mark, -⟩ := Option.bind_eq_some_iff.mp h
  obtain ⟨⟨n, afterN⟩, group, octet⟩ := Option.bind_eq_some_iff.mp octet
  dsimp only at octet mark
  split at octet
  · obtain ⟨-, rfl⟩ := Prod.mk.inj (Option.some.inj octet)
    rw [takeGroup_rest group, takeChar_eq_some.mp mark]
    rfl
  · cases octet

/-- Where no digits end in a dot, there is no IPv4 address. -/
theorem IPv4.take_eq_none {word : List Char} (noDot : '.' ∉ word) (apart : Apart rest) :
    IPv4.take (word ++ rest) = none := by
  have after : (Digit.span 10 (word ++ rest)).2.head? ≠ some '.' := by
    induction word with
    | nil =>
      have run : Digit.span 10 ([] ++ rest) = ([], rest) :=
        Digit.span_append nofun fun c hc => (apart c hc).2.1
      rw [run]
      exact fun dot => (apart '.' dot).1 rfl
    | cons c word ih =>
      rw [List.mem_cons, not_or] at noDot
      rw [Digit.span, List.span_eq_takeWhile_dropWhile] at ih ⊢
      dsimp only at ih ⊢
      rw [List.cons_append, List.dropWhile_cons]
      split
      · exact ih noDot.2
      · exact fun dot => noDot.1 (Option.some.inj dot).symm
  cases found : IPv4.take (word ++ rest) with
  | none => rfl
  | some found' => exact absurd (IPv4.head?_span found) after

/-! ## Groups of an IPv6 address -/

/-- Groups as they stand after others, or at the front if `first`. -/
def groupsText : (first : Bool) → List UInt16 → List Char
  | _, [] => []
  | first, g :: groups =>
    (if first then [] else [':']) ++ (Digit.write 16 g.toNat ++ groupsText false groups)

theorem colonSeparated_eq (groups : List UInt16) :
    colonSeparated groups = groupsText true groups := by
  unfold colonSeparated
  induction groups with
  | nil => rfl
  | cons g groups ih =>
    cases groups with
    | nil => simp [groupsText]
    | cons g' groups =>
      rw [List.map_cons] at ih
      rw [List.map_cons, List.map_cons, List.intercalate_cons_cons, ih]
      simp [groupsText]

theorem isHexadecimal_group (g : UInt16) : '.' ∉ Digit.write 16 g.toNat := by
  intro dot
  have digit := Digit.isSome_of_mem_write (by decide) (by decide) '.' dot
  exact absurd digit (by decide)

/-- Nothing follows on a group but a colon, or what comes after all groups. -/
theorem apart_groupsText (apart : Apart rest) (groups : List UInt16) :
    Apart (groupsText false groups ++ rest) := by
  cases groups with
  | nil => exact apart
  | cons g groups => exact apart_colon _

/-- **Groups are taken one by one**, as far as there is room. -/
theorem takeGroups_groupsText {groups : List UInt16} {room : Nat} {first : Bool}
    (enough : groups.length ≤ room) (apart : Apart rest)
    (closed : ∀ s, rest = ':' :: s → Apart s) :
    takeGroups room first (groupsText first groups ++ rest) = (groups, false, rest) := by
  induction groups generalizing room first with
  | nil =>
    show takeGroups room first rest = ([], false, rest)
    cases room with
    | zero => rfl
    | succ room =>
      unfold takeGroups
      dsimp only
      split
      · rfl
      · rename_i item next
        -- neither the text itself nor what comes after a colon goes on with a group
        have apart' : Apart item := by
          cases first with
          | true =>
            obtain rfl := Option.some.inj next
            exact apart
          | false => exact closed item (takeChar_eq_some.mp next)
        have mixed : IPv4.take item = none := @IPv4.take_eq_none item [] nofun apart'
        rw [mixed, ite_self]
        dsimp only
        rw [takeGroup_apart apart']
  | cons g groups ih =>
    cases room with
    | zero => cases enough
    | succ room =>
      have apart' := apart_groupsText apart groups
      have item : (if first then some (groupsText first (g :: groups) ++ rest)
          else takeChar ':' (groupsText first (g :: groups) ++ rest)) =
          some (Digit.write 16 g.toNat ++ (groupsText false groups ++ rest)) := by
        cases first <;> simp [groupsText, takeChar]
      have mixed := IPv4.take_eq_none (isHexadecimal_group g) apart'
      have group : takeGroup 16 4 false (Digit.write 16 g.toNat ++
          (groupsText false groups ++ rest)) = some (g.toNat, groupsText false groups ++ rest) :=
        takeGroup_write (by decide) (by decide) g.toNat_lt (by decide)
          fun c hc => (apart' c hc).2.2
      unfold takeGroups
      dsimp only
      rw [item]
      dsimp only
      rw [mixed, ite_self]
      dsimp only
      rw [group]
      dsimp only
      rw [ih (Nat.le_of_succ_le_succ enough), UInt16.ofNat_toNat]

/-- The groups that end in an IPv4 address. -/
theorem takeGroups_mixed (g : UInt16) (ip : IPv4) {room : Nat} (apart : Apart rest) :
    takeGroups (room + 3) true (Digit.write 16 g.toNat ++ ':' :: (ip.toText ++ rest)) =
      (g :: ip.groups, true, rest) := by
  have mixed := IPv4.take_eq_none (isHexadecimal_group g) (apart_colon (ip.toText ++ rest))
  have group : takeGroup 16 4 false (Digit.write 16 g.toNat ++ ':' :: (ip.toText ++ rest)) =
      some (g.toNat, ':' :: (ip.toText ++ rest)) :=
    takeGroup_write (by decide) (by decide) g.toNat_lt (by decide)
      fun c hc => (apart_colon _ c hc).2.2
  have ends : takeGroups (room + 2) false (':' :: (ip.toText ++ rest)) =
      (ip.groups, true, rest) := by
    unfold takeGroups
    dsimp only
    rw [if_neg Bool.false_ne_true, takeChar_self]
    dsimp only
    rw [if_neg (Nat.succ_ne_zero room), IPv4.take_toText ip fun c hc => (apart c hc).2.1]
  unfold takeGroups
  dsimp only
  rw [if_pos rfl]
  dsimp only
  rw [mixed, ite_self]
  dsimp only
  rw [group]
  dsimp only
  rw [ends, UInt16.ofNat_toNat]

end

/-! ## The longest run of zero groups -/

theorem exists_zerosAtFront (groups : List UInt16) :
    ∃ after, groups = List.replicate (zerosAtFront groups) 0 ++ after := by
  have zeros : groups.takeWhile (· == 0) = List.replicate (zerosAtFront groups) 0 := by
    refine List.eq_replicate_of_mem fun g hg => ?_
    exact beq_iff_eq.mp (List.mem_takeWhile_imp (p := (· == 0)) hg)
  exact ⟨_, by rw [← zeros, List.takeWhile_append_dropWhile]⟩

/-- **What is left out are zeros.** -/
theorem longestZeros_spec (start : Nat) (groups : List UInt16) :
    ∃ before after, groups = before ++ (List.replicate (longestZeros start groups).2 0 ++ after) ∧
      (longestZeros start groups).1 = start + before.length := by
  induction groups generalizing start with
  | nil => exact ⟨[], [], rfl, rfl⟩
  | cons g groups ih =>
    unfold longestZeros
    dsimp only
    split
    · obtain ⟨before, after, split, first⟩ := ih (start + 1)
      refine ⟨g :: before, after, congrArg (g :: ·) split, ?_⟩
      rw [first, List.length_cons]
      omega
    · obtain ⟨after, split⟩ := exists_zerosAtFront (g :: groups)
      exact ⟨[], after, split, rfl⟩

/-! ## IPv6 -/

theorem IPv6.ofList_groups (ip : IPv6) : IPv6.ofList ip.groups.toList = ip := by
  obtain ⟨groups⟩ := ip
  unfold IPv6.ofList
  congr 1
  ext i hi
  simp

theorem group_of_bytes (x : UInt16) :
    UInt16.ofNat ((UInt8.ofNat (x.toNat / 256)).toNat * 256 + (UInt8.ofNat (x.toNat % 256)).toNat) =
      x := by
  have small := x.toNat_lt
  rw [← UInt16.toNat_inj, UInt16.toNat_ofNat', UInt8.toNat_ofNat', UInt8.toNat_ofNat']
  omega

/-- A mapped address has the IPv4 address that it stands for in its last two groups. -/
theorem IPv6.groups_of_mapped {ip : IPv6} {v4 : IPv4} (h : ip.mapped? = some v4) :
    ip.groups.toList = [0, 0, 0, 0, 0, 0xFFFF] ++ v4.groups := by
  unfold IPv6.mapped? at h
  split at h
  · rename_i x y groups
    obtain rfl := Option.some.inj h
    rw [groups, IPv4.groups, group_of_bytes, group_of_bytes]
    rfl
  · cases h

/-- A gap is filled with zeros. -/
theorem IPv6.take_gap {before tail : List UInt16} {s rest : List Char} {mixed : Bool}
    (few : before.length < 8)
    (behind : takeGroups (7 - before.length) true s = (tail, mixed, rest)) :
    IPv6.take (groupsText true before ++ ':' :: ':' :: s) =
      some (.ofList (before ++ List.replicate (8 - before.length - tail.length) 0 ++ tail),
        rest) := by
  have front : takeGroups 8 true (groupsText true before ++ ':' :: ':' :: s) =
      (before, false, ':' :: ':' :: s) := by
    refine takeGroups_groupsText (Nat.le_of_lt few) (apart_colon _) ?_
    rintro _ ⟨⟩
    exact apart_colon s
  unfold IPv6.take
  rw [front]
  dsimp only
  rw [if_neg (Nat.ne_of_lt few), if_neg Bool.false_ne_true, takeChar_self, Option.bind_eq_bind,
    Option.bind_some, takeChar_self, Option.bind_some, behind]
  rfl

theorem IPv6.length_groups (ip : IPv6) : ip.groups.toList.length = 8 :=
  ip.groups.size_toArray

section

variable {rest : List Char} {ip : IPv6}

/-- An address that has zeros left out. -/
theorem IPv6.take_compressed {before after : List UInt16} {count : Nat} (some : 0 < count)
    (parts : ip.groups.toList = before ++ (List.replicate count 0 ++ after)) (apart : Apart rest)
    (closed : ∀ s, rest = ':' :: s → Apart s) :
    IPv6.take (groupsText true before ++ ':' :: ':' :: (groupsText true after ++ rest)) =
      .some (ip, rest) := by
  have lengths := congrArg List.length parts
  rw [ip.length_groups, List.length_append, List.length_append, List.length_replicate] at lengths
  have room : after.length ≤ 7 - before.length := by omega
  have taken := IPv6.take_gap (by omega) (takeGroups_groupsText room apart closed)
  have whole : before ++ List.replicate (8 - before.length - after.length) 0 ++ after =
      ip.groups.toList := by
    rw [parts, List.append_assoc, show 8 - before.length - after.length = count by omega]
  rwa [whole, IPv6.ofList_groups] at taken

/-- An address that ends in the IPv4 address that it stands for. -/
theorem IPv6.take_mapped {v4 : IPv4} (mapped : ip.mapped? = some v4) (apart : Apart rest) :
    IPv6.take ("::ffff:".toList ++ v4.toText ++ rest) = some (ip, rest) := by
  have taken := @IPv6.take_gap [] (0xFFFF :: v4.groups) _ rest true (by decide)
    (takeGroups_mixed 0xFFFF v4 apart)
  have whole : List.replicate 5 0 ++ 0xFFFF :: v4.groups = ip.groups.toList :=
    (IPv6.groups_of_mapped mapped).symm
  have text : "::ffff:".toList ++ v4.toText ++ rest =
      ':' :: ':' :: (Digit.write 16 (0xFFFF : UInt16).toNat ++ ':' :: (v4.toText ++ rest)) := by
    rw [List.append_assoc]
    rfl
  rw [text, ← IPv6.ofList_groups ip, ← whole]
  exact taken

/-- **An IPv6 address is taken**, unless it could go on. -/
theorem IPv6.take_toText (ip : IPv6) (apart : Apart rest) (last : rest.head? ≠ some ':') :
    IPv6.take (ip.toText ++ rest) = some (ip, rest) := by
  have closed : ∀ s, rest = ':' :: s → Apart s := by
    rintro s rfl
    exact absurd rfl last
  unfold IPv6.toText
  split
  · rename_i v4 mapped
    exact IPv6.take_mapped mapped apart
  · dsimp only
    rw [colonSeparated_eq, colonSeparated_eq, colonSeparated_eq]
    obtain ⟨before, after, parts, start⟩ := longestZeros_spec 0 ip.groups.toList
    cases longest : longestZeros 0 ip.groups.toList with
    | mk first count =>
      rw [longest] at parts start
      dsimp only at parts start
      rw [Nat.zero_add] at start
      subst start
      split
      · have front : ip.groups.toList.take before.length = before := by
          rw [parts, List.take_left]
        have back : ip.groups.toList.drop (before.length + count) = after := by
          rw [parts, ← List.append_assoc]
          exact List.drop_left' (by rw [List.length_append, List.length_replicate])
        rw [front, back, List.append_assoc, List.append_assoc]
        exact IPv6.take_compressed (by omega) parts apart closed
      · have taken : takeGroups 8 true (groupsText true ip.groups.toList ++ rest) =
            (ip.groups.toList, false, rest) :=
          takeGroups_groupsText (Nat.le_of_eq ip.length_groups) apart closed
        unfold IPv6.take
        rw [taken]
        dsimp only
        rw [if_pos ip.length_groups, IPv6.ofList_groups]

end

/-- Up to its first colon, the text of an IPv6 address is a hexadecimal number or nothing. -/
theorem IPv6.exists_colon (ip : IPv6) :
    ∃ word s, ip.toText = word ++ ':' :: s ∧ ∀ c ∈ word, (Digit.value? 16 c).isSome = true := by
  have hexadecimal (g : UInt16) : ∀ c ∈ Digit.write 16 g.toNat, (Digit.value? 16 c).isSome = true :=
    Digit.isSome_of_mem_write (by decide) (by decide)
  unfold IPv6.toText
  split
  · exact ⟨[], _, rfl, nofun⟩
  · dsimp only
    rw [colonSeparated_eq, colonSeparated_eq, colonSeparated_eq]
    split
    · -- the gap has a colon, if no group before it has one
      cases ip.groups.toList.take (longestZeros 0 ip.groups.toList).1 with
      | nil => exact ⟨[], _, rfl, nofun⟩
      | cons g groups =>
        cases groups with
        | nil => exact ⟨_, _, by simp [groupsText]; rfl, hexadecimal g⟩
        | cons g' groups => exact ⟨_, _, by simp [groupsText]; rfl, hexadecimal g⟩
    · have eight := ip.length_groups
      cases groups : ip.groups.toList with
      | nil => rw [groups] at eight; cases eight
      | cons g groups' =>
        cases groups' with
        | nil => rw [groups] at eight; cases eight
        | cons g' groups' => exact ⟨_, _, by simp [groupsText]; rfl, hexadecimal g⟩

/-- No IPv6 address is taken for one of the other family. -/
theorem IPv4.take_ofIPv6 (ip : IPv6) (rest : List Char) : IPv4.take (ip.toText ++ rest) = none := by
  obtain ⟨word, s, text, hexadecimal⟩ := ip.exists_colon
  have noDot : '.' ∉ word := fun dot => absurd (hexadecimal '.' dot) (by decide)
  rw [text, List.append_assoc]
  exact IPv4.take_eq_none noDot (apart_colon _)

/-! ## Whole texts -/

/-- **Addresses are read back.** -/
theorem IpAddress.parse?_toString (ip : IpAddress) : IpAddress.parse? (toString ip) = some ip := by
  show whole IpAddress.take (String.ofList ip.toText) = some ip
  have taken : IpAddress.take (ip.toText ++ []) = some (ip, []) := by
    unfold IpAddress.take IpAddress.toText
    cases ip with
    | v4 ip =>
      dsimp only
      rw [IPv4.take_toText ip fun c hc => (apart_nil c hc).2.1]
    | v6 ip =>
      dsimp only
      rw [IPv4.take_ofIPv6, IPv6.take_toText ip apart_nil nofun]
      rfl
  rw [List.append_nil] at taken
  unfold whole
  rw [String.toList_ofList, taken]

theorem takePort_write (port : UInt16) :
    takePort (':' :: Digit.write 10 port.toNat) = some (port, []) := by
  have number := @takeNumber_write [] 65536 port.toNat port.toNat_lt
    fun c hc => (apart_nil c hc).2.1
  rw [List.append_nil] at number
  unfold takePort
  rw [takeChar_self, Option.bind_eq_bind, Option.bind_some, number]
  show some (UInt16.ofNat port.toNat, []) = _
  rw [UInt16.ofNat_toNat]

/-- The scope as it stands between an address and its bracket. -/
def scopeText (scope : UInt32) : List Char :=
  if scope = 0 then [] else '%' :: Digit.write 10 scope.toNat

theorem takeScope_scopeText (scope : UInt32) (s : List Char) :
    takeScope (scopeText scope ++ ']' :: s) = (scope, ']' :: s) := by
  unfold scopeText
  by_cases zero : scope = 0
  · rw [if_pos zero, zero]
    rfl
  · have number : takeNumber 4294967296 (Digit.write 10 scope.toNat ++ ']' :: s) =
        some (scope.toNat, ']' :: s) :=
      takeNumber_write scope.toNat_lt (by rintro _ ⟨⟩; decide)
    unfold takeScope
    rw [if_neg zero, List.cons_append, takeChar_self, Option.bind_eq_bind, Option.bind_some, number]
    dsimp only
    rw [UInt32.ofNat_toNat]

/-- An IPv6 address ends at its scope or at the bracket. -/
theorem scopeText_head (scope : UInt32) (s : List Char) :
    Apart (scopeText scope ++ ']' :: s) ∧ (scopeText scope ++ ']' :: s).head? ≠ some ':' := by
  unfold scopeText
  split
  · exact ⟨apart_cons (by decide), by simp⟩
  · exact ⟨apart_cons (by decide), by simp⟩

/-- **Socket addresses are read back**, with their scopes and ports. -/
theorem SocketAddress.parse?_toString (a : SocketAddress) :
    SocketAddress.parse? (toString a) = some a := by
  show whole SocketAddress.take (String.ofList a.toText) = some a
  have taken : SocketAddress.take a.toText = some (a, []) := by
    unfold SocketAddress.take
    cases a with
    | v4 ip port =>
      unfold SocketAddress.toText
      dsimp only
      rw [IPv4.take_toText ip fun c hc => (apart_colon _ c hc).2.1, Option.bind_eq_bind,
        Option.bind_some]
      dsimp only
      rw [takePort_write]
      rfl
    | v6 ip scope port =>
      have text : (SocketAddress.v6 ip scope port).toText =
          '[' :: (ip.toText ++ (scopeText scope ++ ']' :: ':' :: Digit.write 10 port.toNat)) := by
        simp [SocketAddress.toText, scopeText]
      have notIPv4 (s : List Char) : IPv4.take ('[' :: s) = none :=
        @IPv4.take_eq_none _ [] nofun (apart_cons (by decide))
      obtain ⟨apart, last⟩ := scopeText_head scope (':' :: Digit.write 10 port.toNat)
      rw [text, notIPv4]
      refine Option.bind_eq_some_iff.mpr ⟨_, takeChar_self '[' _, ?_⟩
      refine Option.bind_eq_some_iff.mpr ⟨_, IPv6.take_toText ip apart last, ?_⟩
      dsimp only
      rw [takeScope_scopeText]
      refine Option.bind_eq_some_iff.mpr ⟨_, takeChar_self ']' _, ?_⟩
      exact Option.bind_eq_some_iff.mpr ⟨_, takePort_write port, rfl⟩
  unfold whole
  rw [String.toList_ofList, taken]

/-- An IPv6 address without brackets begins no socket address. -/
theorem SocketAddress.parse?_bare (ip : IPv6) (s : String) :
    SocketAddress.parse? (toString (IpAddress.v6 ip) ++ s) = none := by
  have text : (toString (IpAddress.v6 ip) ++ s).toList = ip.toText ++ s.toList := by
    rw [String.toList_append]
    exact congrArg (· ++ s.toList) String.toList_ofList
  have noBracket : takeChar '[' (ip.toText ++ s.toList) = none := by
    obtain ⟨word, beyond, front, hexadecimal⟩ := ip.exists_colon
    rw [front]
    cases word with
    | nil => rfl
    | cons c word =>
      refine if_neg ?_
      rintro rfl
      exact absurd (hexadecimal '[' List.mem_cons_self) (by decide)
  have none : SocketAddress.take (ip.toText ++ s.toList) = none := by
    unfold SocketAddress.take
    rw [IPv4.take_ofIPv6, noBracket]
    rfl
  unfold SocketAddress.parse? whole
  rw [text, none]

end ShellGateway.Net
