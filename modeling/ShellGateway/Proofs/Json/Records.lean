import ShellGateway.Proofs.Json.Grammar

/-!
# Records in JSON values

What `Value.fields?` finds in an object does not depend on the order of the members nor on those
that are not of the record (`fields?_of_lists`), and an array of items is read like the object that
gives them the first names of the record (`fields?_array`). A name that is given twice spoils the
record (`fields?_eq_some`).
-/

namespace ShellGateway.Json

variable {names : List (List Char)} {fields : List (List Char × Value)}
  {members others : List (Text? × Value)} {n : List Char}

/-- Named values as members of an object. -/
def entries (fields : List (List Char × Value)) : List (Text? × Value) :=
  fields.map fun f => (some f.1, f.2)

/-- Members that give these fields of a record with these names, in any order and among others
that are not of the record. -/
def Lists (names : List (List Char)) (fields : List (List Char × Value))
    (members : List (Text? × Value)) : Prop :=
  ∃ others, members.Perm (entries fields ++ others) ∧
    ∀ m ∈ others, ∃ n, m.1 = some n ∧ n ∉ names

theorem lists_entries (names : List (List Char)) (fields : List (List Char × Value)) :
    Lists names fields (entries fields) :=
  ⟨[], by rw [List.append_nil], fun _ h => nomatch h⟩

/-- A text of an object that gives these fields of a record with these names, in any order and
among others that are not of the record. -/
def Listing (names : List String) (fields : List (List Char × Value)) (text : String) : Prop :=
  ∃ members, Lists (names.map String.toList) fields members ∧ Document (.object members) text

namespace Value

theorem named_append (a b : List (Text? × Value)) : named n (a ++ b) = named n a ++ named n b := by
  simp [named]

theorem named_perm {a b : List (Text? × Value)} (h : a.Perm b) : (named n a).Perm (named n b) :=
  (h.filter _).map _

theorem named_sublist {a b : List (Text? × Value)} (h : a.Sublist b) :
    (named n a).Sublist (named n b) :=
  (h.filter _).map _

theorem mem_named {v : Value} : v ∈ named n members ↔ (some n, v) ∈ members := by
  simp [named]

/-- Of distinct names each names one value. -/
theorem named_entries (nodup : (fields.map (·.1)).Nodup) :
    named n (entries fields) = (fields.lookup n).toList := by
  induction fields with
  | nil => rfl
  | cons f fields ih =>
    obtain ⟨name, v⟩ := f
    rw [List.map_cons, List.nodup_cons] at nodup
    have front : named n (entries ((name, v) :: fields)) =
        named n [(some name, v)] ++ named n (entries fields) :=
      named_append [(some name, v)] (entries fields)
    rw [front, ih nodup.2]
    by_cases h : n = name
    · subst h
      have absent : fields.lookup n = none := by
        rw [List.lookup_eq_none_iff]
        intro f hf
        have : n ≠ f.1 := fun same => nodup.1 (same ▸ List.mem_map_of_mem (f := (·.1)) hf)
        simpa using this
      simp [named, absent]
    · have other : (n == name) = false := by simpa using h
      simp [named, List.lookup_cons, other, Ne.symm h]

/-- The fields of a record are found whatever their order and whatever else is there. -/
theorem fields?_of_lists (h : Lists names fields members) (nodup : (fields.map (·.1)).Nodup) :
    (Value.object members).fields? names = some (names.map fun n => fields.lookup n) := by
  obtain ⟨others, perm, unknown⟩ := h
  -- A name of the record names what the fields give it: the other members have other names, and a
  -- list of one value at most has one order.
  have found : ∀ n ∈ names, named n members = (fields.lookup n).toList := by
    intro n known
    have absent : named n others = [] := by
      refine List.eq_nil_iff_forall_not_mem.mpr fun v hv => ?_
      obtain ⟨n', same, notKnown⟩ := unknown _ (mem_named.mp hv)
      exact notKnown (Option.some.inj same ▸ known)
    have same := named_perm (n := n) perm
    rw [named_append, named_entries nodup, absent, List.append_nil] at same
    cases h : fields.lookup n with
    | none =>
      rw [h] at same
      exact List.perm_nil.mp same
    | some v =>
      rw [h] at same
      exact List.perm_singleton.mp same
  have texts : ∀ m ∈ members, m.1.isSome := by
    intro m hm
    obtain hm | hm := List.mem_append.mp (perm.mem_iff.mp hm)
    · obtain ⟨f, -, rfl⟩ := List.mem_map.mp hm
      rfl
    · obtain ⟨n, named, -⟩ := unknown m hm
      rw [named]
      rfl
  have once : ∀ n ∈ names, (named n members).length ≤ 1 := by
    intro n known
    rw [found n known]
    cases fields.lookup n <;> simp
  rw [fields?, if_pos (by simpa using ⟨fun a b h => texts (a, b) h, once⟩)]
  refine congrArg some (List.map_congr_left fun n known => ?_)
  rw [found n known]
  cases fields.lookup n <;> rfl

/-- Items in place of names. -/
theorem lookup_zip {items : List Value} (short : items.length ≤ names.length)
    (nodup : names.Nodup) :
    names.map (fun n => (names.zip items).lookup n) =
      items.map some ++ List.replicate (names.length - items.length) none := by
  induction names generalizing items with
  | nil =>
    cases items with
    | nil => rfl
    | cons v items => cases short
  | cons n names ih =>
    rw [List.nodup_cons] at nodup
    cases items with
    | nil =>
      have empty : ∀ n' ∈ n :: names, ((n :: names).zip ([] : List Value)).lookup n' = none :=
        fun _ _ => rfl
      rw [List.map_congr_left empty, List.map_const']
      rfl
    | cons v items =>
      -- The names behind the first are others, so its pair is passed over.
      have others : names.map (fun n' => ((n, v) :: names.zip items).lookup n') =
          names.map (fun n' => (names.zip items).lookup n') := by
        refine List.map_congr_left fun n' hn' => ?_
        have other : (n' == n) = false := by
          rw [beq_eq_false_iff_ne]
          exact fun same => nodup.1 (same ▸ hn')
        rw [List.lookup_cons, other]
      rw [List.zip_cons_cons, List.map_cons, others, ih (Nat.le_of_succ_le_succ short) nodup.2,
        List.lookup_cons_self, List.length_cons, List.length_cons, Nat.add_sub_add_right]
      rfl

/-- An array gives the first fields of a record like an object that lists them. -/
theorem fields?_array {items : List Value} (short : items.length ≤ names.length)
    (nodup : names.Nodup) (lists : Lists names (names.zip items) members) :
    (Value.array items).fields? names = (Value.object members).fields? names := by
  have distinct : ((names.zip items).map (·.1)).Nodup := by
    have front : (names.zip items).map (·.1) = names.take items.length := by
      rw [List.zip_eq_zip_take_min, Nat.min_eq_right short, List.take_length]
      exact List.map_fst_zip (by rw [List.length_take]; omega)
    rw [front]
    exact nodup.sublist (List.take_sublist _ _)
  rw [fields?_of_lists lists distinct, lookup_zip short nodup, fields?, if_pos short]

/-- A name that is given at most once has the value that it is given. -/
theorem head?_named {v : Value} (once : (named n members).length ≤ 1)
    (given : (some n, v) ∈ members) : (named n members).head? = some v := by
  have named := mem_named.mpr given
  cases h : Value.named n members with
  | nil =>
    rw [h] at named
    cases named
  | cons w others =>
    rw [h] at named once
    cases List.eq_nil_of_length_eq_zero (Nat.le_zero.mp (Nat.le_of_succ_le_succ once))
    rw [List.mem_singleton.mp named]
    rfl

/-- What is found of a record in an object is what the object gives. -/
theorem fields?_eq_some {members : List (Text? × Value)} {values : List (Option Value)}
    (h : (Value.object members).fields? names = some values) :
    values = names.map (fun n => (named n members).head?) ∧
      ∀ n ∈ names, (named n members).length ≤ 1 := by
  rw [fields?] at h
  split at h
  · rename_i once
    cases h
    rw [Bool.and_eq_true, List.all_eq_true, List.all_eq_true] at once
    exact ⟨rfl, fun n known => by simpa using once.2 n known⟩
  · cases h

end Value

/-! ## What a field may hold -/

/-- What the field of a record may hold. -/
inductive Kind where
  | text
  | number (limit : Nat)
  | bool
  | textOrNull
  deriving DecidableEq, Repr

/-- A number without sign, point and exponent that is below `limit`. -/
structure InRange (limit : Nat) (l : Literal) : Prop where
  negative : l.negative = false
  fraction : l.fraction = none
  exponent : l.exponent = none
  below : Digit.number l.whole < limit

/-- The values that a field may have. Null stands for a missing text only where a text may be
missing. -/
inductive Kind.Admits : Kind → Value → Prop where
  | text (s : List Char) : Admits .text (.string (some s))
  | number {limit : Nat} {l : Literal} (h : InRange limit l) : Admits (.number limit) (.number l)
  | bool (b : Bool) : Admits .bool (.bool b)
  | someText (s : List Char) : Admits .textOrNull (.string (some s))
  | null : Admits .textOrNull .null

/-- Whether the reader of a field takes a value. -/
def Kind.takes : Kind → Value → Bool
  | text, v => v.asText?.isSome
  | number limit, v => (v.asNat? limit).isSome
  | bool, v => v.asBool?.isSome
  | textOrNull, v => (v.orNull? Value.asText?).isSome

theorem asText?_text (s : String) : (Value.text s).asText? = some s := by
  simp [Value.text, Value.asText?]

theorem asNat?_nat {limit n : Nat} (h : n < limit) : (Value.nat n).asNat? limit = some n := by
  show ((Digit.read? 10 (Digit.write 10 n)).filter (· < limit)) = some n
  rw [Digit.read?_write (by decide) (by decide)]
  simp [h]

theorem inRange_of_natBelow? {limit n : Nat} {l : Literal} (h : l.natBelow? limit = some n) :
    InRange limit l := by
  unfold Literal.natBelow? at h
  split at h
  · rename_i unsigned noFraction noExponent
    obtain ⟨read, below⟩ := Option.filter_eq_some_iff.mp h
    obtain ⟨-, -, rfl⟩ := Digit.read?_ten_eq_some.mp read
    exact ⟨unsigned, noFraction, noExponent, by simpa using below⟩
  · cases h

/-- What is taken is admitted. -/
theorem Kind.admits_of_takes {k : Kind} {v : Value} (h : k.takes v = true) : k.Admits v := by
  cases k with
  | text =>
    cases v with
    | string s =>
      cases s with
      | none => cases h
      | some s => exact .text s
    | null | bool | number | array | object => cases h
  | number limit =>
    cases v with
    | number l =>
      obtain ⟨n, hn⟩ := Option.isSome_iff_exists.mp h
      exact .number (inRange_of_natBelow? hn)
    | null | bool | string | array | object => cases h
  | bool =>
    cases v with
    | bool b => exact .bool b
    | null | number | string | array | object => cases h
  | textOrNull =>
    cases v with
    | null => exact .null
    | string s =>
      cases s with
      | none => cases h
      | some s => exact .someText s
    | bool | number | array | object => cases h

/-- A field that is there is read, and its default stands where it is not. -/
theorem optionalField_ite {α : Type} {read : Value → Option α} {v : Value} {x : α}
    (h : read v = some x) (c : Bool) (d : α) :
    optionalField d read (if c then some v else none) = some (if c then x else d) := by
  cases c with
  | false => rfl
  | true => exact h

theorem isSome_of_optionalField {α : Type} {read : Value → Option α} {given : Option Value}
    {d a : α} {x : Value} (h : optionalField d read given = some a) (hx : given = some x) :
    (read x).isSome = true := by
  subst hx
  have read : read x = some a := h
  rw [read]
  rfl

end ShellGateway.Json
