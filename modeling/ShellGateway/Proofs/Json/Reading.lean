import ShellGateway.Proofs.Json.Tokens

/-!
# Every text of a value is read as that value

`parse?_of_document`: whichever of its texts a value is written in, the reader finds the value.

What carries the induction over the grammar is `Reads`: given fuel for the length of a text, and
before anything that may stand behind a value, the reader takes the value and leaves what stands
behind it. Each level of nesting costs a character, and each item of an array a comma, so the
length of a text is fuel enough for all of its parts.
-/

namespace ShellGateway.Json

variable {s rest w : List Char}

/-- White space in front of a value makes no difference. -/
theorem takeValue_skipSpace (fuel : Nat) (s : List Char) :
    takeValue fuel (skipSpace s) = takeValue fuel s := by
  cases fuel with
  | zero => rw [takeValue, takeValue]
  | succ fuel => rw [takeValue, takeValue, skipSpace_skipSpace]

theorem takeValue_append (fuel : Nat) (h : AllSpace w) (s : List Char) :
    takeValue fuel (w ++ s) = takeValue fuel s := by
  rw [← takeValue_skipSpace, skipSpace_append h, takeValue_skipSpace]

theorem takeItems_skipSpace (fuel : Nat) (s : List Char) :
    takeItems fuel (skipSpace s) = takeItems fuel s := by
  cases fuel with
  | zero => rw [takeItems, takeItems]
  | succ fuel => rw [takeItems, takeItems, takeValue_skipSpace]

theorem takeMembers_skipSpace (fuel : Nat) (s : List Char) :
    takeMembers fuel (skipSpace s) = takeMembers fuel s := by
  cases fuel with
  | zero => rw [takeMembers, takeMembers]
  | succ fuel => rw [takeMembers, takeMembers, skipSpace_skipSpace]

/-- The text of a value does not begin like white space or like the end of an array. -/
theorem Writes.exists_cons {v : Value} (h : Writes v s) :
    ∃ c q, s = c :: q ∧ isSpace c = false ∧ c ≠ ']' := by
  cases h with
  | null | isTrue | isFalse => exact ⟨_, _, rfl, by decide, by decide⟩
  | emptyArray | array | emptyObject | object => exact ⟨_, _, rfl, by decide, by decide⟩
  | string h =>
    obtain ⟨q, rfl⟩ := h.exists_cons
    exact ⟨_, _, rfl, by decide, by decide⟩
  | number h =>
    obtain ⟨c, q, rfl, first⟩ := h.exists_cons
    have other := beginsNumber_other first
    simp only [List.mem_cons, List.not_mem_nil, or_false, not_or] at other
    exact ⟨c, q, rfl, by simp [isSpace, other], by simp [other]⟩

theorem Ends.of_space (h : AllSpace w) (ends : Ends rest) : Ends (w ++ rest) := by
  cases w with
  | nil => exact ends
  | cons c w => exact fun d hd => Option.some.inj hd ▸ .inl (h c List.mem_cons_self)

/-- That the text of a value is read as the value, given fuel for its length. -/
def Reads (v : Value) (s : List Char) : Prop :=
  ∀ fuel rest, s.length ≤ fuel → Ends rest → takeValue fuel (s ++ rest) = some (v, rest)

theorem ends_nil : Ends [] :=
  fun _ hc => nomatch hc

/-- The comma or bracket behind an item ends it. -/
theorem ends_cons {c : Char} (h : c = ',' ∨ c = ']' ∨ c = '}') (rest : List Char) :
    Ends (c :: rest) :=
  fun _ hd => Option.some.inj hd ▸ .inr h

/-- An item is taken with the white space around it. -/
theorem Item.take {i : Item} (spaced : i.IsSpaced) (reads : Reads i.value i.text) (fuel : Nat)
    (enough : i.whole.length ≤ fuel) {c : Char} (h : c = ',' ∨ c = ']' ∨ c = '}')
    (rest : List Char) :
    takeValue fuel (i.whole ++ c :: rest) = some (i.value, i.after ++ c :: rest) ∧
      skipSpace (i.after ++ c :: rest) = c :: rest := by
  have shorter : i.text.length ≤ fuel := by
    simp only [Item.whole, List.length_append] at enough
    omega
  have visible : isSpace c = false := by
    obtain rfl | rfl | rfl := h <;> decide
  constructor
  · rw [Item.whole, List.append_assoc, List.append_assoc, takeValue_append fuel spaced.before]
    exact reads fuel _ shorter ((ends_cons h rest).of_space spaced.after)
  · rw [skipSpace_append spaced.after, skipSpace_cons visible]

/-- The items of an array are taken one by one. -/
theorem takeItems_intercalate {items : List Item} (nonempty : items ≠ [])
    (spaced : ∀ i ∈ items, i.IsSpaced) (reads : ∀ i ∈ items, Reads i.value i.text) (fuel : Nat)
    (enough : ([','].intercalate (items.map Item.whole)).length < fuel) (rest : List Char) :
    takeItems fuel ([','].intercalate (items.map Item.whole) ++ ']' :: rest) =
      some (items.map (·.value), rest) := by
  induction items generalizing fuel with
  | nil => exact absurd rfl nonempty
  | cons i items ih =>
    obtain _ | fuel := fuel
    · omega
    rw [List.forall_mem_cons] at spaced reads
    -- The last item has the bracket behind it, any other a comma, which pays for the next call.
    cases items with
    | nil =>
      simp only [List.map_cons, List.map_nil, List.intercalate_singleton] at enough ⊢
      obtain ⟨taken, skipped⟩ :=
        Item.take spaced.1 reads.1 fuel (Nat.le_of_lt_succ enough) (.inr (.inl rfl)) rest
      simp [takeItems, taken, skipped]
    | cons j items =>
      simp only [List.map_cons, List.intercalate_cons_cons, List.length_append, List.length_cons,
        List.append_assoc, List.cons_append, List.nil_append] at enough ih ⊢
      obtain ⟨taken, skipped⟩ := Item.take spaced.1 reads.1 fuel (by omega) (.inl rfl)
        ([','].intercalate (j.whole :: items.map Item.whole) ++ ']' :: rest)
      have others := ih (List.cons_ne_nil _ _) spaced.2 reads.2 fuel (by omega)
      simp [takeItems, taken, skipped, others]

/-- The name of a member is taken with the white space around it and the colon. -/
theorem Member.take {m : Member} (spaced : m.IsSpaced) (rest : List Char) :
    ∃ quoted, skipSpace (m.whole ++ rest) = '"' :: quoted ∧
      takeString quoted = some (m.name, m.afterName ++ ':' :: (m.item.whole ++ rest)) ∧
      skipSpace (m.afterName ++ ':' :: (m.item.whole ++ rest)) =
        ':' :: (m.item.whole ++ rest) := by
  obtain ⟨q, hq⟩ := spaced.name.exists_cons
  refine ⟨q ++ (m.afterName ++ ':' :: (m.item.whole ++ rest)), ?_, ?_, ?_⟩
  · simp only [Member.whole, hq, List.append_assoc, List.cons_append]
    rw [skipSpace_append spaced.beforeName, skipSpace_cons (by decide)]
  · exact takeString_quoted (hq ▸ spaced.name) _
  · rw [skipSpace_append spaced.afterName, skipSpace_cons (by decide)]

/-- The members of an object are taken one by one. -/
theorem takeMembers_intercalate {members : List Member} (nonempty : members ≠ [])
    (spaced : ∀ m ∈ members, m.IsSpaced)
    (reads : ∀ m ∈ members, Reads m.item.value m.item.text) (fuel : Nat)
    (enough : ([','].intercalate (members.map Member.whole)).length < fuel) (rest : List Char) :
    takeMembers fuel ([','].intercalate (members.map Member.whole) ++ '}' :: rest) =
      some (members.map fun m => (m.name, m.item.value), rest) := by
  induction members generalizing fuel with
  | nil => exact absurd rfl nonempty
  | cons m members ih =>
    obtain _ | fuel := fuel
    · omega
    rw [List.forall_mem_cons] at spaced reads
    have shorter : m.item.whole.length ≤ m.whole.length := by
      simp only [Member.whole, List.length_append, List.length_cons]
      omega
    cases members with
    | nil =>
      simp only [List.map_cons, List.map_nil, List.intercalate_singleton] at enough ⊢
      obtain ⟨quoted, begun, named, colon⟩ := Member.take spaced.1 ('}' :: rest)
      obtain ⟨taken, skipped⟩ :=
        Item.take spaced.1.item reads.1 fuel (by omega) (.inr (.inr rfl)) rest
      simp [takeMembers, begun, named, colon, taken, skipped]
    | cons n members =>
      simp only [List.map_cons, List.intercalate_cons_cons, List.length_append, List.length_cons,
        List.append_assoc, List.cons_append, List.nil_append] at enough ih ⊢
      obtain ⟨quoted, begun, named, colon⟩ := Member.take spaced.1
        (',' :: ([','].intercalate (n.whole :: members.map Member.whole) ++ '}' :: rest))
      obtain ⟨taken, skipped⟩ :=
        Item.take spaced.1.item reads.1 fuel (by omega) (.inl rfl)
          ([','].intercalate (n.whole :: members.map Member.whole) ++ '}' :: rest)
      have others := ih (List.cons_ne_nil _ _) spaced.2 reads.2 fuel (by omega)
      simp [takeMembers, begun, named, colon, taken, skipped, others]

/-- An array with items does not end where it begins. -/
theorem skipSpace_items {items : List Item} (nonempty : items ≠ [])
    (spaced : ∀ i ∈ items, i.IsSpaced) (written : ∀ i ∈ items, Writes i.value i.text)
    (s r : List Char) : skipSpace ([','].intercalate (items.map Item.whole) ++ s) ≠ ']' :: r := by
  cases items with
  | nil => exact absurd rfl nonempty
  | cons i items =>
    obtain ⟨c, q, hc, visible, other⟩ := (written i List.mem_cons_self).exists_cons
    have first : ∃ s', [','].intercalate ((i :: items).map Item.whole) ++ s =
        i.before ++ c :: s' := by
      cases items <;> simp [Item.whole, hc, List.intercalate_cons_cons]
    obtain ⟨s', first⟩ := first
    rw [first, skipSpace_append (spaced i List.mem_cons_self).before, skipSpace_cons visible]
    exact fun h => other (List.cons.inj h).1

/-- An object with members does not end where it begins. -/
theorem skipSpace_members {members : List Member} (nonempty : members ≠ [])
    (spaced : ∀ m ∈ members, m.IsSpaced) (s r : List Char) :
    skipSpace ([','].intercalate (members.map Member.whole) ++ s) ≠ '}' :: r := by
  cases members with
  | nil => exact absurd rfl nonempty
  | cons m members =>
    have first : ∃ s', [','].intercalate ((m :: members).map Member.whole) ++ s =
        m.whole ++ s' := by
      cases members <;> simp [List.intercalate_cons_cons]
    obtain ⟨s', first⟩ := first
    obtain ⟨quoted, begun, -⟩ := Member.take (spaced m List.mem_cons_self) s'
    rw [first, begun]
    exact fun h => absurd (List.cons.inj h).1 (by decide)

theorem takeValue_string (fuel : Nat) (s : List Char) :
    takeValue (fuel + 1) ('"' :: s) =
      (takeString s).map fun (text, rest) => (.string text, rest) := by
  rw [takeValue, skipSpace_cons (by decide)]
  rfl

theorem takeValue_emptyArray (fuel : Nat) (h : skipSpace s = ']' :: rest) :
    takeValue (fuel + 1) ('[' :: s) = some (.array [], rest) := by
  rw [takeValue, skipSpace_cons (by decide)]
  simp only [h]

theorem takeValue_array (fuel : Nat) (h : ∀ rest, skipSpace s ≠ ']' :: rest) :
    takeValue (fuel + 1) ('[' :: s) =
      (takeItems fuel s).map fun (items, rest) => (.array items, rest) := by
  rw [takeValue, skipSpace_cons (by decide)]
  -- By `h` it is not closed at once.
  simp only [takeItems_skipSpace]

theorem takeValue_emptyObject (fuel : Nat) (h : skipSpace s = '}' :: rest) :
    takeValue (fuel + 1) ('{' :: s) = some (.object [], rest) := by
  rw [takeValue, skipSpace_cons (by decide)]
  simp only [h]

theorem takeValue_object (fuel : Nat) (h : ∀ rest, skipSpace s ≠ '}' :: rest) :
    takeValue (fuel + 1) ('{' :: s) =
      (takeMembers fuel s).map fun (members, rest) => (.object members, rest) := by
  rw [takeValue, skipSpace_cons (by decide)]
  -- By `h` it is not closed at once.
  simp only [takeMembers_skipSpace]

theorem takeValue_number (fuel : Nat) {c : Char} (h : c = '-' ∨ Digit.IsDecimal c)
    (s : List Char) :
    takeValue (fuel + 1) (c :: s) =
      (takeLiteral (c :: s)).map fun (l, rest) => (.number l, rest) := by
  have other := beginsNumber_other h
  simp only [List.mem_cons, List.not_mem_nil, or_false, not_or] at other
  rw [takeValue, skipSpace_cons (by simp [isSpace, other])]
  -- All branches but the last are for characters that no number begins with.
  split
  case h_1 h => cases h
  case h_8 => rfl
  all_goals
    rename_i h
    simp [(List.cons.inj h).1] at other

/-- **A text of a value is read as the value**, with fuel for its length and before anything that
may stand behind a value. -/
theorem takeValue_writes {v : Value} (h : Writes v s) : Reads v s := by
  -- Every text has a first character, which pays for the call of `takeValue` itself.
  induction h with
  | null | isTrue | isFalse =>
    intro fuel rest enough ends
    obtain _ | fuel := fuel
    · cases enough
    · rfl
  | number h =>
    intro fuel rest enough ends
    obtain ⟨c, q, rfl, first⟩ := h.exists_cons
    obtain _ | fuel := fuel
    · cases enough
    · have taken := takeLiteral_numeral h ends
      rw [List.cons_append] at taken ⊢
      rw [takeValue_number fuel first, taken]
      rfl
  | string h =>
    intro fuel rest enough ends
    obtain ⟨q, rfl⟩ := h.exists_cons
    obtain _ | fuel := fuel
    · cases enough
    · rw [List.cons_append, takeValue_string, takeString_quoted h]
      rfl
  | emptyArray h =>
    intro fuel rest enough ends
    obtain _ | fuel := fuel
    · cases enough
    · rw [List.cons_append, List.append_assoc]
      refine takeValue_emptyArray fuel ?_
      rw [skipSpace_append h, List.singleton_append, skipSpace_cons (by decide)]
  | @array items nonempty spaced written ih =>
    intro fuel rest enough ends
    obtain _ | fuel := fuel
    · cases enough
    · rw [List.length_cons, List.length_append] at enough
      have taken := takeItems_intercalate nonempty spaced ih fuel
        (Nat.le_of_succ_le_succ enough) rest
      have begun := skipSpace_items nonempty spaced written (']' :: rest)
      rw [List.cons_append, List.append_assoc, List.singleton_append, takeValue_array fuel begun,
        taken]
      rfl
  | emptyObject h =>
    intro fuel rest enough ends
    obtain _ | fuel := fuel
    · cases enough
    · rw [List.cons_append, List.append_assoc]
      refine takeValue_emptyObject fuel ?_
      rw [skipSpace_append h, List.singleton_append, skipSpace_cons (by decide)]
  | @object members nonempty spaced written ih =>
    intro fuel rest enough ends
    obtain _ | fuel := fuel
    · cases enough
    · rw [List.length_cons, List.length_append] at enough
      have taken := takeMembers_intercalate nonempty spaced ih fuel
        (Nat.le_of_succ_le_succ enough) rest
      have begun := skipSpace_members nonempty spaced ('}' :: rest)
      rw [List.cons_append, List.append_assoc, List.singleton_append, takeValue_object fuel begun,
        taken]
      rfl

/-- **A document is read as its value.** -/
theorem parse?_of_document {v : Value} {text : String} (h : Document v text) :
    parse? text = some v := by
  obtain ⟨before, s, after, spaceBefore, spaceAfter, writes, whole⟩ := h
  have enough : s.length ≤ 2 * text.toList.length + 1 := by
    rw [whole, List.length_append, List.length_append]
    omega
  have ends : Ends after := by
    have := Ends.of_space spaceAfter ends_nil
    rwa [List.append_nil] at this
  have taken : takeValue (2 * text.toList.length + 1) text.toList = some (v, after) := by
    conv_lhs => rw [whole, takeValue_append _ spaceBefore, ← whole]
    exact takeValue_writes writes _ after enough ends
  simp [parse?, taken, skipSpace_allSpace spaceAfter]

end ShellGateway.Json
