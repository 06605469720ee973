import ShellGateway.Json.Printer
import ShellGateway.Proofs.Json.Grammar

/-!
# What is printed of a value is a text of the value

`writes_written`, for the values that have a text at all (`Printable`): their numbers are such as
the grammar knows, and their strings and names denote texts. What is printed holds no white space,
and of the ways to spell a character it takes the shortest that is allowed.
-/

namespace ShellGateway.Json

/-- A number that can be written. -/
structure Literal.IsProper (l : Literal) : Prop where
  whole : (∀ c ∈ l.whole, Digit.IsDecimal c) ∧ Digit.IsPlain l.whole
  fraction : ∀ digits ∈ l.fraction, IsDigits digits
  exponent : ∀ e ∈ l.exponent, IsDigits e ∨ ∃ digits, e = '-' :: digits ∧ IsDigits digits

/-- A value that can be written as it is. -/
inductive Printable : Value → Prop where
  | null : Printable .null
  | bool (b : Bool) : Printable (.bool b)
  | number {l : Literal} (h : l.IsProper) : Printable (.number l)
  | string (s : List Char) : Printable (.string (some s))
  | array {items : List Value} (h : ∀ v ∈ items, Printable v) : Printable (.array items)
  | object {members : List (Text? × Value)} (named : ∀ m ∈ members, m.1.isSome)
    (h : ∀ m ∈ members, Printable m.2) : Printable (.object members)

theorem allSpace_nil : AllSpace [] :=
  fun _ h => nomatch h

/-! ## Strings -/

/-- A character is printed as one of its spellings. -/
theorem spelled_writtenChar (c : Char) : ∃ p, Gives c [p] ∧ Spelled p (writtenChar c) := by
  have control : ∀ n : Fin 0x20, Digit.read? 16
      ['0', '0', Digit.char (n.val / 16), Digit.char (n.val % 16)] = some n.val := by
    decide
  unfold writtenChar
  -- Characters with letters of their own come first; of the rest those below a space are hidden.
  split
  case h_8 noQuote noEscape _ _ _ _ _ =>
    split
    · rename_i hidden
      exact ⟨.unit c.toNat, .unit (by omega), .unit (control ⟨c.toNat, hidden⟩)⟩
    · rename_i visible
      exact ⟨.char c, .char c, .plain (by omega) noQuote noEscape⟩
  all_goals exact ⟨.char _, .char _, .letter (by decide)⟩

/-- A text is printed as a string that denotes it. -/
theorem quoted_writtenText (text : List Char) : Quoted (some text) (writtenText text) := by
  suffices h : ∃ ps, Denotes text ps ∧ SpelledAll ps (text.flatMap writtenChar) by
    obtain ⟨ps, denotes, spelled⟩ := h
    exact .text denotes spelled
  induction text with
  | nil => exact ⟨[], .nil, .nil⟩
  | cons c text ih =>
    obtain ⟨p, gives, first⟩ := spelled_writtenChar c
    obtain ⟨ps, denotes, others⟩ := ih
    exact ⟨p :: ps, .cons gives denotes, .cons first others⟩

/-! ## Numbers -/

theorem fraction_written (fraction : Option (List Char)) :
    (∀ digits ∈ fraction, IsDigits digits) →
      Fraction fraction (match fraction with
        | some digits => '.' :: digits
        | none => []) := by
  intro proper
  cases fraction with
  | none => exact .none
  | some digits => exact .some (proper digits rfl)

theorem exponent_written (exponent : Option (List Char)) :
    (∀ e ∈ exponent, IsDigits e ∨ ∃ digits, e = '-' :: digits ∧ IsDigits digits) →
      Exponent exponent (match exponent with
        | some digits => 'e' :: digits
        | none => []) := by
  intro proper
  cases exponent with
  | none => exact .none
  | some e =>
    -- A minus sign is kept as part of the exponent.
    obtain digits | ⟨digits, rfl, h⟩ := proper e rfl
    · exact .unsigned (.inl rfl) digits
    · exact .minus (.inl rfl) h

theorem numeral_written {l : Literal} (h : l.IsProper) : Numeral l l.written := by
  rw [Literal.written, List.append_assoc, List.append_assoc]
  exact Numeral.mk h.whole.1 h.whole.2 (fraction_written _ h.fraction)
    (exponent_written _ h.exponent)

theorem isProper_ofNat (n : Nat) : (Literal.ofNat n).IsProper where
  whole := ⟨fun _ => Digit.isDecimal_of_mem_write, Digit.isPlain_write n⟩
  fraction := fun _ h => nomatch h
  exponent := fun _ h => nomatch h

/-! ## Values -/

theorem writtenItems_eq {items : List Value} (nonempty : items ≠ []) :
    writtenItems items = [','].intercalate (items.map Value.written) ++ [']'] := by
  induction items with
  | nil => exact absurd rfl nonempty
  | cons v items ih =>
    cases items with
    | nil => simp [writtenItems]
    | cons w items =>
      rw [writtenItems.eq_3 v (w :: items) (List.cons_ne_nil _ _), ih (List.cons_ne_nil _ _)]
      simp [List.intercalate_cons_cons]

/-- An item as it is printed. -/
def Item.printed (v : Value) : Item :=
  ⟨v, [], v.written, []⟩

theorem Item.isSpaced_printed (v : Value) : (Item.printed v).IsSpaced :=
  ⟨allSpace_nil, allSpace_nil⟩

/-- A member as it is printed. -/
def Member.printed (m : Text? × Value) : Member :=
  ⟨m.1, [], writtenText (m.1.getD []), [], .printed m.2⟩

theorem Member.isSpaced_printed {m : Text? × Value} (named : m.1.isSome) :
    (Member.printed m).IsSpaced := by
  obtain ⟨name, v⟩ := m
  cases name with
  | none => cases named
  | some name => exact ⟨allSpace_nil, quoted_writtenText name, allSpace_nil,
      Item.isSpaced_printed v⟩

theorem writtenMembers_eq {members : List (Text? × Value)} (nonempty : members ≠ []) :
    writtenMembers members =
      [','].intercalate (members.map fun m => (Member.printed m).whole) ++ ['}'] := by
  induction members with
  | nil => exact absurd rfl nonempty
  | cons m members ih =>
    cases members with
    | nil => simp [writtenMembers, Member.printed, Member.whole, Item.printed, Item.whole]
    | cons n members =>
      rw [writtenMembers.eq_3 _ _ (n :: members) (List.cons_ne_nil _ _), ih (List.cons_ne_nil _ _)]
      simp [List.intercalate_cons_cons, Member.printed, Member.whole, Item.printed, Item.whole]

/-- **What is printed of a value is a text of the value.** -/
theorem writes_written {v : Value} (h : Printable v) : Writes v v.written := by
  induction h with
  | null => rw [Value.written]; exact .null
  | bool b =>
    cases b with
    | false => exact .isFalse
    | true => exact .isTrue
  | number h => exact .number (numeral_written h)
  | string s => exact .string (quoted_writtenText s)
  | @array items h ih =>
    by_cases nonempty : items = []
    · subst nonempty
      exact .emptyArray allSpace_nil
    · rw [Value.written, writtenItems_eq nonempty]
      have writes := @Writes.array (items.map Item.printed) (by simpa using nonempty)
        (List.forall_mem_map.mpr fun v _ => Item.isSpaced_printed v) (List.forall_mem_map.mpr ih)
      simpa [Function.comp_def, Item.printed, Item.whole] using writes
  | @object members named h ih =>
    by_cases nonempty : members = []
    · subst nonempty
      exact .emptyObject allSpace_nil
    · rw [Value.written, writtenMembers_eq nonempty]
      have writes := @Writes.object (members.map Member.printed) (by simpa using nonempty)
        (List.forall_mem_map.mpr fun m hm => Member.isSpaced_printed (named m hm))
        (List.forall_mem_map.mpr ih)
      simpa only [List.map_map, Function.comp_def, Member.printed, Item.printed, List.map_id']
        using writes

/-- A printed value is a document of it. -/
theorem document_toText {v : Value} (h : Printable v) : Document v v.toText :=
  ⟨[], v.written, [], allSpace_nil, allSpace_nil, writes_written h, by simp [Value.toText]⟩

end ShellGateway.Json
