import Mathlib.Data.List.TakeDrop
import Mathlib.Data.List.TakeWhile
import ShellGateway.Proofs.Json.Grammar
import ShellGateway.Proofs.Text.Utf8

/-!
# Strings and numbers are found at the front of a text

Each reader takes its item from the front of a text, so each lemma has a rest behind the item.
A string ends by itself (`takeString_quoted`). A number ends where the rest says so: at white
space, at the comma or bracket behind an item, or at the end of the text (`Ends`,
`takeLiteral_numeral`).

A string denotes a text when its pieces are joined to that text, and no text when they are not
joined to any (`join?_of_denotes`, `denotes_of_join?`).
-/

namespace ShellGateway.Json

variable {s rest w : List Char}

/-! ## White space -/

theorem skipSpace_append (h : AllSpace w) (s : List Char) : skipSpace (w ++ s) = skipSpace s :=
  List.dropWhile_append_of_pos h

theorem skipSpace_allSpace (h : AllSpace w) : skipSpace w = [] :=
  List.dropWhile_eq_nil_iff.mpr h

theorem skipSpace_cons {c : Char} (h : isSpace c = false) (rest : List Char) :
    skipSpace (c :: rest) = c :: rest :=
  List.dropWhile_cons_of_neg (by simp [h])

@[simp]
theorem skipSpace_skipSpace (s : List Char) : skipSpace (skipSpace s) = skipSpace s := by
  have spaced : skipSpace (s.takeWhile isSpace ++ skipSpace s) = skipSpace (skipSpace s) :=
    skipSpace_append (fun c hc => List.mem_takeWhile_imp hc) _
  rw [← spaced]
  exact congrArg skipSpace List.takeWhile_append_dropWhile

/-! ## Strings -/

theorem join?_unit {n : Nat} (high : isHigh n = false) (low : isLow n = false) (ps : List Piece) :
    join? (.unit n :: ps) = (join? ps).map (Char.ofNat n :: ·) := by
  cases ps with
  | nil => simp [join?, high, low]
  | cons p ps =>
    cases p with
    | char c => simp [join?, high, low]
    | unit m => simp [join?, high, low]

theorem join?_pair {high low : Nat} (hh : isHigh high = true) (hl : isLow low = true)
    (ps : List Piece) :
    join? (.unit high :: .unit low :: ps) =
      (join? ps).map (Char.ofNat (0x10000 + (high - 0xD800) * 0x400 + (low - 0xDC00)) :: ·) := by
  simp [join?, hh, hl]

/-- The number of a character is no half of a pair. -/
theorem not_half (c : Char) : isHigh c.toNat = false ∧ isLow c.toNat = false := by
  have valid : c.toNat < 0xD800 ∨ 0xDFFF < c.toNat ∧ c.toNat < 0x110000 := c.valid
  simp only [isHigh, isLow, Bool.and_eq_false_iff, decide_eq_false_iff_not]
  omega

/-- What pieces denote is what they are joined to. -/
theorem join?_of_denotes {text : List Char} {ps : List Piece} (h : Denotes text ps) :
    join? ps = some text := by
  induction h with
  | nil => rfl
  | @cons c text ps qs first others ih =>
    cases first with
    | char =>
      show (join? qs).map (c :: ·) = _
      rw [ih]
      rfl
    | unit small =>
      obtain ⟨high, low⟩ := not_half c
      rw [List.singleton_append, join?_unit high low, ih, Char.ofNat_toNat]
      rfl
    | @pair high low isHigh isLow h =>
      have first : Json.isHigh high = true := by simpa [Json.isHigh] using isHigh
      have second : Json.isLow low = true := by simpa [Json.isLow] using isLow
      rw [List.cons_append, List.singleton_append, join?_pair first second, ih, ← h,
        Char.ofNat_toNat]
      rfl

/-- A unit that is no half of a pair is the number of a character. -/
theorem gives_unit {n : Nat} (small : n < 0x10000) (high : isHigh n = false)
    (low : isLow n = false) : Gives (Char.ofNat n) [.unit n] := by
  have valid : n < 0xD800 ∨ 0xDFFF < n ∧ n < 0x110000 := by
    simp only [isHigh, isLow, Bool.and_eq_false_iff, decide_eq_false_iff_not] at high low
    omega
  have number : (Char.ofNat n).toNat = n := Utf8.toNat_val_ofNat valid
  have given := Gives.unit (c := Char.ofNat n) (by omega)
  rwa [number] at given

theorem gives_pair {high low : Nat} (first : isHigh high = true) (second : isLow low = true) :
    Gives (Char.ofNat (0x10000 + (high - 0xD800) * 0x400 + (low - 0xDC00)))
      [.unit high, .unit low] := by
  simp only [isHigh, isLow, Bool.and_eq_true, decide_eq_true_iff] at first second
  exact .pair first second (Utf8.toNat_val_ofNat (by omega))

/-- What pieces are joined to they denote. -/
theorem denotes_of_join? {text : List Char} {ps : List Piece}
    (units : ∀ n, .unit n ∈ ps → n < 0x10000) (h : join? ps = some text) : Denotes text ps := by
  -- A pair of halves is one character, a half by itself is none, and any other unit is one.
  fun_induction join? ps generalizing text with
  | case1 =>
    cases h
    exact .nil
  | case2 c rest ih =>
    obtain ⟨t, ht, rfl⟩ := Option.map_eq_some_iff.mp h
    exact .cons (.char c) (ih (fun n hn => units n (List.mem_cons_of_mem _ hn)) ht)
  | case3 high low rest pair ih =>
    obtain ⟨t, ht, rfl⟩ := Option.map_eq_some_iff.mp h
    rw [Bool.and_eq_true] at pair
    refine .cons (gives_pair pair.1 pair.2) (ih (fun n hn => units n ?_) ht)
    exact List.mem_cons_of_mem _ (List.mem_cons_of_mem _ hn)
  | case4 => cases h
  | case5 n m rest noPair whole ih =>
    obtain ⟨t, ht, rfl⟩ := Option.map_eq_some_iff.mp h
    rw [Bool.or_eq_true, not_or, Bool.not_eq_true, Bool.not_eq_true] at whole
    have first := gives_unit (units n List.mem_cons_self) whole.1 whole.2
    exact .cons first (ih (fun n hn => units n (List.mem_cons_of_mem _ hn)) ht)
  | case6 => cases h
  | case7 n rest noUnit whole ih =>
    obtain ⟨t, ht, rfl⟩ := Option.map_eq_some_iff.mp h
    rw [Bool.or_eq_true, not_or, Bool.not_eq_true, Bool.not_eq_true] at whole
    have first := gives_unit (units n List.mem_cons_self) whole.1 whole.2
    exact .cons first (ih (fun n hn => units n (List.mem_cons_of_mem _ hn)) ht)

theorem takePieces_char {c : Char} (visible : 0x20 ≤ c.toNat) (noQuote : c ≠ '"')
    (noEscape : c ≠ '\\') (s : List Char) :
    takePieces (c :: s) = (takePieces s).bind fun (ps, rest) => some (.char c :: ps, rest) := by
  conv_lhs => unfold takePieces
  -- The branches before the last are for a quote or a backslash in front.
  split
  · rename_i h
    cases h
  · rename_i h
    cases h
    exact absurd rfl noQuote
  · rename_i h
    cases h
    exact absurd rfl noEscape
  · rename_i h
    cases h
    exact absurd rfl noEscape
  · rename_i h
    cases h
    rw [if_neg (by rintro (h | h) <;> [omega; exact noEscape h])]
    rfl

theorem takePieces_letter {l c : Char} (h : (l, c) ∈ letters) (s : List Char) :
    takePieces ('\\' :: l :: s) =
      (takePieces s).bind fun (ps, rest) => some (.char c :: ps, rest) := by
  simp only [letters, List.mem_cons, Prod.mk.injEq, List.not_mem_nil, or_false] at h
  rcases h with ⟨rfl, rfl⟩ | ⟨rfl, rfl⟩ | ⟨rfl, rfl⟩ | ⟨rfl, rfl⟩ | ⟨rfl, rfl⟩ | ⟨rfl, rfl⟩ |
    ⟨rfl, rfl⟩ | ⟨rfl, rfl⟩ <;> rfl

theorem takePieces_unit {a b c d : Char} {n : Nat} (h : Digit.read? 16 [a, b, c, d] = some n)
    (s : List Char) :
    takePieces ('\\' :: 'u' :: a :: b :: c :: d :: s) =
      (takePieces s).bind fun (ps, rest) => some (.unit n :: ps, rest) := by
  rw [takePieces, unit?, h]
  rfl

/-- The pieces of a string are taken up to the quote that closes it. -/
theorem takePieces_spelled {ps : List Piece} (h : SpelledAll ps s) (rest : List Char) :
    takePieces (s ++ '"' :: rest) = some (ps, rest) := by
  induction h with
  | nil => rw [List.nil_append, takePieces]
  | cons first others ih =>
    rw [List.append_assoc]
    cases first with
    | plain visible noQuote noEscape =>
      rw [List.singleton_append, takePieces_char visible noQuote noEscape, ih]
      rfl
    | letter h =>
      rw [List.cons_append, List.singleton_append, takePieces_letter h, ih]
      rfl
    | unit h =>
      simp only [List.cons_append, List.nil_append]
      rw [takePieces_unit h, ih]
      rfl

/-- The number of four hexadecimal digits fits in sixteen bits. -/
theorem SpelledAll.small {ps : List Piece} (h : SpelledAll ps s) :
    ∀ n, .unit n ∈ ps → n < 0x10000 := by
  induction h with
  | nil => exact fun n hn => absurd hn List.not_mem_nil
  | cons first others ih =>
    intro n hn
    cases hn with
    | tail _ hn => exact ih n hn
    | head =>
      cases first with
      | unit h => simpa using Digit.read?_lt h

/-- A string is taken behind its opening quote. -/
theorem takeString_quoted {t : Text?} (h : Quoted t ('"' :: s)) (rest : List Char) :
    takeString (s ++ rest) = some (t, rest) := by
  cases h with
  | text denotes spelled =>
    -- The pieces are taken first, then joined.
    rw [takeString, List.append_assoc, List.singleton_append, takePieces_spelled spelled,
      ← join?_of_denotes denotes]
    rfl
  | @noText ps s unpaired spelled =>
    rw [takeString, List.append_assoc, List.singleton_append, takePieces_spelled spelled]
    have joined : join? ps = none := by
      cases h : join? ps with
      | none => rfl
      | some text => exact absurd (denotes_of_join? spelled.small h) (unpaired text)
    rw [← joined]
    rfl

theorem Quoted.exists_cons {t : Text?} (h : Quoted t s) : ∃ q, s = '"' :: q := by
  cases h with
  | text => exact ⟨_, rfl⟩
  | noText => exact ⟨_, rfl⟩

/-! ## Numbers -/

/-- What may stand behind a number: white space, the comma or bracket behind an item, or
nothing. -/
def Ends (rest : List Char) : Prop :=
  ∀ c ∈ rest.head?, isSpace c = true ∨ c = ',' ∨ c = ']' ∨ c = '}'

/-- No digit is in front. -/
def NoDigit (rest : List Char) : Prop :=
  ∀ c ∈ rest.head?, ¬ Digit.IsDecimal c

/-- What ends a number does not go on with it. -/
theorem Ends.other {c : Char} (ends : Ends rest) (h : c ∈ rest.head?) :
    ¬ Digit.IsDecimal c ∧ c ≠ '.' ∧ c ≠ 'e' ∧ c ≠ 'E' := by
  have enders : [' ', '\n', '\t', '\r', ',', ']', '}'].all
      fun c => ¬ ('0' ≤ c ∧ c ≤ '9') ∧ c ≠ '.' ∧ c ≠ 'e' ∧ c ≠ 'E' := by
    decide
  have isEnder : c ∈ [' ', '\n', '\t', '\r', ',', ']', '}'] := by
    simpa [isSpace, or_assoc] using ends c h
  have other := of_decide_eq_true (List.all_eq_true.mp enders c isEnder)
  exact other

theorem Ends.noDigit (ends : Ends rest) : NoDigit rest :=
  fun _ h => (ends.other h).1

theorem span_digits (digits : ∀ c ∈ s, Digit.IsDecimal c) (stop : NoDigit rest) :
    Digit.span 10 (s ++ rest) = (s, rest) := by
  have isDigit : ∀ c, (Digit.value? 10 c).isSome = true ↔ Digit.IsDecimal c := by
    intro c
    rw [Option.isSome_iff_exists]
    exact ⟨fun ⟨d, h⟩ => (Digit.value?_ten_eq_some.mp h).1,
      fun h => ⟨_, Digit.value?_ten_eq_some.mpr ⟨h, rfl⟩⟩⟩
  refine Digit.span_append (fun c hc => (isDigit c).mpr (digits c hc)) fun c hc => ?_
  exact Option.not_isSome_iff_eq_none.mp (mt (isDigit c).mp (stop c hc))

/-- A digit is no sign. -/
theorem not_sign {c : Char} (h : Digit.IsDecimal c) : c ≠ '+' ∧ c ≠ '-' := by
  have := h.bounds
  exact ⟨by rintro rfl; exact absurd this (by decide), by rintro rfl; exact absurd this (by decide)⟩

theorem IsDigits.not_sign (digits : IsDigits s) (s' : List Char) :
    s ++ rest ≠ '+' :: s' ∧ s ++ rest ≠ '-' :: s' := by
  cases s with
  | nil => exact absurd rfl digits.1
  | cons c s =>
    have other := Json.not_sign (digits.2 c List.mem_cons_self)
    exact ⟨fun h => other.1 (List.cons.inj h).1, fun h => other.2 (List.cons.inj h).1⟩

theorem takeDigits_append (digits : IsDigits s) (stop : NoDigit rest) :
    takeDigits (s ++ rest) = some (s, rest) := by
  rw [takeDigits, span_digits digits.2 stop]
  cases s with
  | nil => exact absurd rfl digits.1
  | cons => rfl

theorem takeWhole_append (decimal : ∀ c ∈ s, Digit.IsDecimal c) (plain : Digit.IsPlain s)
    (stop : NoDigit rest) : takeWhole (s ++ rest) = some (s, rest) := by
  rw [takeWhole, span_digits decimal stop]
  -- A zero stands alone or is not in front.
  obtain rfl | ⟨nonempty, plain⟩ := plain
  · rfl
  · cases s with
    | nil => exact absurd rfl nonempty
    | cons c s =>
      split
      · rename_i h
        cases h
      · rename_i h
        cases h
        exact absurd rfl plain
      · rename_i h
        cases h
        rfl

theorem takeFraction_append {fraction : Option (List Char)} (h : Fraction fraction s)
    (stop : NoDigit rest) (noPoint : '.' ∉ rest.head?) :
    takeFraction (s ++ rest) = some (fraction, rest) := by
  cases h with
  | none =>
    rw [List.nil_append, takeFraction]
    rintro s rfl
    exact noPoint rfl
  | some digits =>
    rw [List.cons_append, takeFraction, takeDigits_append digits stop]
    rfl

theorem takeExponent_append {exponent : Option (List Char)} (h : Exponent exponent s)
    (ends : Ends rest) : takeExponent (s ++ rest) = some (exponent, rest) := by
  cases h with
  | none =>
    cases rest with
    | nil => rfl
    | cons c rest =>
      have other := ends.other (c := c) rfl
      rw [List.nil_append, takeExponent.eq_def]
      exact if_neg (not_or.mpr other.2.2)
  | @unsigned mark digits isMark h =>
    have taken := takeDigits_append h ends.noDigit
    rw [List.cons_append, takeExponent.eq_def]
    dsimp only
    rw [if_pos isMark]
    -- Digits follow the mark at once, so neither sign is there.
    split
    · rename_i s sign
      exact absurd sign (h.not_sign s).1
    · rename_i s sign
      exact absurd sign (h.not_sign s).2
    · rw [taken]
      rfl
  | plus isMark h =>
    have taken := takeDigits_append h ends.noDigit
    rw [List.cons_append, takeExponent.eq_def]
    dsimp only
    rw [if_pos isMark]
    exact congrArg (Option.map _) taken
  | minus isMark h =>
    have taken := takeDigits_append h ends.noDigit
    rw [List.cons_append, takeExponent.eq_def]
    dsimp only
    rw [if_pos isMark]
    exact congrArg (Option.map _) taken

/-- An exponent, or what stands behind it, neither goes on with the digits in front of it nor
begins their fraction. -/
theorem Exponent.stops {exponent : Option (List Char)} (h : Exponent exponent s)
    (ends : Ends rest) : NoDigit (s ++ rest) ∧ '.' ∉ (s ++ rest).head? := by
  have marks : ['e', 'E'].all fun c => ¬ ('0' ≤ c ∧ c ≤ '9') ∧ c ≠ '.' := by decide
  have stops : ∀ mark s', mark = 'e' ∨ mark = 'E' →
      NoDigit (mark :: s') ∧ '.' ∉ (mark :: s').head? := by
    intro mark s' isMark
    have other := of_decide_eq_true (List.all_eq_true.mp marks mark (by simpa using isMark))
    exact ⟨fun c hc => Option.some.inj hc ▸ other.1, fun hc => other.2 (Option.some.inj hc)⟩
  cases h with
  | none => exact ⟨ends.noDigit, fun hc => (ends.other hc).2.1 rfl⟩
  | unsigned isMark => exact stops _ _ isMark
  | plus isMark => exact stops _ _ isMark
  | minus isMark => exact stops _ _ isMark

/-- A fraction does not go on with the digits in front of it. -/
theorem Fraction.stops {fraction : Option (List Char)} (h : Fraction fraction s)
    (stop : NoDigit rest) : NoDigit (s ++ rest) := by
  cases h with
  | none => exact stop
  | some =>
    rintro c ⟨⟩
    unfold Digit.IsDecimal
    decide

/-- A number begins with its sign or a digit. -/
theorem Numeral.exists_cons {l : Literal} (h : Numeral l s) :
    ∃ c q, s = c :: q ∧ (c = '-' ∨ Digit.IsDecimal c) := by
  obtain ⟨decimal, plain, -, -⟩ := h
  rename_i negative whole f e fraction exponent
  cases negative with
  | true => exact ⟨_, _, rfl, .inl rfl⟩
  | false =>
    cases whole with
    | nil => exact absurd rfl plain.ne_nil
    | cons c whole => exact ⟨_, _, rfl, .inr (decimal c List.mem_cons_self)⟩

/-- Nothing else begins like a number. -/
theorem beginsNumber_other {c : Char} (h : c = '-' ∨ Digit.IsDecimal c) :
    c ∉ [' ', '\n', '\t', '\r', 'n', 't', 'f', '"', '[', ']', '{'] := by
  have others : [' ', '\n', '\t', '\r', 'n', 't', 'f', '"', '[', ']', '{'].all
      fun d => d ≠ '-' ∧ ¬ ('0' ≤ d ∧ d ≤ '9') := by
    decide
  intro hc
  have other := of_decide_eq_true (List.all_eq_true.mp others c hc)
  exact h.elim other.1 other.2

theorem takeLiteral_numeral {l : Literal} (h : Numeral l s) (ends : Ends rest) :
    takeLiteral (s ++ rest) = some (l, rest) := by
  obtain ⟨decimal, plain, hf, he⟩ := h
  rename_i negative whole f e fraction exponent
  -- Each part is taken up to what stands behind it, so the last part comes first here.
  have behind := he.stops ends
  have takenWhole := takeWhole_append decimal plain (hf.stops behind.1)
  have takenFraction := takeFraction_append hf behind.1 behind.2
  have takenExponent := takeExponent_append he ends
  cases negative with
  | true => simp [takeLiteral, signOf, takenWhole, takenFraction, takenExponent]
  | false =>
    have digits : IsDigits whole := ⟨plain.ne_nil, decimal⟩
    rw [takeLiteral.eq_def]
    simp only [signOf, Bool.false_eq_true, if_false, List.nil_append, List.append_assoc]
    split
    · rename_i s sign
      exact absurd sign (digits.not_sign s).2
    · simp [takenWhole, takenFraction, takenExponent]

end ShellGateway.Json
