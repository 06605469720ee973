import ShellGateway.Proofs.Auth.KeyDocument

/-!
# Options with quoted values

The options of a key may have values, `from="10.0.0.1,10.0.0.2"` or `command="ls -l"`, and what
stands between the quotes is one value, whatever it is: it may hold white space and commas, and
also quotes, each of them after a backslash (`KeyOption.text`).

A line is read without regard to quotes. The options end at the first white space, and every
comma separates two of them, so a key comes back with the options that it was written with
exactly if there is no white space and no comma in their values. A comma in a value tears the
option apart. White space in a value ends the options there, and the next word, which is part of
the value, is taken for the type of the key; so the line is dropped, or a key is read that
stands inside the quotes (`quoted_options`, `quotes_ignored`).
-/

namespace ShellGateway.Auth

open Text

/-- An option of a key: a name, and perhaps a value. -/
structure KeyOption where
  name : List Char
  value : Option (List Char)

namespace KeyOption

/-- A value as it stands between its quotes. -/
def escaped (value : List Char) : List Char :=
  value.flatMap fun c => if c = '"' then ['\\', '"'] else [c]

/-- An option as it is written. -/
def text (o : KeyOption) : List Char :=
  match o.value with
  | none => o.name
  | some value => o.name ++ '=' :: '"' :: escaped value ++ ['"']

/-- An option that may be written on a line. -/
structure IsValid (o : KeyOption) : Prop where
  word : IsWord o.name
  plain : ',' ∉ o.name ∧ '"' ∉ o.name
  not_hash : o.name.head? ≠ some '#'
  not_type : o.name ∉ AuthorizedKey.keyTypes
  /-- A backslash at the end of a value would take the closing quote for part of it. -/
  value : ∀ v ∈ o.value, '\n' ∉ v ∧ v.getLast? ≠ some '\\'

/-- A character of an option is one of its name or its value, or belongs to the quotes. -/
theorem mem_text {o : KeyOption} {c : Char} (hc : c ∈ o.text) :
    c ∈ o.name ∨ (∃ v ∈ o.value, c ∈ v) ∨ c = '=' ∨ c = '"' ∨ c = '\\' := by
  unfold text at hc
  cases hv : o.value with
  | none =>
    rw [hv] at hc
    exact .inl hc
  | some v =>
    rw [hv] at hc
    simp only [List.mem_append, List.mem_cons, List.not_mem_nil, or_false] at hc
    rcases hc with (hc | rfl | rfl | hc) | rfl
    · exact .inl hc
    · simp
    · simp
    · obtain ⟨d, hd, hc⟩ := List.mem_flatMap.mp hc
      split at hc
      · rcases List.mem_pair.mp hc with rfl | rfl <;> simp
      · rw [List.mem_singleton] at hc
        exact .inr (.inl ⟨v, rfl, hc ▸ hd⟩)
    · simp

/-- Every character of a value is written. -/
theorem mem_text_of_mem_value {o : KeyOption} {v : List Char} {c : Char} (hv : v ∈ o.value)
    (hc : c ∈ v) : c ∈ o.text := by
  have written : c ∈ escaped v := by
    refine List.mem_flatMap.mpr ⟨c, hc, ?_⟩
    split
    case isTrue quote => simp [quote]
    case isFalse => exact List.mem_singleton.mpr rfl
  rw [text, Option.mem_def.mp hv]
  simp [written]

end KeyOption

/-- The options of a key as they are written: with commas between them. -/
def fieldOf (os : List KeyOption) : List Char :=
  [','].intercalate (os.map KeyOption.text)

/-- A key that is written with options, of which there are some. -/
structure AuthorizedKey.IsRestricted (k : AuthorizedKey) (os : List KeyOption) : Prop where
  restricted : os ≠ []
  valid : ∀ o ∈ os, o.IsValid
  options : k.options = os.map KeyOption.text
  keyType : k.keyType ∈ keyTypes
  bytes : k.bytes ≠ []
  comment : ∀ c ∈ k.comment, c ≠ [] ∧ IsTrimmed c ∧ '\n' ∉ c

theorem solid_of_all {s : List Char} (h : s.all (! isBlank ·) = true) :
    ∀ c ∈ s, isBlank c = false := by
  simpa using h

/-! ## Fields of options -/

section Field

variable {os : List KeyOption} {c : Char}

theorem fieldOf_cons_cons (o o' : KeyOption) (os : List KeyOption) :
    fieldOf (o :: o' :: os) = o.text ++ ',' :: fieldOf (o' :: os) := by
  simp [fieldOf, List.intercalate]

theorem fieldOf_singleton (o : KeyOption) : fieldOf [o] = o.text := by
  simp [fieldOf, List.intercalate]

/-- A character of the field is one of an option, or a comma between two. -/
theorem mem_fieldOf (hc : c ∈ fieldOf os) : c = ',' ∨ ∃ o ∈ os, c ∈ o.text := by
  induction os with
  | nil => cases hc
  | cons o os ih =>
    cases os with
    | nil =>
      rw [fieldOf_singleton] at hc
      exact .inr ⟨o, List.mem_cons_self, hc⟩
    | cons o' os =>
      rw [fieldOf_cons_cons, List.mem_append, List.mem_cons] at hc
      rcases hc with hc | hc | hc
      · exact .inr ⟨o, List.mem_cons_self, hc⟩
      · exact .inl hc
      · refine (ih hc).imp_right ?_
        rintro ⟨o'', ho, hc⟩
        exact ⟨o'', List.mem_cons_of_mem _ ho, hc⟩

theorem mem_fieldOf_of_mem_text {o : KeyOption} (ho : o ∈ os) (hc : c ∈ o.text) :
    c ∈ fieldOf os := by
  induction os with
  | nil => cases ho
  | cons o' os ih =>
    cases os with
    | nil =>
      rw [fieldOf_singleton, ← List.mem_singleton.mp ho]
      exact hc
    | cons o'' os =>
      rw [fieldOf_cons_cons, List.mem_append, List.mem_cons]
      rcases List.mem_cons.mp ho with rfl | ho
      · exact .inl hc
      · exact .inr (.inr (ih ho))

variable (valid : ∀ o ∈ os, o.IsValid)

include valid

/-- White space in the field is white space in a value. -/
theorem exists_blank_of_mem_fieldOf (hc : c ∈ fieldOf os) (blank : isBlank c = true) :
    ∃ o ∈ os, ∃ v ∈ o.value, c ∈ v := by
  have solid : ∀ d ∈ [',', '=', '"', '\\'], isBlank d = false :=
    solid_of_all (by decide)
  have other : c ∉ [',', '=', '"', '\\'] := fun hc => by cases blank.symm.trans (solid c hc)
  simp only [List.mem_cons, List.not_mem_nil, or_false, not_or] at other
  rcases mem_fieldOf hc with rfl | ⟨o, ho, hc⟩
  · exact absurd rfl other.1
  · rcases KeyOption.mem_text hc with hc | hv | rest
    · cases blank.symm.trans ((valid o ho).word.solid c hc)
    · exact ⟨o, ho, hv⟩
    · rcases rest with rest | rest | rest
      · exact absurd rest other.2.1
      · exact absurd rest other.2.2.1
      · exact absurd rest other.2.2.2

theorem oneLine_fieldOf : '\n' ∉ fieldOf os := by
  intro hc
  obtain ⟨o, ho, v, hv, inside⟩ := exists_blank_of_mem_fieldOf valid hc (by decide)
  exact ((valid o ho).value v hv).1 inside

end Field

/-! ## The first word of a field -/

/-- Up to the first quote there is no white space. -/
def SolidToQuote (s : List Char) : Prop :=
  ∀ c ∈ s.takeWhile (· ≠ '"'), isBlank c = false

theorem solidToQuote_nil : SolidToQuote [] :=
  fun _ hc => by cases hc

theorem solidToQuote_quote (s : List Char) : SolidToQuote ('"' :: s) := by
  intro c hc
  rw [List.takeWhile_cons_of_neg (by decide)] at hc
  cases hc

theorem SolidToQuote.append {s w : List Char} (hs : SolidToQuote s)
    (solid : ∀ c ∈ w, isBlank c = false) : SolidToQuote (w ++ s) := by
  induction w with
  | nil => exact hs
  | cons x w ih =>
    intro c hc
    have rest := ih fun c hc => solid c (List.mem_cons_of_mem _ hc)
    rw [List.cons_append, List.takeWhile_cons] at hc
    split at hc
    · rcases List.mem_cons.mp hc with rfl | hc
      · exact solid c List.mem_cons_self
      · exact rest c hc
    · cases hc

/-- Only values hold white space, and a quote stands before them. -/
theorem KeyOption.IsValid.solidToQuote {o : KeyOption} (ho : o.IsValid) {s : List Char}
    (hs : SolidToQuote s) : SolidToQuote (o.text ++ s) := by
  unfold KeyOption.text
  cases o.value with
  | none => exact hs.append ho.word.solid
  | some v =>
    have opened := (solidToQuote_quote (KeyOption.escaped v ++ ['"'] ++ s)).append
      (w := o.name ++ ['=']) ?_
    · simpa using opened
    · intro c hc
      rcases List.mem_append.mp hc with hc | hc
      · exact ho.word.solid c hc
      · rw [List.mem_singleton.mp hc]
        decide

/-- The field begins with the name of its first option. -/
theorem exists_fieldOf {os : List KeyOption} (nonempty : os ≠ []) :
    ∃ o ∈ os, ∃ rest, fieldOf os = o.name ++ rest := by
  cases os with
  | nil => exact absurd rfl nonempty
  | cons o os =>
    refine ⟨o, List.mem_cons_self, ?_⟩
    have text : ∃ rest, o.text = o.name ++ rest := by
      unfold KeyOption.text
      cases o.value with
      | none => exact ⟨[], (List.append_nil _).symm⟩
      | some v => exact ⟨_, List.append_assoc _ _ _⟩
    obtain ⟨rest, text⟩ := text
    cases os with
    | nil => exact ⟨rest, by rw [fieldOf_singleton, text]⟩
    | cons o' os => exact ⟨_, by rw [fieldOf_cons_cons, text, List.append_assoc]⟩

section FirstWord

variable {os : List KeyOption} (valid : ∀ o ∈ os, o.IsValid)

include valid

theorem solidToQuote_fieldOf : SolidToQuote (fieldOf os) := by
  induction os with
  | nil => exact solidToQuote_nil
  | cons o os ih =>
    have here := valid o List.mem_cons_self
    cases os with
    | nil =>
      rw [fieldOf_singleton, ← List.append_nil o.text]
      exact here.solidToQuote solidToQuote_nil
    | cons o' os =>
      have later := ih fun o ho => valid o (List.mem_cons_of_mem _ ho)
      rw [fieldOf_cons_cons]
      exact here.solidToQuote (later.append (w := [',']) (solid_of_all (by decide)))

/-- It ends with a name or a quote. -/
theorem solid_last_fieldOf (nonempty : os ≠ []) :
    ∃ c, (fieldOf os).getLast? = some c ∧ isBlank c = false := by
  have last : ∀ o ∈ os, ∃ c, o.text.getLast? = some c ∧ isBlank c = false := by
    intro o ho
    unfold KeyOption.text
    cases o.value with
    | none =>
      have word := (valid o ho).word
      exact ⟨_, List.getLast?_eq_some_getLast word.ne_nil, word.solid _ (List.getLast_mem _)⟩
    | some v => exact ⟨'"', List.getLast?_concat, by decide⟩
  clear valid
  induction os with
  | nil => exact absurd rfl nonempty
  | cons o os ih =>
    cases os with
    | nil =>
      rw [fieldOf_singleton]
      exact last o List.mem_cons_self
    | cons o' os =>
      obtain ⟨c, hc, solid⟩ := ih (by simp) fun o ho => last o (List.mem_cons_of_mem _ ho)
      refine ⟨c, ?_, solid⟩
      rw [fieldOf_cons_cons, List.getLast?_append, List.getLast?_cons, hc]
      rfl

/-- No field is taken for the type of a key. -/
theorem fieldOf_not_type (nonempty : os ≠ []) : fieldOf os ∉ AuthorizedKey.keyTypes := by
  have plain : ∀ t ∈ AuthorizedKey.keyTypes, ',' ∉ t ∧ '"' ∉ t := by decide
  intro ht
  cases os with
  | nil => exact nonempty rfl
  | cons o os =>
    cases os with
    | nil =>
      rw [fieldOf_singleton] at ht
      cases hv : o.value with
      | none =>
        rw [KeyOption.text, hv] at ht
        exact (valid o List.mem_cons_self).not_type ht
      | some v =>
        refine (plain _ ht).2 ?_
        rw [KeyOption.text, hv]
        simp
    | cons o' os =>
      refine (plain _ ht).1 ?_
      rw [fieldOf_cons_cons]
      simp

/-- Nor is what comes before all white space in one. -/
theorem firstWord_not_type (nonempty : os ≠ []) :
    (fieldOf os).takeWhile (! isBlank ·) ∉ AuthorizedKey.keyTypes := by
  by_cases quote : '"' ∈ fieldOf os
  · -- white space comes after a quote
    obtain ⟨a, b, split, none⟩ := List.eq_append_cons_of_mem quote
    have unquoted : ∀ c ∈ a, (c ≠ '"' : Bool) = true := by
      intro c hc
      rw [decide_eq_true_eq]
      rintro rfl
      exact none hc
    have before : ∀ c ∈ a, (! isBlank c) = true := by
      intro c hc
      rw [Bool.not_eq_true']
      refine solidToQuote_fieldOf valid c ?_
      rw [split, List.takeWhile_append_of_pos unquoted]
      exact List.mem_append_left _ hc
    have held : '"' ∈ (fieldOf os).takeWhile (! isBlank ·) := by
      rw [split, List.takeWhile_append_of_pos before, List.takeWhile_cons_of_pos (by decide)]
      exact List.mem_append_right _ List.mem_cons_self
    have plain : ∀ t ∈ AuthorizedKey.keyTypes, '"' ∉ t := by decide
    exact fun ht => plain _ ht held
  · -- without a quote there are no values, and no white space
    have all : ∀ c ∈ fieldOf os, (! isBlank c) = true := by
      intro c hc
      rw [Bool.not_eq_true', ← Bool.not_eq_true]
      intro blank
      obtain ⟨o, ho, v, hv, -⟩ := exists_blank_of_mem_fieldOf valid hc blank
      refine quote (mem_fieldOf_of_mem_text ho ?_)
      rw [KeyOption.text, Option.mem_def.mp hv]
      simp
    rw [List.takeWhile_eq_self_iff.mpr all]
    exact fieldOf_not_type valid nonempty

/-- What comes before all white space in a field is a word that options can be written as. -/
theorem firstWord_fieldOf (nonempty : os ≠ []) :
    IsOptionsWord ((fieldOf os).takeWhile (! isBlank ·)) := by
  obtain ⟨o, ho, rest, starts⟩ := exists_fieldOf nonempty
  have name := (valid o ho).word
  obtain ⟨x, left, named⟩ := List.exists_cons_of_ne_nil name.ne_nil
  have solid : isBlank x = false := name.solid x (named ▸ List.mem_cons_self)
  have first : ((fieldOf os).takeWhile (! isBlank ·)).head? = some x := by
    rw [starts, named, List.cons_append, List.takeWhile_cons_of_pos (by simp [solid])]
    rfl
  constructor
  case toIsWord =>
    refine ⟨fun none => ?_, fun c hc => ?_⟩
    · rw [none] at first
      cases first
    · simpa using List.mem_takeWhile_imp hc
  case not_hash =>
    have hash := (valid o ho).not_hash
    rw [first]
    rwa [named] at hash
  case not_type => exact firstWord_not_type valid nonempty

end FirstWord

/-! ## Lines with options -/

namespace AuthorizedKey

variable {k k' : AuthorizedKey} {os : List KeyOption}

theorem IsRestricted.optionsWord (fits : k.IsRestricted os) : k.optionsWord = fieldOf os := by
  rw [AuthorizedKey.optionsWord, fits.options, fieldOf]

theorem IsRestricted.options_ne_nil (fits : k.IsRestricted os) : k.options ≠ [] := by
  rw [fits.options, Ne, List.map_eq_nil_iff]
  exact fits.restricted

/-- The one line of a text is read for itself. -/
theorem ofText_line {line : List Char} (oneLine : '\n' ∉ line) :
    ofText line = (keyOn? line).toList := by
  rw [ofText_eq, splitOn_eq, List.splitOn_eq_singleton oneLine]
  cases h : keyOn? line with
  | none => rw [List.filterMap_cons_none h]; rfl
  | some k => rw [List.filterMap_cons_some h]; rfl

/-- A line whose first word is no type of key is read with that word for the options, and the
second for the type. -/
theorem eq_of_keyOn? {a w b t rest : List Char} (ha : AllBlank a) (hw : IsOptionsWord w)
    (hb : AllBlank b) (apart : b ≠ []) (ht : IsWord t) (hr : StartsBlank rest)
    (read : keyOn? (a ++ w ++ (b ++ t ++ rest)) = some k) :
    k.options = splitOn ',' w ∧ k.keyType = t ∧ t ∈ keyTypes := by
  have starts : StartsBlank (b ++ t ++ rest) := by
    rw [List.append_assoc]
    exact hb.startsBlank_append apart _
  rw [keyOn?_eq, splitWord_append ha hw.toIsWord starts, if_neg hw.not_hash, ofLine?,
    splitWord_append ha hw.toIsWord starts] at read
  simp only [List.contains_iff_mem, if_neg hw.not_type, splitWord_trim,
    splitWord_append hb ht hr] at read
  obtain ⟨htt, read⟩ := Option.ite_none_right_eq_some.mp read
  obtain ⟨_, _, _, _, _, _, found⟩ := exists_ofData? read
  exact ⟨congrArg (·.options) found, congrArg (·.keyType) found, htt⟩

end AuthorizedKey

namespace Layout

variable {k k' : AuthorizedKey} {os : List KeyOption}

/-- A line with options: what comes after them begins with white space. -/
theorem exists_line (l : Layout) (nonempty : k.options ≠ []) :
    ∃ tail, StartsBlank tail ∧ tail ≠ [] ∧ l.line k = l.margin ++ k.optionsWord ++ tail := by
  refine ⟨l.afterOptions ++ (k.keyType ++ (l.afterType ++ Base64.encode k.bytes
    ++ (l.commentPart k ++ l.trail))), ?_, ?_, ?_⟩
  · exact l.afterOptions.2.1.1.startsBlank_append l.afterOptions.2.2 _
  · simp [l.afterOptions.2.2]
  · simp [line, optionsPart, nonempty]

theorem oneLine_of_restricted (l : Layout) (fits : k.IsRestricted os) : '\n' ∉ l.line k := by
  refine l.oneLine_of fits.keyType fits.bytes ?_ fun c hc => (fits.comment c hc).2.2
  rw [fits.optionsWord]
  exact oneLine_fieldOf fits.valid

/-- **Without white space in the values**, the key is read with the pieces between the commas
for its options. -/
theorem keyOn?_of_solid (l : Layout) (fits : k.IsRestricted os)
    (solid : ∀ c ∈ k.optionsWord, isBlank c = false) :
    AuthorizedKey.keyOn? (l.line k) = some { k with options := splitOn ',' k.optionsWord } := by
  let torn : AuthorizedKey := { k with options := splitOn ',' k.optionsWord }
  have pieces : torn.options ≠ [] := by
    show splitOn ',' k.optionsWord ≠ []
    rw [splitOn_eq]
    exact List.splitOn_ne_nil ',' _
  have word : torn.optionsWord = k.optionsWord := by
    show [','].intercalate (splitOn ',' k.optionsWord) = _
    rw [splitOn_eq]
    exact List.intercalate_splitOn ','
  have whole : k.optionsWord.takeWhile (! isBlank ·) = k.optionsWord :=
    List.takeWhile_eq_self_iff.mpr fun c hc => by rw [solid c hc]; rfl
  have writable : torn.IsWritable := by
    refine ⟨fits.keyType, fits.bytes, fun _ => ?_, fun o => not_mem_of_mem_splitOn, fits.comment⟩
    rw [word, ← whole, fits.optionsWord]
    exact firstWord_fieldOf fits.valid fits.restricted
  have same : l.line k = l.line torn := by
    unfold line optionsPart
    rw [if_neg fits.options_ne_nil, if_neg pieces, word]
    rfl
  rw [same]
  exact l.keyOn?_line writable

/-- **White space in a value ends the options.** Whatever key is read, its options are what
comes before it, and its type is the word after it, in the value or behind its quote. -/
theorem eq_of_keyOn?_of_blank (l : Layout) (fits : k.IsRestricted os)
    (blank : ∃ c ∈ k.optionsWord, isBlank c = true)
    (read : AuthorizedKey.keyOn? (l.line k) = some k') :
    k'.options = splitOn ',' (k.optionsWord.takeWhile (! isBlank ·)) ∧
      k'.keyType = (splitWord (k.optionsWord.dropWhile (! isBlank ·))).1 ∧
      k'.keyType ∈ AuthorizedKey.keyTypes := by
  obtain ⟨tail, starts, ne_nil, laidOut⟩ := l.exists_line fits.options_ne_nil
  have word := firstWord_fieldOf fits.valid fits.restricted
  obtain ⟨z, last, solid⟩ := solid_last_fieldOf fits.valid fits.restricted
  rw [← fits.optionsWord] at word last
  have split : k.optionsWord.takeWhile (! isBlank ·) ++ k.optionsWord.dropWhile (! isBlank ·)
      = k.optionsWord := List.takeWhile_append_dropWhile
  generalize k.optionsWord.takeWhile (! isBlank ·) = w at word split ⊢
  have begins : StartsBlank (k.optionsWord.dropWhile (! isBlank ·)) := by
    intro c hc
    have := List.head?_dropWhile_not (! isBlank ·) k.optionsWord
    rw [Option.mem_def.mp hc] at this
    simpa using this
  generalize k.optionsWord.dropWhile (! isBlank ·) = left at begins split ⊢
  rcases exists_splitWord left with ⟨allBlank, -⟩ | ⟨p, t, q, hp, ht, hq, rfl⟩
  · -- the field does not end in white space
    exfalso
    cases left with
    | nil =>
      obtain ⟨c, hc, blank⟩ := blank
      rw [← split, List.append_nil] at hc
      cases blank.symm.trans (word.solid c hc)
    | cons x left =>
      have end' : (x :: left).getLast? = some z := by
        rwa [← split, List.getLast?_append_of_ne_nil _ (List.cons_ne_nil _ _)] at last
      cases solid.symm.trans (allBlank z (List.mem_of_getLast? end'))
  · have apart : p ≠ [] := ne_nil_of_startsBlank ht begins
    have ends : StartsBlank (q ++ tail) := by
      cases q with
      | nil => exact starts
      | cons x q => exact fun c hc => hq c hc
    rw [splitWord_append hp ht hq]
    have line : l.line k = l.margin ++ w ++ (p ++ t ++ (q ++ tail)) := by
      rw [laidOut, ← split]
      simp only [List.append_assoc]
    rw [line] at read
    obtain ⟨options, keyType, known⟩ :=
      AuthorizedKey.eq_of_keyOn? l.margin.2.1 word hp apart ht ends read
    exact ⟨options, keyType, keyType ▸ known⟩

/-- A key that is read back was written without white space in its options. -/
theorem solid_of_keyOn? (l : Layout) (fits : k.IsRestricted os)
    (read : AuthorizedKey.keyOn? (l.line k) = some k) : ∀ c ∈ k.optionsWord, isBlank c = false := by
  by_contra blank
  push Not at blank
  simp only [ne_eq, Bool.not_eq_false] at blank
  obtain ⟨options, -, -⟩ := l.eq_of_keyOn?_of_blank fits blank read
  obtain ⟨c, hc, blank⟩ := blank
  rw [AuthorizedKey.optionsWord, options, splitOn_eq, List.intercalate_splitOn] at hc
  have solid := List.mem_takeWhile_imp hc
  rw [blank] at solid
  cases solid

end Layout

/-! ## What becomes of quoted values -/

/-- **A line is read without regard to quotes.** The key comes back with its options exactly if
none of their values holds white space or a comma. If there are commas and no white space, it
comes back with its options torn apart at them. If there is white space, then every key that is
read has for its options what comes before it, and for its type the word after it. -/
theorem quoted_options (l : Layout) (k : AuthorizedKey) (os : List KeyOption)
    (fits : k.IsRestricted os) :
    (AuthorizedKey.ofText (l.line k) = [k] ↔
        ∀ o ∈ os, ∀ v ∈ o.value, ∀ c ∈ v, isBlank c = false ∧ c ≠ ',') ∧
      ((∀ o ∈ os, ∀ v ∈ o.value, ∀ c ∈ v, isBlank c = false) →
        AuthorizedKey.ofText (l.line k) =
          [{ k with options := splitOn ',' k.optionsWord }]) ∧
      ((∃ o ∈ os, ∃ v ∈ o.value, ∃ c ∈ v, isBlank c = true) →
        ∀ k' ∈ AuthorizedKey.ofText (l.line k),
          k'.options = splitOn ',' (k.optionsWord.takeWhile (! isBlank ·)) ∧
            k'.keyType = (splitWord (k.optionsWord.dropWhile (! isBlank ·))).1 ∧
            k'.keyType ∈ AuthorizedKey.keyTypes) := by
  rw [AuthorizedKey.ofText_line (l.oneLine_of_restricted fits)]
  have held {o : KeyOption} {v : List Char} {c : Char} (ho : o ∈ os) (hv : v ∈ o.value)
      (hc : c ∈ v) : c ∈ k.optionsWord := by
    rw [fits.optionsWord]
    exact mem_fieldOf_of_mem_text ho (KeyOption.mem_text_of_mem_value hv hc)
  have torn (solid : ∀ o ∈ os, ∀ v ∈ o.value, ∀ c ∈ v, isBlank c = false) :
      AuthorizedKey.keyOn? (l.line k) = some { k with options := splitOn ',' k.optionsWord } := by
    refine l.keyOn?_of_solid fits fun c hc => ?_
    rw [fits.optionsWord] at hc
    rw [← Bool.not_eq_true]
    intro blank
    obtain ⟨o, ho, v, hv, hc⟩ := exists_blank_of_mem_fieldOf fits.valid hc blank
    cases blank.symm.trans (solid o ho v hv c hc)
  refine ⟨⟨fun kept => ?_, fun whole => ?_⟩, fun solid => ?_, fun blank k' hk' => ?_⟩
  · have read : AuthorizedKey.keyOn? (l.line k) = some k := Option.toList_eq_singleton_iff.mp kept
    have solid := l.solid_of_keyOn? fits read
    have pieces : k.options = splitOn ',' k.optionsWord := congrArg (·.options)
      (Option.some.inj (read.symm.trans (torn fun o ho v hv c hc => solid c (held ho hv hc))))
    intro o ho v hv c hc
    refine ⟨solid c (held ho hv hc), ?_⟩
    -- no piece between commas holds one
    rintro rfl
    have piece : o.text ∈ splitOn ',' k.optionsWord := by
      rw [← pieces, fits.options]
      exact List.mem_map_of_mem ho
    exact not_mem_of_mem_splitOn piece (KeyOption.mem_text_of_mem_value hv hc)
  · have commas : ∀ o ∈ k.options, ',' ∉ o := by
      intro text ht hc
      rw [fits.options] at ht
      obtain ⟨o, ho, rfl⟩ := List.mem_map.mp ht
      rcases KeyOption.mem_text hc with hc | ⟨v, hv, hc⟩ | other
      · exact (fits.valid o ho).plain.1 hc
      · exact (whole o ho v hv _ hc).2 rfl
      · simp at other
    have pieces : splitOn ',' k.optionsWord = k.options := by
      rw [splitOn_eq]
      exact List.splitOn_intercalate ',' commas fits.options_ne_nil
    rw [torn fun o ho v hv c hc => (whole o ho v hv c hc).1, pieces]
    rfl
  · rw [torn solid]
    rfl
  · obtain ⟨o, ho, v, hv, c, hc, blank⟩ := blank
    exact l.eq_of_keyOn?_of_blank fits ⟨c, held ho hv hc, blank⟩ (Option.mem_toList.mp hk')

/-- One blank wherever there may be white space between words, and none elsewhere. -/
def blanks : Layout where
  margin := ⟨[], by decide⟩
  afterOptions := ⟨[' '], by decide⟩
  afterType := ⟨[' '], by decide⟩
  afterData := ⟨[' '], by decide⟩
  trail := ⟨[], by decide⟩

/-- An option with a value. -/
def valued (name value : String) : KeyOption :=
  ⟨name.toList, some value.toList⟩

/-- A key with one option. -/
def restricted (o : KeyOption) : AuthorizedKey :=
  ⟨"ssh-dss".toList, [1], none, [o.text]⟩

theorem isRestricted_restricted {o : KeyOption} (valid : o.IsValid) :
    (restricted o).IsRestricted [o] where
  restricted := List.cons_ne_nil _ _
  valid o' ho := List.mem_singleton.mp ho ▸ valid
  options := rfl
  keyType := (by decide : "ssh-dss".toList ∈ AuthorizedKey.keyTypes)
  bytes := List.cons_ne_nil _ _
  comment _ hc := by cases hc

theorem isValid_valued {name value : String} (word : IsWord name.toList)
    (plain : ',' ∉ name.toList ∧ '"' ∉ name.toList) (not_hash : name.toList.head? ≠ some '#')
    (not_type : name.toList ∉ AuthorizedKey.keyTypes)
    (ends : '\n' ∉ value.toList ∧ value.toList.getLast? ≠ some '\\') : (valued name value).IsValid :=
  ⟨word, plain, not_hash, not_type, fun _ hv => Option.some.inj hv ▸ ends⟩

theorem quoted_options_from :
    (restricted (valued "from" "a,b")).IsRestricted [valued "from" "a,b"] ∧
      (∀ o ∈ [valued "from" "a,b"], ∀ v ∈ o.value, ∀ c ∈ v, isBlank c = false) ∧
      AuthorizedKey.ofText (blanks.line (restricted (valued "from" "a,b"))) =
        [{ restricted (valued "from" "a,b") with options := ["from=\"a".toList, "b\"".toList] }] := by
  have fits : (restricted (valued "from" "a,b")).IsRestricted [valued "from" "a,b"] :=
    isRestricted_restricted (isValid_valued ⟨by decide, solid_of_all (by decide)⟩ (by decide)
      (by decide) (by decide) (by decide))
  have solid : ∀ o ∈ [valued "from" "a,b"], ∀ v ∈ o.value, ∀ c ∈ v, isBlank c = false := by
    intro o ho v hv
    rw [List.mem_singleton.mp ho] at hv
    cases hv
    exact solid_of_all (by decide)
  exact ⟨fits, solid, (quoted_options blanks _ _ fits).2.1 solid⟩

/-- **Keys that are restricted by quoted values are lost, or lose the restriction.** A command
with a blank in it makes the line none that holds a key; two addresses become two options with
half a quote each; and in place of a key, one is read that stands in its own option. -/
theorem quotes_ignored :
    ((restricted (valued "command" "ls -l")).IsRestricted [valued "command" "ls -l"] ∧
      blanks.line (restricted (valued "command" "ls -l")) =
        "command=\"ls -l\" ssh-dss AQ==".toList ∧
      AuthorizedKey.ofText "command=\"ls -l\" ssh-dss AQ==".toList = []) ∧
    ((restricted (valued "from" "a,b")).IsRestricted [valued "from" "a,b"] ∧
      blanks.line (restricted (valued "from" "a,b")) = "from=\"a,b\" ssh-dss AQ==".toList ∧
      AuthorizedKey.ofText "from=\"a,b\" ssh-dss AQ==".toList =
        [⟨"ssh-dss".toList, [1], none, ["from=\"a".toList, "b\"".toList]⟩]) ∧
    (restricted (valued "command" "x ssh-rsa AQID y")).IsRestricted
        [valued "command" "x ssh-rsa AQID y"] ∧
      blanks.line (restricted (valued "command" "x ssh-rsa AQID y")) =
        "command=\"x ssh-rsa AQID y\" ssh-dss AQ==".toList ∧
      AuthorizedKey.ofText "command=\"x ssh-rsa AQID y\" ssh-dss AQ==".toList =
        [⟨"ssh-rsa".toList, [1, 2, 3], some "y\" ssh-dss AQ==".toList, ["command=\"x".toList]⟩] := by
  refine ⟨⟨?_, by decide, by decide⟩, ⟨?_, by decide, by decide⟩, ?_, by decide, by decide⟩
  all_goals
    exact isRestricted_restricted (isValid_valued ⟨by decide, solid_of_all (by decide)⟩ (by decide)
      (by decide) (by decide) (by decide))

end ShellGateway.Auth
