import ShellGateway.Auth.AuthorizedKeys
import ShellGateway.Proofs.Text.Base64
import ShellGateway.Proofs.Text.Words

/-!
# The grammar of key lists

What a line of a key list has to look like to hold a key is said by writing keys,
not by reading them: `Layout.line` writes a key with white space of one's choice,
and a line holds a key if it is one of the ways to write a key that can be written
(`Holds`). Reading a line finds the key that it holds, and none on any other line
(`keyOn?_eq_some_iff`); so no line holds two keys.
-/

namespace ShellGateway.Auth

open Text

/-! ## Keys that can be written -/

/-- A word that options can be written as: one that is not taken for the type of
a key, nor for the beginning of a comment line. -/
structure IsOptionsWord (w : List Char) : Prop extends IsWord w where
  not_type : w ∉ AuthorizedKey.keyTypes
  not_hash : w.head? ≠ some '#'

namespace AuthorizedKey

/-- The options of a key as one word. -/
def optionsWord (k : AuthorizedKey) : List Char :=
  [','].intercalate k.options

/-- A key that fits on a line. -/
structure IsWritable (k : AuthorizedKey) : Prop where
  keyType : k.keyType ∈ keyTypes
  bytes : k.bytes ≠ []
  options : k.options ≠ [] → IsOptionsWord k.optionsWord
  /-- Commas stand between options only. -/
  commas : ∀ o ∈ k.options, ',' ∉ o
  comment : ∀ c ∈ k.comment, c ≠ [] ∧ IsTrimmed c ∧ '\n' ∉ c

end AuthorizedKey

/-! ## Lines that hold keys -/

/-- White space within a line. -/
def IsGap (s : List Char) : Prop :=
  AllBlank s ∧ '\n' ∉ s

instance (s : List Char) : Decidable (IsGap s) :=
  decidable_of_iff (s.all isBlank = true ∧ '\n' ∉ s) (and_congr List.all_eq_true Iff.rfl)

/-- White space within a line, perhaps none. -/
abbrev Gap := { s : List Char // IsGap s }

/-- White space that separates words within a line. -/
abbrev Break := { s : List Char // IsGap s ∧ s ≠ [] }

/-- The white space that a key is written with. -/
structure Layout where
  margin : Gap
  afterOptions : Break
  afterType : Break
  afterData : Break
  trail : Gap

namespace Layout

/-- The options of a key, if there are any. -/
def optionsPart (l : Layout) (k : AuthorizedKey) : List Char :=
  if k.options = [] then [] else k.optionsWord ++ l.afterOptions

/-- The comment of a key, if there is one. -/
def commentPart (l : Layout) (k : AuthorizedKey) : List Char :=
  match k.comment with
  | none => []
  | some c => l.afterData ++ c

/-- A key written as a line: its options, its type, its data, its comment. -/
def line (l : Layout) (k : AuthorizedKey) : List Char :=
  l.margin ++ l.optionsPart k ++ k.keyType ++ l.afterType ++ Base64.encode k.bytes
    ++ l.commentPart k ++ l.trail

end Layout

/-- A line that is one of the ways to write a key. -/
def Holds (line : List Char) (k : AuthorizedKey) : Prop :=
  k.IsWritable ∧ ∃ l : Layout, line = l.line k

/-! ## Words of a line -/

/-- Every type of key is a word, and no comment begins with it. -/
theorem isWord_of_mem_keyTypes {t : List Char} (ht : t ∈ AuthorizedKey.keyTypes) :
    IsWord t ∧ t.head? ≠ some '#' := by
  have all : ∀ t ∈ AuthorizedKey.keyTypes,
      (t ≠ [] ∧ (t.all fun c => !isBlank c) = true) ∧ t.head? ≠ some '#' := by decide
  obtain ⟨⟨ne_nil, solid⟩, not_hash⟩ := all t ht
  refine ⟨⟨ne_nil, fun c hc => ?_⟩, not_hash⟩
  have apart := List.all_eq_true.mp solid c hc
  simpa using apart

/-- The data of a key is a word. -/
theorem isWord_encode {bytes : Bytes} (h : bytes ≠ []) : IsWord (Base64.encode bytes) where
  ne_nil := fun empty => h (Base64.encode_eq_nil_iff.mp empty)
  solid _ hc := Base64.isBlank_of_mem_encode hc

/-- The first character of a trimmed line is that of its first word. -/
theorem head?_splitWord (s : List Char) : (splitWord s).1.head? = (trim s).head? := by
  obtain ⟨-, -, -, -, trimmed, -⟩ := exists_trim s
  rw [← splitWord_trim, splitWord, trimStart_of_first trimmed.first]
  cases hs : trim s with
  | nil => rfl
  | cons x rest =>
    rw [hs] at trimmed
    simp [trimmed.first x rfl]

/-! ## Reading a line -/

namespace AuthorizedKey

/-- The key on a line, if it holds one. -/
def keyOn? (line : List Char) : Option AuthorizedKey :=
  if mayHoldKey (trim line) then ofLine? (trim line) else none

/-- The keys of a text are those on its lines. -/
theorem ofText_eq (content : List Char) :
    ofText content = (splitOn '\n' content).filterMap keyOn? := by
  have reads : ∀ line, keyOn? (dropReturn line) = keyOn? line := fun line => by
    rw [keyOn?, trim_dropReturn, keyOn?]
  rw [← filterMap_lines rfl reads]
  unfold ofText
  rw [List.filterMap_filter, List.filterMap_map]
  rfl

@[simp]
theorem ofData?_trim (options : List (List Char)) (keyType rest : List Char) :
    ofData? options keyType (trim rest) = ofData? options keyType rest := by
  rw [ofData?, splitWord_trim, ofData?]

@[simp]
theorem ofLine?_trim (line : List Char) : ofLine? (trim line) = ofLine? line := by
  rw [ofLine?, splitWord_trim, ofLine?]

/-- A line holds a key unless it is a comment. -/
theorem keyOn?_eq (line : List Char) :
    keyOn? line = if (splitWord line).1.head? = some '#' then none else ofLine? line := by
  unfold keyOn? mayHoldKey
  rw [ofLine?_trim, head?_splitWord]
  cases hs : trim line with
  | nil =>
    have none : ofLine? line = none := by
      rw [← ofLine?_trim, hs]
      decide
    simp [none]
  | cons x rest => by_cases hx : x = '#' <;> simp [hx]

/-- A key is read after its type from its data, and a comment from what is left. -/
theorem ofData?_append (options : List (List Char)) (keyType : List Char) {a rest : List Char}
    {bytes : Bytes} (ha : AllBlank a) (hb : bytes ≠ []) (hr : StartsBlank rest) :
    ofData? options keyType (a ++ Base64.encode bytes ++ rest) =
      some ⟨keyType, bytes, if trim rest = [] then none else some (trim rest), options⟩ := by
  have word := isWord_encode hb
  rw [ofData?, splitWord_append ha word hr]
  simp [word.ne_nil, Base64.decode?_encode]

/-- It is read from nothing else. -/
theorem exists_ofData? {options : List (List Char)} {keyType rest : List Char} {k : AuthorizedKey}
    (h : ofData? options keyType rest = some k) :
    ∃ a c, AllBlank a ∧ StartsBlank c ∧ rest = a ++ Base64.encode k.bytes ++ c ∧ k.bytes ≠ [] ∧
      k = ⟨keyType, k.bytes, if trim c = [] then none else some (trim c), options⟩ := by
  rcases exists_splitWord rest with ⟨-, none⟩ | ⟨a, w, c, ha, hw, hc, rfl⟩
  · rw [ofData?, none] at h
    cases h
  · rw [ofData?, splitWord_append ha hw hc] at h
    simp only [List.isEmpty_iff, if_neg hw.ne_nil, Option.bind_eq_bind, Option.bind_eq_some_iff,
      Option.pure_def, Option.some.injEq] at h
    obtain ⟨bytes, decoded, rfl⟩ := h
    obtain rfl := Base64.eq_encode_of_decode? decoded
    refine ⟨a, c, ha, hc, rfl, ?_, by simp⟩
    rintro rfl
    exact hw.ne_nil rfl

/-- A line without options is read from its type on. -/
theorem ofLine?_of_type {a t rest : List Char} (ha : AllBlank a) (ht : t ∈ keyTypes)
    (hr : StartsBlank rest) : ofLine? (a ++ t ++ rest) = ofData? [] t rest := by
  rw [ofLine?, splitWord_append ha (isWord_of_mem_keyTypes ht).1 hr]
  simp [ht]

/-- A line with options is read from its type on, which is the second word. -/
theorem ofLine?_of_options {a w b t rest : List Char} (ha : AllBlank a) (hw : IsWord w)
    (hwt : w ∉ keyTypes) (hb : AllBlank b) (hne : b ≠ []) (ht : t ∈ keyTypes)
    (hr : StartsBlank rest) :
    ofLine? (a ++ w ++ (b ++ t ++ rest)) = ofData? (splitOn ',' w) t rest := by
  have starts : StartsBlank (b ++ t ++ rest) := by
    rw [List.append_assoc]
    exact hb.startsBlank_append hne _
  have second : splitWord (b ++ t ++ rest) = (t, trim rest) :=
    splitWord_append hb (isWord_of_mem_keyTypes ht).1 hr
  rw [ofLine?, splitWord_append ha hw starts]
  simp only [List.contains_iff_mem, if_neg hwt, splitWord_trim, second, if_pos ht, ofData?_trim]

/-- What is read from a line has its type as the first word, or as the second. -/
theorem exists_ofLine? {line : List Char} {k : AuthorizedKey} (h : ofLine? line = some k) :
    ∃ a t rest, AllBlank a ∧ t ∈ keyTypes ∧ StartsBlank rest ∧
      (line = a ++ t ++ rest ∧ ofData? [] t rest = some k ∨
        ∃ w b, IsWord w ∧ w ∉ keyTypes ∧ AllBlank b ∧ b ≠ [] ∧ line = a ++ w ++ (b ++ t ++ rest) ∧
          ofData? (splitOn ',' w) t rest = some k) := by
  have empty : ([] : List Char) ∉ keyTypes := by decide
  rcases exists_splitWord line with ⟨-, none⟩ | ⟨a, w, left, ha, hw, hl, rfl⟩
  · rw [ofLine?, none] at h
    cases h
  · by_cases hwt : w ∈ keyTypes
    · rw [ofLine?_of_type ha hwt hl] at h
      exact ⟨a, w, left, ha, hwt, hl, .inl ⟨rfl, h⟩⟩
    · rw [ofLine?, splitWord_append ha hw hl] at h
      simp only [List.contains_iff_mem, if_neg hwt, splitWord_trim] at h
      rcases exists_splitWord left with ⟨-, none⟩ | ⟨b, t, rest, hb, ht, hr, rfl⟩
      · rw [none] at h
        simp only [if_neg empty] at h
        cases h
      · rw [splitWord_append hb ht hr] at h
        obtain ⟨htt, h⟩ := Option.ite_none_right_eq_some.mp h
        rw [ofData?_trim] at h
        exact ⟨a, t, rest, ha, htt, hr,
          .inr ⟨w, b, hw, hwt, hb, ne_nil_of_startsBlank ht hl, rfl, h⟩⟩

end AuthorizedKey

/-! ## Lines and keys -/

namespace Layout

variable {k : AuthorizedKey}

/-- What is written without line feeds stands on one line. -/
theorem oneLine_of (l : Layout) (keyType : k.keyType ∈ AuthorizedKey.keyTypes)
    (bytes : k.bytes ≠ []) (options : '\n' ∉ k.optionsWord)
    (comment : ∀ c ∈ k.comment, '\n' ∉ c) : '\n' ∉ l.line k := by
  have options : '\n' ∉ l.optionsPart k := by
    unfold optionsPart
    split
    · exact List.not_mem_nil
    · rw [List.mem_append, not_or]
      exact ⟨options, l.afterOptions.2.1.2⟩
  have comment : '\n' ∉ l.commentPart k := by
    unfold commentPart
    split
    · exact List.not_mem_nil
    · rename_i c hc
      rw [List.mem_append, not_or]
      exact ⟨l.afterData.2.1.2, comment c hc⟩
  have keyType := (isWord_of_mem_keyTypes keyType).1.oneLine
  have data := (isWord_encode bytes).oneLine
  simp only [line, List.mem_append, not_or]
  exact ⟨⟨⟨⟨⟨⟨l.margin.2.2, options⟩, keyType⟩, l.afterType.2.1.2⟩, data⟩, comment⟩, l.trail.2.2⟩

/-- A key is written on one line. -/
theorem oneLine (l : Layout) (hk : k.IsWritable) : '\n' ∉ l.line k := by
  refine l.oneLine_of hk.keyType hk.bytes ?_ fun c hc => (hk.comment c hc).2.2
  by_cases ho : k.options = []
  · rw [AuthorizedKey.optionsWord, ho]
    exact List.not_mem_nil
  · exact (hk.options ho).oneLine

/-- What stands on a line after the data of its key ends the data, and says what
the comment is. -/
theorem comment_eq (l : Layout) (hk : k.IsWritable) :
    StartsBlank (l.commentPart k ++ l.trail) ∧
      (if trim (l.commentPart k ++ l.trail) = [] then none
        else some (trim (l.commentPart k ++ l.trail))) = k.comment := by
  unfold commentPart
  cases hc : k.comment with
  | none =>
    refine ⟨l.trail.2.1.startsBlank, ?_⟩
    rw [if_pos]
    exact trim_allBlank l.trail.2.1
  | some c =>
    obtain ⟨ne_nil, trimmed, -⟩ := hk.comment c hc
    refine ⟨?_, ?_⟩
    · rw [List.append_assoc]
      exact l.afterData.2.1.1.startsBlank_append l.afterData.2.2 _
    · rw [trim_append l.afterData.2.1.1 trimmed l.trail.2.1, if_neg ne_nil]

/-- The key that a line was written for is read from it. -/
theorem keyOn?_line (l : Layout) (hk : k.IsWritable) :
    AuthorizedKey.keyOn? (l.line k) = some k := by
  obtain ⟨ends, comment⟩ := l.comment_eq hk
  -- what is read from the type on, on any line
  have read : ∀ options, AuthorizedKey.ofData? options k.keyType
      (l.afterType ++ Base64.encode k.bytes ++ (l.commentPart k ++ l.trail)) =
        some { k with options } := by
    intro options
    rw [AuthorizedKey.ofData?_append options k.keyType l.afterType.2.1.1 hk.bytes ends, comment]
  have starts : StartsBlank
      (l.afterType ++ Base64.encode k.bytes ++ (l.commentPart k ++ l.trail)) := by
    rw [List.append_assoc]
    exact l.afterType.2.1.1.startsBlank_append l.afterType.2.2 _
  obtain ⟨type_word, type_hash⟩ := isWord_of_mem_keyTypes hk.keyType
  by_cases ho : k.options = []
  · have laidOut : l.line k = l.margin ++ k.keyType
        ++ (l.afterType ++ Base64.encode k.bytes ++ (l.commentPart k ++ l.trail)) := by
      simp [line, optionsPart, ho]
    rw [AuthorizedKey.keyOn?_eq, laidOut, splitWord_append l.margin.2.1 type_word starts,
      if_neg type_hash, AuthorizedKey.ofLine?_of_type l.margin.2.1 hk.keyType starts, read, ← ho]
  · have laidOut : l.line k = l.margin ++ k.optionsWord ++ (l.afterOptions ++ k.keyType
        ++ (l.afterType ++ Base64.encode k.bytes ++ (l.commentPart k ++ l.trail))) := by
      simp [line, optionsPart, ho]
    have word := hk.options ho
    have apart : StartsBlank (l.afterOptions ++ k.keyType
        ++ (l.afterType ++ Base64.encode k.bytes ++ (l.commentPart k ++ l.trail))) := by
      rw [List.append_assoc]
      exact l.afterOptions.2.1.1.startsBlank_append l.afterOptions.2.2 _
    have split : splitOn ',' k.optionsWord = k.options := by
      rw [splitOn_eq]
      exact List.splitOn_intercalate ',' hk.commas ho
    rw [AuthorizedKey.keyOn?_eq, laidOut, splitWord_append l.margin.2.1 word.toIsWord apart,
      if_neg word.not_hash,
      AuthorizedKey.ofLine?_of_options l.margin.2.1 word.toIsWord word.not_type
        l.afterOptions.2.1.1 l.afterOptions.2.2 hk.keyType starts, read, split]

/-- Whatever stands after the data of a key is a comment with white space around
it, or white space. -/
theorem exists_comment {c : List Char} (hc : StartsBlank c) (oneLine : '\n' ∉ c)
    (comment : k.comment = if trim c = [] then none else some (trim c)) :
    (∀ d ∈ k.comment, d ≠ [] ∧ IsTrimmed d ∧ '\n' ∉ d) ∧
      ∃ (before : Break) (trail : Gap), ∀ l : Layout, l.afterData = before → l.trail = trail →
        c = l.commentPart k ++ l.trail := by
  obtain ⟨p, q, hp, hq, trimmed, laidOut⟩ := exists_trim c
  have inside := oneLine
  rw [laidOut] at inside
  simp only [List.mem_append, not_or] at inside
  obtain ⟨⟨hp', ht'⟩, hq'⟩ := inside
  by_cases ht : trim c = []
  · rw [if_pos ht] at comment
    rw [ht, List.append_nil] at laidOut
    have blank : AllBlank c := by
      rw [laidOut]
      exact hp.append hq
    refine ⟨by simp [comment], ⟨[' '], by decide, by simp⟩, ⟨c, blank, oneLine⟩, fun l _ hl => ?_⟩
    simp [commentPart, comment, hl]
  · rw [if_neg ht] at comment
    have apart : p ≠ [] := by
      rintro rfl
      obtain ⟨x, rest, hx⟩ := List.exists_cons_of_ne_nil ht
      rw [laidOut, hx] at hc
      have blank := hc x rfl
      rw [trimmed.first x (by rw [hx]; rfl)] at blank
      cases blank
    refine ⟨?_, ⟨p, ⟨hp, hp'⟩, apart⟩, ⟨q, hq, hq'⟩, fun l hb hl => ?_⟩
    · intro d hd
      rw [comment] at hd
      obtain rfl := Option.some.inj hd
      exact ⟨ht, trimmed, ht'⟩
    · rw [commentPart, comment, hb, hl]
      exact laidOut

/-- Whatever a key is read from after its type is its data, with a comment or
without. -/
theorem exists_data {options : List (List Char)} {t rest : List Char}
    (read : AuthorizedKey.ofData? options t rest = some k) (hr : StartsBlank rest)
    (oneLine : '\n' ∉ rest) :
    k.keyType = t ∧ k.options = options ∧ k.bytes ≠ [] ∧
      (∀ d ∈ k.comment, d ≠ [] ∧ IsTrimmed d ∧ '\n' ∉ d) ∧
      ∃ (gap before : Break) (trail : Gap), ∀ l : Layout,
        l.afterType = gap → l.afterData = before → l.trail = trail →
          rest = l.afterType ++ Base64.encode k.bytes ++ (l.commentPart k ++ l.trail) := by
  obtain ⟨g, c, hg, hc, rfl, hbytes, hk⟩ := AuthorizedKey.exists_ofData? read
  have apart : g ≠ [] := ne_nil_of_startsBlank (isWord_encode hbytes) hr
  simp only [List.mem_append, not_or] at oneLine
  obtain ⟨⟨hg', -⟩, hc'⟩ := oneLine
  obtain ⟨comment, before, trail, written⟩ := exists_comment hc hc' (congrArg (·.comment) hk)
  refine ⟨congrArg (·.keyType) hk, congrArg (·.options) hk, hbytes, comment,
    ⟨g, ⟨hg, hg'⟩, apart⟩, before, trail, fun l ht hb hl => ?_⟩
  rw [← written l hb hl, ht]

end Layout

/-- A line that a key is read from is one of the ways to write the key. -/
theorem holds_of_keyOn? {line : List Char} {k : AuthorizedKey} (oneLine : '\n' ∉ line)
    (h : AuthorizedKey.keyOn? line = some k) : Holds line k := by
  rw [AuthorizedKey.keyOn?_eq] at h
  obtain ⟨no_hash, h⟩ := Option.ite_none_left_eq_some.mp h
  obtain ⟨a, t, rest, ha, ht, hr, found⟩ := AuthorizedKey.exists_ofLine? h
  rcases found with ⟨rfl, read⟩ | ⟨w, b, hw, hwt, hb, apart, rfl, read⟩
  · -- the type is the first word
    simp only [List.mem_append, not_or] at oneLine
    obtain ⟨⟨ha', -⟩, hr'⟩ := oneLine
    obtain ⟨rfl, options, bytes, comment, gap, before, trail, written⟩ :=
      Layout.exists_data read hr hr'
    let l : Layout := ⟨⟨a, ha, ha'⟩, gap, gap, before, trail⟩
    refine ⟨⟨ht, bytes, by simp [options], by simp [options], comment⟩, l, ?_⟩
    rw [written l rfl rfl rfl]
    simp [Layout.line, Layout.optionsPart, options, l]
  · -- the first word is the options
    have starts : StartsBlank (b ++ t ++ rest) := by
      rw [List.append_assoc]
      exact hb.startsBlank_append apart _
    rw [splitWord_append ha hw starts] at no_hash
    simp only [List.mem_append, not_or] at oneLine
    obtain ⟨⟨ha', -⟩, ⟨hb', -⟩, hr'⟩ := oneLine
    obtain ⟨rfl, options, bytes, comment, gap, before, trail, written⟩ :=
      Layout.exists_data read hr hr'
    have word : k.optionsWord = w := by
      rw [AuthorizedKey.optionsWord, options, splitOn_eq]
      exact List.intercalate_splitOn ','
    have some_options : k.options ≠ [] := by
      rw [options, splitOn_eq]
      exact List.splitOn_ne_nil ',' w
    have commas : ∀ o ∈ k.options, ',' ∉ o := by
      intro o ho
      rw [options] at ho
      exact not_mem_of_mem_splitOn ho
    let l : Layout := ⟨⟨a, ha, ha'⟩, ⟨b, ⟨hb, hb'⟩, apart⟩, gap, before, trail⟩
    refine ⟨⟨ht, bytes, fun _ => ?_, commas, comment⟩, l, ?_⟩
    · rw [word]
      exact ⟨hw, hwt, no_hash⟩
    · rw [written l rfl rfl rfl]
      simp [Layout.line, Layout.optionsPart, some_options, word, l]

/-- **A key is read from exactly the lines that hold it.** -/
theorem keyOn?_eq_some_iff {line : List Char} {k : AuthorizedKey} (oneLine : '\n' ∉ line) :
    AuthorizedKey.keyOn? line = some k ↔ Holds line k := by
  constructor
  · exact holds_of_keyOn? oneLine
  · rintro ⟨writable, l, rfl⟩
    exact l.keyOn?_line writable

end ShellGateway.Auth
