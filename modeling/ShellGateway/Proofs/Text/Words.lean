import Mathlib.Data.List.TakeWhile
import ShellGateway.Text.Blank

/-!
# Words and lines

What trimming, splitting off a word and splitting into lines have in common: a
text is a sequence of parts with white space between them, and each operation
finds the parts again, however much white space there is (`trim_append`,
`splitWord_append`). The other way round, every text is laid out like this
(`exists_trim`, `exists_splitWord`).

A reader of lines that does not mind white space at the ends of a line cannot
tell lines that end with a carriage return from others (`filterMap_lines`).
-/

namespace ShellGateway.Text

/-- Nothing but white space. -/
def AllBlank (s : List Char) : Prop :=
  ∀ c ∈ s, isBlank c = true

/-- Something without white space. -/
structure IsWord (s : List Char) : Prop where
  ne_nil : s ≠ []
  solid : ∀ c ∈ s, isBlank c = false

/-- A text that is empty or goes on with white space, so that a word before it
ends there. -/
def StartsBlank (s : List Char) : Prop :=
  ∀ c ∈ s.head?, isBlank c = true

/-- A text with no white space at its ends. -/
structure IsTrimmed (s : List Char) : Prop where
  first : ∀ c ∈ s.head?, isBlank c = false
  last : ∀ c ∈ s.getLast?, isBlank c = false

theorem AllBlank.append {a b : List Char} (ha : AllBlank a) (hb : AllBlank b) :
    AllBlank (a ++ b) := by
  intro c hc
  rcases List.mem_append.mp hc with h | h
  · exact ha c h
  · exact hb c h

theorem AllBlank.startsBlank {a : List Char} (ha : AllBlank a) : StartsBlank a :=
  fun c hc => ha c (List.mem_of_mem_head? hc)

/-- White space that is there ends a word, whatever comes after it. -/
theorem AllBlank.startsBlank_append {a : List Char} (ha : AllBlank a) (hne : a ≠ [])
    (s : List Char) : StartsBlank (a ++ s) := by
  intro c hc
  cases a with
  | nil => exact absurd rfl hne
  | cons x rest =>
    obtain rfl := Option.some.inj hc
    exact ha x List.mem_cons_self

/-- A line feed is white space. -/
theorem IsWord.oneLine {w : List Char} (hw : IsWord w) : '\n' ∉ w := by
  intro h
  have solid := hw.solid '\n' h
  cases solid.symm.trans (show isBlank '\n' = true by decide)

theorem IsWord.isTrimmed {w : List Char} (hw : IsWord w) : IsTrimmed w where
  first c hc := hw.solid c (List.mem_of_mem_head? hc)
  last c hc := hw.solid c (List.mem_of_mem_getLast? hc)

/-! ## Trimming -/

theorem trimStart_append {a : List Char} (ha : AllBlank a) (s : List Char) :
    trimStart (a ++ s) = trimStart s :=
  List.dropWhile_append_of_pos ha

theorem trimEnd_append {b : List Char} (hb : AllBlank b) (s : List Char) :
    trimEnd (s ++ b) = trimEnd s := by
  unfold trimEnd
  rw [List.reverse_append, List.dropWhile_append_of_pos]
  intro c hc
  exact hb c (List.mem_reverse.mp hc)

theorem trimStart_of_first {s : List Char} (hs : ∀ c ∈ s.head?, isBlank c = false) :
    trimStart s = s := by
  cases s with
  | nil => rfl
  | cons x rest => exact List.dropWhile_cons_of_neg (by simp [hs x rfl])

theorem trimEnd_of_last {s : List Char} (hs : ∀ c ∈ s.getLast?, isBlank c = false) :
    trimEnd s = s := by
  have reversed : trimStart s.reverse = s.reverse := by
    refine trimStart_of_first fun c hc => hs c ?_
    rwa [List.head?_reverse] at hc
  show (trimStart s.reverse).reverse = s
  rw [reversed, List.reverse_reverse]

/-- White space around a trimmed text is all that trimming drops. -/
theorem trim_append {a m b : List Char} (ha : AllBlank a) (hm : IsTrimmed m) (hb : AllBlank b) :
    trim (a ++ m ++ b) = m := by
  unfold trim
  cases m with
  | nil =>
    rw [List.append_nil, trimStart_append ha, show trimStart b = [] from ?_]
    · rfl
    · exact List.dropWhile_eq_nil_iff.mpr hb
  | cons x rest =>
    have first : ∀ c ∈ (x :: rest ++ b).head?, isBlank c = false := fun c hc => hm.first c hc
    rw [List.append_assoc, trimStart_append ha, trimStart_of_first first, trimEnd_append hb,
      trimEnd_of_last hm.last]

/-- What trimming leaves, and what it drops. -/
theorem exists_trim (s : List Char) :
    ∃ a b, AllBlank a ∧ AllBlank b ∧ IsTrimmed (trim s) ∧ s = a ++ trim s ++ b := by
  have front : s.takeWhile isBlank ++ trimStart s = s := List.takeWhile_append_dropWhile
  have back : trim s ++ ((trimStart s).reverse.takeWhile isBlank).reverse = trimStart s := by
    unfold trim trimEnd
    rw [← List.reverse_append, List.takeWhile_append_dropWhile, List.reverse_reverse]
  refine ⟨s.takeWhile isBlank, ((trimStart s).reverse.takeWhile isBlank).reverse,
    fun c hc => List.mem_takeWhile_imp hc,
    fun c hc => List.mem_takeWhile_imp (List.mem_reverse.mp hc), ⟨?_, ?_⟩, ?_⟩
  · intro c hc
    -- the first character that is left is the first that is not dropped at the front
    have first : c ∈ (trimStart s).head? := by
      rw [← back, List.head?_append]
      simp [Option.mem_def.mp hc]
    have := List.head?_dropWhile_not isBlank s
    rw [show (s.dropWhile isBlank).head? = some c from first] at this
    exact this
  · intro c hc
    have last : ((trimStart s).reverse.dropWhile isBlank).head? = some c := by
      rw [← List.getLast?_reverse]
      exact hc
    have := List.head?_dropWhile_not isBlank (trimStart s).reverse
    rw [last] at this
    exact this
  · rw [List.append_assoc, back, front]

@[simp]
theorem trim_trim (s : List Char) : trim (trim s) = trim s := by
  obtain ⟨-, -, -, -, trimmed, -⟩ := exists_trim s
  have := trim_append (a := []) (b := []) (fun _ h => by cases h) trimmed fun _ h => by cases h
  rwa [List.nil_append, List.append_nil] at this

/-- White space at the ends does not matter. -/
theorem trim_surrounded {a b : List Char} (ha : AllBlank a) (hb : AllBlank b) (s : List Char) :
    trim (a ++ s ++ b) = trim s := by
  obtain ⟨a', b', ha', hb', trimmed, hs⟩ := exists_trim s
  calc trim (a ++ s ++ b)
      = trim (a ++ (a' ++ trim s ++ b') ++ b) := by rw [← hs]
    _ = trim (a ++ a' ++ trim s ++ (b' ++ b)) := by simp only [List.append_assoc]
    _ = trim s := trim_append (ha.append ha') trimmed (hb'.append hb)

/-- Nothing is left of white space. -/
theorem trim_allBlank {s : List Char} (hs : AllBlank s) : trim s = [] := by
  have := trim_surrounded hs (b := []) (fun _ h => by cases h) []
  rwa [List.append_nil, List.append_nil] at this

/-! ## Words -/

/-- The first word is found, whatever white space there is before it, and so is
the rest without the white space around it. -/
theorem splitWord_append {a w : List Char} (ha : AllBlank a) (hw : IsWord w) {rest : List Char}
    (hr : StartsBlank rest) : splitWord (a ++ w ++ rest) = (w, trim rest) := by
  have solid : ∀ c ∈ w, (! isBlank c) = true := fun c hc => by simp [hw.solid c hc]
  have start : trimStart (a ++ w ++ rest) = w ++ rest := by
    rw [List.append_assoc, trimStart_append ha]
    refine trimStart_of_first fun c hc => ?_
    obtain ⟨x, left, rfl⟩ := List.exists_cons_of_ne_nil hw.ne_nil
    exact hw.isTrimmed.first c hc
  have taken : rest.takeWhile (! isBlank ·) = [] ∧ rest.dropWhile (! isBlank ·) = rest := by
    cases rest with
    | nil => exact ⟨rfl, rfl⟩
    | cons x rest => simp [hr x rfl]
  unfold splitWord
  dsimp only
  rw [start, List.takeWhile_append_of_pos solid, List.dropWhile_append_of_pos solid, taken.1,
    taken.2, List.append_nil]

/-- Every text that is not all white space is laid out like that. -/
theorem exists_splitWord (s : List Char) :
    AllBlank s ∧ splitWord s = ([], []) ∨
      ∃ a w rest, AllBlank a ∧ IsWord w ∧ StartsBlank rest ∧ s = a ++ w ++ rest := by
  have front : s.takeWhile isBlank ++ trimStart s = s := List.takeWhile_append_dropWhile
  have split : (trimStart s).takeWhile (! isBlank ·) ++ (trimStart s).dropWhile (! isBlank ·)
      = trimStart s := List.takeWhile_append_dropWhile
  cases hs : trimStart s with
  | nil =>
    refine .inl ⟨List.dropWhile_eq_nil_iff.mp hs, ?_⟩
    unfold splitWord
    dsimp only
    rw [hs]
    rfl
  | cons x left =>
    refine .inr ⟨s.takeWhile isBlank, (trimStart s).takeWhile (! isBlank ·),
      (trimStart s).dropWhile (! isBlank ·), fun c hc => List.mem_takeWhile_imp hc, ⟨?_, ?_⟩, ?_, ?_⟩
    · -- what is not dropped at the front begins with the word
      have := List.head?_dropWhile_not isBlank s
      rw [show s.dropWhile isBlank = x :: left from hs] at this
      have solid : isBlank x = false := this
      rw [hs, List.takeWhile_cons_of_pos (by simp [solid])]
      exact List.cons_ne_nil _ _
    · intro c hc
      simpa using List.mem_takeWhile_imp hc
    · intro c hc
      have := List.head?_dropWhile_not (! isBlank ·) (trimStart s)
      rw [Option.mem_def.mp hc] at this
      simpa using this
    · rw [List.append_assoc, split, front]

/-- A word that has white space at its front is apart from what comes before it. -/
theorem ne_nil_of_startsBlank {b w rest : List Char} (hw : IsWord w)
    (h : StartsBlank (b ++ w ++ rest)) : b ≠ [] := by
  rintro rfl
  obtain ⟨x, left, rfl⟩ := List.exists_cons_of_ne_nil hw.ne_nil
  have blank := h x rfl
  rw [hw.solid x List.mem_cons_self] at blank
  cases blank

/-- Trimming a text does not change its first word, nor the rest. -/
@[simp]
theorem splitWord_trim (s : List Char) : splitWord (trim s) = splitWord s := by
  obtain ⟨a, b, ha, hb, trimmed, hs⟩ := exists_trim s
  rcases exists_splitWord (trim s) with ⟨blank, none⟩ | ⟨a', w, rest, ha', hw, hr, hsplit⟩
  · have empty : trim s = [] := by rw [← trim_trim, trim_allBlank blank]
    rw [empty, List.append_nil] at hs
    rcases exists_splitWord s with ⟨-, none'⟩ | ⟨a', w, rest, -, hw, -, hsplit⟩
    · rw [none, none']
    · -- white space has no words
      obtain ⟨x, left, rfl⟩ := List.exists_cons_of_ne_nil hw.ne_nil
      have solid := hw.solid x List.mem_cons_self
      have blank : isBlank x = true := by
        refine (ha.append hb) x ?_
        rw [← hs, hsplit]
        simp
      rw [solid] at blank
      cases blank
  · have laidOut : s = a ++ a' ++ w ++ (rest ++ b) := by
      rw [hsplit] at hs
      simpa only [List.append_assoc] using hs
    have starts : StartsBlank (rest ++ b) := by
      cases rest with
      | nil => exact hb.startsBlank
      | cons x rest => exact fun c hc => hr c hc
    have dropped := trim_surrounded (a := []) (fun _ h => by cases h) hb rest
    rw [List.nil_append] at dropped
    calc splitWord (trim s)
        = (w, trim rest) := by rw [hsplit, splitWord_append ha' hw hr]
      _ = splitWord s := by rw [laidOut, splitWord_append (ha.append ha') hw starts, dropped]

/-! ## Lines -/

/-- A text is taken apart at a separator as lists are. -/
theorem splitOn_eq (sep : Char) (s : List Char) : splitOn sep s = s.splitOn sep := by
  induction s with
  | nil => rfl
  | cons c rest ih =>
    rw [splitOn, ih, List.splitOn_cons_eq_if_modifyHead]
    by_cases hc : c = sep
    · rw [if_pos hc, if_pos (beq_iff_eq.mpr hc)]
    · rw [if_neg hc, if_neg (by simpa using hc)]
      cases hrest : rest.splitOn sep with
      | nil => exact absurd hrest (List.splitOn_ne_nil sep rest)
      | cons piece pieces => rfl

/-- The pieces hold no separator. -/
theorem not_mem_of_mem_splitOn {sep : Char} {s piece : List Char} (h : piece ∈ splitOn sep s) :
    sep ∉ piece := by
  induction s generalizing piece with
  | nil =>
    rw [List.mem_singleton.mp h]
    exact List.not_mem_nil
  | cons c rest ih =>
    rw [splitOn] at h
    split at h
    · rcases List.mem_cons.mp h with rfl | h
      · exact List.not_mem_nil
      · exact ih h
    · rename_i hc
      split at h
      · rw [List.mem_singleton.mp h, List.mem_singleton]
        exact Ne.symm hc
      · rename_i first pieces hrest
        rw [hrest] at ih
        rcases List.mem_cons.mp h with rfl | h
        · rw [List.mem_cons]
          rintro (hsep | hsep)
          · exact hc hsep.symm
          · exact ih List.mem_cons_self hsep
        · exact ih (List.mem_cons_of_mem _ h)

/-- The pieces hold nothing but what the text holds. -/
theorem mem_of_mem_splitOn {sep c : Char} {s piece : List Char} (h : piece ∈ splitOn sep s)
    (hc : c ∈ piece) : c ∈ s := by
  induction s generalizing piece with
  | nil =>
    rw [List.mem_singleton.mp h] at hc
    exact hc
  | cons first rest ih =>
    rw [splitOn] at h
    split at h
    · rcases List.mem_cons.mp h with rfl | h
      · cases hc
      · exact List.mem_cons_of_mem _ (ih h hc)
    · split at h
      · rw [List.mem_singleton.mp h, List.mem_singleton] at hc
        exact hc ▸ List.mem_cons_self
      · rename_i piece' pieces hrest
        rw [hrest] at ih
        rcases List.mem_cons.mp h with rfl | h
        · rcases List.mem_cons.mp hc with rfl | hc
          · exact List.mem_cons_self
          · exact List.mem_cons_of_mem _ (ih List.mem_cons_self hc)
        · exact List.mem_cons_of_mem _ (ih (List.mem_cons_of_mem _ h) hc)

/-! ## Cutting at a separator -/

theorem cut_of_not_mem {sep : Char} {s : List Char} (h : sep ∉ s) : cut sep s = (s, none) := by
  induction s with
  | nil => rfl
  | cons c rest ih =>
    rw [List.mem_cons, not_or] at h
    rw [cut, if_neg (Ne.symm h.1), ih h.2]

/-- A text is cut at the first separator. -/
theorem cut_append {sep : Char} {before : List Char} (h : sep ∉ before) (after : List Char) :
    cut sep (before ++ sep :: after) = (before, some after) := by
  induction before with
  | nil => rw [List.nil_append, cut, if_pos rfl]
  | cons c rest ih =>
    rw [List.mem_cons, not_or] at h
    rw [List.cons_append, cut, if_neg (Ne.symm h.1), ih h.2]

/-- A text without the separator, or with a first one. -/
theorem exists_cut (sep : Char) (s : List Char) :
    sep ∉ s ∨ ∃ before after, sep ∉ before ∧ s = before ++ sep :: after := by
  by_cases h : sep ∈ s
  · obtain ⟨before, after, cut, first⟩ := List.eq_append_cons_of_mem h
    exact .inr ⟨before, after, first, cut⟩
  · exact .inl h

/-! ## Line ends -/

/-- At most a carriage return is dropped. -/
theorem dropReturn_cases (s : List Char) : dropReturn s = s ∨ s = dropReturn s ++ ['\r'] := by
  unfold dropReturn
  split
  · rename_i r hr
    refine .inr ?_
    rw [← List.reverse_reverse s, hr, List.reverse_cons]
  · exact .inl rfl

/-- A carriage return that is dropped is white space at the end. -/
@[simp]
theorem trim_dropReturn (s : List Char) : trim (dropReturn s) = trim s := by
  rcases dropReturn_cases s with h | h
  · rw [h]
  · have blank : AllBlank ['\r'] := by
      intro c hc
      rw [List.mem_singleton.mp hc]
      decide
    have := trim_surrounded (a := []) (fun _ h => by cases h) blank (dropReturn s)
    rw [List.nil_append, ← h] at this
    exact this.symm

/-- A reader of lines that finds nothing on an empty line, and does not mind a
carriage return at the end of one, reads the pieces between line feeds. -/
theorem filterMap_lines {α : Type} {read : List Char → Option α} (empty : read [] = none)
    (ending : ∀ line, read (dropReturn line) = read line) (s : List Char) :
    (lines s).filterMap read = (splitOn '\n' s).filterMap read := by
  have returns : ∀ pieces : List (List Char),
      (pieces.map dropReturn).filterMap read = pieces.filterMap read := by
    intro pieces
    rw [List.filterMap_map]
    exact congrArg (List.filterMap · pieces) (funext ending)
  unfold lines
  split
  · rename_i none
    rw [List.reverse_eq_nil_iff.mp none]
  · rename_i last earlier pieces
    rw [← List.reverse_reverse (splitOn '\n' s), pieces, List.reverse_cons, List.filterMap_append]
    cases last with
    | nil =>
      show (earlier.reverse.map dropReturn).filterMap read = _
      rw [returns, List.filterMap_cons_none empty, List.filterMap_nil, List.append_nil]
    | cons x rest =>
      show (earlier.reverse.map dropReturn ++ [x :: rest]).filterMap read = _
      rw [List.filterMap_append, returns]

end ShellGateway.Text
