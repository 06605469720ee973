import ShellGateway.Proofs.Auth.KeyGrammar

/-!
# Reading back a list of keys

A key list is read line by line: one key for each line that holds one, in order,
and nothing for any other line (`Listed`). The lines do not get into each other's
way, so a list of keys that was written with white space, line ends and other
lines of one's choice (`Document`) is read back as it was. `ofText_grammar` says
both.
-/

namespace ShellGateway.Auth

open Text

/-- The keys of some lines, in order: one for each line that holds a key. -/
inductive Listed : List (List Char) → List AuthorizedKey → Prop where
  | none : Listed [] []
  | held {line : List Char} {k : AuthorizedKey} {lines : List (List Char)}
      {ks : List AuthorizedKey} (holds : Holds line k) (rest : Listed lines ks) :
      Listed (line :: lines) (k :: ks)
  | skipped {line : List Char} {lines : List (List Char)} {ks : List AuthorizedKey}
      (keyless : ∀ k, ¬ Holds line k) (rest : Listed lines ks) : Listed (line :: lines) ks

/-- The keys that are read from lines are those that are listed. -/
theorem listed_iff {lines : List (List Char)} (oneLine : ∀ line ∈ lines, '\n' ∉ line)
    (ks : List AuthorizedKey) : lines.filterMap AuthorizedKey.keyOn? = ks ↔ Listed lines ks := by
  induction lines generalizing ks with
  | nil =>
    constructor
    · rintro rfl
      exact .none
    · intro h
      cases h
      rfl
  | cons line lines ih =>
    have ih := ih fun l hl => oneLine l (List.mem_cons_of_mem _ hl)
    have read := fun k => keyOn?_eq_some_iff (k := k) (oneLine line List.mem_cons_self)
    cases hline : AuthorizedKey.keyOn? line with
    | none =>
      have keyless : ∀ k, ¬ Holds line k := by
        intro k hk
        cases hline.symm.trans ((read k).mpr hk)
      rw [List.filterMap_cons_none hline, ih]
      constructor
      · exact .skipped keyless
      · intro h
        cases h with
        | held holds => exact absurd holds (keyless _)
        | skipped _ rest => exact rest
    | some k =>
      have holds := (read k).mp hline
      rw [List.filterMap_cons_some hline]
      constructor
      · rintro rfl
        exact .held holds ((ih _).mp rfl)
      · intro h
        cases h with
        | held holds' rest =>
          cases hline.symm.trans ((read _).mpr holds')
          rw [(ih _).mpr rest]
        | skipped keyless => exact absurd holds (keyless k)

/-! ## Documents -/

/-- A line of a document. -/
inductive Row where
  | key (k : AuthorizedKey) (writable : k.IsWritable) (layout : Layout)
  | blank (gap : Gap)
  /-- What begins with a hash sign is a comment, white space at the front apart. -/
  | comment (margin : Gap) (text : List Char) (oneLine : '\n' ∉ text)
  | malformed (text : List Char) (oneLine : '\n' ∉ text) (keyless : ∀ k, ¬ Holds text k)

namespace Row

/-- A line as it is written. -/
def text : Row → List Char
  | key k _ layout => layout.line k
  | blank gap => gap
  | comment margin text _ => margin ++ '#' :: text
  | malformed text _ _ => text

/-- The key on a line. -/
def key? : Row → Option AuthorizedKey
  | key k _ _ => some k
  | _ => none

/-- The key on a line is read from it. -/
theorem keyOn?_text (r : Row) : AuthorizedKey.keyOn? r.text = r.key? := by
  cases r with
  | key k writable layout => exact layout.keyOn?_line writable
  | blank gap =>
    rw [AuthorizedKey.keyOn?, text, trim_allBlank gap.2.1]
    rfl
  | comment margin text oneLine =>
    have hash : (splitWord (margin ++ '#' :: text)).1.head? = some '#' := by
      rw [splitWord, trimStart_append margin.2.1]
      rfl
    rw [AuthorizedKey.keyOn?_eq, Row.text, if_pos hash]
    rfl
  | malformed text oneLine keyless =>
    cases h : AuthorizedKey.keyOn? text with
    | none => exact h
    | some k => exact absurd (holds_of_keyOn? oneLine h) (keyless k)

theorem oneLine_text (r : Row) : '\n' ∉ r.text := by
  cases r with
  | key k writable layout => exact layout.oneLine writable
  | blank gap => exact gap.2.2
  | comment margin text oneLine =>
    rw [Row.text, List.mem_append, List.mem_cons, not_or, not_or]
    exact ⟨margin.2.2, by decide, oneLine⟩
  | malformed text oneLine keyless => exact oneLine

end Row

/-- How a line ends: with a line feed, perhaps after a carriage return. -/
inductive LineEnd where
  | feed
  | returnFeed

/-- The end of a line as it is written. -/
def LineEnd.text : LineEnd → List Char
  | feed => ['\n']
  | returnFeed => ['\r', '\n']

/-- Lines with their ends. What comes last may lack one. -/
structure Document where
  rows : List (Row × LineEnd)
  last : Option Row

namespace Document

/-- The text of a document. -/
def text (d : Document) : List Char :=
  d.rows.flatMap (fun r => r.1.text ++ r.2.text) ++ (d.last.map Row.text).getD []

/-- The keys that were written in a document. -/
def keys (d : Document) : List AuthorizedKey :=
  (d.rows.map (·.1) ++ d.last.toList).filterMap Row.key?

/-- A line is read for itself, and then the rest of the text. -/
theorem ofText_row (r : Row) (e : LineEnd) (rest : List Char) :
    AuthorizedKey.ofText (r.text ++ e.text ++ rest) =
      r.key?.toList ++ AuthorizedKey.ofText rest := by
  -- up to the line feed there is the line, perhaps with a carriage return
  have read : ∃ line, r.text ++ e.text ++ rest = line ++ '\n' :: rest ∧ '\n' ∉ line ∧
      AuthorizedKey.keyOn? line = r.key? := by
    cases e with
    | feed => exact ⟨r.text, by simp [LineEnd.text], r.oneLine_text, r.keyOn?_text⟩
    | returnFeed =>
      refine ⟨r.text ++ ['\r'], by simp [LineEnd.text], ?_, ?_⟩
      · rw [List.mem_append, not_or]
        exact ⟨r.oneLine_text, by decide⟩
      · have blank : AllBlank ['\r'] := by
          intro c hc
          rw [List.mem_singleton.mp hc]
          decide
        have dropped := trim_surrounded (a := []) (fun _ h => by cases h) blank r.text
        rw [List.nil_append] at dropped
        rw [← r.keyOn?_text, AuthorizedKey.keyOn?, AuthorizedKey.keyOn?, dropped]
  obtain ⟨line, split, oneLine, key⟩ := read
  rw [AuthorizedKey.ofText_eq, AuthorizedKey.ofText_eq, splitOn_eq, splitOn_eq, split,
    List.splitOn_append_cons_self_of_not_mem oneLine, List.filterMap_cons, key]
  cases r.key? <;> rfl

/-- What comes last is read for itself. -/
theorem ofText_last (last : Option Row) :
    AuthorizedKey.ofText ((last.map Row.text).getD []) = last.toList.filterMap Row.key? := by
  cases last with
  | none => rfl
  | some r =>
    show AuthorizedKey.ofText r.text = _
    rw [AuthorizedKey.ofText_eq, splitOn_eq, List.splitOn_eq_singleton r.oneLine_text]
    show [r.text].filterMap _ = [r].filterMap _
    rw [List.filterMap_cons, List.filterMap_cons, r.keyOn?_text]
    cases r.key? <;> rfl

/-- The keys of a document are read back from its text. -/
theorem ofText_text (d : Document) : AuthorizedKey.ofText d.text = d.keys := by
  obtain ⟨rows, last⟩ := d
  induction rows with
  | nil => exact ofText_last last
  | cons r rows ih =>
    have first : (⟨r :: rows, last⟩ : Document).text =
        r.1.text ++ r.2.text ++ (⟨rows, last⟩ : Document).text := by
      simp [text]
    rw [first, ofText_row, ih]
    simp only [keys, List.map_cons, List.cons_append, List.filterMap_cons]
    cases r.1.key? <;> rfl

end Document

/-! ## Key lists -/

/-- **A key list holds one key for each line of the form `[options] type data
[comment]`, in order, and nothing else; keys that are written with any white
space, line ends and other lines are read back as they were.** -/
theorem ofText_grammar :
    (∀ content ks, AuthorizedKey.ofText content = ks ↔ Listed (content.splitOn '\n') ks) ∧
      ∀ d : Document, AuthorizedKey.ofText d.text = d.keys := by
  constructor
  · intro content ks
    rw [AuthorizedKey.ofText_eq, ← splitOn_eq]
    exact listed_iff (fun line hline => not_mem_of_mem_splitOn hline) ks
  · exact Document.ofText_text

/-- Two keys, one with options on a line that ends with a carriage return, the
other with a comment at the end of the text. -/
example : AuthorizedKey.ofText
    "# keys\n no-pty,a\tssh-rsa AQID \r\nssh-dss AQ=\n\nssh-dss  AQ== an  old one ".toList =
      [⟨"ssh-rsa".toList, [1, 2, 3], none, ["no-pty".toList, "a".toList]⟩,
        ⟨"ssh-dss".toList, [1], some "an  old one".toList, []⟩] := by
  decide

end ShellGateway.Auth
