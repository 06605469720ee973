import Mathlib.Data.List.Forall2
import Mathlib.Data.List.Induction
import ShellGateway.Proofs.Text.Digits
import ShellGateway.Proofs.Text.Words
import ShellGateway.Web.TerminalQuery

/-!
# What becomes of a terminal's query

A query is written as pieces with ampersands between them, and each piece as a key and a value
with an equals sign between them; `HasPairs` reads this backwards, without cutting anything. Of
the pairs only three keys count, and of the values for a key the last (`last?`). `Asks` says which
terminal a query asks for, `Refused` why one is refused: whatever comes first in the query decides
among widths and heights that are no numbers, and after them what is missing, in the order
session, width, height, and the size at last. Every query has exactly one outcome
(`query_decision`), so what is refused for one reason is not refused for another.

A session's name is taken as it stands. It may hold anything but an ampersand, an equals sign
too, since a piece is cut at its first one.
-/

namespace ShellGateway.Web.TerminalQuery

open Text

/-- A key and its value. -/
abbrev Pair := List Char × List Char

/-! ## Pieces and pairs -/

/-- A piece of a query stands for a pair: the key goes up to the first equals sign; without one
the piece is all key. -/
def IsPair (piece : List Char) (pair : Pair) : Prop :=
  '=' ∉ pair.1 ∧ (piece = pair.1 ++ '=' :: pair.2 ∨ piece = pair.1 ∧ pair.2 = [])

/-- The pairs of a query, in order. Empty pieces stand for none. -/
def HasPairs (query : List Char) (ps : List Pair) : Prop :=
  ∃ pieces : List (List Char), pieces ≠ [] ∧ (∀ piece ∈ pieces, '&' ∉ piece) ∧
    query = ['&'].intercalate pieces ∧ List.Forall₂ IsPair (pieces.filter (!·.isEmpty)) ps

/-- The pair of a piece. -/
def ofPiece (piece : List Char) : Pair :=
  ((cut '=' piece).1, (cut '=' piece).2.getD [])

theorem isPair_iff {piece : List Char} {pair : Pair} :
    IsPair piece pair ↔ ofPiece piece = pair := by
  constructor
  · rintro ⟨key, rfl | ⟨rfl, none⟩⟩
    · rw [ofPiece, cut_append key]
      rfl
    · rw [ofPiece, cut_of_not_mem key]
      exact Prod.ext rfl none.symm
  · rintro rfl
    obtain none | ⟨key, value, first, rfl⟩ := exists_cut '=' piece
    · rw [ofPiece, cut_of_not_mem none]
      exact ⟨none, .inr ⟨rfl, rfl⟩⟩
    · rw [ofPiece, cut_append first]
      exact ⟨first, .inl rfl⟩

theorem forall₂_isPair {pieces : List (List Char)} {ps : List Pair} :
    List.Forall₂ IsPair pieces ps ↔ pieces.map ofPiece = ps := by
  have same : IsPair = fun piece pair => ofPiece piece = pair :=
    funext fun _ => funext fun _ => propext isPair_iff
  rw [same, ← List.forall₂_map_left_iff (f := ofPiece) (R := Eq), List.forall₂_eq_eq_eq]

/-- **Every query has its pairs, and no others.** -/
theorem hasPairs_iff {query : List Char} {ps : List Pair} :
    HasPairs query ps ↔ pairs query = ps := by
  have split : pairs query = ((query.splitOn '&').filter (!·.isEmpty)).map ofPiece := by
    rw [← splitOn_eq]
    rfl
  rw [split]
  constructor
  · rintro ⟨pieces, some, separate, rfl, stand⟩
    rw [List.splitOn_intercalate '&' separate some]
    exact forall₂_isPair.mp stand
  · intro stand
    refine ⟨query.splitOn '&', List.splitOn_ne_nil '&' query, fun piece h => ?_,
      (List.intercalate_splitOn '&').symm, forall₂_isPair.mpr stand⟩
    rw [← splitOn_eq] at h
    exact not_mem_of_mem_splitOn h

/-! ## Values -/

/-- The values for a key, in order. -/
def valuesOf (key : String) (ps : List Pair) : List (List Char) :=
  (ps.filter (·.1 = key.toList)).map (·.2)

/-- The last value for a key. -/
def last? (key : String) (ps : List Pair) : Option (List Char) :=
  (valuesOf key ps).getLast?

/-- What is given as a width or a height is a number. -/
def WellFormed (pair : Pair) : Prop :=
  pair.1 = "w".toList ∨ pair.1 = "h".toList → ∃ n, Digit.Unsigned UInt32.size pair.2 n

/-- The last value for a key is a number. -/
def IsSet (key : String) (n : Nat) (ps : List Pair) : Prop :=
  ∃ value, last? key ps = some value ∧ Digit.Unsigned UInt32.size value n

/-- The last session that is named has a name. -/
def Named (id : List Char) (ps : List Pair) : Prop :=
  last? "session_id" ps = some id ∧ id ≠ []

/-! ## Outcomes -/

/-- The pairs ask for a terminal. -/
structure Asks (ps : List Pair) (t : TerminalQuery) : Prop where
  wellFormed : ∀ p ∈ ps, WellFormed p
  named : Named t.sessionId.toList ps
  width : IsSet "w" t.window.width ps
  height : IsSet "h" t.window.height ps
  admissible : t.window.Admissible

/-- The pairs are refused. -/
inductive Refused (ps : List Pair) : Failure → Prop where
  /-- The first width or height that is not a number. -/
  | malformed {before after : List Pair} {key : String} {value : List Char}
      (first : ps = before ++ (key.toList, value) :: after)
      (wellFormed : ∀ p ∈ before, WellFormed p)
      (dimension : key = "w" ∨ key = "h") (ill : ∀ n, ¬ Digit.Unsigned UInt32.size value n) :
      Refused ps (.protocol (key ++ " is not a number: " ++ quoted (String.ofList value)))
  | noSession (wellFormed : ∀ p ∈ ps, WellFormed p) (unnamed : ∀ id, ¬ Named id ps) :
      Refused ps (.protocol "missing session_id")
  | noWidth {id : List Char} (wellFormed : ∀ p ∈ ps, WellFormed p) (named : Named id ps)
      (missing : valuesOf "w" ps = []) : Refused ps (.protocol "missing w")
  | noHeight {id : List Char} (wellFormed : ∀ p ∈ ps, WellFormed p) (named : Named id ps)
      (given : valuesOf "w" ps ≠ []) (missing : valuesOf "h" ps = []) :
      Refused ps (.protocol "missing h")
  /-- The size, whatever else is wrong, comes last. -/
  | badWindow {id : List Char} {width height : Nat} (wellFormed : ∀ p ∈ ps, WellFormed p)
      (named : Named id ps) (wide : IsSet "w" width ps) (high : IsSet "h" height ps)
      (outside : ¬ (⟨width, height⟩ : Window).Admissible) :
      Refused ps (.invalidWindow ⟨width, height⟩)

/-! ## Taking note of pairs -/

/-- The last values, as they are noted. -/
def noted (ps : List Pair) : Seen where
  sessionId := last? "session_id" ps
  width := last? "w" ps >>= Digit.unsigned? UInt32.size
  height := last? "h" ps >>= Digit.unsigned? UInt32.size

theorem last?_concat (key : String) (ps : List Pair) (p : Pair) :
    last? key (ps ++ [p]) = if p.1 = key.toList then some p.2 else last? key ps := by
  unfold last? valuesOf
  rw [List.filter_append, List.map_append]
  split
  · rename_i h
    rw [List.filter_cons_of_pos (by simpa using h)]
    exact List.getLast?_concat
  · rename_i h
    rw [List.filter_cons_of_neg (by simpa using h)]
    simp

theorem dimension_ok {name : String} {value : List Char} {n : Nat}
    (h : Digit.Unsigned UInt32.size value n) : dimension name value = .ok n := by
  rw [dimension, Digit.unsigned?_eq_some.mpr h]

theorem dimension_error {name : String} {value : List Char}
    (h : ∀ n, ¬ Digit.Unsigned UInt32.size value n) :
    dimension name value
      = .error (.protocol (name ++ " is not a number: " ++ quoted (String.ofList value))) := by
  have none : Digit.unsigned? UInt32.size value = none :=
    Option.eq_none_iff_forall_ne_some.mpr fun n hn => h n (Digit.unsigned?_eq_some.mp hn)
  rw [dimension, none]

/-- A pair is noted under its key. -/
theorem note_noted {ps : List Pair} {p : Pair} (h : WellFormed p) :
    (noted ps).note p = .ok (noted (ps ++ [p])) := by
  unfold Seen.note noted
  simp only [last?_concat]
  by_cases session : p.1 = "session_id".toList
  · rw [if_pos session, session]
    simp
  · rw [if_neg session, if_neg session]
    by_cases width : p.1 = "w".toList
    · obtain ⟨n, hn⟩ := h (.inl width)
      rw [if_pos width, dimension_ok hn, width]
      simp [Digit.unsigned?_eq_some.mpr hn, bind, Except.bind, pure, Except.pure]
    · rw [if_neg width, if_neg width]
      by_cases height : p.1 = "h".toList
      · obtain ⟨n, hn⟩ := h (.inr height)
        rw [if_pos height, dimension_ok hn, if_pos height]
        simp [Digit.unsigned?_eq_some.mpr hn, bind, Except.bind, pure, Except.pure]
      · rw [if_neg height, if_neg height]

/-- What is well formed is noted to the end. -/
theorem foldlM_note {ps : List Pair} (h : ∀ p ∈ ps, WellFormed p) :
    ps.foldlM Seen.note {} = .ok (noted ps) := by
  induction ps using List.reverseRecOn with
  | nil => rfl
  | append_singleton ps p ih =>
    rw [List.foldlM_append, ih fun q hq => h q (List.mem_append_left _ hq)]
    show (noted ps).note p >>= pure = _
    rw [note_noted (h p (List.mem_append_right _ List.mem_cons_self)), bind_pure]

/-- The first pair that is not well formed ends it. -/
theorem foldlM_note_error {before after : List Pair} {p : Pair} {f : Failure}
    (h : ∀ p ∈ before, WellFormed p) (ill : ∀ seen : Seen, seen.note p = .error f) :
    (before ++ p :: after).foldlM Seen.note {} = .error f := by
  rw [List.foldlM_append, foldlM_note h]
  show (noted before).note p >>= (fun seen => after.foldlM Seen.note seen) = _
  rw [ill]
  rfl

theorem note_error {key : String} {value : List Char} (dimension : key = "w" ∨ key = "h")
    (ill : ∀ n, ¬ Digit.Unsigned UInt32.size value n) (seen : Seen) :
    seen.note (key.toList, value)
      = .error (.protocol (key ++ " is not a number: " ++ quoted (String.ofList value))) := by
  unfold Seen.note
  obtain rfl | rfl := dimension
  · simp [dimension_error ill, bind, Except.bind]
  · simp [dimension_error ill, bind, Except.bind]

/-! ## The decision -/

variable {ps : List Pair}

/-- Two readings of what makes up a name. -/
theorem noted_sessionId {id : List Char} (h : Named id ps) :
    (noted ps).sessionId.filter (!·.isEmpty) = some id := by
  show (last? "session_id" ps).filter (fun id => !id.isEmpty) = some id
  rw [h.1, Option.filter_some_pos]
  simpa using h.2

theorem noted_unnamed (h : ∀ id, ¬ Named id ps) :
    (noted ps).sessionId.filter (!·.isEmpty) = none := by
  show (last? "session_id" ps).filter (fun id => !id.isEmpty) = none
  cases last : last? "session_id" ps with
  | none => rfl
  | some id =>
    cases id with
    | nil => rfl
    | cons c rest => exact absurd ⟨last, List.cons_ne_nil c rest⟩ (h (c :: rest))

theorem noted_set {key : String} {n : Nat} (h : IsSet key n ps) :
    (last? key ps >>= Digit.unsigned? UInt32.size) = some n := by
  obtain ⟨value, last, spells⟩ := h
  rw [last]
  exact Digit.unsigned?_eq_some.mpr spells

theorem noted_missing {key : String} (h : valuesOf key ps = []) :
    (last? key ps >>= Digit.unsigned? UInt32.size) = none := by
  unfold last?
  rw [h]
  rfl

/-- A key that has values has a last one. -/
theorem mem_of_last? {key : String} {value : List Char} (h : last? key ps = some value) :
    (key.toList, value) ∈ ps := by
  obtain ⟨p, here, rfl⟩ := List.mem_map.mp (List.mem_of_getLast? h)
  obtain ⟨here, keyed⟩ := List.mem_filter.mp here
  rw [← of_decide_eq_true keyed]
  exact here

theorem exists_isSet {key : String} (dimension : key = "w" ∨ key = "h")
    (wellFormed : ∀ p ∈ ps, WellFormed p) (given : valuesOf key ps ≠ []) : ∃ n, IsSet key n ps := by
  have last : last? key ps = some ((valuesOf key ps).getLast given) :=
    List.getLast?_eq_some_getLast given
  obtain ⟨n, spells⟩ := wellFormed _ (mem_of_last? last)
    (dimension.imp (congrArg String.toList) (congrArg String.toList))
  exact ⟨n, _, last, spells⟩

/-- What pairs ask for is what is read. -/
theorem Asks.parse {query : String} {t : TerminalQuery} (h : Asks ps t)
    (given : pairs query.toList = ps) : parse query = .ok t := by
  have id := noted_sessionId h.named
  have width : (noted ps).width = some t.window.width := noted_set h.width
  have height : (noted ps).height = some t.window.height := noted_set h.height
  unfold TerminalQuery.parse
  rw [given, foldlM_note h.wellFormed]
  simp [Seen.finish, id, width, height, require, Window.checked, h.admissible, bind, Except.bind,
    pure, Except.pure]

theorem Refused.parse {query : String} {f : Failure} (h : Refused ps f)
    (given : pairs query.toList = ps) : parse query = .error f := by
  unfold TerminalQuery.parse
  rw [given]
  -- What is well formed is noted to the end, so only the first case ends before.
  cases h with
  | malformed first wellFormed dimension ill =>
    rw [first, foldlM_note_error wellFormed (note_error dimension ill)]
    rfl
  | noSession wellFormed unnamed =>
    have id := noted_unnamed unnamed
    rw [foldlM_note wellFormed]
    simp [Seen.finish, id, require, bind, Except.bind]
  | noWidth wellFormed named missing =>
    have id := noted_sessionId named
    have width : (noted ps).width = none := noted_missing missing
    rw [foldlM_note wellFormed]
    simp [Seen.finish, id, width, require, bind, Except.bind]
  | noHeight wellFormed named given missing =>
    obtain ⟨n, set⟩ := exists_isSet (.inl rfl) wellFormed given
    have id := noted_sessionId named
    have width : (noted ps).width = some n := noted_set set
    have height : (noted ps).height = none := noted_missing missing
    rw [foldlM_note wellFormed]
    simp [Seen.finish, id, width, height, require, bind, Except.bind]
  | @badWindow _ width height wellFormed named wide high outside =>
    have id := noted_sessionId named
    have wide : (noted ps).width = some width := noted_set wide
    have high : (noted ps).height = some height := noted_set high
    rw [foldlM_note wellFormed]
    simp [Seen.finish, id, wide, high, require, Window.checked, outside, bind, Except.bind]

/-- Where not everything is well formed, there is a first pair that is not. -/
theorem exists_malformed (h : ¬ ∀ p ∈ ps, WellFormed p) :
    ∃ before p after,
      ps = before ++ p :: after ∧ (∀ q ∈ before, WellFormed q) ∧ ¬ WellFormed p := by
  induction ps with
  | nil => exact absurd (fun _ none => by cases none) h
  | cons p rest ih =>
    by_cases here : WellFormed p
    · rw [List.forall_mem_cons, and_iff_right here] at h
      obtain ⟨before, q, after, rfl, wellFormed, ill⟩ := ih h
      exact ⟨p :: before, q, after, rfl, List.forall_mem_cons.mpr ⟨here, wellFormed⟩, ill⟩
    · exact ⟨[], p, rest, rfl, fun _ none => (List.not_mem_nil none).elim, here⟩

/-- Every list of pairs has an outcome. -/
theorem asks_or_refused (ps : List Pair) : (∃ t, Asks ps t) ∨ ∃ f, Refused ps f := by
  -- In the order in which a query is judged.
  by_cases wellFormed : ∀ p ∈ ps, WellFormed p
  · by_cases named : ∃ id, Named id ps
    · obtain ⟨id, named⟩ := named
      by_cases wide : valuesOf "w" ps = []
      · exact .inr ⟨_, .noWidth wellFormed named wide⟩
      · by_cases high : valuesOf "h" ps = []
        · exact .inr ⟨_, .noHeight wellFormed named wide high⟩
        · obtain ⟨width, wide⟩ := exists_isSet (.inl rfl) wellFormed wide
          obtain ⟨height, high⟩ := exists_isSet (.inr rfl) wellFormed high
          by_cases admissible : (⟨width, height⟩ : Window).Admissible
          · refine .inl
              ⟨⟨String.ofList id, ⟨width, height⟩⟩, wellFormed, ?_, wide, high, admissible⟩
            rw [String.toList_ofList]
            exact named
          · exact .inr ⟨_, .badWindow wellFormed named wide high admissible⟩
    · exact .inr ⟨_, .noSession wellFormed (not_exists.mp named)⟩
  · obtain ⟨before, ⟨key, value⟩, after, first, before_wellFormed, ill⟩ :=
      exists_malformed wellFormed
    obtain ⟨dimension, ill⟩ := Classical.not_imp.mp ill
    have ill := not_exists.mp ill
    obtain rfl | rfl := dimension
    · exact .inr ⟨_, .malformed first before_wellFormed (.inl rfl) ill⟩
    · exact .inr ⟨_, .malformed first before_wellFormed (.inr rfl) ill⟩

theorem parse_ok_iff {query : String} {t : TerminalQuery} (given : pairs query.toList = ps) :
    parse query = .ok t ↔ Asks ps t := by
  -- There is an outcome, and `parse` has but one.
  refine ⟨fun h => ?_, fun asks => asks.parse given⟩
  obtain ⟨t', asks⟩ | ⟨f, refused⟩ := asks_or_refused ps
  · cases h.symm.trans (asks.parse given)
    exact asks
  · cases h.symm.trans (refused.parse given)

theorem parse_error_iff {query : String} {f : Failure} (given : pairs query.toList = ps) :
    parse query = .error f ↔ Refused ps f := by
  refine ⟨fun h => ?_, fun refused => refused.parse given⟩
  obtain ⟨t, asks⟩ | ⟨f', refused⟩ := asks_or_refused ps
  · cases h.symm.trans (asks.parse given)
  · cases h.symm.trans (refused.parse given)
    exact refused

/-! ## Writing a query -/

/-- The keys that count. -/
def keys : List (List Char) :=
  ["session_id".toList, "w".toList, "h".toList]

/-- The pairs that ask for a terminal. -/
def pairsFor (t : TerminalQuery) : List Pair :=
  [("session_id".toList, t.sessionId.toList), ("w".toList, Digit.write 10 t.window.width),
   ("h".toList, Digit.write 10 t.window.height)]

/-- A pair as a piece of a query. -/
def written (pair : Pair) : List Char :=
  pair.1 ++ '=' :: pair.2

/-- A query for a terminal, in pieces: the three that ask for it in some order, and others among
them that have other keys. -/
def Writes (pieces : List (List Char)) (t : TerminalQuery) : Prop :=
  ∃ others, pieces.Perm ((pairsFor t).map written ++ others) ∧
    ∀ piece ∈ others, '&' ∉ piece ∧ ∀ pair, IsPair piece pair → pair.1 ∉ keys

/-- A query can ask for the terminal. -/
structure CanAsk (t : TerminalQuery) : Prop where
  named : t.sessionId ≠ ""
  separable : '&' ∉ t.sessionId.toList
  admissible : t.window.Admissible

variable {t : TerminalQuery} {pieces : List (List Char)}

theorem unsigned_write {n limit : Nat} (h : n < limit) :
    Digit.Unsigned limit (Digit.write 10 n) n := by
  obtain ⟨nonempty, decimal, number⟩ :=
    Digit.read?_ten_eq_some.mp (Digit.read?_write (by decide) (by decide) n)
  exact ⟨_, .inl rfl, nonempty, decimal, number, h⟩

/-- No digit is an ampersand. -/
theorem separable_write (n : Nat) : '&' ∉ Digit.write 10 n := by
  intro h
  have := Digit.isDecimal_of_mem_write h
  unfold Digit.IsDecimal at this
  exact absurd this (by decide)

/-- The pairs for a terminal are written without ampersands and read back. -/
theorem written_pairsFor (can : CanAsk t) {pair : Pair} (h : pair ∈ pairsFor t) :
    '&' ∉ written pair ∧ ofPiece (written pair) = pair := by
  have plain : ∀ key ∈ keys, '&' ∉ key ∧ '=' ∉ key := by decide
  have value : pair.1 ∈ keys ∧ '&' ∉ pair.2 := by
    rcases List.mem_cons.mp h with rfl | h
    · exact ⟨List.mem_cons_self, can.separable⟩
    · rcases List.mem_cons.mp h with rfl | h
      · exact ⟨List.mem_cons_of_mem _ List.mem_cons_self, separable_write _⟩
      · cases List.mem_singleton.mp h
        exact
          ⟨List.mem_cons_of_mem _ (List.mem_cons_of_mem _ List.mem_cons_self), separable_write _⟩
  obtain ⟨ampersand, equals⟩ := plain _ value.1
  refine ⟨?_, isPair_iff.mp ⟨equals, .inl rfl⟩⟩
  unfold written
  simp [ampersand, value.2]

/-- **The pairs of a query for a terminal**: the three, and others with other keys. -/
theorem Writes.hasPairs (writes : Writes pieces t) (can : CanAsk t) :
    ∃ ps rest, HasPairs (['&'].intercalate pieces) ps ∧ ps.Perm (pairsFor t ++ rest) ∧
      ∀ p ∈ rest, p.1 ∉ keys := by
  obtain ⟨others, order, other⟩ := writes
  refine ⟨(pieces.filter (!·.isEmpty)).map ofPiece, (others.filter (!·.isEmpty)).map ofPiece,
    ⟨pieces, ?_, fun piece h => ?_, rfl, forall₂_isPair.mpr rfl⟩, ?_, fun p h => ?_⟩
  · rintro rfl
    exact absurd order.length_eq (by simp [pairsFor])
  · rcases List.mem_append.mp (order.mem_iff.mp h) with h | h
    · obtain ⟨pair, here, rfl⟩ := List.mem_map.mp h
      exact (written_pairsFor can here).1
    · exact (other piece h).1
  -- The three pieces are not empty and are read as the pairs that they were written from.
  · have whole : ((pairsFor t).map written).filter (!·.isEmpty) = (pairsFor t).map written :=
      List.filter_eq_self.mpr fun piece h => by
        obtain ⟨pair, -, rfl⟩ := List.mem_map.mp h
        simp [written]
    have read : ((pairsFor t).map written).map ofPiece = pairsFor t := by
      rw [List.map_map]
      exact (List.map_congr_left fun pair h => (written_pairsFor can h).2).trans (List.map_id _)
    refine ((order.filter _).map ofPiece).trans (List.Perm.of_eq ?_)
    rw [List.filter_append, whole, List.map_append, read]
  · obtain ⟨piece, here, rfl⟩ := List.mem_map.mp h
    exact (other piece (List.mem_filter.mp here).1).2 _ (isPair_iff.mpr rfl)

/-- Among such pairs each key that counts has one value. -/
theorem valuesOf_pairsFor {ps rest : List Pair} (order : ps.Perm (pairsFor t ++ rest))
    (other : ∀ p ∈ rest, p.1 ∉ keys) {key : String} {value : List Char} (counts : key.toList ∈ keys)
    (one : valuesOf key (pairsFor t) = [value]) : last? key ps = some value := by
  have none : valuesOf key rest = [] := by
    unfold valuesOf
    rw [List.filter_eq_nil_iff.mpr fun p h => ?_, List.map_nil]
    intro here
    exact other p h (of_decide_eq_true here ▸ counts)
  have values : (valuesOf key ps).Perm [value] := by
    refine ((order.filter _).map _).trans (List.Perm.of_eq ?_)
    rw [List.filter_append, List.map_append]
    show valuesOf key (pairsFor t) ++ valuesOf key rest = [value]
    rw [one, none, List.append_nil]
  unfold last?
  rw [List.perm_singleton.mp values]
  rfl

/-- A query for a terminal asks for it. -/
theorem Writes.asks {ps rest : List Pair} (can : CanAsk t) (order : ps.Perm (pairsFor t ++ rest))
    (other : ∀ p ∈ rest, p.1 ∉ keys) : Asks ps t := by
  obtain ⟨-, wide, -, high⟩ := can.admissible
  have width : t.window.width < UInt32.size := Nat.lt_of_le_of_lt wide (by decide)
  have height : t.window.height < UInt32.size := Nat.lt_of_le_of_lt high (by decide)
  refine ⟨fun p h dimension => ?_, ⟨?_, ?_⟩, ⟨_, ?_, unsigned_write width⟩,
    ⟨_, ?_, unsigned_write height⟩, can.admissible⟩
  · rcases List.mem_append.mp (order.mem_iff.mp h) with h | h
    · rcases List.mem_cons.mp h with rfl | h
      · exact absurd dimension
          (by decide : ¬ ("session_id".toList = "w".toList ∨ "session_id".toList = "h".toList))
      · rcases List.mem_cons.mp h with rfl | h
        · exact ⟨_, unsigned_write width⟩
        · cases List.mem_singleton.mp h
          exact ⟨_, unsigned_write height⟩
    · obtain keyed | keyed := dimension
      · exact absurd (keyed ▸ (by decide : "w".toList ∈ keys)) (other p h)
      · exact absurd (keyed ▸ (by decide : "h".toList ∈ keys)) (other p h)
  · exact valuesOf_pairsFor order other (by decide) rfl
  · intro empty
    exact can.named (String.toList_eq_nil_iff.mp empty)
  · exact valuesOf_pairsFor order other (by decide) rfl
  · exact valuesOf_pairsFor order other (by decide) rfl

/-! ## Main statement -/

/-- **What becomes of a query.** Every query has its pairs; they ask for a terminal, and are read
as that, or they are refused, and for which reason is settled by what is wrong with them. A query
that is written for a terminal asks for it, in whatever order and among whatever else. -/
theorem query_decision :
    (∀ query : List Char, ∃! ps, HasPairs query ps) ∧
      (∀ (query : String) (ps : List Pair), HasPairs query.toList ps →
        (∀ t, parse query = .ok t ↔ Asks ps t) ∧ ∀ f, parse query = .error f ↔ Refused ps f) ∧
      ∀ (t : TerminalQuery) (pieces : List (List Char)), CanAsk t → Writes pieces t →
        parse (String.ofList (['&'].intercalate pieces)) = .ok t := by
  refine ⟨fun query => ⟨pairs query, hasPairs_iff.mpr rfl, fun ps h => (hasPairs_iff.mp h).symm⟩,
    fun query ps given => ?_, fun t pieces can writes => ?_⟩
  · exact ⟨fun t => parse_ok_iff (hasPairs_iff.mp given),
      fun f => parse_error_iff (hasPairs_iff.mp given)⟩
  · obtain ⟨ps, rest, given, order, other⟩ := writes.hasPairs can
    refine (Writes.asks can order other).parse ?_
    rw [String.toList_ofList]
    exact hasPairs_iff.mp given

/-- A width that is overridden, an empty piece, an unknown key and an equals sign in a session's
name; the same query with a width that is no number, which is refused although it is overridden. -/
theorem query_decision_overridden :
    let fine := "x=1&w=99&&h=+24&w=120&session_id=a=b"
    let ill := "w=wide&w=120&h=24"
    Asks (pairs fine.toList) ⟨"a=b", ⟨120, 24⟩⟩ ∧
      Refused (pairs ill.toList) (.protocol "w is not a number: \"wide\"") ∧
      parse "session_id=a=b&w=120&h=24" = .ok ⟨"a=b", ⟨120, 24⟩⟩ := by
  intro fine ill
  have decision := query_decision
  refine ⟨?_, ?_, ?_⟩
  · exact ((decision.2.1 fine _ (hasPairs_iff.mpr rfl)).1 _).mp (by decide)
  · exact ((decision.2.1 ill _ (hasPairs_iff.mpr rfl)).2 _).mp (by decide)
  · refine decision.2.2 ⟨"a=b", ⟨120, 24⟩⟩ ((pairsFor ⟨"a=b", ⟨120, 24⟩⟩).map written)
      ⟨by decide, by decide, by decide⟩ ⟨[], ?_, fun piece none => (List.not_mem_nil none).elim⟩
    rw [List.append_nil]

end ShellGateway.Web.TerminalQuery
