import ShellGateway.Proofs.Text.Digits
import ShellGateway.Text.Quoted

/-!
# Quoted texts are told apart

What is shown in quotes shows all of a text. Each character can be read back off its written form
(`unquoted?_quotedChar`), whatever comes after it, so different texts are quoted differently
(`quoted_inj`).
-/

namespace ShellGateway.Text

/-- The character that a letter after a backslash stands for. -/
def escaped? : Char → Option Char
  | '"' => some '"'
  | '\\' => some '\\'
  | 'n' => some '\n'
  | 'r' => some '\r'
  | 't' => some '\t'
  | '0' => some '\x00'
  | _ => none

/-- Reads one character back, and what follows it. -/
def unquoted? : List Char → Option (Char × List Char)
  | [] => none
  | '\\' :: 'u' :: '{' :: rest =>
    match Digit.read? 16 (Digit.span 16 rest).1, (Digit.span 16 rest).2 with
    | some n, '}' :: rest => some (Char.ofNat n, rest)
    | _, _ => none
  | '\\' :: letter :: rest => (escaped? letter).map (·, rest)
  | c :: rest => some (c, rest)

/-- **Every character is read back**, whatever comes after it. -/
theorem unquoted?_quotedChar (c : Char) (rest : List Char) :
    unquoted? (quotedChar c ++ rest) = some (c, rest) := by
  unfold quotedChar
  split
  case h_7 quote backslash feed ret tab nul =>
    split
    · have digits : Digit.span 16 (Digit.write 16 c.toNat ++ '}' :: rest) =
          (Digit.write 16 c.toNat, '}' :: rest) :=
        Digit.span_append (Digit.isSome_of_mem_write (by decide) (by decide))
          fun x hx => by cases hx; rfl
      have read : Digit.read? 16 (Digit.write 16 c.toNat) = some c.toNat :=
        Digit.read?_write (by decide) (by decide) c.toNat
      show unquoted? ('\\' :: 'u' :: '{' :: (Digit.write 16 c.toNat ++ ['}'] ++ rest)) = _
      rw [List.append_assoc, List.singleton_append, unquoted?, digits, read]
      show some (Char.ofNat c.toNat, rest) = _
      rw [Char.ofNat_toNat]
    · rw [List.singleton_append, unquoted?]
      · intro s h _
        exact backslash h
      · intro l s h _
        exact backslash h
  all_goals rfl

theorem quotedChar_ne_nil (c : Char) : quotedChar c ≠ [] := by
  intro empty
  have read := unquoted?_quotedChar c []
  rw [empty] at read
  cases read

theorem flatMap_quotedChar_inj {s t : List Char} (h : s.flatMap quotedChar = t.flatMap quotedChar) :
    s = t := by
  induction s generalizing t with
  | nil =>
    cases t with
    | nil => rfl
    | cons d t =>
      rw [List.flatMap_nil, List.flatMap_cons] at h
      exact absurd (List.append_eq_nil_iff.mp h.symm).1 (quotedChar_ne_nil d)
  | cons c s ih =>
    cases t with
    | nil =>
      rw [List.flatMap_nil, List.flatMap_cons] at h
      exact absurd (List.append_eq_nil_iff.mp h).1 (quotedChar_ne_nil c)
    | cons d t =>
      rw [List.flatMap_cons, List.flatMap_cons] at h
      have read := congrArg unquoted? h
      rw [unquoted?_quotedChar, unquoted?_quotedChar] at read
      obtain ⟨rfl, rest⟩ := Prod.mk.inj (Option.some.inj read)
      rw [ih rest]

/-- **Different texts are quoted differently.** -/
theorem quoted_inj {s t : String} : quoted s = quoted t ↔ s = t := by
  constructor
  · intro h
    have written := String.ofList_injective h
    have inside := List.append_cancel_left (List.append_cancel_right written)
    exact String.toList_injective (flatMap_quotedChar_inj inside)
  · rintro rfl
    rfl

end ShellGateway.Text
