import ShellGateway.CommandLine.UserSpec
import ShellGateway.Proofs.Text.Quoted
import ShellGateway.Proofs.Text.Words
import ShellGateway.Proofs.Time.Rfc3339

/-!
# Which texts name users, and what is said of the others

Every text with a colon is a name and a secret, without colons, and perhaps an expiry, which may
hold more of them (`written`, `exists_written`); what is read off such a text is one equation
(`parse_written`).

So the texts that name users are those whose name is not empty and whose expiry is a date-time
(`Names`), and instants survive being written in one, at whatever offset (`named_users`).

A text with a colon is refused for its name or for its expiry, and never for its secret. What is
said then shows the name and the expiry if the name is there, and the whole text, secret and all,
if it is empty (`refusals_show`).
-/

namespace ShellGateway.CommandLine.UserSpec

/-- The text of a name, a secret and perhaps an expiry. -/
def written (name secret : String) : Option String → String
  | none => name ++ ":" ++ secret
  | some expiry => name ++ ":" ++ secret ++ ":" ++ expiry

/-- The users that texts name. -/
inductive Names : String → Auth.Record → Prop where
  | endless {name secret : String} (named : name ≠ "") (first : ':' ∉ name.toList)
      (second : ':' ∉ secret.toList) :
      Names (written name secret none)
        { username := name, secret := some secret, enabled := true, expiresAt := none,
          identity := none }
  | ending {name secret expiry : String} {t : Instant} (named : name ≠ "")
      (first : ':' ∉ name.toList) (second : ':' ∉ secret.toList)
      (ends : Instant.DateTime expiry.toList t) :
      Names (written name secret (some expiry))
        { username := name, secret := some secret, enabled := true, expiresAt := some t,
          identity := none }

/-! ## What is read off a text -/

theorem toList_written (name secret : String) (expiry? : Option String) :
    (written name secret expiry?).toList =
      name.toList ++ ':' :: (secret.toList ++ (expiry?.elim [] fun expiry =>
        ':' :: expiry.toList)) := by
  cases expiry? <;> simp [written, String.toList_append]

/-- Without a colon there is no secret, and everything else is written. -/
theorem exists_written (spec : String) :
    ':' ∉ spec.toList ∨ ∃ name secret expiry?, ':' ∉ name.toList ∧ ':' ∉ secret.toList ∧
      spec = written name secret expiry? := by
  rcases Text.exists_cut ':' spec.toList with none | ⟨name, rest, first, whole⟩
  · exact .inl none
  · right
    rcases Text.exists_cut ':' rest with last | ⟨secret, expiry, second, rfl⟩
    · refine ⟨String.ofList name, String.ofList rest, none, by simpa, by simpa, ?_⟩
      rw [← String.toList_inj, whole, toList_written]
      simp
    · refine ⟨String.ofList name, String.ofList secret, some (String.ofList expiry), by simpa,
        by simpa, ?_⟩
      rw [← String.toList_inj, whole, toList_written]
      simp

section

variable {name secret : String}

theorem parse_of_not_mem {spec : String} (none : ':' ∉ spec.toList) :
    parse spec = .error (.missingSecret spec) := by
  unfold parse
  rw [Text.cut_of_not_mem none]
  dsimp only
  rw [String.ofList_toList]

/-- **What is read off a name, a secret and an expiry.** -/
theorem parse_written (first : ':' ∉ name.toList) (second : ':' ∉ secret.toList)
    (expiry? : Option String) :
    parse (written name secret expiry?) =
      if name = "" then .error (.emptyName (written name secret expiry?))
      else match expiry? with
        | none => .ok (.ofPassword name secret)
        | some expiry =>
          match Instant.parse? expiry with
          | some t => .ok { Auth.Record.ofPassword name secret with expiresAt := some t }
          | none => .error (.badExpiry name expiry) := by
  unfold parse
  rw [toList_written, Text.cut_append first]
  dsimp only
  rw [String.ofList_toList]
  by_cases named : name = ""
  · rw [if_pos named, if_pos (String.isEmpty_iff.mpr named)]
  · rw [if_neg named, if_neg (mt String.isEmpty_iff.mp named)]
    cases expiry? with
    | none =>
      dsimp only [Option.elim_none]
      rw [List.append_nil, Text.cut_of_not_mem second, String.ofList_toList]
    | some expiry =>
      dsimp only [Option.elim_some]
      rw [Text.cut_append second, String.ofList_toList]
      dsimp only
      cases ends : Instant.parse? expiry <;> simp only [String.ofList_toList, ends]

end

/-! ## The texts that name users -/

theorem parse_eq_ok {spec : String} {record : Auth.Record} :
    parse spec = .ok record ↔ Names spec record := by
  constructor
  · intro h
    rcases exists_written spec with none | ⟨name, secret, expiry?, first, second, rfl⟩
    · rw [parse_of_not_mem none] at h
      cases h
    · rw [parse_written first second] at h
      split at h
      · cases h
      · rename_i named
        cases expiry? with
        | none =>
          cases h
          exact .endless named first second
        | some expiry =>
          dsimp only at h
          split at h
          · rename_i t ends
            cases h
            exact .ending named first second (Instant.parse?_eq_some.mp ends)
          · cases h
  · intro names
    cases names with
    | endless named first second => rw [parse_written first second, if_neg named]; rfl
    | ending named first second ends =>
      rw [parse_written first second, if_neg named]
      dsimp only
      rw [Instant.parse?_eq_some.mpr ends]
      rfl

/-- **Users are named by exactly these texts.** In one of them an instant is what was written: at
any offset at which the year has four digits, it is read back with its nanoseconds, those of a leap
second among them. What is written is `Instant.toTextAt`, and the offset, in whole minutes, in any
of the ways that there are to write it (`Instant.toTextAt_eq`). -/
theorem named_users :
    (∀ spec record, parse spec = .ok record ↔ Names spec record) ∧
    ∀ (name secret : String) (t : Instant) (offset : Int) (zone : List Char)
      (date : Calendar.Date),
      name ≠ "" → ':' ∉ name.toList → ':' ∉ secret.toList → t.WellFormed →
      Instant.Zone zone (offset * 60) →
      Calendar.Counted date ((t.second + offset * 60) / 86400) → 0 ≤ date.year →
      date.year ≤ 9999 →
      parse (written name secret (some (String.ofList (Instant.clockText offset t ++ zone)))) =
        .ok { username := name, secret := some secret, enabled := true, expiresAt := some t,
              identity := none } := by
  refine ⟨fun spec record => parse_eq_ok, ?_⟩
  intro name secret t offset zone date named first second wellFormed isZone shown least most
  refine parse_eq_ok.mpr (.ending named first second ?_)
  rw [String.toList_ofList]
  exact Instant.dateTime_clockText wellFormed isZone shown least most

/-- A leap second, on a clock behind universal time. -/
theorem named_users_leapSecond :
    parse (written "guest" "" (some "2016-12-31T18:59:60.500-05:00")) =
      .ok { username := "guest", secret := some "", enabled := true,
            expiresAt := some ⟨1483228799, 1500000000⟩, identity := none } := by
  have wellFormed : Instant.WellFormed ⟨1483228799, 1500000000⟩ := ⟨by decide, by decide⟩
  have isZone : Instant.Zone (Instant.offsetText (-300)) (-300 * 60) :=
    Instant.zone_offsetText (by decide)
  have shown : Calendar.Counted ⟨2016, 12, 31⟩ ((1483228799 + -300 * 60) / 86400) :=
    Calendar.counted_iff.mpr ⟨by decide, by decide⟩
  have named := named_users.2 "guest" "" ⟨1483228799, 1500000000⟩ (-300) _ ⟨2016, 12, 31⟩
    (by decide) (by decide) (by decide) wellFormed isZone shown (by decide) (by decide)
  have text : String.ofList (Instant.clockText (-300) ⟨1483228799, 1500000000⟩
      ++ Instant.offsetText (-300)) = "2016-12-31T18:59:60.500-05:00" := by decide +kernel
  rwa [text] at named

/-! ## What is said of the others -/

theorem written_inj {name secret secret' : String} {expiry? : Option String} :
    written name secret expiry? = written name secret' expiry? ↔ secret = secret' := by
  constructor
  · intro same
    have same := congrArg String.toList same
    rw [toList_written, toList_written] at same
    have same := List.cons.inj (List.append_cancel_left same)
    exact String.toList_inj.mp (List.append_cancel_right same.2)
  · rintro rfl
    rfl

theorem message_emptyName {spec spec' : String} :
    (Fault.emptyName spec).message = (Fault.emptyName spec').message ↔ spec = spec' := by
  constructor
  · intro same
    have same := congrArg String.toList same
    simp only [Fault.message, String.toList_append] at same
    have same := List.append_cancel_left (List.append_cancel_right same)
    exact Text.quoted_inj.mp (String.toList_inj.mp same)
  · rintro rfl
    rfl

/-- **A refusal that knows the name shows nothing of the secret, and one that misses the name shows
all of it.** Whether a text is refused does not depend on its secret. -/
theorem refusals_show {name secret secret' : String} {expiry? : Option String}
    (first : ':' ∉ name.toList) (second : ':' ∉ secret.toList) (second' : ':' ∉ secret'.toList) :
    ((∃ fault, parse (written name secret expiry?) = .error fault) ↔
      ∃ fault, parse (written name secret' expiry?) = .error fault) ∧
    ∀ fault fault', parse (written name secret expiry?) = .error fault →
      parse (written name secret' expiry?) = .error fault' →
      (fault.message = fault'.message ↔ name ≠ "" ∨ secret = secret') := by
  rw [parse_written first second, parse_written first second']
  by_cases named : name = ""
  · rw [if_pos named, if_pos named]
    refine ⟨⟨fun _ => ⟨_, rfl⟩, fun _ => ⟨_, rfl⟩⟩, ?_⟩
    rintro _ _ ⟨⟩ ⟨⟩
    rw [message_emptyName, written_inj]
    exact ⟨.inr, fun h => h.resolve_left (absurd named)⟩
  · rw [if_neg named, if_neg named]
    cases expiry? with
    | none => exact ⟨⟨nofun, nofun⟩, nofun⟩
    | some expiry =>
      dsimp only
      cases Instant.parse? expiry with
      | some t => exact ⟨⟨nofun, nofun⟩, nofun⟩
      | none =>
        refine ⟨Iff.rfl, ?_⟩
        rintro _ _ ⟨⟩ ⟨⟩
        exact ⟨fun _ => .inl named, fun _ => rfl⟩

/-- An expiry that is no date-time is shown, and the secret before it is not. -/
theorem refusals_show_tomorrow :
    ∃ fault fault', parse (written "guest" "one" (some "tomorrow")) = .error fault ∧
      parse (written "guest" "two" (some "tomorrow")) = .error fault' ∧
      fault.message = fault'.message := by
  have first : ':' ∉ "guest".toList := by decide
  have second : ':' ∉ "one".toList := by decide
  have second' : ':' ∉ "two".toList := by decide
  have refused {secret : String} (second : ':' ∉ secret.toList) :
      parse (written "guest" secret (some "tomorrow")) =
        .error (.badExpiry "guest" "tomorrow") := by
    rw [parse_written first second, if_neg (by decide)]
    rfl
  exact ⟨_, _, refused second, refused second',
    ((refusals_show first second second').2 _ _ (refused second) (refused second')).mpr
      (.inl (by decide))⟩

/-- Without a name, two secrets are told apart by what is said of them. -/
theorem secret_shown :
    ∃ fault fault', parse (written "" "hunter2" none) = .error fault ∧
      parse (written "" "letmein" none) = .error fault' ∧ fault.message ≠ fault'.message := by
  refine ⟨.emptyName (written "" "hunter2" none), .emptyName (written "" "letmein" none),
    ?_, ?_, ?_⟩
  · rw [parse_written (by decide) (by decide), if_pos rfl]
  · rw [parse_written (by decide) (by decide), if_pos rfl]
  · rw [Ne, message_emptyName, written_inj]
    decide

end ShellGateway.CommandLine.UserSpec
