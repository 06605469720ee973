import Mathlib.Data.List.Nodup
import ShellGateway.Proofs.Json.Printing
import ShellGateway.Proofs.Json.Reading
import ShellGateway.Proofs.Json.Records
import ShellGateway.Settings

/-!
# Stored targets and configuration files

Both are records in JSON, and both are read from every text that RFC 8259 allows for them: with any
white space, with characters spelled as themselves or by number, with the fields in any order and
with members that nobody asked for. `stored_forms_read` puts together what the reader finds in a
text (`parse?_of_document`), what a record finds in a value (`fields?_of_lists`,
`fields?_array`), and what each field makes of its value.
-/

namespace ShellGateway

open Json

/-! ## Targets -/

namespace Net

theorem Family.ofJson?_toJson (f : Family) : Family.ofJson? f.toJson = some f := by
  cases f <;> rfl

namespace Target

/-- The fields of a target that may not be left out, by name. -/
def requiredFields (t : Target) : List (List Char × Value) :=
  [("host".toList, .text t.host), ("port".toList, .nat t.port.toNat)]

/-- All fields of a target by name. -/
def fields (t : Target) : List (List Char × Value) :=
  t.requiredFields ++ [("family".toList, t.family.toJson)]

theorem toJson_eq (t : Target) : t.toJson = .object (entries t.fields) := rfl

theorem distinct : (fieldNames.map String.toList).Nodup := by
  decide

theorem ofJson?_of_fields {t : Target} {v : Value} {family : Option Value}
    (h : v.fields? (fieldNames.map String.toList) =
      some [some (.text t.host), some (.nat t.port.toNat), family])
    (hf : optionalField .any Family.ofJson? family = some t.family) : ofJson? v = some t := by
  have port : (Value.nat t.port.toNat).asNat? UInt16.size = some t.port.toNat :=
    asNat?_nat t.port.toNat_lt
  simp [ofJson?, h, hf, requiredField, port, Value.text, Value.asText?]

/-- An object that lists the fields of a target is read as the target. -/
theorem ofJson?_object {t : Target} {members : List (Text? × Value)}
    (lists : Lists (fieldNames.map String.toList) t.fields members) :
    ofJson? (.object members) = some t := by
  have found := Value.fields?_of_lists lists (by exact distinct)
  exact ofJson?_of_fields found (Family.ofJson?_toJson t.family)

/-- Without a family the choice is left open. -/
theorem ofJson?_required {t : Target} {members : List (Text? × Value)}
    (lists : Lists (fieldNames.map String.toList) t.requiredFields members) :
    ofJson? (.object members) = some { t with family := .any } := by
  have names : t.requiredFields.map (·.1) = ["host".toList, "port".toList] := rfl
  have found := Value.fields?_of_lists lists (by rw [names]; decide)
  exact ofJson?_of_fields found rfl

theorem ofJson?_array (t : Target) : ofJson? (.array (t.fields.map (·.2))) = some t :=
  ofJson?_of_fields rfl (Family.ofJson?_toJson t.family)

theorem ofJson?_pair (t : Target) :
    ofJson? (.array (t.requiredFields.map (·.2))) = some { t with family := .any } :=
  @ofJson?_of_fields { t with family := .any } _ none rfl rfl

theorem printable_toJson (t : Target) : Printable t.toJson := by
  refine .object (by simp) ?_
  simp only [List.forall_mem_cons]
  exact ⟨.string _, .number (isProper_ofNat _), .string _, fun _ h => nomatch h⟩

theorem ofStored?_document {v : Value} {text : String} (h : Document v text) :
    ofStored? text = ofJson? v := by
  rw [ofStored?, parse?_of_document h]
  rfl

end Target

end Net

/-! ## Settings -/

namespace Settings

/-- The fields of a configuration file. -/
inductive Field where
  | listenHost
  | listenPort
  | shell
  | serverVersion
  | keepaliveSeconds
  | envPassthrough
  | hostKeySeed
  | workDir
  | sweepSeconds
  | maxIdleSeconds
  | webListen
  | banner
  deriving DecidableEq, Repr

namespace Field

/-- All fields in order. -/
def all : List Field :=
  [listenHost, listenPort, shell, serverVersion, keepaliveSeconds, envPassthrough, hostKeySeed,
    workDir, sweepSeconds, maxIdleSeconds, webListen, banner]

/-- The name of a field in a file. -/
def name : Field → String
  | listenHost => "listen_host"
  | listenPort => "listen_port"
  | shell => "shell"
  | serverVersion => "server_version"
  | keepaliveSeconds => "keepalive_interval_secs"
  | envPassthrough => "env_passthrough"
  | hostKeySeed => "host_key_seed"
  | workDir => "work_dir"
  | sweepSeconds => "sweep_interval_secs"
  | maxIdleSeconds => "max_idle_secs"
  | webListen => "ws_listen"
  | banner => "banner"

/-- What a field may hold. -/
def kind : Field → Kind
  | listenHost | shell | serverVersion | hostKeySeed => .text
  | listenPort => .number UInt16.size
  | keepaliveSeconds | sweepSeconds | maxIdleSeconds => .number UInt64.size
  | envPassthrough => .bool
  | workDir | webListen | banner => .textOrNull

theorem names : all.map (·.name) = fieldNames := rfl

theorem mem_all (f : Field) : f ∈ all := by
  cases f <;> decide

end Field

/-- A text that may be missing, as a value. -/
def textOrNull : Option String → Value
  | some s => .text s
  | none => .null

/-- The value of a field in a file. -/
def value (s : Settings) : Field → Value
  | .listenHost => .text s.listenHost
  | .listenPort => .nat s.listenPort.toNat
  | .shell => .text s.shell
  | .serverVersion => .text s.serverVersion
  | .keepaliveSeconds => .nat s.keepaliveSeconds.toNat
  | .envPassthrough => .bool s.envPassthrough
  | .hostKeySeed => .text s.hostKeySeed
  | .workDir => textOrNull s.workDir
  | .sweepSeconds => .nat s.sweepSeconds.toNat
  | .maxIdleSeconds => .nat s.maxIdleSeconds.toNat
  | .webListen => textOrNull s.webListen
  | .banner => textOrNull s.banner

/-- Some of the fields with their values. -/
def fields (s : Settings) (chosen : List Field) : List (List Char × Value) :=
  chosen.map fun f => (f.name.toList, s.value f)

/-- Settings with the values of the chosen fields and the defaults elsewhere. -/
def only (s : Settings) (chosen : Field → Bool) : Settings :=
  let d : Settings := {}
  { listenHost := if chosen .listenHost then s.listenHost else d.listenHost
    listenPort := if chosen .listenPort then s.listenPort else d.listenPort
    shell := if chosen .shell then s.shell else d.shell
    serverVersion := if chosen .serverVersion then s.serverVersion else d.serverVersion
    keepaliveSeconds :=
      if chosen .keepaliveSeconds then s.keepaliveSeconds else d.keepaliveSeconds
    envPassthrough := if chosen .envPassthrough then s.envPassthrough else d.envPassthrough
    hostKeySeed := if chosen .hostKeySeed then s.hostKeySeed else d.hostKeySeed
    workDir := if chosen .workDir then s.workDir else d.workDir
    sweepSeconds := if chosen .sweepSeconds then s.sweepSeconds else d.sweepSeconds
    maxIdleSeconds := if chosen .maxIdleSeconds then s.maxIdleSeconds else d.maxIdleSeconds
    webListen := if chosen .webListen then s.webListen else d.webListen
    banner := if chosen .banner then s.banner else d.banner }

theorem orNull?_textOrNull (s : Option String) :
    (textOrNull s).orNull? Value.asText? = some s := by
  cases s with
  | none => rfl
  | some s => simp [textOrNull, Value.orNull?, Value.text, Value.asText?]

/-- The chosen fields are read as they are, the others by default. -/
theorem ofJson?_of_fields {s : Settings} {chosen : Field → Bool} {v : Value}
    (h : v.fields? (fieldNames.map String.toList) =
      some (Field.all.map fun f => if chosen f then some (s.value f) else none)) :
    ofJson? v = some (s.only chosen) := by
  have text (x : String) := optionalField_ite (asText?_text x)
  have port (n : UInt16) :=
    optionalField_ite (asNat?_nat (show n.toNat < UInt16.size from n.toNat_lt))
  have seconds (n : UInt64) :=
    optionalField_ite (asNat?_nat (show n.toNat < UInt64.size from n.toNat_lt))
  have bool (b : Bool) := @optionalField_ite _ Value.asBool? (.bool b) b rfl
  have orNull (x : Option String) := optionalField_ite (orNull?_textOrNull x)
  rw [ofJson?, h]
  simp only [Field.all, List.map_cons, List.map_nil, value, Option.bind_eq_bind, Option.bind_some,
    text, port, seconds, bool, orNull, ← apply_ite UInt16.toNat, ← apply_ite UInt64.toNat,
    UInt16.ofNat_toNat, UInt64.ofNat_toNat]
  rfl

/-- A field is read if the file is. -/
theorem takes_of_ofJson? {s : Settings} {v : Value} {given : Field → Option Value}
    (h : ofJson? v = some s)
    (fields : v.fields? (fieldNames.map String.toList) = some (Field.all.map given)) {f : Field}
    {x : Value} (hx : given f = some x) : f.kind.takes x = true := by
  rw [ofJson?, fields] at h
  -- The fields are read one after the other; what one of them refuses, the file is refused for.
  obtain ⟨_, ⟨⟩, h⟩ := Option.bind_eq_some_iff.mp h
  obtain ⟨_, listenHost, h⟩ := Option.bind_eq_some_iff.mp h
  obtain ⟨_, listenPort, h⟩ := Option.bind_eq_some_iff.mp h
  obtain ⟨_, shell, h⟩ := Option.bind_eq_some_iff.mp h
  obtain ⟨_, serverVersion, h⟩ := Option.bind_eq_some_iff.mp h
  obtain ⟨_, keepalive, h⟩ := Option.bind_eq_some_iff.mp h
  obtain ⟨_, envPassthrough, h⟩ := Option.bind_eq_some_iff.mp h
  obtain ⟨_, hostKeySeed, h⟩ := Option.bind_eq_some_iff.mp h
  obtain ⟨_, workDir, h⟩ := Option.bind_eq_some_iff.mp h
  obtain ⟨_, sweep, h⟩ := Option.bind_eq_some_iff.mp h
  obtain ⟨_, maxIdle, h⟩ := Option.bind_eq_some_iff.mp h
  obtain ⟨_, webListen, h⟩ := Option.bind_eq_some_iff.mp h
  obtain ⟨_, banner, -⟩ := Option.bind_eq_some_iff.mp h
  cases f with
  | listenHost => exact isSome_of_optionalField listenHost hx
  | listenPort => exact isSome_of_optionalField listenPort hx
  | shell => exact isSome_of_optionalField shell hx
  | serverVersion => exact isSome_of_optionalField serverVersion hx
  | keepaliveSeconds => exact isSome_of_optionalField keepalive hx
  | envPassthrough => exact isSome_of_optionalField envPassthrough hx
  | hostKeySeed => exact isSome_of_optionalField hostKeySeed hx
  | workDir => exact isSome_of_optionalField workDir hx
  | sweepSeconds => exact isSome_of_optionalField sweep hx
  | maxIdleSeconds => exact isSome_of_optionalField maxIdle hx
  | webListen => exact isSome_of_optionalField webListen hx
  | banner => exact isSome_of_optionalField banner hx

theorem distinct : (fieldNames.map String.toList).Nodup := by
  decide

/-- The names of the file as the names of its fields. -/
theorem names_eq : fieldNames.map String.toList = Field.all.map fun f => f.name.toList := rfl

/-- Nothing but the fields of a value matters. -/
theorem ofJson?_congr {v w : Value} (h : v.fields? (fieldNames.map String.toList) =
    w.fields? (fieldNames.map String.toList)) : ofJson? v = ofJson? w := by
  rw [ofJson?, ofJson?, h]

theorem ofJson?_of_none {v : Value} (h : v.fields? (fieldNames.map String.toList) = none) :
    ofJson? v = none := by
  rw [ofJson?, h]
  rfl

theorem Field.name_injective {f g : Field} (h : f.name.toList = g.name.toList) : f = g := by
  have nodup : (Field.all.map fun f => f.name.toList).Nodup := names_eq ▸ distinct
  exact List.inj_on_of_nodup_map nodup f.mem_all g.mem_all h

theorem lookup_fields (s : Settings) (chosen : List Field) (f : Field) :
    (s.fields chosen).lookup f.name.toList = if f ∈ chosen then some (s.value f) else none := by
  induction chosen with
  | nil => rfl
  | cons g chosen ih =>
    rw [fields, List.map_cons, List.lookup_cons]
    by_cases same : f = g
    · subst same
      simp
    · have other : (f.name.toList == g.name.toList) = false := by
        rw [beq_eq_false_iff_ne]
        exact fun h => same (Field.name_injective h)
      rw [other]
      simpa [same, fields] using ih

theorem distinct_fields (s : Settings) {chosen : List Field} (h : chosen.Nodup) :
    ((s.fields chosen).map (·.1)).Nodup := by
  rw [fields, List.map_map]
  exact h.map fun _ _ => Field.name_injective

/-- An object is read as the settings of the fields that it lists. -/
theorem ofJson?_object {s : Settings} {chosen : List Field} (h : chosen.Nodup)
    {members : List (Text? × Value)}
    (lists : Lists (fieldNames.map String.toList) (s.fields chosen) members) :
    ofJson? (.object members) = some (s.only fun f => f ∈ chosen) := by
  refine ofJson?_of_fields ?_
  rw [Value.fields?_of_lists lists (s.distinct_fields h), names_eq, List.map_map]
  refine congrArg some (List.map_congr_left fun f _ => ?_)
  simp [s.lookup_fields chosen f]

/-- An array is read like an object that gives its items to the first fields. -/
theorem ofJson?_array {items : List Value} {members : List (Text? × Value)}
    (short : items.length ≤ Field.all.length)
    (lists : Lists (fieldNames.map String.toList) ((fieldNames.map String.toList).zip items)
      members) : ofJson? (.array items) = ofJson? (.object members) :=
  ofJson?_congr (Value.fields?_array short distinct lists)

/-- The values of the first fields by their names. -/
theorem zip_take (s : Settings) (k : Nat) :
    (fieldNames.map String.toList).zip ((Field.all.take k).map s.value) =
      s.fields (Field.all.take k) := by
  have names : fieldNames.map String.toList = (Field.all.take k).map (fun f => f.name.toList) ++
      (Field.all.drop k).map (fun f => f.name.toList) := by
    rw [names_eq, ← List.map_append, List.take_append_drop]
  rw [names, ← List.append_nil ((Field.all.take k).map s.value),
    List.zip_append (by rw [List.length_map, List.length_map]), List.zip_nil_right,
    List.append_nil, List.zip_map']
  rfl

/-- An array of the first fields is read as the settings of these fields. -/
theorem ofJson?_take (s : Settings) (k : Nat) :
    ofJson? (.array ((Field.all.take k).map s.value)) =
      some (s.only fun f => f ∈ Field.all.take k) := by
  have short : ((Field.all.take k).map s.value).length ≤ Field.all.length := by
    rw [List.length_map]
    exact (List.take_sublist _ _).length_le
  have distinct : (Field.all.take k).Nodup := by
    have all : Field.all.Nodup := by decide
    exact all.sublist (List.take_sublist _ _)
  rw [ofJson?_array short (lists_entries _ _), zip_take]
  exact ofJson?_object distinct (lists_entries _ _)

/-- Somewhere a value gives a field. -/
inductive Field.Given (f : Field) (x : Value) : Value → Prop where
  | member {members : List (Text? × Value)} (h : (some f.name.toList, x) ∈ members) :
    Given f x (.object members)
  | item {items : List Value} {i : Nat} (place : Field.all[i]? = some f)
    (h : items[i]? = some x) : Given f x (.array items)

/-- A member that gives a field what it may not have spoils the file. -/
theorem ofJson?_member {f : Field} {x : Value} (refused : ¬ f.kind.Admits x)
    {members : List (Text? × Value)} (given : (some f.name.toList, x) ∈ members) :
    ofJson? (.object members) = none := by
  cases h : ofJson? (.object members) with
  | none => rfl
  | some s =>
    cases hv : (Value.object members).fields? (fieldNames.map String.toList) with
    | none =>
      rw [ofJson?_of_none hv] at h
      cases h
    | some values =>
      -- The member is the only one of its name, so it is what the field is read from.
      obtain ⟨rfl, once⟩ := Value.fields?_eq_some hv
      rw [names_eq, List.map_map] at hv
      have known : f.name.toList ∈ fieldNames.map String.toList :=
        List.mem_map_of_mem (List.mem_map_of_mem f.mem_all)
      have taken := takes_of_ofJson? h hv (Value.head?_named (once _ known) given)
      exact absurd (Kind.admits_of_takes taken) refused

/-- A file that gives a field what the field may not have is rejected. -/
theorem ofJson?_refused {f : Field} {x v : Value} (refused : ¬ f.kind.Admits x)
    (given : f.Given x v) : ofJson? v = none := by
  cases given with
  | member h => exact ofJson?_member refused h
  | @item items i place h =>
    -- An array of the right length is read like the object of its items; a longer one is refused.
    by_cases short : items.length ≤ Field.all.length
    · rw [ofJson?_array short (lists_entries _ _)]
      refine ofJson?_member refused ?_
      have pair : ((fieldNames.map String.toList).zip items)[i]? = some (f.name.toList, x) := by
        rw [List.getElem?_zip_eq_some, names_eq, List.getElem?_map, place]
        exact ⟨rfl, h⟩
      exact List.mem_map_of_mem (List.mem_of_getElem? pair)
    · refine ofJson?_of_none ?_
      exact if_neg short

/-- A file that gives a field twice is rejected. -/
theorem ofJson?_repeated {f : Field} {x y : Value} {members : List (Text? × Value)}
    (twice : [(some f.name.toList, x), (some f.name.toList, y)].Sublist members) :
    ofJson? (.object members) = none := by
  refine ofJson?_of_none ?_
  cases hv : (Value.object members).fields? (fieldNames.map String.toList) with
  | none => rfl
  | some values =>
    have known : f.name.toList ∈ fieldNames.map String.toList :=
      List.mem_map_of_mem (List.mem_map_of_mem f.mem_all)
    have once := (Value.fields?_eq_some hv).2 _ known
    have both : Value.named f.name.toList [(some f.name.toList, x), (some f.name.toList, y)] =
        [x, y] := by
      simp [Value.named]
    have two := (@Value.named_sublist f.name.toList _ _ twice).length_le
    rw [both] at two
    exact absurd (two.trans once) (Nat.not_succ_le_self 1)

theorem ofText?_document {v : Value} {text : String} (h : Document v text) :
    ofText? text = ofJson? v := by
  rw [ofText?, parse?_of_document h]
  rfl

end Settings

open Net Settings in
/-- **Stored targets and configuration files are read back.** A target is read from the text to
store, from every text of an object with its fields in any order and among others, and from the
array of its fields; without its family the choice is left open. Settings are read from every text
of an object that gives some of the fields, with defaults for the rest, and an array gives the
first fields. A field given twice, or given what it may not have, spoils the file. -/
theorem stored_forms_read :
    (∀ (t : Target) (text : String),
      (text = t.stored ∨ Listing Target.fieldNames t.fields text ∨
          Document (.array (t.fields.map (·.2))) text →
        Target.ofStored? text = some t) ∧
      (Listing Target.fieldNames t.requiredFields text ∨
          Document (.array (t.requiredFields.map (·.2))) text →
        Target.ofStored? text = some { t with family := .any })) ∧
    (∀ (s : Settings) (chosen : List Field) (text : String), chosen.Nodup →
      Listing fieldNames (s.fields chosen) text →
        Settings.ofText? text = some (s.only fun f => f ∈ chosen)) ∧
    (∀ (s : Settings) (k : Nat) (text : String),
      Document (.array ((Field.all.take k).map s.value)) text →
        Settings.ofText? text = some (s.only fun f => f ∈ Field.all.take k)) ∧
    (∀ (items : List Value) (text listed : String), items.length ≤ Field.all.length →
      Document (.array items) text →
      Listing fieldNames ((fieldNames.map String.toList).zip items) listed →
        Settings.ofText? text = Settings.ofText? listed) ∧
    (∀ (f : Field) (x y : Value) (members : List (Text? × Value)) (text : String),
      [(some f.name.toList, x), (some f.name.toList, y)].Sublist members →
      Document (.object members) text → Settings.ofText? text = none) ∧
    (∀ (f : Field) (x v : Value) (text : String), f.Given x v → ¬ f.kind.Admits x →
      Document v text → Settings.ofText? text = none) := by
  refine ⟨fun t text => ⟨?_, ?_⟩, ?_, ?_, ?_, ?_, ?_⟩
  · rintro (rfl | ⟨members, lists, document⟩ | document)
    · have document : Document t.toJson t.stored := document_toText t.printable_toJson
      rw [Target.ofStored?_document document, Target.toJson_eq]
      exact Target.ofJson?_object (lists_entries _ _)
    · rw [Target.ofStored?_document document, Target.ofJson?_object lists]
    · rw [Target.ofStored?_document document, Target.ofJson?_array]
  · rintro (⟨members, lists, document⟩ | document)
    · rw [Target.ofStored?_document document, Target.ofJson?_required lists]
    · rw [Target.ofStored?_document document, Target.ofJson?_pair]
  · rintro s chosen text nodup ⟨members, lists, document⟩
    rw [Settings.ofText?_document document, Settings.ofJson?_object nodup lists]
  · intro s k text document
    rw [Settings.ofText?_document document, Settings.ofJson?_take]
  · rintro items text listed short document ⟨members, lists, listedDocument⟩
    rw [Settings.ofText?_document document, Settings.ofText?_document listedDocument,
      Settings.ofJson?_array short lists]
  · intro f x y members text twice document
    rw [Settings.ofText?_document document, Settings.ofJson?_repeated twice]
  · intro f x v text given refused document
    rw [Settings.ofText?_document document, Settings.ofJson?_refused refused given]

open Net Settings in
/-- Escapes, a pair of units, white space and members that nobody asked for; prefixes, repetitions,
a port that is too large and a missing text. -/
theorem stored_forms_read_spelled :
    Target.ofStored? " \x7b\"port\" : 22, \"x\":[], \"\\u0068ost\":\"\\ud83d\\ude00\"\x7d" =
      some ⟨"😀", 22, .any⟩ ∧
    Settings.ofText? "\x7b\"max_idle_secs\":5,\"x\":null,\"banner\":\"hi\"\x7d" =
      some { maxIdleSeconds := 5, banner := some "hi" } ∧
    Settings.ofText? "[\"::\",22]" = some { listenHost := "::", listenPort := 22 } ∧
    Settings.ofText? "[\"::\",22]" =
      Settings.ofText? "\x7b\"listen_port\":22,\"listen_host\":\"::\"\x7d" ∧
    Settings.ofText? "\x7b\"shell\":\"a\",\"shell\":\"b\"\x7d" = none ∧
    Settings.ofText? "[\"::\",65536]" = none ∧
    Settings.ofText? "\x7b\"shell\":null\x7d" = none := by
  obtain ⟨targets, settings, prefixes, arrays, repeated, refused⟩ := stored_forms_read
  have emptyArray : Writes (.array []) "[]".toList := @Writes.emptyArray [] (by decide)
  have plain {c : Char} (h : 0x20 ≤ c.toNat ∧ c ≠ '"' ∧ c ≠ '\\') : Spelled (.char c) [c] :=
    .plain h.1 h.2.1 h.2.2
  have hostName : Quoted (some ['h', 'o', 's', 't'])
      ['"', '\\', 'u', '0', '0', '6', '8', 'o', 's', 't', '"'] :=
    .text (.cons (@Gives.unit 'h' (by decide))
        (.cons (.char 'o') (.cons (.char 's') (.cons (.char 't') .nil))))
      (.cons (.unit (by decide)) (.cons (plain (by decide)) (.cons (plain (by decide))
        (.cons (plain (by decide)) .nil))))
  have host : Quoted (some ['😀'])
      ['"', '\\', 'u', 'd', '8', '3', 'd', '\\', 'u', 'd', 'e', '0', '0', '"'] :=
    .text (.cons (@Gives.pair '😀' 0xD83D 0xDE00 (by decide) (by decide) (by decide)) .nil)
      (.cons (.unit (by decide)) (.cons (.unit (by decide)) .nil))
  have spelled : Document
      (.object [(some "port".toList, .nat 22), (some "x".toList, .array []),
        (some "host".toList, .text "😀")])
      " \x7b\"port\" : 22, \"x\":[], \"\\u0068ost\":\"\\ud83d\\ude00\"\x7d" := by
    refine ⟨[' '], _, [], by decide, by decide, @Writes.object
      [⟨some "port".toList, [], "\"port\"".toList, [' '], ⟨.nat 22, [' '], "22".toList, []⟩⟩,
       ⟨some "x".toList, [' '], "\"x\"".toList, [], ⟨.array [], [], "[]".toList, []⟩⟩,
       ⟨some "host".toList, [' '], "\"\\u0068ost\"".toList, [],
        ⟨.text "😀", [], "\"\\ud83d\\ude00\"".toList, []⟩⟩] (by simp) ?_ ?_, rfl⟩
    · simp only [List.forall_mem_cons]
      exact ⟨⟨by decide, quoted_writtenText "port".toList, by decide, by decide, by decide⟩,
        ⟨by decide, quoted_writtenText "x".toList, by decide, by decide, by decide⟩,
        ⟨by decide, hostName, by decide, by decide, by decide⟩, fun _ h => nomatch h⟩
    · simp only [List.forall_mem_cons]
      exact ⟨.number (numeral_written (isProper_ofNat 22)), emptyArray, .string host,
        fun _ h => nomatch h⟩
  have printable (n : Nat) : Printable (.nat n) := .number (isProper_ofNat n)
  have pair : Document (.array [.text "::", .nat 22]) "[\"::\",22]" :=
    document_toText (.array (by simpa using ⟨.string _, printable 22⟩))
  have document (fields : List (List Char × Value)) (h : ∀ f ∈ fields, Printable f.2) :
      Document (.object (entries fields)) (Value.object (entries fields)).toText :=
    document_toText (.object (List.forall_mem_map.mpr fun _ _ => rfl) (List.forall_mem_map.mpr h))
  have unknown (v : Value) {names : List (List Char)} (h : "x".toList ∉ names) :
      ∀ m ∈ [(some "x".toList, v)], ∃ n, m.1 = some n ∧ n ∉ names :=
    fun _ hm => ⟨_, congrArg Prod.fst (List.mem_singleton.mp hm), h⟩
  -- Each text is shown to be a document of its value, and the statement applied to it.
  refine ⟨?_, ?_, ?_, ?_, ?_, ?_, ?_⟩
  · have others := @List.perm_append_comm (Text? × Value)
      [(some "port".toList, .nat 22), (some "x".toList, .array [])]
      [(some "host".toList, .text "😀")]
    exact (targets ⟨"😀", 22, .any⟩ _).2 (.inl
      ⟨_, ⟨[(some "x".toList, .array [])], others, unknown _ (by decide)⟩, spelled⟩)
  · have listed := document
      [("max_idle_secs".toList, .nat 5), ("x".toList, .null), ("banner".toList, .text "hi")]
      (by simpa using ⟨printable 5, .null, .string _⟩)
    exact settings { maxIdleSeconds := 5, banner := some "hi" } [.maxIdleSeconds, .banner] _
      (by decide)
      ⟨_, ⟨[(some "x".toList, .null)], .cons _ (.swap _ _ []), unknown _ (by decide)⟩, listed⟩
  · exact prefixes { listenHost := "::", listenPort := 22 } 2 _ pair
  · have listed := document [("listen_port".toList, .nat 22), ("listen_host".toList, .text "::")]
      (by simpa using ⟨printable 22, .string _⟩)
    exact arrays _ _ _ (by decide) pair ⟨_, ⟨[], .swap _ _ [], fun _ h => nomatch h⟩, listed⟩
  · have listed := document [("shell".toList, .text "a"), ("shell".toList, .text "b")]
      (by simpa using ⟨.string _, .string _⟩)
    exact repeated .shell (.text "a") (.text "b") _ _ (.refl _) listed
  · have large : ¬ Kind.Admits (.number UInt16.size) (.nat 65536) := by
      rintro ⟨⟩
      rename_i h
      exact absurd h.below (by decide)
    refine refused .listenPort (.nat 65536) (.array [.text "::", .nat 65536]) _
      (@Field.Given.item _ _ _ 1 rfl rfl) large
      (document_toText (.array (by simpa using ⟨.string _, printable 65536⟩)))
  · have listed := document [("shell".toList, .null)] (by simpa using .null)
    exact refused .shell .null _ _ (.member List.mem_cons_self) (by rintro ⟨⟩) listed

end ShellGateway
