import ShellGateway.Proofs.Daemon.Launched

/-!
# Variables that were granted

A client that sets a variable is told whether that was granted, and counts on finding the
variable in what it starts then. It does: whatever is started on the channel has each variable
with the value that was granted last (`GrantedVariable.effect`), but for the type of a shell's
terminal.

A variable is granted on every open channel, if any are passed on at all, also when something
has begun on that channel already or its shell could not be started. Nothing is started on the
channel from then on, so such a grant is worth nothing: `granted_variable`, `granted_too_late`.
-/

namespace ShellGateway.Daemon

open Programs (Program)

/-- A request gave a variable a value on a channel, and was granted. -/
def Answered.Grants (x : Answered) (id : ChannelId) (name value : String) : Prop :=
  x.id = id ∧ x.request = .setVariable name value ∧ x.replies = [.success]

/-- Something has begun on a channel and the channel was not opened since, or a shell could not be
started on it. -/
def BegunOn (id : ChannelId) (answered : List Answered) : Prop :=
  ∃ earlier since, answered = earlier ++ since ∧ (∀ x ∈ since, ¬ x.Opens id) ∧
    ∃ x ∈ since, x.starts id = true

/-- The variables of a process that is started. -/
def Launch.variables? : Launch → Option (List (String × String))
  | .shell program terminal => some (program.terminalVariables terminal.term)
  | .exec program => some program.environment
  | .sftp _ => none

variable {o : ChannelOptions} {rs rs' : List Request} {id : ChannelId} {x : Answered}
  {answered : List Answered} {name value : String}

/-! ## Since a channel was opened -/

theorem requestsOn_append (id : ChannelId) (a b : List Answered) :
    requestsOn id (a ++ b) = requestsOn id a ++ requestsOn id b := by
  simp [requestsOn]

/-- What was answered last opened the channel, or the channel was open before. -/
theorem OpenSince.concat_cases (h : OpenSince id (answered ++ [x]) rs) :
    x.Opens id ∧ rs = [] ∨ ∃ rs', OpenSince id answered rs' ∧
      (x.id = id → x.request.Within) ∧ rs = rs' ++ requestsOn id [x] := by
  obtain ⟨before, opening, after, whole, opens, rfl, within⟩ := h
  rcases after.eq_nil_or_concat with rfl | ⟨after, last, rfl⟩
  · obtain ⟨-, hx⟩ := List.append_inj' whole rfl
    obtain rfl := (List.cons.inj hx).1
    exact .inl ⟨opens, rfl⟩
  · rw [List.concat_eq_append, ← List.cons_append, ← List.append_assoc] at whole
    obtain ⟨same, hx⟩ := List.append_inj' whole rfl
    obtain rfl := (List.cons.inj hx).1
    rw [List.concat_eq_append, requestsOn_append] at within
    refine .inr ⟨requestsOn id after, ⟨before, opening, after, same, opens, rfl, fun r hr => ?_⟩,
      fun hid => ?_, ?_⟩
    · exact within r (List.mem_append_left _ hr)
    · refine within _ (List.mem_append_right _ ?_)
      exact List.mem_map.mpr ⟨x, by simp [hid], rfl⟩
    · rw [List.concat_eq_append, requestsOn_append]

/-- A channel was opened last at one point. -/
theorem OpenSince.unique (h : OpenSince id answered rs) (h' : OpenSince id answered rs') :
    rs = rs' := by
  induction answered using List.reverseRecOn generalizing rs rs' with
  | nil =>
    obtain ⟨before, opening, after, whole, -⟩ := h
    cases before <;> cases whole
  | append_singleton answered x ih =>
    have apart : x.Opens id → ¬ (x.id = id → x.request.Within) :=
      fun opens within => (within opens.1).1 opens.2
    rcases h.concat_cases with ⟨opens, rfl⟩ | ⟨rs, since, within, rfl⟩
    · rcases h'.concat_cases with ⟨-, rfl⟩ | ⟨rs', -, within, -⟩
      · rfl
      · exact absurd within (apart opens)
    · rcases h'.concat_cases with ⟨opens, -⟩ | ⟨rs', since', -, rfl⟩
      · exact absurd within (apart opens)
      · rw [ih since since']

/-- A channel stays open until it is closed or opened anew. -/
theorem OpenSince.append (h : OpenSince id answered rs) {later : List Answered}
    (within : ∀ x ∈ later, x.id = id → x.request.Within) :
    OpenSince id (answered ++ later) (rs ++ requestsOn id later) := by
  obtain ⟨before, opening, after, rfl, opens, rfl, all⟩ := h
  refine ⟨before, opening, after ++ later, by simp, opens, by simp [requestsOn], ?_⟩
  intro r hr
  rcases List.mem_append.mp hr with hr | hr
  · exact all r hr
  · obtain ⟨x, hx, rfl⟩ := List.mem_map.mp hr
    obtain ⟨mem, here⟩ := List.mem_filter.mp hx
    exact within x mem (by simpa using here)

/-- Who sets a variable leaves the channel open. -/
theorem within_setVariable (name value : String) : (Request.setVariable name value).Within := by
  simp [Request.Within]

/-- The last request that gives a variable a value decides. -/
theorem lastValue?_append {later : List Request}
    (last : ∀ value', .setVariable name value' ∉ later) (rs : List Request) :
    lastValue? name (rs ++ .setVariable name value :: later) = some value := by
  have none : later.filterMap (Request.valueOf? name) = [] := by
    rw [List.filterMap_eq_nil_iff]
    intro r hr
    cases r with
    | setVariable name' value' =>
      refine if_neg ?_
      rintro rfl
      exact last value' hr
    | _ => rfl
  have given : Request.valueOf? name (.setVariable name value) = some value := if_pos rfl
  rw [lastValue?, List.filterMap_append, List.filterMap_cons_some given, none]
  simp

/-- **What is started has each variable with the value it was given last**, if any is passed on;
the type of a shell's terminal apart. -/
theorem Runs.mem_variables {r : Request} {launch : Launch} {given : List (String × String)}
    (runs : Runs o rs r launch) (process : launch.variables? = some given)
    (ordinary : r = .shell → name ≠ Program.termVariable) :
    (name, value) ∈ given ↔ o.envPassthrough = true ∧ lastValue? name rs = some value := by
  cases runs with
  | shell argv environment wanted size onTerminal =>
    obtain rfl := Option.some.inj process
    rw [onTerminal, if_neg (ordinary rfl)]
    exact environment.mem_iff name value
  | exec argv reads environment =>
    obtain rfl := Option.some.inj process
    exact environment.mem_iff name value
  | sftp => cases process

namespace Service

variable {s t : Service} {events : List Occurrence} {before rest : List Answered}

/-! ## Which requests are granted -/

/-- A channel is there if the record says that it is open. -/
theorem isSome_of_openSince (ran : Service.run o {} events = some s)
    (since : OpenSince id s.answered rs) : (s.connection.channels.get? id).isSome = true := by
  induction events using List.reverseRecOn generalizing s rs with
  | nil =>
    obtain rfl := Option.some.inj ran
    obtain ⟨before, opening, after, whole, -⟩ := since
    cases before <;> cases whole
  | append_singleton events e ih =>
    rw [run_concat] at ran
    obtain ⟨u, hu, he⟩ := Option.bind_eq_some_iff.mp ran
    cases e with
    | resize id' | stop id' =>
      obtain rfl := Option.some.inj he
      rw [Connection.get?_changeShell, Option.isSome_map]
      exact ih hu since
    | request id' r attached =>
      obtain ⟨hconnection, hanswered⟩ := step_request he
      rw [hanswered] at since
      rw [hconnection]
      rcases since.concat_cases with ⟨⟨rfl, rfl⟩, -⟩ | ⟨rs', since', within, -⟩
      · show ((u.connection.put id' {}).channels.get? id').isSome = true
        rw [Connection.get?_put, if_pos rfl]
        rfl
      · have there := ih hu since'
        by_cases hid : id' = id
        · subst hid
          obtain ⟨channel, found⟩ := Option.isSome_iff_exists.mp there
          obtain ⟨channel', found', -⟩ :=
            Connection.heeded_handle (o := o) (fun _ _ => attached) found (within rfl)
          exact Option.isSome_of_eq_some found'
        · rw [(Connection.effect_handle _ r).get?_other (Ne.symm hid)]
          exact there

/-- **A variable is granted on every open channel**, if any are passed on. -/
theorem replies_setVariable (ran : Service.run o {} events = some t)
    (split : t.answered = before ++ x :: rest) (sets : x.request = .setVariable name value) :
    x.replies = [.success] ∧ o.envPassthrough = true ∧ (∃ rs, OpenSince x.id before rs) ∨
      x.replies = [.failure] ∧ ¬ (o.envPassthrough = true ∧ ∃ rs, OpenSince x.id before rs) := by
  obtain ⟨past, attached, s, u, hs, rfl, step, hu⟩ := moment ran split
  obtain ⟨-, hanswered⟩ := step_request step
  have replied : x.replies = (s.connection.setVariable o x.id name value).replies := by
    have last := (List.cons.inj (List.append_cancel_left (hanswered.symm.trans hu))).1
    rw [← last, sets]
    rfl
  rw [replied]
  unfold Connection.setVariable
  cases passed : o.envPassthrough with
  | false => exact .inr ⟨rfl, fun granted => Bool.false_ne_true granted.1⟩
  | true =>
    cases found : s.connection.channels.get? x.id with
    | none =>
      refine .inr ⟨rfl, fun ⟨_, rs, since⟩ => ?_⟩
      have there := isSome_of_openSince hs since
      rw [found] at there
      cases there
    | some channel =>
      obtain ⟨rs, since, -⟩ := remembers_run hs x.id channel found
      exact .inl ⟨rfl, rfl, rs, since⟩

/-! ## What a grant is worth -/

/-- How a request to set a variable is answered, and what comes of it. -/
structure GrantedVariable (o : ChannelOptions) (before : List Answered) (x : Answered)
    (rest : List Answered) (name value : String) : Prop where
  reply : x.replies = [.success] ∧ o.envPassthrough = true ∧ (∃ rs, OpenSince x.id before rs) ∨
    x.replies = [.failure] ∧ ¬ (o.envPassthrough = true ∧ ∃ rs, OpenSince x.id before rs)
  /-- What is started on the channel while it is open has a variable that was granted, with this
  value and no other, unless another was granted in between. -/
  effect : x.replies = [.success] → ∀ between y after launch given,
    rest = between ++ y :: after → y.id = x.id → y.launch = some launch →
    launch.variables? = some given → (∀ z ∈ between, z.id = x.id → z.request.Within) →
    (∀ z ∈ between, ∀ value', ¬ z.Grants x.id name value') →
    (y.request = .shell → name ≠ Program.termVariable) →
      ∀ value', (name, value') ∈ given ↔ value' = value
  /-- Where something has begun already, nothing is started until the channel is opened anew, and
  so nothing has the variable. -/
  late : BegunOn x.id before → ∀ onward after, rest = onward ++ after →
    (∀ y ∈ onward, ¬ y.Opens x.id) → ∀ y ∈ onward, y.id = x.id → y.launch = none

section

variable (ran : Service.run o {} events = some t) (split : t.answered = before ++ x :: rest)
  (sets : x.request = .setVariable name value)

include ran split sets

/-- While a channel is open, every request to set a variable on it is granted if one was. -/
theorem grants_of_granted (granted : x.replies = [.success]) {between : List Answered}
    (onward : between <+: rest) (within : ∀ z ∈ between, z.id = x.id → z.request.Within)
    {z : Answered} (mem : z ∈ between) (same : z.id = x.id) {name' value' : String}
    (also : z.request = .setVariable name' value') : z.Grants x.id name' value' := by
  obtain ⟨-, passed, rs, since⟩ | ⟨refused, -⟩ := replies_setVariable ran split sets
  case inr => simp [granted] at refused
  obtain ⟨front, back, rfl⟩ := List.append_of_mem mem
  obtain ⟨after, rfl⟩ := onward
  have whole : t.answered = (before ++ x :: front) ++ z :: (back ++ after) := by
    rw [split]
    simp
  have still : OpenSince z.id (before ++ x :: front) (rs ++ requestsOn x.id (x :: front)) := by
    rw [same]
    refine since.append fun w hw hid => ?_
    rcases List.mem_cons.mp hw with rfl | hw
    · exact sets ▸ within_setVariable name value
    · exact within w (List.mem_append_left _ hw) hid
  refine ⟨same, also, ?_⟩
  rcases replies_setVariable ran whole also with ⟨success, -⟩ | ⟨-, closed⟩
  · exact success
  · exact absurd ⟨passed, _, still⟩ closed

/-- The requests on a channel in which a variable was granted and no other after it. -/
theorem openSince_of_granted (granted : x.replies = [.success]) {between : List Answered}
    (onward : between <+: rest) (within : ∀ z ∈ between, z.id = x.id → z.request.Within)
    (last : ∀ z ∈ between, ∀ value', ¬ z.Grants x.id name value') :
    o.envPassthrough = true ∧ ∃ rs, OpenSince x.id (before ++ x :: between) rs ∧
      lastValue? name rs = some value := by
  obtain ⟨-, passed, rs, since⟩ | ⟨refused, -⟩ := replies_setVariable ran split sets
  case inr => simp [granted] at refused
  have asked : requestsOn x.id (x :: between) =
      .setVariable name value :: requestsOn x.id between := by
    simp [requestsOn, sets]
  refine ⟨passed, rs ++ requestsOn x.id (x :: between), since.append fun w hw hid => ?_, ?_⟩
  · rcases List.mem_cons.mp hw with rfl | hw
    · exact sets ▸ within_setVariable name value
    · exact within w hw hid
  · rw [asked]
    refine lastValue?_append (fun value' mem => ?_) rs
    obtain ⟨z, hz, also⟩ := List.mem_map.mp mem
    obtain ⟨there, same⟩ := List.mem_filter.mp hz
    have grants := grants_of_granted ran split sets granted onward within there
      (by simpa using same) also
    exact last z there value' grants

end

/-- Where something has begun, nothing is started until the channel is opened anew. -/
theorem launch_eq_none_of_begunOn (ran : Service.run o {} events = some t)
    (split : t.answered = answered ++ rest) (begun : BegunOn id answered)
    {onward : List Answered} (next : onward <+: rest) (unopened : ∀ y ∈ onward, ¬ y.Opens id)
    {y : Answered} (mem : y ∈ onward) (same : y.id = id) : y.launch = none := by
  obtain ⟨earlier, since, rfl, unopened', x, hx, starts⟩ := begun
  obtain ⟨after, rfl⟩ := next
  have within : since ++ onward <:+: t.answered := ⟨earlier, after, by simp [split]⟩
  have once := starts_le_one ran id within fun z hz => by
    rcases List.mem_append.mp hz with hz | hz
    · exact unopened' z hz
    · exact unopened z hz
  have first : 0 < since.countP (·.starts id) := List.countP_pos_iff.mpr ⟨x, hx, starts⟩
  rw [List.countP_append] at once
  have others : onward.countP (·.starts id) = 0 := by omega
  -- a start would be a second one
  by_contra launched
  refine List.countP_eq_zero.mp others y mem ?_
  simp [Answered.starts, begins, same, Option.isSome_iff_ne_none.mpr launched]

/-- **Every variable that is granted takes effect in what is started after that**, and it is
granted whether or not anything can still be started. -/
theorem granted_variable (ran : Service.run o {} events = some t)
    (split : t.answered = before ++ x :: rest) (sets : x.request = .setVariable name value) :
    GrantedVariable o before x rest name value := by
  constructor
  case reply => exact replies_setVariable ran split sets
  case effect =>
    intro granted between y after launch given hrest same launched process within last ordinary
      value'
    have whole : t.answered = (before ++ x :: between) ++ y :: after := by
      rw [split, hrest, List.append_assoc, List.cons_append]
    obtain ⟨passed, rs, since, value?⟩ :=
      openSince_of_granted ran split sets granted ⟨_, hrest.symm⟩ within last
    obtain ⟨past, attached, s, u, hs, hbefore, step, hu⟩ := moment ran whole
    rw [← hbefore] at hu
    obtain ⟨channel, channel', found, -, heeds⟩ := launch_heeds step hu launched
    obtain ⟨rs', since', remembers⟩ := remembers_run hs y.id channel found
    rw [hbefore, same] at since'
    obtain rfl := since.unique since'
    rw [(remembers.runs heeds).mem_variables process ordinary, value?, Option.some_inj]
    exact ⟨fun h => h.2.symm, fun h => ⟨passed, h.symm⟩⟩
  case late =>
    intro begun onward after hrest unopened y mem same
    have whole : t.answered = (before ++ [x]) ++ rest := by rw [split, List.append_assoc]; rfl
    obtain ⟨earlier, since, rfl, unopened', z, hz, starts⟩ := begun
    have other : ¬ x.Opens x.id := by
      rintro ⟨-, opens⟩
      rw [sets] at opens
      cases opens
    have still : BegunOn x.id (earlier ++ since ++ [x]) := by
      refine ⟨earlier, since ++ [x], List.append_assoc _ _ _, fun w hw => ?_, z,
        List.mem_append_left _ hz, starts⟩
      rcases List.mem_append.mp hw with hw | hw
      · exact unopened' w hw
      · exact List.mem_singleton.mp hw ▸ other
    exact launch_eq_none_of_begunOn ran whole still ⟨after, hrest.symm⟩ unopened mem same

/-- A client that sets a variable twice before it runs a command, and once more before it asks for
a shell. -/
def forgetfulClient : List Occurrence :=
  [.request 0 .openChannel (.ok ()), .request 0 (.setVariable "A" "1") (.ok ()),
    .request 0 (.setVariable "A" "2") (.ok ()), .request 0 (.setVariable "B" "3") (.ok ()),
    .request 0 (.exec []) (.ok ()), .request 0 (.setVariable "A" "4") (.ok ()),
    .request 0 .shell (.ok ())]

/-- How that client's requests are answered: the last variable is granted like the others, the
shell is not. -/
theorem run_forgetfulClient : ∃ t program begun,
    Service.run ⟨"/bin/sh", none, true, none⟩ {} forgetfulClient = some t ∧
      begun = [⟨0, .openChannel, [], none⟩, ⟨0, .setVariable "A" "1", [.success], none⟩] ++
        ⟨0, .setVariable "A" "2", [.success], none⟩ ::
          [⟨0, .setVariable "B" "3", [.success], none⟩,
            ⟨0, .exec [], [.success], some (.exec program)⟩] ∧
      BegunOn 0 begun ∧
      t.answered = begun ++ ⟨0, .setVariable "A" "4", [.success], none⟩ ::
        [⟨0, .shell, [.failure], none⟩] := by
  refine ⟨_, _, _, rfl, rfl, ?_, rfl⟩
  refine ⟨[⟨0, .openChannel, [], none⟩], _, rfl, ?_, _, .tail _ (.tail _ (.tail _ (.head _))), rfl⟩
  simp [Answered.Opens]

theorem granted_variable_forgetfulClient : ∃ t program before x rest begun x' rest',
    Service.run ⟨"/bin/sh", none, true, none⟩ {} forgetfulClient = some t ∧
      (t.answered = before ++ x :: rest ∧ x.Grants 0 "A" "2" ∧
        (∃ y ∈ rest, y.id = 0 ∧ y.launch = some (.exec program)) ∧
        ∀ value, ("A", value) ∈ program.environment ↔ value = "2") ∧
      t.answered = begun ++ x' :: rest' ∧ x'.Grants 0 "A" "4" ∧ BegunOn 0 begun ∧
        ∃ y ∈ rest', y.id = 0 ∧ y.request = .shell ∧ y.launch = none := by
  obtain ⟨t, program, begun, ran, rfl, started, all⟩ := run_forgetfulClient
  have early : t.answered =
      [⟨0, .openChannel, [], none⟩, ⟨0, .setVariable "A" "1", [.success], none⟩] ++
        ⟨0, .setVariable "A" "2", [.success], none⟩ ::
          ([⟨0, .setVariable "B" "3", [.success], none⟩] ++
            ⟨0, .exec [], [.success], some (.exec program)⟩ ::
              [⟨0, .setVariable "A" "4", [.success], none⟩, ⟨0, .shell, [.failure], none⟩]) := all
  refine ⟨t, program, _, _, _, _, _, _, ran, ⟨early, ⟨rfl, rfl, rfl⟩, ⟨_, .tail _ (.head _), rfl, rfl⟩, ?_⟩,
    all, ⟨rfl, rfl, rfl⟩, started, _, .head _, rfl, rfl, ?_⟩
  · refine (granted_variable ran early rfl).effect rfl _ _ _ (.exec program) _ rfl rfl rfl rfl
      ?_ ?_ nofun
    · simp [Request.Within]
    · simp [Answered.Grants]
  · have late := (granted_variable ran all rfl).late started _ [] (List.append_nil _).symm
    exact late (by simp [Answered.Opens]) _ (.head _) rfl

/-- **A variable is granted although nothing can be started with it any more.** -/
theorem granted_too_late :
    ¬ ∀ (o : ChannelOptions) (events : List Occurrence) (t : Service)
      (before rest : List Answered) (x : Answered) (name value : String),
      Service.run o {} events = some t → t.answered = before ++ x :: rest →
        x.request = .setVariable name value → BegunOn x.id before → x.replies = [.failure] := by
  intro refused
  obtain ⟨t, program, begun, ran, -, started, all⟩ := run_forgetfulClient
  cases refused _ _ _ _ _ _ _ _ ran all rfl started

end Service

end ShellGateway.Daemon
