import ShellGateway.Dictionary

/-!
# The grammar of command lines

A command line is a list of switches, some of which take a value. A switch has
a long name (`--name`, `--name value`, `--name=value`) and perhaps a letter
(`-n`, `-n value`, `-nvalue`, `-n=value`); letters of switches without a value
may share one dash. Names are never abbreviated, and there are no bare words.

Faults are reported from left to right. A value is judged when the next switch
begins or the line ends, so that an unknown word right after a bad value is
reported first. A word that begins with a dash is a switch, never a value,
except for the dash alone.
-/

namespace ShellGateway.CommandLine

/-- Why a command line is not obeyed. Asking for help or for the version counts
as one, since nothing else is done then. -/
inductive Usage where
  | unknownArgument
  | invalidValue
  | valueValidation
  | argumentConflict
  | tooManyValues
  | displayHelp
  | displayVersion
  deriving DecidableEq, Repr

/-- What a switch does. -/
inductive Action where
  /-- Takes a value, once. -/
  | set (check : String → Except Usage Unit)
  /-- Takes a value each time. -/
  | append (check : String → Except Usage Unit)
  /-- Is given or not; from the environment it takes a truth value. -/
  | raise
  /-- Counts how often it is given. -/
  | count
  | help
  | version

/-- A switch: its long name, its letter, the environment variable that stands
in for it, and what it does. -/
structure Switch where
  long : String
  letter : Option Char := none
  environment : Option String := none
  action : Action

/-- Whether a switch takes a value. -/
def Switch.takesValue (s : Switch) : Bool :=
  match s.action with
  | .set _ | .append _ => true
  | .raise | .count | .help | .version => false

/-- What has been read: the occurrences so far, newest first, and the switch
that has begun but has not been judged yet, with its value if that has come. -/
structure Progress where
  given : List (String × String) := []
  begun : Option (Switch × Option String) := none
  escaped : Bool := false

namespace Progress

/-- Whether a switch has occurred. -/
def has (p : Progress) (long : String) : Bool :=
  p.given.any (·.1 == long)

/-- Records an occurrence. -/
def record (p : Progress) (long value : String) : Progress :=
  { p with given := (long, value) :: p.given }

/-- Judges an occurrence of a switch with the value it was given. -/
def occur (p : Progress) (s : Switch) (value? : Option String) : Except Usage Progress :=
  match s.action, value? with
  | .set _, none | .append _, none => .error .invalidValue
  | .set check, some value =>
    if p.has s.long then .error .argumentConflict
    else do
      check value
      return p.record s.long value
  | .append check, some value => do
    check value
    return p.record s.long value
  | .raise, _ => if p.has s.long then .error .argumentConflict else .ok (p.record s.long "true")
  | .count, _ => .ok (p.record s.long "")
  | .help, _ => .error .displayHelp
  | .version, _ => .error .displayVersion

/-- Judges the switch that has begun, if one has. -/
def settle (p : Progress) : Except Usage Progress :=
  match p.begun with
  | some (s, value?) => { p with begun := none }.occur s value?
  | none => .ok p

/-- Reads a switch with a value that may be attached to it. -/
def switch (p : Progress) (s : Switch) (attached? : Option String) : Except Usage Progress := do
  let p ← p.settle
  if s.takesValue && attached?.isNone then return { p with begun := some (s, none) }
  else p.occur s attached?

/-- Reads letters after a dash. The first letter of a switch that takes a value
takes all that follows. -/
def letters (switches : List Switch) : List Char → Progress → Except Usage Progress
  | [], p => .ok p
  | c :: rest, p =>
    match switches.find? (·.letter == some c) with
    | none => .error .unknownArgument
    | some s =>
      if s.takesValue then
        match rest with
        | [] => p.switch s none
        | '=' :: value => p.switch s (some (String.ofList value))
        | value => p.switch s (some (String.ofList value))
      else do
        let p ← p.switch s none
        letters switches rest p

/-- Splits the text after two dashes at the first equals sign. -/
def splitAttached : List Char → List Char × Option (List Char)
  | [] => ([], none)
  | c :: rest =>
    if c = '=' then ([], some rest)
    else
      let (name, value?) := splitAttached rest
      (c :: name, value?)

/-- Reads a word that is no switch: the value of the switch that has begun, or
out of place. -/
def bare (p : Progress) (word : String) : Except Usage Progress :=
  match p.begun with
  | some (s, none) => .ok { p with begun := some (s, some word) }
  | _ => .error .unknownArgument

/-- Reads one word of the command line. -/
def word (switches : List Switch) (p : Progress) (word : String) : Except Usage Progress :=
  if p.escaped then .error .unknownArgument
  else
    match word.toList with
    | ['-', '-'] => .ok { p with escaped := true }
    | '-' :: '-' :: rest =>
      let (name, attached?) := splitAttached rest
      match switches.find? (·.long == String.ofList name) with
      | none => .error .unknownArgument
      | some s =>
        if attached?.isSome && !s.takesValue then .error .tooManyValues
        else p.switch s (attached?.map String.ofList)
    | '-' :: c :: rest => p.letters switches (c :: rest)
    | _ => p.bare word

/-- Lets the environment stand in for switches that were not given. -/
def fromEnvironment (lookup : String → Option String) :
    List Switch → Progress → Except Usage Progress
  | [], p => .ok p
  | s :: rest, p =>
    match s.environment >>= lookup with
    | none => fromEnvironment lookup rest p
    | some value =>
      if p.has s.long then fromEnvironment lookup rest p
      else
        match s.action with
        | .raise =>
          if value == "true" then fromEnvironment lookup rest (p.record s.long value)
          else if value == "false" then fromEnvironment lookup rest p
          else .error .invalidValue
        | _ => do
          let p ← p.occur s (some value)
          fromEnvironment lookup rest p

end Progress

/-- The occurrences on a command line and in the environment, in order. -/
def read (switches : List Switch) (words : List String) (lookup : String → Option String) :
    Except Usage (List (String × String)) := do
  let p ← words.foldlM (Progress.word switches) {}
  let p ← p.settle
  let p ← p.fromEnvironment lookup switches
  return p.given.reverse

/-- The values given to a switch, in order. -/
def valuesOf (given : List (String × String)) (long : String) : List String :=
  (given.filter (·.1 == long)).map (·.2)

end ShellGateway.CommandLine
