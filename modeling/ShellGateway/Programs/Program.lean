import ShellGateway.Dictionary
import ShellGateway.Window

/-!
# Programs to start

What is started for a channel: the shell by itself, or the shell with a command
to run. The variables that the client set are listed in the order of their
names, each once. On a terminal, the variable `TERM` is the terminal's type,
whatever the client set it to.
-/

namespace ShellGateway.Programs

/-- A program with its arguments, the variables set for it, and the directory
it starts in. -/
structure Program where
  path : String
  arguments : List String
  environment : List (String × String)
  workDir : Option String
  deriving DecidableEq, Repr

/-- Whether one name comes before another or is the same; names are compared by
the bytes of their text. -/
def nameLe (a b : String) : Bool :=
  !(decide (b < a))

/-- The variables in the order of their names. -/
def sorted (environment : Dictionary String String) : List (String × String) :=
  environment.sortedBy nameLe

namespace Program

/-- The shell by itself. -/
def interactive (shell : String) (environment : Dictionary String String)
    (workDir : Option String) : Program where
  path := shell
  arguments := []
  environment := sorted environment
  workDir := workDir

/-- The shell with a command to run. -/
def command (shell command : String) (environment : Dictionary String String)
    (workDir : Option String) : Program where
  path := shell
  arguments := ["-c", command]
  environment := sorted environment
  workDir := workDir

/-- The program and its arguments. -/
def argv (p : Program) : List String :=
  p.path :: p.arguments

/-- The name of the variable that holds the terminal's type. -/
def termVariable : String := "TERM"

/-- The variables that are set for the program on a terminal. -/
def terminalVariables (p : Program) (term : String) : List (String × String) :=
  sorted ((p.environment.foldl (fun d v => d.insert v.1 v.2) Dictionary.empty).insert termVariable term)

end Program

end ShellGateway.Programs
