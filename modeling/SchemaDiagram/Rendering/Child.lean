import SchemaDiagram.Files.Workspace

namespace SchemaDiagram

structure Invocation where
  program : String
  arguments : List String
  environment : List (String × String)
  input : String
  deriving DecidableEq, Repr

inductive ExitStatus where
  | code (number : Nat)
  | signal (number : Nat) (dumped : Bool)
  deriving DecidableEq, Repr

namespace ExitStatus

def killed : ExitStatus := .signal 9 false

def isSuccess : ExitStatus → Bool
  | .code n => n == 0
  | .signal .. => false

def signalNames : List String := [
  "SIGHUP", "SIGINT", "SIGQUIT", "SIGILL", "SIGTRAP", "SIGABRT", "SIGBUS", "SIGFPE", "SIGKILL",
  "SIGUSR1", "SIGSEGV", "SIGUSR2", "SIGPIPE", "SIGALRM", "SIGTERM", "SIGSTKFLT", "SIGCHLD",
  "SIGCONT", "SIGSTOP", "SIGTSTP", "SIGTTIN", "SIGTTOU", "SIGURG", "SIGXCPU", "SIGXFSZ",
  "SIGVTALRM", "SIGPROF", "SIGWINCH", "SIGIO", "SIGPWR", "SIGSYS"]

def signalName? : Nat → Option String
  | 0 => none
  | n + 1 => signalNames[n]?

def signalText (number : Nat) : String :=
  match signalName? number with
  | some name => toString number ++ " (" ++ name ++ ")"
  | none => toString number

def message : ExitStatus → String
  | .code n => "exit status: " ++ toString n
  | .signal n dumped => "signal: " ++ signalText n ++ (if dumped then " (core dumped)" else "")

end ExitStatus

inductive ChildOutcome where
  | notStarted (cause : AccessFailure)
  | ended (status : ExitStatus) (output : ByteArray) (feedFailure : Option AccessFailure)

/-- Starts programs. It is given the workspace to find them in and leaves it as it is. -/
abbrev Launcher := Workspace → Invocation → ChildOutcome

end SchemaDiagram
