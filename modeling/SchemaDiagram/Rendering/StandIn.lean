import SchemaDiagram.Rendering.Child

namespace SchemaDiagram

inductive StandIn.Command where
  | copy
  | copyAndEnd
  | drain
  | describe
  | say (words : String)
  | exit (status : Nat)
  | kill
  | succeed
  | fail
  | pass (comment : String)
  | unknown (line : String)
  deriving DecidableEq, Repr

abbrev StandIn := List StandIn.Command

namespace StandIn

def Command.line : Command → String
  | .copy => "cat"
  | .copyAndEnd => "exec cat"
  | .drain => "cat > /dev/null"
  | .describe => "printf '%s %s' \"$PLANTUML_LIMIT_SIZE\" \"$*\""
  | .say words => "echo " ++ words
  | .exit status => "exit " ++ toString status
  | .kill => "kill -9 $$"
  | .succeed => "true"
  | .fail => "false"
  | .pass comment => comment
  | .unknown line => line

def fixed : List Command := [.copy, .copyAndEnd, .drain, .describe, .kill, .succeed, .fail]

def exitStatus? (line : String) : Option Nat := do
  let digits ← "exit ".toList.isPrefixOf? line.toList
  guard (digits.all Char.isDigit)
  (String.ofList digits).toNat?

def words? (line : String) : Option String := do
  let words ← "echo ".toList.isPrefixOf? line.toList
  guard ((words.splitOn ' ').all fun w => w ≠ [] && w.all Char.isAlphanum)
  pure (String.ofList words)

def isComment (line : String) : Bool := line.toList.head?.all (· == '#')

def Command.ofLine (line : String) : Command :=
  match fixed.find? (·.line = line), exitStatus? line, words? line with
  | some c, _, _ => c
  | none, some status, _ => .exit status
  | none, none, some words => .say words
  | none, none, none => if isComment line then .pass line else .unknown line

def shell : String := "/bin/sh"

def script (s : StandIn) : String :=
  "\n".intercalate (("#!" ++ shell) :: s.map Command.line) ++ "\n"

def isBlank (c : Char) : Bool := c == ' ' || c == '\t'

def interpreter? (first : String) : Option String := do
  let line ← "#!".toList.isPrefixOf? first.toList
  let name := (line.dropWhile isBlank).takeWhile (!isBlank ·)
  guard (name ≠ [])
  pure (String.ofList name)

def ofContent (content : ByteArray) : Except AccessFailure StandIn :=
  match ((String.fromUTF8? content).getD "").splitOn "\n" with
  | first :: lines =>
      match interpreter? first with
      | none => .error .notExecutable
      | some name =>
          if name = shell then .ok (lines.map Command.ofLine) else .error .notFound
  | [] => .error .notExecutable

structure Progress where
  left : String
  printed : String := ""
  status : Nat := 0

def Progress.ended (p : Progress) (status : ExitStatus) : ChildOutcome :=
  .ended status p.printed.toUTF8 (if p.left = "" then none else some .brokenPipe)

def Progress.print (p : Progress) (text : String) : Progress :=
  { p with printed := p.printed ++ text, status := 0 }

def Progress.drain (p : Progress) : Progress := { p with left := "", status := 0 }

def unknownStatus : Nat := 127

def runFrom (i : Invocation) : Progress → StandIn → ChildOutcome
  | p, [] => p.ended (.code p.status)
  | p, .copy :: rest => runFrom i (p.print p.left).drain rest
  | p, .copyAndEnd :: _ => (p.print p.left).drain.ended (.code 0)
  | p, .drain :: rest => runFrom i p.drain rest
  | p, .describe :: rest =>
      let limit := (i.environment.lookup "PLANTUML_LIMIT_SIZE").getD ""
      runFrom i (p.print (limit ++ " " ++ " ".intercalate i.arguments)) rest
  | p, .say words :: rest => runFrom i (p.print (words ++ "\n")) rest
  | p, .exit status :: _ => p.ended (.code (status % 256))
  | p, .kill :: _ => p.ended .killed
  | p, .succeed :: rest => runFrom i { p with status := 0 } rest
  | p, .fail :: rest => runFrom i { p with status := 1 } rest
  | p, .pass _ :: rest => runFrom i p rest
  | p, .unknown _ :: rest => runFrom i { p with status := unknownStatus } rest

def run (s : StandIn) (i : Invocation) : ChildOutcome := runFrom i { left := i.input } s

def missing (name : String) : AccessFailure :=
  if name = "." || name = ".." then .permissionDenied
  else if Workspace.nameLimit < name.utf8ByteSize then .nameTooLong
  else .notFound

def launch : Launcher := fun w i =>
  if i.program.toList.contains '\x00' then .notStarted .nulInArgument
  else if !i.program.toList.contains '/' then .notStarted (missing i.program)
  else match w.find i.program with
    | .error cause => .notStarted cause
    | .ok (_, .folder) => .notStarted .permissionDenied
    | .ok (_, .file _ false) => .notStarted .permissionDenied
    | .ok (_, .file content true) =>
        match ofContent content with
        | .ok s => s.run i
        | .error cause => .notStarted cause

end StandIn

end SchemaDiagram
