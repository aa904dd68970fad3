import SchemaDiagram.CommandLine.Generate

namespace SchemaDiagram.CommandLine

structure Outcome where
  exitCode : Nat
  output : String := ""
  errors : String := ""
  files : Workspace

def versionText : String := "ddl-erd 0.1.0\n"

def optionUsage (o : OptionSpec) : String :=
  let letter := match o.letter with
    | some c => "-" ++ String.ofList [c] ++ ", "
    | none => "    "
  let value := match o.kind with
    | .value _ => " <" ++ o.name ++ ">"
    | _ => ""
  "  " ++ letter ++ "--" ++ o.name ++ value ++ "\n"

def helpText : String :=
  "Generate entity relationship diagrams from MySQL CREATE TABLE statements\n\n"
    ++ "Usage: ddl-erd [OPTIONS] <COMMAND>\n\n"
    ++ "Options:\n" ++ String.join (programOptions.map optionUsage)
    ++ "\ngenerate <INPUT>\n" ++ String.join (generateOptions.map optionUsage)
    ++ "\ncompletions <" ++ "|".intercalate shells ++ ">\n"
    ++ String.join (completionsOptions.map optionUsage)

def completionWords : List String :=
  commandNames ++ (generateOptions.map fun o => "--" ++ o.name)

def completionText (shell : String) : String :=
  if shell = "bash" then "complete -W '" ++ " ".intercalate completionWords ++ "' ddl-erd\n"
  else Text.unlines completionWords

def errorText (verbose : Bool) (events : List Event) : String :=
  Text.unlines ((events.filter (Event.isShown verbose)).map Event.line)

def runCommand (launch : Launcher) (request : Request) (files : Workspace) : Outcome :=
  match request.command with
  | .completions shell => { exitCode := 0, output := completionText shell, files }
  | .generate options =>
      match (runGenerate launch options).run.run { files } with
      | (.ok output, desk) =>
          { exitCode := 0, output, errors := errorText request.verbose desk.events
            files := desk.files }
      | (.error failure, desk) =>
          { exitCode := 1
            errors := errorText request.verbose desk.events ++ failure.message ++ "\n"
            files := desk.files }

def run (launch : Launcher) (args : List String) (files : Workspace) : Outcome :=
  match readRequest args with
  | .ok request => runCommand launch request files
  | .error .help => { exitCode := 0, output := helpText, files }
  | .error .version => { exitCode := 0, output := versionText, files }
  | .error .misuse => { exitCode := 2, errors := helpText, files }

end SchemaDiagram.CommandLine
