import SchemaDiagram.CommandLine.Argument
import SchemaDiagram.Settings.Reader

namespace SchemaDiagram.CommandLine

structure GenerateOptions where
  input : String
  pattern : Option String := none
  dump : Bool := false
  output : Option String := none
  title : Option String := none
  format : Option String := none
  keepSource : Bool := false
  showOrphans : Bool := false
  limitSize : Option Nat := none
  renderer : Option String := none
  config : Option String := none
  json : Bool := false
  deriving DecidableEq, Repr

inductive Command where
  | generate (options : GenerateOptions)
  | completions (shell : String)
  deriving DecidableEq, Repr

structure Request where
  verbose : Bool
  command : Command
  deriving DecidableEq, Repr

def pixels? (text : String) : Option Nat := do
  let (negative, digits) := match text.toList with
    | '-' :: r => (true, r)
    | '+' :: r => (false, r)
    | r => (false, r)
  let n ← Settings.digitsNumber? 10 digits
  guard (n ≤ Settings.sizeLimit && (!negative || n = 0))
  pure n

def anyText (_ : String) : Bool := true

def isPath (text : String) : Bool := text ≠ ""

def shells : List String := ["bash", "elvish", "fish", "powershell", "zsh"]

def helpOption : OptionSpec := { name := "help", letter := some 'h', kind := .stops .help }

def verboseOption : OptionSpec := { name := "verbose", letter := some 'v', kind := .switch }

def versionOption : OptionSpec := { name := "version", letter := some 'V', kind := .stops .version }

def programOptions : List OptionSpec := [verboseOption, helpOption, versionOption]

def generateOptions : List OptionSpec := [
  { name := "pattern", letter := some 'p', kind := .value anyText },
  { name := "dump", kind := .switch },
  { name := "output", letter := some 'o', kind := .value isPath },
  { name := "title", kind := .value anyText },
  { name := "format", letter := some 'f', kind := .value anyText },
  { name := "puml", kind := .switch },
  { name := "show-orphans", kind := .switch },
  { name := "limit-size", kind := .value fun text => (pixels? text).isSome },
  { name := "renderer", kind := .value anyText },
  { name := "config", letter := some 'c', kind := .value isPath },
  { name := "json", kind := .switch },
  verboseOption, helpOption]

def completionsOptions : List OptionSpec := [verboseOption, helpOption]

/-- The one operand of a command, if it passes a test. What stops the reading counts only after
everything before it has been found in order. -/
def operand (accepts : String → Bool) (r : Reading) : Except Stop String :=
  if !r.isUnambiguous || 1 < r.operands.length || !r.operands.all accepts then .error .misuse
  else match r.ending, r.operands with
    | .stopped stop, _ => .error stop
    | .command .., _ => .error .misuse
    | .finished, [text] => .ok text
    | .finished, _ => .error .misuse

def readGenerate (args : List String) : Except Stop (Bool × Command) := do
  let r := readArguments generateOptions false none args
  let input ← operand isPath r
  if (r.value? "pattern").isSome && r.hasSwitch "dump" then .error .misuse
  else .ok (r.hasSwitch "verbose", .generate {
    input
    pattern := r.value? "pattern"
    dump := r.hasSwitch "dump"
    output := r.value? "output"
    title := r.value? "title"
    format := r.value? "format"
    keepSource := r.hasSwitch "puml"
    showOrphans := r.hasSwitch "show-orphans"
    limitSize := (r.value? "limit-size").bind pixels?
    renderer := r.value? "renderer"
    config := r.value? "config"
    json := r.hasSwitch "json" })

def readCompletions (args : List String) : Except Stop (Bool × Command) := do
  let r := readArguments completionsOptions false none args
  let shell ← operand shells.contains r
  .ok (r.hasSwitch "verbose", .completions shell)

def commandNames : List String := ["generate", "completions", "help"]

def readHelp : List String → Stop
  | [] => .help
  | [name] => if commandNames.contains name then .help else .misuse
  | _ => .misuse

def readCommand (name : String) (args : List String) : Except Stop (Bool × Command) :=
  if name = "generate" then readGenerate args
  else if name = "completions" then readCompletions args
  else if name = "help" then .error (readHelp args)
  else .error .misuse

def readRequest (args : List String) : Except Stop Request := do
  let r := readArguments programOptions true none args
  if !r.isUnambiguous then .error .misuse
  else match r.ending with
    | .stopped stop => .error stop
    | .finished => .error .misuse
    | .command name rest => do
        let (verbose, command) ← readCommand name rest
        .ok { verbose := verbose || r.hasSwitch "verbose", command }

end SchemaDiagram.CommandLine
