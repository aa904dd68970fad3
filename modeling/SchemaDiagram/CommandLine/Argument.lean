namespace SchemaDiagram.CommandLine

inductive Stop where
  | misuse
  | help
  | version
  deriving DecidableEq, Repr

inductive OptionKind where
  | switch
  | value (accepts : String → Bool)
  | stops (stop : Stop)

structure OptionSpec where
  name : String
  letter : Option Char := none
  kind : OptionKind

inductive Argument where
  | switch (name : String)
  | value (name text : String)
  | operand (text : String)
  deriving DecidableEq, Repr

namespace Argument

def name? : Argument → Option String
  | .switch name => some name
  | .value name _ => some name
  | .operand _ => none

def operand? : Argument → Option String
  | .operand text => some text
  | _ => none

end Argument

inductive Ending where
  | finished
  | stopped (stop : Stop)
  | command (name : String) (rest : List String)
  deriving DecidableEq, Repr

structure Reading where
  arguments : List Argument := []
  ending : Ending := .finished
  deriving DecidableEq, Repr

namespace Reading

def stopped (stop : Stop) : Reading := { ending := .stopped stop }

def after (a : Argument) (r : Reading) : Reading := { r with arguments := a :: r.arguments }

def value? (r : Reading) (name : String) : Option String :=
  r.arguments.findSome? fun a => match a with
    | .value n text => if n = name then some text else none
    | _ => none

def hasSwitch (r : Reading) (name : String) : Bool := r.arguments.contains (.switch name)

def operands (r : Reading) : List String := r.arguments.filterMap Argument.operand?

def isUnambiguous (r : Reading) : Bool :=
  (r.arguments.filterMap Argument.name?).Nodup

end Reading

inductive Piece where
  | operand
  | separator
  | long (name : String) (value : Option String)
  | letters (cluster : List Char)
  deriving DecidableEq, Repr

def Piece.ofText (text : String) : Piece :=
  match text.toList with
  | ['-', '-'] => .separator
  | '-' :: '-' :: r =>
      let name := r.takeWhile (· ≠ '=')
      match r.dropWhile (· ≠ '=') with
      | _ :: value => .long (String.ofList name) (some (String.ofList value))
      | [] => .long (String.ofList name) none
  | '-' :: c :: r => .letters (c :: r)
  | _ => .operand

structure Cluster where
  arguments : List Argument := []
  pending : Option OptionSpec := none
  stop : Option Stop := none

def readCluster (specs : List OptionSpec) : List Char → Cluster
  | [] => {}
  | c :: r =>
      match specs.find? (·.letter == some c) with
      | none => { stop := some .misuse }
      | some spec =>
          match spec.kind with
          | .switch =>
              let cluster := readCluster specs r
              { cluster with arguments := .switch spec.name :: cluster.arguments }
          | .stops stop => { stop := some stop }
          | .value accepts =>
              match r with
              | [] => { pending := some spec }
              | _ =>
                  let text := String.ofList (("=".toList.isPrefixOf? r).getD r)
                  if accepts text then { arguments := [.value spec.name text] }
                  else { stop := some .misuse }

/-- Reads arguments. An option that has not got its value yet takes the next argument. With
`commands`, the first operand is the name of a command. -/
def readArguments (specs : List OptionSpec) (commands : Bool) :
    Option OptionSpec → List String → Reading
  | some _, [] => .stopped .misuse
  | none, [] => {}
  | some spec, text :: rest =>
      match Piece.ofText text, spec.kind with
      | .operand, .value accepts =>
          if accepts text then
            (readArguments specs commands none rest).after (.value spec.name text)
          else .stopped .misuse
      | _, _ => .stopped .misuse
  | none, text :: rest =>
      match Piece.ofText text with
      | .separator =>
          if commands then .stopped .misuse else { arguments := rest.map .operand }
      | .operand =>
          if commands then { ending := .command text rest }
          else (readArguments specs commands none rest).after (.operand text)
      | .letters cluster =>
          let c := readCluster specs cluster
          let r := match c.stop with
            | some stop => .stopped stop
            | none => readArguments specs commands c.pending rest
          c.arguments.foldr (fun a r => r.after a) r
      | .long name value =>
          match specs.find? (·.name == name) with
          | none => .stopped .misuse
          | some spec =>
              match spec.kind, value with
              | .switch, none =>
                  (readArguments specs commands none rest).after (.switch name)
              | .stops stop, none => .stopped stop
              | .value accepts, some text =>
                  if accepts text then
                    (readArguments specs commands none rest).after (.value name text)
                  else .stopped .misuse
              | .value _, none => readArguments specs commands (some spec) rest
              | _, some _ => .stopped .misuse

end SchemaDiagram.CommandLine
