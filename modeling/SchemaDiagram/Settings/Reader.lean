import SchemaDiagram.Settings.Basic
import SchemaDiagram.Yaml.Node

namespace SchemaDiagram

open Yaml

inductive Settings.Malformed where
  | notYaml (problem : Problem)
  | notMapping
  | badKey
  | repeatedKey (key : String)
  | badValue (key : String)
  deriving DecidableEq, Repr

namespace Settings

def Malformed.message : Malformed → String
  | .notYaml problem => problem.message
  | .notMapping => "the settings are no mapping"
  | .badKey => "a key is no scalar"
  | .repeatedKey key => "duplicate field \x60" ++ key ++ "\x60"
  | .badValue key => key ++ ": invalid value"

def textOf? : Node → Option String
  | .scalar _ _ text => some text
  | _ => none

def isNullText (s : String) : Bool := s == "null" || s == "Null" || s == "NULL" || s == "~"

def standardTag (name : String) : Octets := Octets.ofText ("tag:yaml.org,2002:" ++ name).toList

def optionalTextOf? : Node → Option (Option String)
  | .scalar .plain (some tag) text =>
      if tag = standardTag "null" then
        if isNullText text then some none else none
      else some (some text)
  | .scalar .plain none text => if text = "" || isNullText text then some none else some (some text)
  | n => (textOf? n).map some

def valueText? (type : String) : Node → Option String
  | .scalar .plain _ text => some text
  | .scalar .literal tag text => if tag = some (standardTag type) then some text else none
  | _ => none

def flagOf? (n : Node) : Option Bool := do
  let text ← valueText? "bool" n
  if ["true", "True", "TRUE"].contains text then some true
  else if ["false", "False", "FALSE"].contains text then some false
  else none

def digitsNumber? (base : Nat) (s : List Char) : Option Nat :=
  if s = [] then none
  else s.foldlM (fun n c => do
    let d ← hexDigit? c
    guard (d < base)
    pure (n * base + d)) 0

def number? (text : String) : Option Nat :=
  let s := text.toList
  let s := ("+".toList.isPrefixOf? s).getD s
  match s with
  | '0' :: 'x' :: r => digitsNumber? 16 r
  | '0' :: 'o' :: r => digitsNumber? 8 r
  | '0' :: 'b' :: r => digitsNumber? 2 r
  | '0' :: _ :: _ => none
  | _ => digitsNumber? 10 s

def sizeLimit : Nat := 4294967295

def sizeOf? (n : Node) : Option Nat := do
  let size ← number? (← valueText? "int" n)
  guard (size ≤ sizeLimit)
  pure size

def formatNamed? (name : String) : Option ImageFormat :=
  if name = "png" then some .png else if name = "svg" then some .svg else none

def tagName? : Octets → Option String
  | b :: name => if b = '!'.toUInt8 then Octets.text? name else none
  | [] => none

def formatOf? : Node → Option ImageFormat
  | .scalar style tag text =>
      match tag.bind tagName? with
      | some name =>
          if style = .plain && (text = "" || isNullText text) then formatNamed? name else none
      | none => formatNamed? text
  | _ => none

def fields : List (String × (Settings → Node → Option Settings)) :=
  [("title", fun s n => (textOf? n).map fun v => { s with title := v }),
    ("filename", fun s n => (optionalTextOf? n).map fun v => { s with filename := v }),
    ("format", fun s n => (formatOf? n).map fun v => { s with format := v }),
    ("generate_plantuml_file", fun s n => (flagOf? n).map fun v => { s with keepSource := v }),
    ("show_orphan_foreign_keys", fun s n => (flagOf? n).map fun v => { s with showOrphans := v }),
    ("limit_size", fun s n => (sizeOf? n).map fun v => { s with limitSize := v }),
    ("renderer", fun s n => (textOf? n).map fun v => { s with renderer := v })]

def readPairs : List String → Settings → List (Node × Node) → Except Malformed Settings
  | _, s, [] => .ok s
  | seen, s, (k, v) :: rest =>
      match textOf? k with
      | none => .error .badKey
      | some key =>
          match fields.lookup key with
          | none => readPairs seen s rest
          | some set =>
              if seen.contains key then .error (.repeatedKey key)
              else match set s v with
                | some s => readPairs (key :: seen) s rest
                | none => .error (.badValue key)

def ofYaml (text : String) : Except Malformed Settings :=
  match document? text with
  | .error problem => .error (.notYaml problem)
  | .ok none => .ok {}
  | .ok (some d) =>
      match d.root with
      | .mapping _ pairs => readPairs [] {} (pairs.map fun p => (d.resolve p.1, d.resolve p.2))
      | .scalar .plain _ "" => .ok {}
      | _ => .error .notMapping

end Settings

end SchemaDiagram
