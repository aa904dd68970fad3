import SchemaDiagram.Yaml.Token

namespace SchemaDiagram.Yaml

inductive Node where
  | scalar (style : ScalarStyle) (tag : Option Octets) (text : String)
  | sequence (tag : Option Octets) (items : List Node)
  | mapping (tag : Option Octets) (pairs : List (Node × Node))
  | alias (number : Nat)
  deriving Inhabited

def Node.empty (tag : Option Octets) : Node := .scalar .plain tag ""

structure Document where
  root : Node
  anchored : Array (Nat × Node)

def Document.resolve (d : Document) : Node → Node
  | .alias number => (d.anchored.toList.reverse.lookup number).getD (.alias number)
  | n => n

structure Composition where
  tokens : List Token
  names : List (List Char × Nat) := []
  anchored : Array (Nat × Node) := #[]
  handles : List (List Char × Octets) := []

abbrev Compose := StateT Composition (Except Problem)

namespace Compose

def fail {α : Type} (p : Problem) : Compose α := throw p

def peek : Compose (Option Token) := do
  pure (← get).tokens.head?

def skip : Compose Unit := modify fun c => { c with tokens := c.tokens.drop 1 }

def nextIsIn (ts : List Token) : Compose Bool := do
  match ← peek with
  | some t => pure (ts.contains t)
  | none => pure false

def anchor? : Compose (Option (List Char)) := do
  match ← peek with
  | some (.anchor name) => skip; pure (some name)
  | _ => pure none

def tagText? : Compose (Option TagText) := do
  match ← peek with
  | some (.tag t) => skip; pure (some t)
  | _ => pure none

def standardHandles : List (List Char × Octets) :=
  [(['!'], Octets.ofText ['!']), (['!', '!'], Octets.ofText "tag:yaml.org,2002:".toList)]

def expand (t : TagText) : Compose Octets := do
  if t.handle = [] then pure t.suffix
  else match ((← get).handles ++ standardHandles).lookup t.handle with
    | some start => pure (start ++ t.suffix)
    | none => fail .unknownTagHandle

def properties : Compose (Option (List Char) × Option Octets) := do
  let first ← anchor?
  let tag ← tagText?
  let anchor ← if first.isSome then pure first else anchor?
  let tag ← match tag with
    | some t => some <$> expand t
    | none => pure none
  pure (anchor, tag)

/-- Gives a name the number of names known before, and a place to the node that begins with it. A
name that is declared again takes a new number, which the next new name may get as well. -/
def declare (name : List Char) : Compose Nat :=
  modifyGet fun c =>
    let number := c.names.length
    (c.anchored.size, { c with
      names := (name, number) :: c.names.filter (·.1 ≠ name)
      anchored := c.anchored.push (number, .alias number) })

def settle (place : Nat) (n : Node) : Compose Unit :=
  modify fun c => { c with anchored := c.anchored.modify place fun p => (p.1, n) }

def emptyIf (marked : Bool) (tag : Option Octets) : Compose Node :=
  if marked then pure (.empty tag) else fail .unexpectedStructure

def separator (first : Bool) : Compose Unit := do
  if first then pure ()
  else match ← peek with
    | some .flowEntry => skip
    | _ => fail .unexpectedStructure

mutual

def node : Nat → (block indentless : Bool) → Compose Node
  | 0, _, _ => fail .unexpectedStructure
  | fuel + 1, block, indentless => do
      match ← peek with
      | some (.alias name) =>
          skip
          match (← get).names.lookup name with
          | some number => pure (.alias number)
          | none => fail .unknownAnchor
      | _ => do
          let (anchor, tag) ← properties
          let place ← anchor.mapM declare
          let n ← content fuel block indentless (anchor.isSome || tag.isSome) tag
          place.forM (settle · n)
          pure n

def content : Nat → (block indentless marked : Bool) → Option Octets → Compose Node
  | 0, _, _, _, _ => fail .unexpectedStructure
  | fuel + 1, block, indentless, marked, tag => do
      match ← peek with
      | some (.scalar style text) =>
          skip
          pure (.scalar style tag (String.ofList text))
      | some .flowSequenceStart =>
          skip
          pure (.sequence tag (← flowItems fuel true))
      | some .flowMappingStart =>
          skip
          pure (.mapping tag (← flowPairs fuel true))
      | some .blockEntry =>
          if indentless then pure (.sequence tag (← looseItems fuel)) else emptyIf marked tag
      | some .blockSequenceStart =>
          if block then
            skip
            pure (.sequence tag (← blockItems fuel))
          else emptyIf marked tag
      | some .blockMappingStart =>
          if block then
            skip
            pure (.mapping tag (← blockPairs fuel))
          else emptyIf marked tag
      | _ => emptyIf marked tag

def blockItems : Nat → Compose (List Node)
  | 0 => fail .unexpectedStructure
  | fuel + 1 => do
      match ← peek with
      | some .blockEntry =>
          skip
          let item ←
            if ← nextIsIn [.blockEntry, .blockEnd] then pure (.empty none)
            else node fuel true false
          pure (item :: (← blockItems fuel))
      | some .blockEnd =>
          skip
          pure []
      | _ => fail .unexpectedStructure

def looseItems : Nat → Compose (List Node)
  | 0 => fail .unexpectedStructure
  | fuel + 1 => do
      match ← peek with
      | some .blockEntry =>
          skip
          let item ←
            if ← nextIsIn [.blockEntry, .key, .value, .blockEnd] then pure (.empty none)
            else node fuel true false
          pure (item :: (← looseItems fuel))
      | _ => pure []

def blockPairs : Nat → Compose (List (Node × Node))
  | 0 => fail .unexpectedStructure
  | fuel + 1 => do
      match ← peek with
      | some .key =>
          skip
          let k ← blockPart fuel
          let v ← blockValue fuel
          pure ((k, v) :: (← blockPairs fuel))
      | some .blockEnd =>
          skip
          pure []
      | _ => fail .unexpectedStructure

def blockPart : Nat → Compose Node
  | 0 => fail .unexpectedStructure
  | fuel + 1 => do
      if ← nextIsIn [.key, .value, .blockEnd] then pure (.empty none) else node fuel true true

def blockValue : Nat → Compose Node
  | 0 => fail .unexpectedStructure
  | fuel + 1 => do
      match ← peek with
      | some .value =>
          skip
          blockPart fuel
      | _ => pure (.empty none)

def flowItems : Nat → (first : Bool) → Compose (List Node)
  | 0, _ => fail .unexpectedStructure
  | fuel + 1, first => do
      if (← peek) = some .flowSequenceEnd then
        skip
        pure []
      else do
        separator first
        match ← peek with
        | some .key =>
            skip
            let pair ← singlePair fuel
            pure (.mapping none [pair] :: (← flowItems fuel false))
        | some .flowSequenceEnd =>
            skip
            pure []
        | _ =>
            let item ← node fuel false false
            pure (item :: (← flowItems fuel false))

def singlePair : Nat → Compose (Node × Node)
  | 0 => fail .unexpectedStructure
  | fuel + 1 => do
      let k ←
        if ← nextIsIn [.value, .flowEntry, .flowSequenceEnd] then
          skip
          pure (.empty none)
        else node fuel false false
      let v ← flowValue fuel .flowSequenceEnd
      pure (k, v)

def flowPairs : Nat → (first : Bool) → Compose (List (Node × Node))
  | 0, _ => fail .unexpectedStructure
  | fuel + 1, first => do
      if (← peek) = some .flowMappingEnd then
        skip
        pure []
      else do
        separator first
        match ← peek with
        | some .key =>
            skip
            let k ←
              if ← nextIsIn [.value, .flowEntry, .flowMappingEnd] then pure (.empty none)
              else node fuel false false
            let v ← flowValue fuel .flowMappingEnd
            pure ((k, v) :: (← flowPairs fuel false))
        | some .flowMappingEnd =>
            skip
            pure []
        | _ =>
            let k ← node fuel false false
            pure ((k, .empty none) :: (← flowPairs fuel false))

def flowValue : Nat → (closing : Token) → Compose Node
  | 0, _ => fail .unexpectedStructure
  | fuel + 1, closing => do
      match ← peek with
      | some .value =>
          skip
          if ← nextIsIn [.flowEntry, closing] then pure (.empty none) else node fuel false false
      | _ => pure (.empty none)

end

def directives : Nat → (version : Bool) → Compose Unit
  | 0, _ => pure ()
  | fuel + 1, version => do
      match ← peek with
      | some (.version major minor) =>
          if version || major ≠ 1 || (minor ≠ 1 && minor ≠ 2) then fail .malformedDirective
          else
            skip
            directives fuel true
      | some (.tagHandle handle expansion) =>
          if ((← get).handles.lookup handle).isSome then fail .malformedDirective
          else
            modify fun c => { c with handles := c.handles ++ [(handle, expansion)] }
            skip
            directives fuel version
      | _ => pure ()

def isDirective : Token → Bool
  | .version .. => true
  | .tagHandle .. => true
  | _ => false

def document (fuel : Nat) : Compose (Option Node) := do
  match ← peek with
  | none => pure none
  | some t =>
      if isDirective t || t = .documentStart then do
        directives fuel false
        if (← peek) ≠ some .documentStart then fail .unexpectedStructure
        else do
          skip
          match ← peek with
          | none => pure (some (.empty none))
          | some t =>
              if isDirective t || t = .documentStart || t = .documentEnd then
                pure (some (.empty none))
              else some <$> node fuel true false
      else some <$> node fuel true false

end Compose

def document? (text : String) : Except Problem (Option Document) := do
  let ts ← tokens text.toList
  let (root, c) ← (Compose.document (4 * ts.length + 8)).run { tokens := ts }
  if (c.tokens.dropWhile (· = .documentEnd)) = [] then
    .ok (root.map fun root => { root, anchored := c.anchored })
  else .error .manyDocuments

end SchemaDiagram.Yaml
