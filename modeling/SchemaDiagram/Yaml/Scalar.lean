import SchemaDiagram.Yaml.Cursor

namespace SchemaDiagram.Yaml

inductive ScalarStyle where
  | plain
  | singleQuoted
  | doubleQuoted
  | literal
  | folded
  deriving DecidableEq, Repr

structure Gap where
  blanks : List Char := []
  broken : Bool := false
  firstBreak : List Char := []
  furtherBreaks : List Char := []

namespace Gap

def folded (g : Gap) : List Char :=
  if g.broken then
    if g.firstBreak = ['\n'] then
      if g.furtherBreaks = [] then [' '] else g.furtherBreaks
    else g.firstBreak ++ g.furtherBreaks
  else g.blanks

def addBreak (g : Gap) (b : List Char) : Gap :=
  if g.broken then { g with furtherBreaks := g.furtherBreaks ++ b }
  else { g with blanks := [], firstBreak := b, broken := true }

def addBlanks (g : Gap) (blanks : List Char) : Gap :=
  if g.broken then g else { g with blanks := g.blanks ++ blanks }

def read (tabsFrom : Nat) : Nat → Gap → Cursor → Except Problem (Gap × Cursor)
  | 0, g, c => .ok (g, c)
  | fuel + 1, g, c =>
      let blanks := c.rest.takeWhile isGapChar
      if g.broken && (blanks.take (tabsFrom - c.column)).contains '\t' then .error .badIndentation
      else
        let g := g.addBlanks blanks
        let c := c.advance blanks.length
        if c.rest = [] || !atLineEnd c.rest then .ok (g, c)
        else
          let (b, c) := c.lineBreak
          read tabsFrom fuel (g.addBreak b) c

end Gap

def isFlowIndicator (c : Char) : Bool :=
  c == ',' || c == '[' || c == ']' || c == '{' || c == '}'

def plainRun (inFlow : Bool) : List Char → Except Problem (List Char)
  | [] => .ok []
  | c :: r =>
      if isGapChar c || isBreak c then .ok []
      else if c == ':' && atGap r then .ok []
      else if inFlow && c == ':' && r.head?.any (fun d => isFlowIndicator d || d == '?') then
        .error .misplacedIndicator
      else if inFlow && isFlowIndicator c then .ok []
      else (plainRun inFlow r).map (c :: ·)

/-- The text of a plain scalar, whether it was followed by a line break, and what comes after. Its
further lines begin at the column `indent` or behind it. `back` is the text so far, the last
character first. -/
def readPlain (inFlow : Bool) (indent : Nat) :
    Nat → (back : List Char) → Gap → Cursor → Except Problem (List Char × Bool × Cursor)
  | 0, back, g, c => .ok (back.reverse, g.broken, c)
  | fuel + 1, back, g, c =>
      if c.atDocumentMarker || c.rest.head? == some '#' then .ok (back.reverse, g.broken, c)
      else do
        let run ← plainRun inFlow c.rest
        let back := if run = [] then back else (g.folded ++ run).reverse ++ back
        let g := if run = [] then g else {}
        let c := c.advance run.length
        if !atGap c.rest || c.rest = [] then .ok (back.reverse, g.broken, c)
        else do
          let (g, c) ← g.read indent c.size c
          if !inFlow && c.column < indent then .ok (back.reverse, g.broken, c)
          else readPlain inFlow indent fuel back g c

def escapes : List (Char × Char) :=
  [('0', '\x00'), ('a', '\x07'), ('b', '\x08'), ('t', '\t'), ('\t', '\t'), ('n', '\n'),
    ('v', '\x0b'), ('f', '\x0c'), ('r', '\r'), ('e', '\x1b'), (' ', ' '), ('"', '"'), ('/', '/'),
    ('\\', '\\'), ('N', '\x85'), ('_', '\xa0'), ('L', '\u2028'), ('P', '\u2029')]

def codeLengths : List (Char × Nat) := [('x', 2), ('u', 4), ('U', 8)]

def hexDigit? (c : Char) : Option Nat :=
  if c.isDigit then some (c.toNat - '0'.toNat)
  else if 'a' ≤ c && c ≤ 'f' then some (c.toNat - 'a'.toNat + 10)
  else if 'A' ≤ c && c ≤ 'F' then some (c.toNat - 'A'.toNat + 10)
  else none

def hexNumber? (s : List Char) : Option Nat :=
  s.foldlM (fun n c => (hexDigit? c).map (n * 16 + ·)) 0

def character? (n : Nat) : Option Char :=
  if n.isValidChar then some (Char.ofNat n) else none

def escape? : List Char → Option (Char × Nat)
  | [] => none
  | c :: r =>
      match escapes.lookup c, codeLengths.lookup c with
      | some d, _ => some (d, 1)
      | none, some n => do
          let digits := r.take n
          guard (digits.length = n)
          let d ← character? (← hexNumber? digits)
          pure (d, n + 1)
      | none, none => none

def quotedRun (single : Bool) :
    Nat → (back : List Char) → Cursor → Except Problem (List Char × Bool × Cursor)
  | 0, back, c => .ok (back, false, c)
  | fuel + 1, back, c =>
      match c.rest with
      | [] => .ok (back, false, c)
      | ch :: r =>
          if isGapChar ch || isBreak ch then .ok (back, false, c)
          else if single then
            if ch = '\'' then
              if r.head? = some '\'' then quotedRun single fuel (ch :: back) (c.advance 2)
              else .ok (back, false, c)
            else quotedRun single fuel (ch :: back) (c.advance 1)
          else if ch = '"' then .ok (back, false, c)
          else if ch = '\\' then
            if r ≠ [] && atLineEnd r then .ok (back, true, ((c.advance 1).lineBreak).2)
            else match escape? r with
              | some (d, n) => quotedRun single fuel (d :: back) (c.advance (n + 1))
              | none => .error .malformedScalar
          else quotedRun single fuel (ch :: back) (c.advance 1)

def readQuoted (single : Bool) :
    Nat → (back : List Char) → Cursor → Except Problem (List Char × Cursor)
  | 0, _, _ => .error .malformedScalar
  | fuel + 1, back, c =>
      if c.atDocumentMarker || c.rest = [] then .error .malformedScalar
      else do
        let (back, hidden, c) ← quotedRun single (c.size + 1) back c
        if c.rest.head? = some (if single then '\'' else '"') then
          .ok (back.reverse, c.advance 1)
        else do
          let (g, c) ← Gap.read 0 c.size { broken := hidden } c
          readQuoted single fuel (g.folded.reverse ++ back) c

inductive Chomping where
  | strip
  | clip
  | keep
  deriving DecidableEq, Repr

structure BlockHeader where
  chomping : Chomping := .clip
  increment : Option Nat := none

def chomping? : List Char → Option Chomping
  | '+' :: _ => some .keep
  | '-' :: _ => some .strip
  | _ => none

def increment? : List Char → Except Problem (Option Nat)
  | c :: _ =>
      if c = '0' then .error .malformedScalar
      else if c.isDigit then .ok (some (c.toNat - '0'.toNat))
      else .ok none
  | [] => .ok none

def readBlockHeader (c : Cursor) : Except Problem (BlockHeader × Cursor) := do
  match chomping? c.rest with
  | some chomping =>
      let c := c.advance 1
      match ← increment? c.rest with
      | some n => .ok ({ chomping, increment := some n }, c.advance 1)
      | none => .ok ({ chomping }, c)
  | none =>
      match ← increment? c.rest with
      | some n =>
          let c := c.advance 1
          match chomping? c.rest with
          | some chomping => .ok ({ chomping, increment := some n }, c.advance 1)
          | none => .ok ({ increment := some n }, c)
      | none => .ok ({}, c)

def readIndentation (limit : Option Nat) :
    Nat → Nat → List Char → Cursor → Except Problem (Nat × List Char × Cursor)
  | 0, widest, breaks, c => .ok (widest, breaks, c)
  | fuel + 1, widest, breaks, c =>
      let spaces := (c.rest.takeWhile (· == ' ')).length
      let c := c.advance (match limit with
        | some n => min spaces (n - c.column)
        | none => spaces)
      let widest := max widest c.column
      if limit.all (c.column < ·) && c.rest.head? = some '\t' then .error .badIndentation
      else if c.rest = [] || !atLineEnd c.rest then .ok (widest, breaks, c)
      else
        let (b, c) := c.lineBreak
        readIndentation limit fuel widest (breaks ++ b) c

structure BlockText where
  back : List Char := []
  lastBreak : List Char := []
  furtherBreaks : List Char := []
  indented : Bool := false

def BlockText.joint (folds : Bool) (t : BlockText) (indented : Bool) : List Char :=
  if folds && t.lastBreak = ['\n'] && !t.indented && !indented then
    if t.furtherBreaks = [] then [' '] else t.furtherBreaks
  else t.lastBreak ++ t.furtherBreaks

def BlockText.chomped (t : BlockText) : Chomping → List Char
  | .strip => t.back.reverse
  | .clip => t.back.reverse ++ t.lastBreak
  | .keep => t.back.reverse ++ t.lastBreak ++ t.furtherBreaks

def readBlockLines (folds : Bool) (indent : Nat) :
    Nat → BlockText → Cursor → Except Problem (BlockText × Cursor)
  | 0, t, c => .ok (t, c)
  | fuel + 1, t, c =>
      if c.column ≠ indent || c.rest = [] then .ok (t, c)
      else do
        let indented := c.rest.head?.any isGapChar
        let line := c.rest.takeWhile (!isBreak ·)
        let (b, c) := (c.advance line.length).lineBreak
        let (_, breaks, c) ← readIndentation (some indent) (c.size + 1) 0 [] c
        readBlockLines folds indent fuel {
          back := (t.joint folds indented ++ line).reverse ++ t.back
          lastBreak := b
          furtherBreaks := breaks
          indented } c

def readBlock (folds : Bool) (base : Option Nat) (c : Cursor) :
    Except Problem (List Char × Cursor) := do
  let (header, c) ← readBlockHeader c
  let c := (c.skipWhile isGapChar).skipComment
  if !atLineEnd c.rest then .error .malformedScalar
  else do
    let c := c.lineBreak.2
    let given := header.increment.map (base.getD 0 + ·)
    let (widest, breaks, c) ← readIndentation given (c.size + 1) 0 [] c
    let least := match base with
      | some n => n + 1
      | none => 1
    let indent := given.getD (max widest least)
    let (t, c) ← readBlockLines folds indent (c.size + 1) { furtherBreaks := breaks } c
    .ok (t.chomped header.chomping, c)

end SchemaDiagram.Yaml
