import SchemaDiagram.Yaml.Scalar

namespace SchemaDiagram.Yaml

structure TagText where
  handle : List Char
  suffix : Octets
  deriving DecidableEq, Repr

inductive Token where
  | version (major minor : Nat)
  | tagHandle (handle : List Char) (expansion : Octets)
  | documentStart
  | documentEnd
  | blockSequenceStart
  | blockMappingStart
  | blockEnd
  | flowSequenceStart
  | flowSequenceEnd
  | flowMappingStart
  | flowMappingEnd
  | blockEntry
  | flowEntry
  | key
  | value
  | anchor (name : List Char)
  | alias (name : List Char)
  | tag (tag : TagText)
  | scalar (style : ScalarStyle) (text : List Char)
  deriving DecidableEq, Repr

structure PossibleKey where
  required : Bool
  position : Nat
  start : Cursor

structure Scanner where
  cursor : Cursor
  tokens : Array Token := #[]
  blocks : List Nat := []
  keyAllowed : Bool := true
  /-- One slot outside all brackets and one for every open bracket, the innermost first. -/
  keys : List (Option PossibleKey) := [none]

def nameClosers : List Char := "?:,]\x7d%@\x60".toList

def readName (c : Cursor) : Except Problem (List Char × Cursor) :=
  let name := c.rest.takeWhile isNameChar
  let c := c.advance name.length
  if name ≠ [] && (atGap c.rest || c.rest.head?.any nameClosers.contains) then .ok (name, c)
  else .error .malformedName

def isTagChar (c : Char) : Bool := isNameChar c || ";/?:@&=+$.!~*'()".toList.contains c

def percentByte? : List Char → Option (UInt8 × List Char)
  | '%' :: a :: b :: r => (hexNumber? [a, b]).map fun n => (UInt8.ofNat n, r)
  | _ => none

def furtherBytes? (first : UInt8) : Option Nat :=
  if first < 0x80 then some 0
  else if first < 0xC0 then none
  else if first < 0xE0 then some 1
  else if first < 0xF0 then some 2
  else if first < 0xF8 then some 3
  else none

def percentTail? : Nat → List Char → Option (Octets × List Char)
  | 0, s => some ([], s)
  | n + 1, s => do
      let (b, r) ← percentByte? s
      guard (0x80 ≤ b && b < 0xC0)
      let (further, r) ← percentTail? n r
      pure (b :: further, r)

/-- The bytes of one character, each spelled out, and the text after them. The number of bytes is
right for the first of them; nothing else is asked of the character. -/
def percentCharacter? (s : List Char) : Option (Octets × List Char) := do
  let (first, r) ← percentByte? s
  let (further, r) ← percentTail? (← furtherBytes? first) r
  pure (first :: further, r)

def tagText (extra : List Char) : Nat → List Char → Except Problem (Octets × List Char)
  | 0, s => .ok ([], s)
  | _, [] => .ok ([], [])
  | fuel + 1, c :: r =>
      if c = '%' then
        match percentCharacter? (c :: r) with
        | some (bytes, rest) => (tagText extra fuel rest).map fun p => (bytes ++ p.1, p.2)
        | none => .error .malformedTag
      else if isTagChar c || extra.contains c then
        (tagText extra fuel r).map fun p => (Octets.ofText [c] ++ p.1, p.2)
      else .ok ([], c :: r)

def readTagText (extra : List Char) (c : Cursor) : Except Problem (Octets × Cursor) := do
  let (text, rest) ← tagText extra (c.size + 1) c.rest
  .ok (text, c.advance (c.rest.length - rest.length))

def readHandle (c : Cursor) : Except Problem (List Char × Cursor) :=
  if c.rest.head? = some '!' then
    let name := (c.rest.drop 1).takeWhile isNameChar
    let c := c.advance (name.length + 1)
    if c.rest.head? = some '!' then .ok ('!' :: name ++ ['!'], c.advance 1)
    else .ok ('!' :: name, c)
  else .error .malformedTag

def uriExtra : List Char := [',', '[', ']']

/-- Reads a tag. What comes after a zero in it is lost, and an exclamation mark with nothing else
to it is a tag of its own. -/
def readTag (inFlow : Bool) (c : Cursor) : Except Problem (TagText × Cursor) := do
  let (tag, c) ←
    if (c.rest.drop 1).head? = some '<' then do
      let (text, c) ← readTagText uriExtra (c.advance 2)
      if text = [] || c.rest.head? ≠ some '>' then .error .malformedTag
      else .ok (TagText.mk [] text.beforeZero, c.advance 1)
    else do
      let (handle, c) ← readHandle c
      let (text, c) ← readTagText [] c
      if handle.length ≥ 2 && handle.getLast? = some '!' then
        if text = [] then .error .malformedTag else .ok (TagText.mk handle text.beforeZero, c)
      else
        let suffix := Octets.beforeZero (Octets.ofText (handle.drop 1) ++ text)
        if suffix = [] then .ok (TagText.mk [] (Octets.ofText ['!']), c)
        else .ok (TagText.mk ['!'] suffix, c)
  if atGap c.rest || (inFlow && c.rest.head? = some ',') then .ok (tag, c)
  else .error .malformedTag

def readVersionNumber (c : Cursor) : Except Problem (Nat × Cursor) :=
  let digits := c.rest.takeWhile Char.isDigit
  if digits = [] || 9 < digits.length then .error .malformedDirective
  else .ok (digits.foldl (fun n d => n * 10 + (d.toNat - '0'.toNat)) 0, c.advance digits.length)

def readDirective (c : Cursor) : Except Problem (Token × Cursor) := do
  let name := (c.rest.drop 1).takeWhile isNameChar
  let c := c.advance (name.length + 1)
  if !atGap c.rest then .error .malformedDirective
  else do
    let c := c.skipWhile isGapChar
    let (token, c) ←
      if name = "YAML".toList then do
        let (major, c) ← readVersionNumber c
        if c.rest.head? ≠ some '.' then .error .malformedDirective
        else do
          let (minor, c) ← readVersionNumber (c.advance 1)
          .ok (Token.version major minor, c)
      else if name = "TAG".toList then do
        let (handle, c) ← readHandle c
        if (handle ≠ ['!'] && handle.getLast? ≠ some '!') || !c.rest.head?.any isGapChar then
          .error .malformedDirective
        else do
          let (text, c) ← readTagText uriExtra (c.skipWhile isGapChar)
          if text = [] || !atGap c.rest then .error .malformedDirective
          else .ok (Token.tagHandle handle text.beforeZero, c)
      else .error .malformedDirective
    let c := (c.skipWhile isGapChar).skipComment
    if atLineEnd c.rest then .ok (token, c.lineBreak.2) else .error .malformedDirective

namespace Scanner

def inFlow (s : Scanner) : Bool := !(s.keys.drop 1).isEmpty

def add (s : Scanner) (t : Token) : Scanner := { s with tokens := s.tokens.push t }

def closeBlocks (column : Nat) (s : Scanner) : Scanner :=
  if s.inFlow then s
  else
    let ended := s.blocks.takeWhile (column < ·)
    { s with
      blocks := s.blocks.dropWhile (column < ·)
      tokens := s.tokens ++ Array.replicate ended.length Token.blockEnd }

def closeAllBlocks (s : Scanner) : Scanner :=
  if s.inFlow then s
  else { s with
    blocks := []
    tokens := s.tokens ++ Array.replicate s.blocks.length Token.blockEnd }

def openBlock (column position : Nat) (t : Token) (s : Scanner) : Scanner :=
  if s.inFlow || s.blocks.head?.any (column ≤ ·) then s
  else { s with
    blocks := column :: s.blocks
    tokens := s.tokens.insertIdxIfInBounds position t }

def setKey (k : Option PossibleKey) (s : Scanner) : Scanner :=
  { s with keys := k :: s.keys.drop 1 }

def dropKey (s : Scanner) : Except Problem Scanner :=
  match s.keys.head? with
  | some (some k) => if k.required then .error .missingValue else .ok (s.setKey none)
  | _ => .ok s

def keyLengthLimit : Nat := 1024

def isStale (here : Cursor) (k : PossibleKey) : Bool :=
  k.start.line < here.line || k.start.index + keyLengthLimit < here.index

def dropStaleKeys (s : Scanner) : Except Problem Scanner :=
  let stale := isStale s.cursor
  if !s.keys.any (·.any stale) then .ok s
  else if s.keys.any (·.any fun k => k.required && stale k) then .error .missingValue
  else .ok { s with keys := s.keys.map (·.filter (!stale ·)) }

def saveKey (s : Scanner) : Except Problem Scanner :=
  if s.keyAllowed then do
    let s ← s.dropKey
    .ok (s.setKey (some {
      required := !s.inFlow && s.blocks.head? = some s.cursor.column
      position := s.tokens.size
      start := s.cursor }))
  else .ok s

def skipGaps : Nat → Scanner → Scanner
  | 0, s => s
  | fuel + 1, s =>
      let c := s.cursor
      let c := if c.column = 0 && c.rest.head? = some byteOrderMark then c.advance 1 else c
      let tabs := s.inFlow || !s.keyAllowed
      let c := (c.skipWhile fun ch => ch == ' ' || (tabs && ch == '\t')).skipComment
      if c.rest = [] || !atLineEnd c.rest then { s with cursor := c }
      else skipGaps fuel {
        s with cursor := c.lineBreak.2, keyAllowed := s.keyAllowed || !s.inFlow }

def take (n : Nat) (t : Token) (s : Scanner) : Scanner :=
  { s.add t with cursor := s.cursor.advance n }

def takeMarker (t : Token) (s : Scanner) : Except Problem Scanner := do
  let s ← s.closeAllBlocks.dropKey
  .ok ({ s with keyAllowed := false }.take 3 t)

def takeDirective (s : Scanner) : Except Problem Scanner := do
  let s ← s.closeAllBlocks.dropKey
  let (t, c) ← readDirective s.cursor
  .ok { s.add t with keyAllowed := false, cursor := c }

def takeFlowStart (t : Token) (s : Scanner) : Except Problem Scanner := do
  let s ← s.saveKey
  .ok ({ s with keys := none :: s.keys, keyAllowed := true }.take 1 t)

def takeFlowEnd (t : Token) (s : Scanner) : Except Problem Scanner := do
  let s ← s.dropKey
  let keys := if s.inFlow then s.keys.drop 1 else s.keys
  .ok ({ s with keys, keyAllowed := false }.take 1 t)

def takeFlowEntry (s : Scanner) : Except Problem Scanner := do
  let s ← s.dropKey
  .ok ({ s with keyAllowed := true }.take 1 .flowEntry)

def openBlockHere (t : Token) (s : Scanner) : Except Problem Scanner :=
  if s.inFlow then .ok s
  else if s.keyAllowed then .ok (s.openBlock s.cursor.column s.tokens.size t)
  else .error .misplacedIndicator

def takeBlockEntry (s : Scanner) : Except Problem Scanner := do
  let s ← (← s.openBlockHere .blockSequenceStart).dropKey
  .ok ({ s with keyAllowed := true }.take 1 .blockEntry)

def takeKey (s : Scanner) : Except Problem Scanner := do
  let s ← (← s.openBlockHere .blockMappingStart).dropKey
  .ok ({ s with keyAllowed := !s.inFlow }.take 1 .key)

def takeValue (s : Scanner) : Except Problem Scanner := do
  match s.keys.head? with
  | some (some k) =>
      let keyed := { s.setKey none with
        tokens := s.tokens.insertIdxIfInBounds k.position .key
        keyAllowed := false }
      let opened := keyed.openBlock k.start.column k.position .blockMappingStart
      .ok (opened.take 1 .value)
  | _ =>
      let s ← s.openBlockHere .blockMappingStart
      .ok ({ s with keyAllowed := !s.inFlow }.take 1 .value)

def takeNamed (make : List Char → Token) (s : Scanner) : Except Problem Scanner := do
  let s ← s.saveKey
  let (name, c) ← readName (s.cursor.advance 1)
  .ok { s.add (make name) with keyAllowed := false, cursor := c }

def takeTag (s : Scanner) : Except Problem Scanner := do
  let s ← s.saveKey
  let (tag, c) ← readTag s.inFlow s.cursor
  .ok { s.add (.tag tag) with keyAllowed := false, cursor := c }

def takeBlockScalar (style : ScalarStyle) (s : Scanner) : Except Problem Scanner := do
  let s ← s.dropKey
  let (text, c) ← readBlock (style = .folded) s.blocks.head? (s.cursor.advance 1)
  .ok { s.add (.scalar style text) with keyAllowed := true, cursor := c }

def takeQuoted (style : ScalarStyle) (s : Scanner) : Except Problem Scanner := do
  let s ← s.saveKey
  let c := s.cursor.advance 1
  let (text, c) ← readQuoted (style = .singleQuoted) (c.size + 1) [] c
  .ok { s.add (.scalar style text) with keyAllowed := false, cursor := c }

def takePlain (s : Scanner) : Except Problem Scanner := do
  let s ← s.saveKey
  let indent := match s.blocks.head? with
    | some n => n + 1
    | none => 0
  let (text, broken, c) ← readPlain s.inFlow indent (s.cursor.size + 1) [] {} s.cursor
  .ok { s.add (.scalar .plain text) with keyAllowed := broken, cursor := c }

def indicators : List Char := "-?:,[]\x7b\x7d#&*!|>'\"%@\x60".toList

def takeToken (ch : Char) (after : List Char) (s : Scanner) : Except Problem Scanner :=
  let spaced := atGap after
  if s.cursor.column = 0 && ch = '%' then s.takeDirective
  else if s.cursor.atMarker "---" then s.takeMarker .documentStart
  else if s.cursor.atMarker "..." then s.takeMarker .documentEnd
  else match ch with
    | '[' => s.takeFlowStart .flowSequenceStart
    | '{' => s.takeFlowStart .flowMappingStart
    | ']' => s.takeFlowEnd .flowSequenceEnd
    | '}' => s.takeFlowEnd .flowMappingEnd
    | ',' => s.takeFlowEntry
    | '*' => s.takeNamed .alias
    | '&' => s.takeNamed .anchor
    | '!' => s.takeTag
    | '\'' => s.takeQuoted .singleQuoted
    | '"' => s.takeQuoted .doubleQuoted
    | _ =>
        if ch = '-' && spaced then s.takeBlockEntry
        else if ch = '?' && (s.inFlow || spaced) then s.takeKey
        else if ch = ':' && (s.inFlow || spaced) then s.takeValue
        else if ch = '|' && !s.inFlow then s.takeBlockScalar .literal
        else if ch = '>' && !s.inFlow then s.takeBlockScalar .folded
        else if ch = '-' || ch = '?' || ch = ':' || !indicators.contains ch then
          if isGapChar ch then .error .unexpectedCharacter else s.takePlain
        else .error .unexpectedCharacter

def scan : Nat → Scanner → Except Problem Scanner
  | 0, s => .ok s
  | fuel + 1, s => do
      let s ← (s.skipGaps (s.cursor.size + 1)).dropStaleKeys
      match s.cursor.rest with
      | [] => s.closeAllBlocks.dropKey
      | ch :: after => scan fuel (← (s.closeBlocks s.cursor.column).takeToken ch after)

end Scanner

def tokens (text : List Char) : Except Problem (List Token) :=
  if text.all isAllowed then
    (Scanner.scan (text.length + 1) { cursor := .ofText text }).map (·.tokens.toList)
  else .error .forbiddenCharacter

end SchemaDiagram.Yaml
