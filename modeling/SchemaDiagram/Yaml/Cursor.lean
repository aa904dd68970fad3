namespace SchemaDiagram.Yaml

inductive Problem where
  | forbiddenCharacter
  | malformedDirective
  | malformedName
  | malformedTag
  | malformedScalar
  | badIndentation
  | unexpectedCharacter
  | missingValue
  | misplacedIndicator
  | unexpectedStructure
  | unknownAnchor
  | unknownTagHandle
  | manyDocuments
  deriving DecidableEq, Repr

namespace Problem

def message : Problem → String
  | .forbiddenCharacter => "control characters are not allowed"
  | .malformedDirective => "a directive is malformed"
  | .malformedName => "an anchor or alias has no proper name"
  | .malformedTag => "a tag is malformed"
  | .malformedScalar => "a scalar is malformed"
  | .badIndentation => "a tab stands in the place of indentation"
  | .unexpectedCharacter => "a character cannot start any token"
  | .missingValue => "could not find expected ':'"
  | .misplacedIndicator => "an indicator is not allowed in this context"
  | .unexpectedStructure => "did not find expected node content"
  | .unknownAnchor => "unknown anchor"
  | .unknownTagHandle => "undefined tag handle"
  | .manyDocuments => "more than one document"

end Problem

def isGapChar (c : Char) : Bool := c == ' ' || c == '\t'

def isBreak (c : Char) : Bool :=
  c == '\n' || c == '\r' || c == '\x85' || c == '\u2028' || c == '\u2029'

def isNameChar (c : Char) : Bool := c.isAlphanum || c == '_' || c == '-'

def isAllowed (c : Char) : Bool :=
  let n := c.toNat
  n == 0x09 || n == 0x0A || n == 0x0D || (0x20 ≤ n && n ≤ 0x7E) || n == 0x85
    || (0xA0 ≤ n && n ≤ 0xD7FF) || (0xE000 ≤ n && n ≤ 0xFFFD) || 0x10000 ≤ n

abbrev Octets := List UInt8

namespace Octets

def ofText (s : List Char) : Octets := (String.ofList s).toUTF8.data.toList

def text? (b : Octets) : Option String := String.fromUTF8? ⟨b.toArray⟩

def beforeZero (b : Octets) : Octets := b.takeWhile (· ≠ 0)

end Octets

def byteOrderMark : Char := '\ufeff'

def atLineEnd : List Char → Bool
  | [] => true
  | c :: _ => isBreak c

def atGap : List Char → Bool
  | [] => true
  | c :: _ => isGapChar c || isBreak c

structure Cursor where
  rest : List Char
  size : Nat
  index : Nat := 0
  line : Nat := 0
  column : Nat := 0

namespace Cursor

def ofText (text : List Char) : Cursor where
  rest := text
  size := text.length

def indexAfter (c : Cursor) (n : Nat) : Nat :=
  (c.rest.take n).foldl (fun i ch => i + ch.utf8Size) c.index

def advance (c : Cursor) (n : Nat) : Cursor :=
  { c with rest := c.rest.drop n, index := c.indexAfter n, column := c.column + n }

def skipWhile (p : Char → Bool) (c : Cursor) : Cursor := c.advance (c.rest.takeWhile p).length

def skipComment (c : Cursor) : Cursor :=
  if c.rest.head? = some '#' then c.skipWhile (!isBreak ·) else c

private def nextLine (c : Cursor) (n : Nat) : Cursor :=
  { c with rest := c.rest.drop n, index := c.indexAfter n, line := c.line + 1, column := 0 }

def lineBreak (c : Cursor) : List Char × Cursor :=
  match c.rest with
  | '\r' :: '\n' :: _ => (['\n'], nextLine c 2)
  | b :: _ =>
      if isBreak b then
        (if b = '\u2028' || b = '\u2029' then [b] else ['\n'], nextLine c 1)
      else ([], c)
  | [] => ([], c)

def atMarker (marker : String) (c : Cursor) : Bool :=
  c.column == 0 && match marker.toList.isPrefixOf? c.rest with
    | some r => atGap r
    | none => false

def atDocumentMarker (c : Cursor) : Bool := c.atMarker "---" || c.atMarker "..."

end Cursor

end SchemaDiagram.Yaml
