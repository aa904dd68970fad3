import Mathlib.Data.List.Forall2
import SchemaDiagram.JsonValue

namespace SchemaDiagram.JsonValue

def isGap (c : Char) : Bool := c == ' ' || c == '\t' || c == '\n' || c == '\r'

def IsGap (s : List Char) : Prop := ∀ c ∈ s, isGap c = true

def isPlain (c : Char) : Bool := 0x20 ≤ c.toNat && c != '"' && c != '\\'

def shortEscapes : List (Char × Char) :=
  [('"', '"'), ('\\', '\\'), ('/', '/'), ('b', '\x08'), ('f', '\x0c'), ('n', '\n'), ('r', '\r'),
    ('t', '\t')]

def hexDigit? (c : Char) : Option Nat := "0123456789abcdef".toList.idxOf? c.toLower

def codeUnit? (q : List Char) : Option Nat :=
  if q.length = 4 then (q.mapM hexDigit?).map (·.foldl (fun n digit => 16 * n + digit) 0) else none

-- A surrogate is no character on its own: those of a pair stand for one above the first plane.
inductive Escapes : List Char → Char → Prop where
  | short {e c : Char} (h : (e, c) ∈ shortEscapes) : Escapes [e] c
  | unit {q : List Char} {n : Nat} (hq : codeUnit? q = some n) (h : n.isValidChar) :
      Escapes ('u' :: q) (Char.ofNat n)
  | pair {q q' : List Char} {high low : Nat} (hq : codeUnit? q = some high)
      (hq' : codeUnit? q' = some low) (hhigh : 0xD800 ≤ high ∧ high < 0xDC00)
      (hlow : 0xDC00 ≤ low ∧ low < 0xE000) :
      Escapes ('u' :: (q ++ '\\' :: 'u' :: q'))
        (Char.ofNat (0x10000 + (high - 0xD800) * 0x400 + (low - 0xDC00)))

inductive SpellsChar : List Char → Char → Prop where
  | plain {c : Char} (h : isPlain c = true) : SpellsChar [c] c
  | escaped {s : List Char} {c : Char} (h : Escapes s c) : SpellsChar ('\\' :: s) c

def SpellsText (s : List Char) (w : String) : Prop :=
  ∃ parts, List.Forall₂ SpellsChar parts w.toList ∧ s = '"' :: (parts.flatten ++ ['"'])

inductive Padded {α : Type} (Entry : List Char → α → Prop) : List Char → α → Prop where
  | mk {before s behind : List Char} {a : α} (hbefore : IsGap before) (h : Entry s a)
      (hbehind : IsGap behind) : Padded Entry (before ++ (s ++ behind)) a

inductive Listed {α : Type} (Entry : List Char → α → Prop) : List Char → List α → Prop where
  | none {gap : List Char} (h : IsGap gap) : Listed Entry gap []
  | one {s : List Char} {a : α} (h : Padded Entry s a) : Listed Entry s [a]
  | more {s t : List Char} {a b : α} {l : List α} (h : Padded Entry s a)
      (hrest : Listed Entry t (b :: l)) : Listed Entry (s ++ ',' :: t) (a :: b :: l)

mutual

/-- The texts of a value in JSON without its numbers. Gaps and escapes are left to the writer. -/
inductive Spells : List Char → JsonValue → Prop where
  | null : Spells ['n', 'u', 'l', 'l'] .null
  | true : Spells ['t', 'r', 'u', 'e'] (.bool true)
  | false : Spells ['f', 'a', 'l', 's', 'e'] (.bool false)
  | text {s : List Char} {w : String} (h : SpellsText s w) : Spells s (.text w)
  | array {s : List Char} {items : List JsonValue} (h : Listed Spells s items) :
      Spells ('[' :: (s ++ [']'])) (.array items)
  | object {s : List Char} {members : List (String × JsonValue)}
      (h : Listed SpellsMember s members) :
      Spells ('\x7b' :: (s ++ ['\x7d'])) (.object members)

inductive SpellsMember : List Char → String × JsonValue → Prop where
  | named {key before behind s : List Char} {k : String} {v : JsonValue} (hkey : SpellsText key k)
      (hbefore : IsGap before) (hbehind : IsGap behind) (h : Spells s v) :
      SpellsMember (key ++ (before ++ ':' :: (behind ++ s))) (k, v)

end

def IsDocument (text : String) (v : JsonValue) : Prop := Padded Spells text.toList v

end SchemaDiagram.JsonValue
