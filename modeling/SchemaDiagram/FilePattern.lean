namespace SchemaDiagram

inductive FilePattern.Part where
  | literal (c : Char)
  | anyOne
  | anyRun
  | anyComponents
  | oneOf (inside : Bool) (ranges : List (Char × Char))
  deriving DecidableEq, Repr

abbrev FilePattern := List FilePattern.Part

namespace FilePattern

inductive Malformed.Reason where
  | tooManyStars
  | brokenComponents
  | openSet
  deriving DecidableEq, Repr

structure Malformed where
  position : Nat
  reason : Malformed.Reason
  deriving DecidableEq, Repr

namespace Malformed

def Reason.message : Reason → String
  | .tooManyStars => "wildcards are either regular \x60*\x60 or recursive \x60**\x60"
  | .brokenComponents => "recursive wildcards must form a single path component"
  | .openSet => "invalid range pattern"

def message (m : Malformed) : String :=
  "Pattern syntax error near position " ++ toString m.position ++ ": " ++ m.reason.message

end Malformed

def ranges : List Char → List (Char × Char)
  | a :: '-' :: b :: r => (a, b) :: ranges r
  | a :: r => (a, a) :: ranges r
  | [] => []

def setMembers : List Char → Option (List Char × List Char)
  | [] => none
  | first :: r =>
      match r.dropWhile (· ≠ ']') with
      | [] => none
      | _ :: rest => some (first :: r.takeWhile (· ≠ ']'), rest)

def set? : List Char → Option (Part × List Char)
  | '!' :: r => (setMembers r).map fun p => (.oneOf false (ranges p.1), p.2)
  | r => (setMembers r).map fun p => (.oneOf true (ranges p.1), p.2)

def parseFrom (fuel : Nat) (before : Option Char) (position : Nat) (s : List Char) :
    Except Malformed FilePattern :=
  match fuel, s with
  | 0, _ => .ok []
  | _, [] => .ok []
  | fuel + 1, '?' :: r => do .ok (.anyOne :: (← parseFrom fuel (some '?') (position + 1) r))
  | fuel + 1, '[' :: r =>
      match set? r with
      | none => .error ⟨position, .openSet⟩
      | some (part, rest) => do
          let used := s.length - rest.length
          .ok (part :: (← parseFrom fuel (some ']') (position + used) rest))
  | _ + 1, '*' :: '*' :: '*' :: _ => .error ⟨position + 2, .tooManyStars⟩
  | fuel + 1, '*' :: '*' :: r =>
      match before, r with
      | none, '/' :: r | some '/', '/' :: r => do
          .ok (.anyComponents :: (← parseFrom fuel (some '/') (position + 3) r))
      | none, [] | some '/', [] => .ok [.anyComponents]
      | none, _ | some '/', _ => .error ⟨position + 2, .brokenComponents⟩
      | some _, _ => .error ⟨position - 1, .brokenComponents⟩
  | fuel + 1, '*' :: r => do .ok (.anyRun :: (← parseFrom fuel (some '*') (position + 1) r))
  | fuel + 1, c :: r => do .ok (.literal c :: (← parseFrom fuel (some c) (position + 1) r))

def parse (text : String) : Except Malformed FilePattern :=
  parseFrom text.length none 0 text.toList

def Part.matchesOne : Part → Char → Bool
  | .literal a, c => a == c
  | .anyOne, _ => true
  | .oneOf inside ranges, c => ranges.any (fun r => r.1 ≤ c && c ≤ r.2) == inside
  | .anyRun, _ => false
  | .anyComponents, _ => false

-- A row holds an entry for every tail of a text, the longest tail first: whether it is matched.
def Part.rowOfOne (part : Part) : List Char → List Bool → List Bool
  | c :: s, _ :: b :: row => (part.matchesOne c && b) :: rowOfOne part s (b :: row)
  | _, _ => [false]

def rowOfRun : List Bool → List Bool
  | [] => []
  | b :: row =>
      let shorter := rowOfRun row
      (b || shorter.headD false) :: shorter

def rowBehindSlashes : List Char → List Bool → List Bool
  | c :: s, _ :: b :: row =>
      let later := rowBehindSlashes s (b :: row)
      ((c == '/' && b) || later.headD false) :: later
  | _, row => row

def Part.row (s : List Char) : Part → List Bool → List Bool
  | .anyRun, row => rowOfRun row
  | .anyComponents, row => List.zipWith (· || ·) row (rowBehindSlashes s row)
  | part, row => part.rowOfOne s row

def row (s : List Char) : FilePattern → List Bool
  | [] => List.replicate s.length false ++ [true]
  | part :: parts => part.row s (row s parts)

def accepts (p : FilePattern) (name : String) : Bool := (row name.toList p).headD false

end FilePattern

end SchemaDiagram
