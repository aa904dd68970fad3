import SchemaDiagram.Files.Path

namespace SchemaDiagram

inductive AccessFailure where
  | notFound
  | permissionDenied
  | notAFolder
  | isAFolder
  | nameTooLong
  | notText
  | nulInPath
  | nulInArgument
  | notExecutable
  | brokenPipe
  | other (words : String)
  deriving DecidableEq, Repr

namespace AccessFailure

def message : AccessFailure → String
  | .notFound => "No such file or directory (os error 2)"
  | .permissionDenied => "Permission denied (os error 13)"
  | .notAFolder => "Not a directory (os error 20)"
  | .isAFolder => "Is a directory (os error 21)"
  | .nameTooLong => "File name too long (os error 36)"
  | .notText => "stream did not contain valid UTF-8"
  | .nulInPath => "file name contained an unexpected NUL byte"
  | .nulInArgument => "nul byte found in provided data"
  | .notExecutable => "Exec format error (os error 8)"
  | .brokenPipe => "Broken pipe (os error 32)"
  | .other words => words

end AccessFailure

inductive FileEntry where
  | folder
  | file (content : ByteArray) (executable : Bool)

abbrev Location := List String

structure RawName where
  bytes : ByteArray
  notText : ¬bytes.IsValidUTF8

structure Workspace where
  entries : List (Location × FileEntry) := []
  /-- Files that no path leads to, as their names are no text, with the folders that they are in. -/
  unnamed : List (Location × RawName) := []
  current : Location := []
  /-- Where no file can be written though its folder is there, and why. -/
  refused : List (Location × AccessFailure) := []

namespace Workspace

def entryAt? (w : Workspace) : Location → Option FileEntry
  | [] => some .folder
  | at_ => w.entries.lookup at_

def put (w : Workspace) (at_ : Location) (entry : FileEntry) : Workspace :=
  if w.entries.any (·.1 == at_) then
    { w with entries := w.entries.map fun e => if e.1 = at_ then (at_, entry) else e }
  else { w with entries := w.entries ++ [(at_, entry)] }

theorem lookup_replace_of_ne {at_ other : Location} {e : FileEntry}
    (l : List (Location × FileEntry)) (h : other ≠ at_) :
    (l.map fun x => if x.1 = at_ then (at_, e) else x).lookup other = l.lookup other := by
  have ho : (other == at_) = false := by simpa using h
  induction l with
  | nil => rfl
  | cons x xs ih =>
      obtain ⟨k, v⟩ := x
      by_cases hx : k = at_
      · subst hx
        simp [List.lookup_cons, ih, ho]
      · simp [List.lookup_cons, ih, hx]

theorem lookup_replace_self {at_ : Location} {e : FileEntry} (l : List (Location × FileEntry))
    (h : l.any (·.1 == at_) = true) :
    (l.map fun x => if x.1 = at_ then (at_, e) else x).lookup at_ = some e := by
  induction l with
  | nil => simp at h
  | cons x xs ih =>
      obtain ⟨k, v⟩ := x
      by_cases hx : k = at_
      · simp [hx]
      · have ha : (at_ == k) = false := by simpa using Ne.symm hx
        have hk : (k == at_) = false := by simpa using hx
        simp only [List.any_cons, hk, Bool.false_or] at h
        simp [List.lookup_cons, hx, ha, ih h]

theorem entryAt?_put_self (w : Workspace) {at_ : Location} (e : FileEntry) (h : at_ ≠ []) :
    (w.put at_ e).entryAt? at_ = some e := by
  cases at_ with
  | nil => exact absurd rfl h
  | cons a as =>
      simp only [put, entryAt?]
      split
      · rename_i hany
        exact lookup_replace_self _ hany
      · rename_i hany
        have hn : w.entries.lookup (a :: as) = none := by
          rw [List.lookup_eq_none_iff]
          intro p hp
          have := fun hq => hany (List.any_eq_true.2 ⟨p, hp, hq⟩)
          simpa using fun hq => this (by simpa using hq.symm)
        simp [List.lookup_append, hn]

theorem entryAt?_put_of_ne (w : Workspace) {at_ other : Location} (e : FileEntry)
    (h : other ≠ at_) : (w.put at_ e).entryAt? other = w.entryAt? other := by
  cases other with
  | nil => rfl
  | cons a as =>
      simp only [put, entryAt?]
      split
      · exact lookup_replace_of_ne _ h
      · have ho : ((a :: as) == at_) = false := by simpa using h
        simp [List.lookup_append, List.lookup_cons, ho]

def nameLimit : Nat := 255

def pathLimit : Nat := 4095

def fits (path : String) : Bool := path.utf8ByteSize ≤ pathLimit

def step (here : Location) (s : String) : Location :=
  if s = "." then here else if s = ".." then here.dropLast else here ++ [s]

def walk (w : Workspace) : Location → List String → Except AccessFailure Location
  | here, [] => .ok here
  | here, s :: rest =>
      match w.entryAt? here with
      | none => .error .notFound
      | some (.file ..) => .error .notAFolder
      | some .folder =>
          if nameLimit < s.utf8ByteSize then .error .nameTooLong else walk w (step here s) rest

def start (w : Workspace) (path : String) : Except AccessFailure Location :=
  if path.toList.contains '\x00' then .error .nulInPath
  else if path = "" then .error .notFound
  else if !fits path then .error .nameTooLong
  else .ok (if Path.isAbsolute path then [] else w.current)

def locate (w : Workspace) (path : String) : Except AccessFailure Location := do
  w.walk (← w.start path) (Path.steps path)

def find (w : Workspace) (path : String) : Except AccessFailure (Location × FileEntry) := do
  let at_ ← w.locate path
  match w.entryAt? at_ with
  | none => .error .notFound
  | some .folder => .ok (at_, .folder)
  | some (.file c x) =>
      if Path.namesFolder path then .error .notAFolder else .ok (at_, .file c x)

def isFile (w : Workspace) (path : String) : Bool :=
  match w.find path with
  | .ok (_, .file ..) => true
  | _ => false

def read (w : Workspace) (path : String) : Except AccessFailure ByteArray := do
  match ← w.find path with
  | (_, .folder) => .error .isAFolder
  | (_, .file content _) => .ok content

def readText (w : Workspace) (path : String) : Except AccessFailure String := do
  match String.fromUTF8? (← w.read path) with
  | some text => .ok text
  | none => .error .notText

def writable (w : Workspace) (path : String) : Except AccessFailure Location := do
  let steps := Path.steps path
  let folder ← w.walk (← w.start path) steps.dropLast
  match w.entryAt? folder with
  | none => .error .notFound
  | some (.file ..) => .error .notAFolder
  | some .folder =>
      if Path.namesFolder path then .error .isAFolder
      else
        let at_ ← w.walk folder steps.getLast?.toList
        match w.entryAt? at_, w.refused.lookup at_ with
        | some .folder, _ => .error .isAFolder
        | _, some cause => .error cause
        | _, none => .ok at_

def write (w : Workspace) (path : String) (content : ByteArray) :
    Except AccessFailure Workspace := do
  let at_ ← w.writable path
  match w.entryAt? at_ with
  | some (.file _ executable) => .ok (w.put at_ (.file content executable))
  | _ => .ok (w.put at_ (.file content false))

def fileName? (folder : Location) : Location × FileEntry → Option String
  | (at_, .file ..) => at_.getLast?.filter fun _ => at_.dropLast = folder
  | (_, .folder) => none

def fileNames (w : Workspace) (folder : Location) : List String :=
  w.entries.filterMap (fileName? folder)

def listedNames (w : Workspace) (folder : Location) : List ByteArray :=
  (w.fileNames folder).map String.toUTF8 ++
    (w.unnamed.filter (·.1 = folder)).map (·.2.bytes)

def isExecutable (w : Workspace) (at_ : Location) : Bool :=
  match w.entryAt? at_ with
  | some (.file _ executable) => executable
  | _ => false

def openFolder (w : Workspace) (at_ : Location) : Workspace :=
  if (w.entryAt? at_).isNone then w.put at_ .folder else w

def waypoints (start : Location) (steps : List String) : List Location :=
  steps.foldl (fun way s => step (way.headD start) s :: way) []

def placeFolder (w : Workspace) (path : String) : Workspace :=
  (waypoints w.current (Path.steps path)).reverse.foldl openFolder w

def placeFile (w : Workspace) (path : String) (content : ByteArray)
    (executable : Option Bool := none) : Workspace :=
  match waypoints w.current (Path.steps path) with
  | [] => w
  | at_ :: way =>
      let executable := executable.getD (w.isExecutable at_)
      (way.reverse.foldl openFolder w).put at_ (.file content executable)

def empty (w : Workspace) (folder : Location) : Workspace :=
  { w with
    entries := w.entries.filter fun e => !folder.isPrefixOf e.1 || e.1 == folder
    unnamed := w.unnamed.filter fun e => !folder.isPrefixOf e.1 }

def erase (w : Workspace) (at_ : Location) : Workspace :=
  { w with entries := w.entries.filter (·.1 != at_) }

/-- Removes a folder and everything inside it, which goes first. A path that led through what was
inside leads nowhere then, and the folder stays, which is no failure. It is one if the path does not
call the folder by its name. -/
def removeFolder (w : Workspace) (path : String) (folder : Location) : Bool × Workspace :=
  let emptied := w.empty folder
  match emptied.locate path, (Path.steps path).getLast? with
  | .error _, _ => (true, emptied)
  | .ok _, some name =>
      if name = "." || name = ".." then (false, emptied) else (true, emptied.erase folder)
  | .ok _, none => (false, emptied)

def remove (w : Workspace) (path : String) : Bool × Workspace :=
  match w.find path with
  | .ok (folder, .folder) => w.removeFolder path folder
  | .ok (at_, .file ..) => (true, w.erase at_)
  | .error _ => (false, w)

def label (at_ : Location) : FileEntry → String
  | .folder => "/".intercalate at_ ++ "/"
  | .file .. => "/".intercalate at_

def isNewOrChanged (before : Workspace) (at_ : Location) (entry : FileEntry) : Bool :=
  match before.entryAt? at_, entry with
  | some (.file old _), .file content _ => old.data != content.data
  | some .folder, .folder => false
  | _, _ => true

def changes (before after : Workspace) : Workspace :=
  { after with entries := after.entries.filter fun e => before.isNewOrChanged e.1 e.2 }

def listing (w : Workspace) : List (String × FileEntry) :=
  let below := w.entries.filterMap fun e =>
    match w.current.isPrefixOf? e.1 with
    | none | some [] => none
    | some at_ => some (label at_ e.2, e.2)
  below.mergeSort fun a b => a.1 ≤ b.1

end Workspace

end SchemaDiagram
