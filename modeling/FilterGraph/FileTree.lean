import FilterGraph.Path
import FilterGraph.Text.Blank
import FilterGraph.Text.Quoted
import FilterGraph.Text.Utf8

namespace FilterGraph

inductive Entry where
  | folder
  | file (bytes : List UInt8) (executable : Bool)
  deriving DecidableEq, Repr

inductive FileError where
  | missing
  | exists
  | notAFolder
  | isAFolder
  | nameTooLong
  | busy
  | insideItself
  | zeroByte
  deriving DecidableEq, Repr

namespace FileError

def description? : FileError → Option (Nat × String)
  | .missing => some (2, "No such file or directory")
  | .busy => some (16, "Device or resource busy")
  | .exists => some (17, "File exists")
  | .notAFolder => some (20, "Not a directory")
  | .isAFolder => some (21, "Is a directory")
  | .insideItself => some (22, "Invalid argument")
  | .nameTooLong => some (36, "File name too long")
  | .zeroByte => none

def reasonAt (e : FileError) (places : String) : String :=
  match e.description? with
  | some (number, text) => s!"[Errno {number}] {text}: {places}"
  | none => "embedded null byte"

def reason (e : FileError) (path : String) : String := e.reasonAt (Text.quote path)

end FileError

structure FileFailure where
  error : FileError
  path : Path
  target? : Option Path := none
  deriving DecidableEq, Repr

def FileFailure.message (f : FileFailure) : String :=
  match f.target? with
  | none => f.error.reason f.path.toText
  | some target => f.error.reasonAt s!"{Text.quote f.path.toText} -> {Text.quote target.toText}"

/-- A place is the list of names that leads to it from the root folder, which is always there, as are those above it, to
    which two dots lead. `home` is the path of the root folder; names longer than the limit, in bytes, do not exist. -/
structure FileTree where
  home : Path
  nameLimit : Option Nat
  entries : List (List String × Entry)
  deriving Repr

namespace FileTree

def empty (home : Path) : FileTree := ⟨home, none, []⟩

def isOuter (place : List String) : Bool := place.all (· == "..")

def entry? (t : FileTree) (place : List String) : Option Entry :=
  if isOuter place then some .folder else t.entries.lookup place

def admits (t : FileTree) (name : String) : Bool :=
  match t.nameLimit with
  | none => true
  | some limit => name.utf8ByteSize ≤ limit

def below? (t : FileTree) (p : Path) : Option (List String) :=
  if p.absolute == t.home.absolute && t.home.parts.isPrefixOf p.parts then
    some (p.parts.drop t.home.parts.length)
  else if p.absolute then none
  else some p.parts

def walk (t : FileTree) (place : List String) : List String → Except FileError (List String)
  | [] => .ok place
  | name :: rest =>
    match t.entry? place with
    | none => .error .missing
    | some (.file _ _) => .error .notAFolder
    | some .folder =>
      if name == ".." then
        walk t (if isOuter place then place ++ [".."] else place.dropLast) rest
      else if !t.admits name then .error .nameTooLong
      else walk t (place ++ [name]) rest

def hasZero (name : String) : Bool := name.toList.contains '\x00'

/-- The place a path leads to, which need not hold anything. Zero bytes are refused before anything else. -/
def place (t : FileTree) (p : Path) : Except FileError (List String) :=
  if p.parts.any hasZero then .error .zeroByte
  else
    match t.below? p with
    | none => .error .missing
    | some parts => t.walk [] parts

def find? (t : FileTree) (p : Path) : Except FileError Entry := do
  match t.entry? (← t.place p) with
  | some e => return e
  | none => throw .missing

def isTooLong (t : FileTree) (p : Path) : Bool :=
  match t.place p with
  | .error .nameTooLong => true
  | _ => false

def exists? (t : FileTree) (p : Path) : Bool := (t.find? p).isOk

def isFolder (t : FileTree) (p : Path) : Bool :=
  match t.find? p with
  | .ok .folder => true
  | _ => false

def isFile (t : FileTree) (p : Path) : Bool :=
  match t.find? p with
  | .ok (.file _ _) => true
  | _ => false

def read (t : FileTree) (p : Path) : Except FileError (List UInt8) := do
  match ← t.find? p with
  | .file bytes _ => return bytes
  | .folder => throw .isAFolder

def names (t : FileTree) (p : Path) : List String :=
  match t.place p with
  | .error _ => []
  | .ok folder => t.entries.filterMap fun (place, _) =>
    if !place.isEmpty && place.dropLast == folder then place.getLast? else none

def put (t : FileTree) (place : List String) (e : Entry) : FileTree :=
  if t.entries.any (·.1 == place) then
    { t with entries := t.entries.map fun (q, old) => if q == place then (q, e) else (q, old) }
  else { t with entries := t.entries ++ [(place, e)] }

def remove (t : FileTree) (place : List String) : FileTree :=
  { t with entries := t.entries.filter fun (q, _) => !place.isPrefixOf q }

def move (t : FileTree) (source target : List String) : FileTree :=
  { t with entries := t.entries.map fun (q, e) =>
      if source.isPrefixOf q then (target ++ q.drop source.length, e) else (q, e) }

def makeFolder (t : FileTree) (p : List String) : Except FileError FileTree := do
  if p.any hasZero then throw .zeroByte
  let place ← t.walk [] p
  let parent ← t.walk [] p.dropLast
  match t.entry? parent with
  | none => throw .missing
  | some (.file _ _) => throw .notAFolder
  | some .folder =>
    match t.entry? place with
    | some .folder => return t
    | some (.file _ _) => throw .exists
    | none => return t.put place .folder

def attempt (t : FileTree) (p : Path) : Except FileError FileTree → FileTree × Except FileFailure Unit
  | .ok t => (t, .ok ())
  | .error e => (t, .error ⟨e, p, none⟩)

/-- Makes the folder that the first `n` parts lead to from a folder, and those above it only where they are missing.
    What was made before a failure stays. -/
def makeFoldersUpTo (t : FileTree) (root : Path) (parts : List String) : Nat → FileTree × Except FileFailure Unit
  | 0 => (t, .ok ())
  | n + 1 =>
    let folder := parts.take (n + 1)
    match t.makeFolder folder with
    | .error .missing =>
      match makeFoldersUpTo t root parts n with
      | (t, .error f) => (t, .error f)
      | (t, .ok ()) => t.attempt (root.below folder) (t.makeFolder folder)
    | result => t.attempt (root.below folder) result

def makeFolders (t : FileTree) (p : Path) : FileTree × Except FileFailure Unit :=
  if p.parts.any hasZero then (t, .error ⟨.zeroByte, p, none⟩)
  else
    match t.below? p with
    | none => (t, .error ⟨.missing, p, none⟩)
    | some parts =>
      t.makeFoldersUpTo { p with parts := p.parts.take (p.parts.length - parts.length) } parts parts.length

def write (t : FileTree) (p : Path) (bytes : List UInt8) : Except FileError FileTree := do
  let place ← t.place p
  match t.entry? place with
  | some .folder => throw .isAFolder
  | some (.file _ executable) => return t.put place (.file bytes executable)
  | none =>
    match t.entry? place.dropLast with
    | some .folder => return t.put place (.file bytes false)
    | some (.file _ _) => throw .notAFolder
    | none => throw .missing

def makeExecutable (t : FileTree) (p : Path) : Except FileError FileTree := do
  let place ← t.place p
  match t.entry? place with
  | some (.file bytes _) => return t.put place (.file bytes true)
  | _ => throw .missing

def absolute (t : FileTree) (p : Path) : Path := t.home.join p

end FileTree

inductive ReadError where
  | file (e : FileError)
  | undecodable (e : Utf8.DecodeError)
  deriving DecidableEq, Repr

def FileTree.readText (t : FileTree) (p : Path) : Except ReadError (List Char) :=
  match t.read p with
  | .error e => .error (.file e)
  | .ok bytes =>
    match Utf8.decode bytes with
    | .error e => .error (.undecodable e)
    | .ok cs => .ok (Text.unifyLineEnds cs)

end FilterGraph
