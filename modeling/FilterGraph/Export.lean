import FilterGraph.Artifact
import FilterGraph.Text.Utf8

namespace FilterGraph

namespace FileTree

def asideName (name : String) : String := name ++ ".old"

def stagingStem (name : String) : String := s!".{name}."

def holds (t : FileTree) (place : List String) : Bool := (t.entry? place).isSome

/-- The first of the eight-digit endings from `n` on that makes a new name in a folder, also for putting aside. -/
def freshName (t : FileTree) (folder : List String) (stem : String) : Nat → Nat → String
  | 0, n => stem ++ Text.decimalPadded 8 n
  | tries + 1, n =>
    let name := stem ++ Text.decimalPadded 8 n
    if t.holds (folder ++ [name]) || t.holds (folder ++ [asideName name]) then
      freshName t folder stem tries (n + 1)
    else name

def writeDeep (t : FileTree) (p : Path) (content : String) : FileTree × Except FileFailure Unit :=
  match t.makeFolders p.parent with
  | (t, .error f) => (t, .error f)
  | (t, .ok ()) => t.attempt p (t.write p (Utf8.encode content))

def writeFiles (t : FileTree) (folder : Path) : Entries String String → FileTree × Except FileFailure Unit
  | [] => (t, .ok ())
  | (path, content) :: rest =>
    match t.writeDeep (folder.child path) content with
    | (t, .error f) => (t, .error f)
    | (t, .ok ()) => writeFiles t folder rest

def moveAlong (t : FileTree) (source target : Path) : Except FileError FileTree := do
  let s ← t.place source
  let d ← t.place target
  -- two dots are not a name that can move or be taken
  if source.name == ".." || target.name == ".." then throw .busy
  if s.isPrefixOf d then throw .insideItself
  return t.move s d

def rename (t : FileTree) (source target : Path) : Except FileFailure FileTree :=
  (t.moveAlong source target).mapError fun e => ⟨e, source, some target⟩

def withoutRoot (t : FileTree) : FileTree :=
  { t with entries := t.entries.filter fun (place, _) => place.head? == some ".." }

def discard (t : FileTree) (p : Path) : FileTree :=
  match t.place p with
  | .ok place => if place.isEmpty then t else t.remove place
  | .error _ => t

end FileTree

namespace Artifact

def writeInto (a : Artifact) (t : FileTree) (folder : Path) : FileTree × Except FileFailure Unit :=
  let entry := folder.child a.entryPoint
  let script := do
    let t ← t.write entry (Utf8.encode a.script)
    t.makeExecutable entry
  match t.attempt entry script with
  | (t, .error f) => (t, .error f)
  | (t, .ok ()) => t.writeFiles folder a.files

def unwritten (target : Path) (f : FileFailure) : ExportCause := .unwritten target.toText f

def restore (t : FileTree) (backup target : Path) (f : FileFailure) : FileTree × Except ExportCause Unit :=
  if t.exists? target then (t, .error (unwritten target f))
  else
    match t.rename backup target with
    | .ok t => (t, .error (unwritten target f))
    | .error f => (t, .error (.fault (.change f)))

/-- Puts the staged folder in the place of the target. The way to the target may lead through the target, and
    then nothing is found once it is put aside. -/
def replace (t : FileTree) (staging target : Path) : FileTree × Except ExportCause Unit :=
  if t.exists? target then
    if !t.isFolder target then (t.discard staging, .error (.notAFolder target.toText))
    else
      let backup := target.parent.below [FileTree.asideName staging.name]
      match t.rename target backup with
      | .error f => (t.discard staging, .error (unwritten target f))
      | .ok aside =>
        match aside.rename staging target with
        | .error f => restore (aside.discard staging) backup target f
        | .ok t => (t.discard backup, .ok ())
  else
    match t.rename staging target with
    | .error f => (t.discard staging, .error (unwritten target f))
    | .ok t => (t, .ok ())

def stage (a : Artifact) (t : FileTree) (staging target : Path) : FileTree × Except ExportCause Unit :=
  match a.writeInto t staging with
  | (t, .error f) => (t.discard staging, .error (unwritten target f))
  | (t, .ok ()) => replace t staging target

/-- A failure below the root folder, at the place where what is to replace that folder is staged. -/
def stagedFailure (t : FileTree) (f : FileFailure) : FileFailure :=
  let staging := t.home.parent.below [FileTree.stagingStem t.home.name ++ Text.decimalPadded 8 0]
  { f with path := staging.below (f.path.parts.drop t.home.parts.length) }

def replaceRoot (a : Artifact) (t : FileTree) : FileTree × Except ExportCause Unit :=
  match a.writeInto t.withoutRoot t.home with
  | (_, .error f) => (t, .error (unwritten t.home (stagedFailure t f)))
  | (staged, .ok ()) => (staged, .ok ())

def makeStaging (t : FileTree) (target : Path) : Except FileFailure (FileTree × Path) := do
  let folder ← (t.place target.parent).mapError fun e => ⟨e, target.parent, none⟩
  let name := t.freshName folder (FileTree.stagingStem target.name) t.entries.length 0
  let staging := target.parent.below [name]
  let place ← (t.place staging).mapError fun e => ⟨e, staging, none⟩
  return (t.put place .folder, staging)

def unstaged (target : Path) (f : FileFailure) : ExportCause :=
  match f.error with
  | .zeroByte => .fault (.file target.toText .zeroByte)
  | _ => .unstaged target.parent.toText f

def writeBeside (a : Artifact) (t : FileTree) (target : Path) : FileTree × Except ExportCause Unit :=
  match t.makeFolders target.parent with
  | (t, .error f) => (t, .error (unstaged target f))
  | (t, .ok ()) =>
    match makeStaging t target with
    | .error f => (t, .error (unstaged target f))
    | .ok (t, staging) => a.stage t staging target

def writeTo (a : Artifact) (t : FileTree) (folder : Path) : FileTree × Except ExportError Path :=
  let target := t.absolute folder
  let (t, outcome) := if t.below? target = some [] then a.replaceRoot t else a.writeBeside t target
  (t, (outcome.map fun _ => target).mapError fun cause => ⟨none, cause⟩)

def writeEvent (a : Artifact) (folder : Path) : Event :=
  .exported a.files.length a.entryPoint folder.toText

end Artifact

structure Export where
  events : List Event
  tree : FileTree
  outcome : Except ExportError Artifact

def Graph.export (g : Graph) (s : Settings) (t : FileTree) (folder : Path) : Export :=
  let c := g.compilation s t
  match c.outcome with
  | .error e => { events := c.events, tree := t, outcome := .error e }
  | .ok a =>
    match a.writeTo t folder with
    | (t, .error e) => { events := c.events, tree := t, outcome := .error e }
    | (t, .ok target) =>
      { events := c.events ++ [a.writeEvent target], tree := t, outcome := .ok a }

end FilterGraph
