import FilterGraph.CommandLine.Command

namespace FilterGraph.Program

def nameIn (folder : String) (place : List String) : String := "/".intercalate (folder :: place)

partial def entriesAt (folder : String) (place : List String) : IO (List (List String × Entry)) := do
  let path := nameIn folder place
  if ← (← IO.FS.realPath path).isDir then
    let mut found := if place.isEmpty then [] else [(place, Entry.folder)]
    for item in ← (← IO.FS.realPath path).readDir do
      found := found ++ (← entriesAt folder (place ++ [item.fileName]))
    return found
  else return [(place, .file (← IO.FS.readBinFile path).toList false)]

def writeEntry (folder : String) (place : List String) : Entry → IO Unit
  | .folder => IO.FS.createDirAll (nameIn folder place)
  | .file bytes executable => do
    IO.FS.writeBinFile (nameIn folder place) (ByteArray.mk bytes.toArray)
    if executable then
      let access : IO.AccessRight := { read := true, execution := true }
      IO.setAccessRights (nameIn folder place)
        { user := { access with write := true }, group := access, other := access }

def removeEntry (folder : String) (place : List String) : Entry → IO Unit
  | .folder => IO.FS.removeDirAll (nameIn folder place)
  | .file _ _ => IO.FS.removeFile (nameIn folder place)

def writeBack (folder : String) (old new : FileTree) : IO Unit := do
  for (place, entry) in old.entries.reverse do
    if (new.entry? place).isNone then removeEntry folder place entry
  for (place, entry) in new.entries do
    if old.entry? place != some entry then writeEntry folder place entry

def usage : String :=
  "usage: nfgraph COMMAND OPERANDS [--config FILE] [--extension-dir DIR] [--extension ID] [-v]\n" ++
    "commands: " ++ ", ".intercalate (CommandName.all.map CommandName.name) ++ "\n"

def run (words : List String) : IO UInt32 := do
  let folder := (← IO.currentDir).toString
  let old : FileTree :=
    { home := Path.ofText folder, nameLimit := some 255, entries := ← entriesAt folder [] }
  match runCommandLine words (← IO.getEnv "NFGRAPH_CONFIG") old with
  | .error r =>
    (if r.status == 0 then IO.print usage else IO.eprint usage)
    return r.status.toUInt32
  | .ok report =>
    writeBack folder old report.tree
    IO.print report.output
    IO.eprint report.log
    match report.fault? with
    | none => return report.status.toUInt32
    | some fault =>
      IO.eprintln s!"error: {fault.message}"
      return report.status.toUInt32

end FilterGraph.Program

def main (words : List String) : IO UInt32 := FilterGraph.Program.run words
