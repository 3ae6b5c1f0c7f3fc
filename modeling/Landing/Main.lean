import Landing.CommandLine
import Landing.Repository.Revision

/-! The program on a machine. Files are read before it starts and written when it has ended, so a
hook runs on the files that were read. -/
namespace Landing.CommandLine

/-- Reads a file, or a directory with what is below it; links below a directory are left out. -/
partial def gather (files : FileTree) (path : String) : IO FileTree := do
  let real ← IO.FS.realPath path
  let place := Path.locate "/" path
  if ← real.isDir then
    let mut files : FileTree := { files with made := place :: files.made }
    for entry in ← real.readDir do
      let child := entry.path.toString
      if (← IO.FS.realPath child).toString = child then
        files ← gather files (Path.join path entry.fileName)
    return files
  else
    return files.put place ⟨(← IO.FS.readBinFile path).toList, true⟩

/-- Reads what is there of some paths. -/
def gatherAll (directory : String) (files : FileTree) (paths : List String) : IO FileTree :=
  paths.foldlM (fun files path => do
    let path := Path.join directory path
    try gather files path
    catch _ => return files) files

/-- The variables that the program and its hooks look at. -/
def variableNames : List String :=
  ["PATH", "HOME", "XDG_CONFIG_HOME", "NO_COLOR", "CLICOLOR_FORCE"]

/-- The current time, as the file system gives it to a new file. -/
def currentTime : IO Instant := do
  let (_, path) ← IO.FS.createTempFile
  let time := (← path.metadata).modified
  IO.FS.removeFile path
  return ⟨time.sec, time.nsec.toNat⟩

def surroundings : IO Surroundings := do
  let bindings ← variableNames.filterMapM fun name => do
    return (← IO.getEnv name).map fun value => (name, value)
  return ⟨(← IO.currentDir).toString, bindings, {}, ← currentTime, Repository.opener⟩

/-- Reads what a command names. A configuration and a repository name more, and a directory that is
named so may name one that it shares. -/
def withSources (s : Surroundings) (args : List String) : IO Surroundings :=
  match Arguments.parse? args with
  | some (.invoke i) =>
    (List.range 3).foldlM (fun s _ => do
      return { s with files := ← gatherAll s.directory {} (sources s i).eraseDups }) s
  | _ => return s

/-- Writes the files that changed and removes those that are gone. -/
def store (old new : FileTree) : IO Unit := do
  for (place, file) in new.files.entries do
    if (old.file? place).map (·.bytes) ≠ some file.bytes then
      IO.FS.createDirAll ("/" ++ "/".intercalate place.dropLast)
      IO.FS.writeBinFile ("/" ++ "/".intercalate place) ⟨file.bytes.toArray⟩
  for place in old.files.keys do
    if (new.file? place).isNone then IO.FS.removeFile ("/" ++ "/".intercalate place)

end Landing.CommandLine

open Landing.CommandLine in
def main (args : List String) : IO UInt32 := do
  let s ← withSources (← surroundings) args
  let reply := start s args
  IO.print reply.out
  IO.eprint reply.errors
  store s.files reply.files
  return reply.ending.status
