import PluginHost.Gateway.Command

/-
This file lets the gateway command run: it looks up the environment and the files that the command
may read, and writes what the command leaves behind.
-/

namespace PluginHost.Gateway

/-- Reads entries that end with a null character. -/
def environmentOfText (text : String) : Environment :=
  .ofEntries <| ((text.splitOn "\x00").filter fun entry => entry.contains '=').map fun entry =>
    match entry.splitOn "=" with
    | name :: rest => (name, String.intercalate "=" rest)
    | [] => (entry, "")

def readEnvironment : IO Environment :=
  try return environmentOfText (← IO.FS.readFile "/proc/self/environ")
  catch _ => return []

/-- The root directory of the host is the working directory of the command. -/
def realPath (path : Path) : String :=
  if path.rooted && path.text.isEmpty then "." else path.text

def lookAt (path : Path) : IO Place :=
  try return .file (← IO.FS.readFile (realPath path))
  catch _ =>
    try
      let _ ← IO.FS.realPath (realPath path)
      return .directory []
    catch _ => return .nowhere

def readDisk (paths : List Path) : IO Disk := do
  let known ← paths.mapM fun path => return (path, ← lookAt path)
  return { known := known }

def append (file : Log.LogFile) (lines : List String) : IO Unit := do
  let directory := String.intercalate "/" file.directory
  unless directory.isEmpty do IO.FS.createDirAll directory
  let handle ← IO.FS.Handle.mk (Path.join ⟨directory, false⟩ file.name).text .append
  for line in lines do handle.putStrLn line

/-- A log file that cannot be written gives way to the standard output. -/
def Result.write (result : Result) : IO Unit := do
  for line in result.errors do IO.eprintln line
  for line in result.output do IO.println line
  match result.file with
  | none => pure ()
  | some (file, lines) =>
    try append file lines
    catch _ =>
      IO.eprintln Log.LogFile.unavailable
      for line in lines do IO.println line

end PluginHost.Gateway

open PluginHost PluginHost.Gateway in
def main (arguments : List String) : IO UInt32 := do
  let environment ← readEnvironment
  let command := Command.ofArguments {} arguments
  let disk ← match command with
    | .run options => readDisk (Gateway.loader options environment).candidates
    | _ => pure {}
  let result := command.result { disk := disk, environment := environment }
  result.write
  return UInt32.ofNat result.code
