import PluginHost.Files
import PluginHost.Log.Setup

/-
This file decides where the log goes. A log file that cannot be opened gives way to the standard
output.
-/

namespace PluginHost.Log

/-- A log file, with the directory that it lies in by the parts of its path. -/
structure LogFile where
  directory : List String
  name : String
deriving DecidableEq, Repr

namespace LogFile

/-- The name of a log file whose path ends with no name. -/
def defaultName : String := "tessera.log"

def ofParts (parts : List String) : LogFile :=
  match parts.getLast? with
  | none => ⟨[], defaultName⟩
  | some ".." => ⟨parts.dropLast, defaultName⟩
  | some name => ⟨parts.dropLast, name⟩

def ofPath (path : String) : LogFile := ofParts (Path.named path)

/-- The directories of an absolute path start with an empty part. Nothing is known of them. -/
def absolute (file : LogFile) : LogFile := { file with directory := "" :: file.directory }

/-- No part of a path has more bytes. -/
def nameLimit : Nat := 255

/-- The day stands behind the name of the file, with a dot between them. -/
def dayLength : Nat := 11

def hasNull (text : String) : Bool := text.toList.contains '\x00'

/-- What makes it impossible to create the file in its directory. -/
def obstacle? (file : LogFile) : Option Disk.Obstacle :=
  if hasNull file.name then some .nullByte
  else if nameLimit < file.name.utf8ByteSize + dayLength then some .tooLong
  else none

/-- Finds the directory of the file, and makes it and those on the way to it if need be. -/
def settled (file : LogFile) (disk : Disk) : Except String LogFile :=
  let directories :=
    if file.directory.any hasNull then .error .nullByte
    else disk.ensureDirectories file.directory.reverse
  match directories, file.obstacle? with
  | .error obstacle, _ => .error ("failed to create log directory: " ++ obstacle.message)
  | .ok _, some obstacle => .error ("failed to create initial log file: " ++ obstacle.message)
  | .ok disk, none =>
    match disk.follow file.directory with
    | .directory path => .ok { file with directory := path }
    | _ => .ok file

def unopened (path problem : String) : String := s!"Failed to open log file {path}: {problem}"

def unavailable : String := "File logging unavailable, falling back to stdout"

end LogFile

inductive Destination where
  | stdout
  | stderr
  | file (file : LogFile)
deriving DecidableEq, Repr

/-- Where the log goes, and what is said when it is not the file that is wanted. -/
def Setup.destination (setup : Setup) (disk : Disk) : Destination × List String :=
  match setup.output, setup.filePath with
  | .stdout, _ => (.stdout, [])
  | .stderr, _ => (.stderr, [])
  | .file, none => (.stdout, [LogFile.unavailable])
  | .file, some path =>
    let file := LogFile.ofPath path
    if Path.isAbsolute path && !(Path.named path).isEmpty then (.file file.absolute, [])
    else
      match file.settled disk with
      | .ok file => (.file file, [])
      | .error problem => (.stdout, [LogFile.unopened path problem, LogFile.unavailable])

end PluginHost.Log
