/-
This file holds the paths and the files that a host can see. Everything lies below one root
directory, which is also the working directory.
-/

namespace PluginHost

/-- A path as it is given, or one that starts from the root directory. -/
structure Path where
  text : String
  rooted : Bool := false
deriving DecidableEq, Repr

/-- The name under which the root directory is shown. -/
def rootName : String := "<root>"

namespace Path

def root : Path := ⟨"", true⟩

/-- The directory below which the settings of the user are kept. -/
def userDirectory : Path := ⟨"xdg", true⟩

def parts (text : String) : List String := text.splitOn "/"

def isAbsolute (text : String) : Bool := text.startsWith "/"

/-- The parts that name something. -/
def named (text : String) : List String :=
  (parts text).filter fun part => part != "" && part != "."

/-- An absolute path replaces the one it is joined to. -/
def join (base : Path) (text : String) : Path :=
  if isAbsolute text then ⟨text, false⟩
  else if base.text.isEmpty || base.text.endsWith "/" then { base with text := base.text ++ text }
  else { base with text := base.text ++ "/" ++ text }

/-- The root directory is shown in front of what lies below it. -/
def display (path : Path) : String :=
  if !path.rooted then path.text
  else if path.text.isEmpty then rootName
  else rootName ++ "/" ++ path.text

/-- A name that starts with its only dot has no extension. -/
def extension (path : Path) : String :=
  match (named path.text).getLast? with
  | none => ""
  | some ".." => ""
  | some name =>
    let reversed := name.toList.reverse
    let ending := reversed.takeWhile (· != '.')
    if ending.length + 1 < reversed.length then String.ofList ending.reverse else ""

/-- A source of settings is shown from the root directory. -/
def shown (path : Path) : String := String.intercalate "/" (named path.text)

end Path

/-- Where a walk along a path has come to. A file does not lead on. -/
inductive Place where
  | directory (path : List String)
  | file (content : String)
  | outside (levels : Nat)
  | nowhere
  | blocked

/-- The files with their contents, by the parts of their paths, the directories that were made,
and the places that are known by the whole of a path. -/
structure Disk where
  files : List (List String × String) := []
  directories : List (List String) := []
  known : List (Path × Place) := []

namespace Disk

def write (disk : Disk) (path content : String) : Disk :=
  let parts := Path.named path
  { disk with files := disk.files.filter (fun file => file.1 != parts) ++ [(parts, content)] }

def isDirectory (disk : Disk) (path : List String) : Bool :=
  disk.directories.contains path ||
    disk.files.any fun file => path.length < file.1.length && path.isPrefixOf file.1

def placeAt (disk : Disk) (path : List String) : Place :=
  if path.isEmpty || disk.isDirectory path then .directory path
  else
    match List.lookup path disk.files with
    | some content => .file content
    | none => .nowhere

/-- Steps lead on from directories only. Outside of the root directory, nothing but the
directories above it is known. -/
def step (disk : Disk) (place : Place) (part : String) : Place :=
  let stays := part = "" || part = "."
  match place with
  | .directory path =>
    if stays then .directory path
    else if part = ".." then if path.isEmpty then .outside 1 else .directory path.dropLast
    else disk.placeAt (path ++ [part])
  | .outside levels =>
    if stays then .outside levels else if part = ".." then .outside (levels + 1) else .nowhere
  | .file _ => .blocked
  | other => other

def follow (disk : Disk) (parts : List String) : Place :=
  parts.foldl disk.step (.directory [])

/-- An empty path leads nowhere unless it starts from the root directory. -/
def walk (disk : Disk) (path : Path) : Place :=
  if path.rooted then disk.follow (Path.parts path.text)
  else if path.text.isEmpty then .nowhere
  else if Path.isAbsolute path.text then
    if (Path.named path.text).isEmpty then .outside 1 else .nowhere
  else disk.follow (Path.parts path.text)

def find (disk : Disk) (path : Path) : Place :=
  ((disk.known.find? fun entry => entry.1 == path).map Prod.snd).getD (disk.walk path)

def holds (disk : Disk) (path : Path) : Bool :=
  match disk.find path with
  | .nowhere => false
  | .blocked => false
  | _ => true

/-- What is no file has no content. -/
def content? (disk : Disk) (path : Path) : Option String :=
  match disk.find path with
  | .file content => some content
  | _ => none

/-- Why a directory or a file cannot be made. -/
inductive Obstacle where
  | missing
  | taken
  | notDirectory
  | tooLong
  | nullByte
deriving DecidableEq, Repr

def Obstacle.message : Obstacle → String
  | .missing => "No such file or directory (os error 2)"
  | .taken => "File exists (os error 17)"
  | .notDirectory => "Not a directory (os error 20)"
  | .tooLong => "File name too long (os error 36)"
  | .nullByte => "file name contained an unexpected NUL byte"

/-- Makes the last part of a path. What stands before it has to be a directory, and the directory
above is always there already. Nothing is kept of what lies outside of the root directory. -/
def makeDirectory (disk : Disk) (parts : List String) : Except Obstacle Disk :=
  match parts.getLast? with
  | none => .error .taken
  | some name =>
    match disk.follow parts.dropLast with
    | .nowhere => .error .missing
    | .blocked => .error .notDirectory
    | .file _ => .error .notDirectory
    | .outside _ => if name = ".." then .error .taken else .ok disk
    | .directory path =>
      if name = ".." then .error .taken
      else
        match disk.placeAt (path ++ [name]) with
        | .nowhere => .ok { disk with directories := disk.directories ++ [path ++ [name]] }
        | _ => .error .taken

def leadsToDirectory (disk : Disk) (parts : List String) : Bool :=
  match disk.follow parts with
  | .directory _ => true
  | .outside _ => true
  | _ => false

/-- Makes a directory that may be there already. -/
def ensureDirectory (disk : Disk) (parts : List String) : Except Obstacle Disk :=
  match disk.makeDirectory parts with
  | .ok made => .ok made
  | .error .taken => if disk.leadsToDirectory parts then .ok disk else .error .taken
  | .error obstacle => .error obstacle

/-- Makes a directory and, as far as they are missing, the directories on the way to it. The path
is given from its end. -/
def ensureDirectories (disk : Disk) : List String → Except Obstacle Disk
  | [] => .ok disk
  | name :: above =>
    match disk.ensureDirectory (name :: above).reverse with
    | .error .missing => do
      let disk ← disk.ensureDirectories above
      disk.ensureDirectory (name :: above).reverse
    | result => result

end Disk

end PluginHost
