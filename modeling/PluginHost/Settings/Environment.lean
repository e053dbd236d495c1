import PluginHost.Settings.Document
import PluginHost.Decimal.Limit
import PluginHost.Decimal.Reading
import PluginHost.Json.Reading
import PluginHost.Text.Blank

/-
This file reads settings from environment variables. The name of a variable gives the path of a
value, and its content the value. Most texts are written without quotes, and what is no value of
another kind is just a text.
-/

namespace PluginHost

/-- The variables in the order in which they were first set. -/
abbrev Environment := List (String × String)

namespace Environment

/-- A variable that is set again keeps its place. -/
def set (environment : Environment) (name content : String) : Environment :=
  if environment.any fun entry => entry.1 == name then
    environment.map fun entry => if entry.1 == name then (name, content) else entry
  else environment ++ [(name, content)]

def ofEntries (entries : List (String × String)) : Environment :=
  entries.foldl (fun environment entry => environment.set entry.1 entry.2) []

def find? (environment : Environment) (name : String) : Option String :=
  List.lookup name environment

/-- The start of the names that belong to the host. -/
def hostPrefix : String := "TESSERA_"

/-- The case of the start does not matter. -/
def ownName? (name : String) : Option String :=
  let size := hostPrefix.length
  let start := String.ofList ((name.toList.take size).map Char.toUpper)
  if start = hostPrefix then some (String.ofList (name.toList.drop size)) else none

/-- Two underscores part the names of tables, and so does a dot. A name with an empty part is no
path. -/
def path? (name : String) : Option (List String) :=
  let joined := Text.trim (String.intercalate "." (name.splitOn "__"))
  let parts := joined.splitOn "."
  if parts.any String.isEmpty then none
  else some (parts.map fun part => String.ofList (part.toList.map Char.toLower))

end Environment

namespace Environment.Content

abbrev Reader (α : Type) := List Char → Option (α × List Char)

/-- The blanks of ASCII but for the vertical tab. -/
def isSpace (c : Char) : Bool :=
  c == ' ' || c == '\t' || c == '\n' || c == '\x0c' || c == '\r'

def skipSpace (chars : List Char) : List Char := chars.dropWhile isSpace

def isPlain (c : Char) : Bool :=
  c != ',' && c != '\x7b' && c != '\x7d' && c != '[' && c != ']'

def isKeyChar (c : Char) : Bool := c.isAlphanum || c == '_' || c == '-'

def character? (digits : List Char) : Option Char :=
  (Json.hexValue? digits).bind fun code =>
    if code.isValidChar then some (Char.ofNat code) else none

def shortEscape? : Char → Option Char
  | 'b' => some '\x08'
  | 't' => some '\t'
  | 'n' => some '\n'
  | 'f' => some '\x0c'
  | 'r' => some '\r'
  | '"' => some '"'
  | '\\' => some '\\'
  | _ => none

/-- The content of a quoted text. No control character but the tab may stand in it. -/
def unescaped? : Nat → List Char → Option (List Char)
  | 0, _ => none
  | _, [] => some []
  | fuel + 1, '\\' :: 'u' :: rest =>
    if rest.length < 4 then none
    else do
      let c ← character? (rest.take 4)
      return c :: (← unescaped? fuel (rest.drop 4))
  | fuel + 1, '\\' :: 'U' :: rest =>
    if rest.length < 8 then none
    else do
      let c ← character? (rest.take 8)
      return c :: (← unescaped? fuel (rest.drop 8))
  | fuel + 1, '\\' :: c :: rest => do
    let c ← shortEscape? c
    return c :: (← unescaped? fuel rest)
  | fuel + 1, c :: rest =>
    if (c.toNat < 0x20 && c != '\t') || c.toNat = 0x7F || c = '\\' then none
    else (unescaped? fuel rest).map (c :: ·)

/-- The closing quote is the first one without a backslash before it. -/
def splitQuoted : List Char → Option (List Char × List Char)
  | [] => none
  | '"' :: rest => some ([], rest)
  | '\\' :: c :: rest =>
    (splitQuoted rest).map fun read => ('\\' :: c :: read.1, read.2)
  | c :: rest => (splitQuoted rest).map fun read => (c :: read.1, read.2)

/-- The characters that fit into a number of bytes. -/
def takeBytes (bytes : Nat) : List Char → List Char
  | [] => []
  | c :: rest =>
    if c.utf8Size ≤ bytes then c :: takeBytes (bytes - c.utf8Size) rest else []

/-- What stands before the first escape keeps as many bytes as it has characters. Without an escape
nothing is cut. -/
def cut (inner : List Char) : List Char :=
  match inner.dropWhile (· != '\\') with
  | [] => inner
  | escaped =>
    let before := inner.takeWhile (· != '\\')
    takeBytes before.length before ++ escaped

def quoted? (chars : List Char) : Option (String × List Char) := do
  let (inner, rest) ← splitQuoted chars
  let content ← unescaped? (inner.length + 1) (cut inner)
  return (String.ofList content, rest)

def key? : Reader String
  | '"' :: rest => quoted? rest
  | chars =>
    let key := chars.takeWhile isKeyChar
    if key.isEmpty then none else some (String.ofList key, chars.dropWhile isKeyChar)

/-- A point is the mark of a number with a fraction. -/
def plain (content : String) : Scalar :=
  let chars := content.toList
  let number := if chars.contains '.' then Decimal.float? chars else none
  let natural := (Decimal.natural? chars).filter fun value => value < Limit.word64
  let integer := (Decimal.integer? chars).filter fun value =>
    -(Limit.signed64 : Int) ≤ value && value < Limit.signed64
  match number, natural, integer with
  | some value, _, _ => .float value
  | none, some value, _ => .unsigned value
  | none, none, some value => .signed value
  | none, none, none => .text content

def word? (word : String) (chars : List Char) : Option (List Char) :=
  if word.toList.isPrefixOf chars then some (chars.drop word.length) else none

mutual

/-- Every reader takes one unit of fuel and consumes a character or ends. -/
def value? (origin : Option Origin) (fuel : Nat) (chars : List Char) :
    Option (Document × List Char) :=
  match fuel with
  | 0 => none
  | fuel + 1 =>
    let chars := skipSpace chars
    let read : Option (Document × List Char) :=
      match word? "true" chars, word? "false" chars with
      | some rest, _ => some (.leaf origin (.flag true), rest)
      | none, some rest => some (.leaf origin (.flag false), rest)
      | none, none =>
        match chars with
        | '\x7b' :: rest =>
          (members? origin fuel rest).map fun read =>
            (.table origin (Table.ofEntries read.1), read.2)
        | '[' :: rest => (items? origin fuel rest).map fun read => (.list origin read.1, read.2)
        | '"' :: rest => (quoted? rest).map fun read => (.text origin read.1, read.2)
        | '\'' :: c :: '\'' :: rest => some (.leaf origin (.letter c), rest)
        | '\'' :: _ => none
        | chars =>
          let content := Text.trim (String.ofList (chars.takeWhile isPlain))
          some (.leaf origin (plain content), chars.dropWhile isPlain)
    read.map fun read => (read.1, skipSpace read.2)

/-- A comma may stand behind the last item. -/
def items? (origin : Option Origin) (fuel : Nat) (chars : List Char) :
    Option (List Document × List Char) :=
  match fuel with
  | 0 => none
  | fuel + 1 =>
    match chars with
    | ']' :: rest => some ([], rest)
    | chars =>
      (value? origin fuel chars).bind fun (item, rest) =>
        match rest with
        | ',' :: rest => (items? origin fuel rest).map fun read => (item :: read.1, read.2)
        | ']' :: rest => some ([item], rest)
        | _ => none

def members? (origin : Option Origin) (fuel : Nat) (chars : List Char) :
    Option (List (String × Document) × List Char) :=
  match fuel with
  | 0 => none
  | fuel + 1 =>
    match chars with
    | '\x7d' :: rest => some ([], rest)
    | chars =>
      (key? (skipSpace chars)).bind fun (key, rest) =>
        match skipSpace rest with
        | '=' :: rest =>
          (value? origin fuel rest).bind fun (value, rest) =>
            match rest with
            | ',' :: rest =>
              (members? origin fuel rest).map fun read => ((key, value) :: read.1, read.2)
            | '\x7d' :: rest => some ([(key, value)], rest)
            | _ => none
        | _ => none

end

/-- What is no value as a whole is the text itself. -/
def read (origin : Option Origin) (content : String) : Document :=
  let chars := content.toList
  match value? origin (2 * chars.length + 2) chars with
  | some (value, []) => value
  | _ => .text origin content

end Environment.Content

namespace Environment

def origin : Option Origin := some .environment

/-- Later variables lie over earlier ones. -/
def document (environment : Environment) : Document :=
  environment.foldl (fun document entry =>
    match (ownName? entry.1).bind path? with
    | some path => (Document.nest origin path (Content.read origin entry.2)).laidOver document
    | none => document) (.table origin [])

end Environment

end PluginHost
