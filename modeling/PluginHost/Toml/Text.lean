import PluginHost.Toml.Scan

/-
This file reads the texts and keys of TOML. A basic text has escapes, a literal one has none, and
either may run over several lines.
-/

namespace PluginHost.Toml

/-- Surrogates are no characters. -/
def character? (code : Nat) : Option Char :=
  if code.isValidChar then some (Char.ofNat code) else none

def shortEscape? : Char → Option Char
  | 'b' => some '\x08'
  | 't' => some '\t'
  | 'n' => some '\n'
  | 'f' => some '\x0c'
  | 'r' => some '\r'
  | '"' => some '"'
  | '\\' => some '\\'
  | _ => none

/-- Reads an escape behind its backslash. -/
def escape? : Reader Char
  | 'u' :: rest =>
    if rest.length < 4 then none
    else do
      let c ← character? (← Json.hexValue? (rest.take 4))
      return (c, rest.drop 4)
  | 'U' :: rest =>
    if rest.length < 8 then none
    else do
      let c ← character? (← Json.hexValue? (rest.take 8))
      return (c, rest.drop 8)
  | c :: rest => (shortEscape? c).map fun escaped => (escaped, rest)
  | [] => none

/-- How a text is written. -/
structure TextForm where
  quote : Char
  escapes : Bool
  lines : Bool

namespace TextForm

def basic : TextForm := ⟨'"', true, false⟩

def literal : TextForm := ⟨'\'', false, false⟩

/-- In a text of several lines the closing quotes may follow two quotes of the text. -/
def closing? (form : TextForm) (chars : List Char) : Option (List Char × List Char) :=
  let quotes := (chars.takeWhile (· == form.quote)).length
  if form.lines then
    if quotes < 3 then none
    else
      let inner := min (quotes - 3) 2
      some (List.replicate inner form.quote, chars.drop (inner + 3))
  else if quotes = 0 then none
  else some ([], chars.drop 1)

/-- A backslash before a line end removes the white space up to the next character. -/
def continuation? (chars : List Char) : Option (List Char) :=
  (newline? (skipSpace chars)).map skipLines

/-- Each step consumes at least one character. -/
def tail (form : TextForm) : Nat → Reader (List Char)
  | 0, _ => none
  | fuel + 1, chars =>
    match form.closing? chars with
    | some closed => some closed
    | none =>
      match newline? chars with
      | some rest =>
        if form.lines then
          (form.tail fuel rest).map fun read => ('\n' :: read.1, read.2)
        else none
      | none =>
        match chars with
        | [] => none
        | c :: rest =>
          if c = '\\' && form.escapes then
            match if form.lines then continuation? rest else none with
            | some rest => form.tail fuel rest
            | none =>
              (escape? rest).bind fun (escaped, rest) =>
                (form.tail fuel rest).map fun read => (escaped :: read.1, read.2)
          else if isPrintable c then
            (form.tail fuel rest).map fun read => (c :: read.1, read.2)
          else none

def read (form : TextForm) (chars : List Char) : Option (String × List Char) :=
  (form.tail (chars.length + 1) chars).map fun read => (String.ofList read.1, read.2)

end TextForm

/-- The line end right behind the opening quotes is no part of the text. -/
def readLines (form : TextForm) (chars : List Char) : Option (String × List Char) :=
  TextForm.read { form with lines := true } ((newline? chars).getD chars)

def text? : Reader String
  | '"' :: '"' :: '"' :: rest => readLines .basic rest
  | '\'' :: '\'' :: '\'' :: rest => readLines .literal rest
  | '"' :: rest => TextForm.basic.read rest
  | '\'' :: rest => TextForm.literal.read rest
  | _ => none

def isBare (c : Char) : Bool := c.isAlphanum || c == '_' || c == '-'

/-- A key is bare or quoted on one line. -/
def simpleKey? : Reader String
  | '"' :: rest => TextForm.basic.read rest
  | '\'' :: rest => TextForm.literal.read rest
  | chars =>
    let bare := chars.takeWhile isBare
    if bare.isEmpty then none else some (String.ofList bare, chars.dropWhile isBare)

/-- Values and keys may be nested this deep. -/
def depthLimit : Nat := 80

def keyTail : Nat → Reader (List String)
  | 0, _ => none
  | fuel + 1, chars =>
    (simpleKey? (skipSpace chars)).bind fun (part, rest) =>
      match skipSpace rest with
      | '.' :: rest => (keyTail fuel rest).map fun read => (part :: read.1, read.2)
      | rest => some ([part], rest)

/-- The parts of a key are joined by dots, and blanks may stand around each part. -/
def key? : Reader (List String) := keyTail (depthLimit - 1)

end PluginHost.Toml
