import PluginHost.Report

/-
This file reads what scripts are made of: the types they name, the values of them, and the ways in
which a scripted call can end.
-/

namespace PluginHost.Scripted

/-- The types that have a name in scripts, and how a value of one is made from a text. A value that
is a configuration section is made from a section instead. -/
structure Vocabulary where
  type : String → TypeInfo
  value : String → String → Section → Value

namespace Vocabulary

def provided (vocabulary : Vocabulary) (name text : String) (entries : Section) : Provided :=
  ⟨vocabulary.type name, vocabulary.value name text entries⟩

/-- One name stands for any type. -/
def exchangeType (vocabulary : Vocabulary) (name : String) : ExchangeType :=
  if name = "Any" then .any else .only (vocabulary.type name)

def contract (vocabulary : Vocabulary) (script : Json) : Contract :=
  match script with
  | .text "ANY" => .any
  | .text _ => .byteStream
  | script =>
    ⟨vocabulary.exchangeType (script.textAt "req"), vocabulary.exchangeType (script.textAt "res")⟩

def injectionError (vocabulary : Vocabulary) (script : Json) : InjectionError :=
  let field := script.textAt "field"
  match script.textAt "injection" with
  | "unknown" => .unknownField field
  | "already" => .alreadyInjected field
  | _ =>
    .typeMismatch field (vocabulary.type (script.textAt "expected"))
      (vocabulary.type (script.textAt "found"))

/-- The failure that the members describe, given the failures that the members themselves are. -/
def errorOf (vocabulary : Vocabulary) (script : Json) (inner : List (String × PluginError)) :
    PluginError :=
  let has (name : String) : Bool := (script.given? name).isSome
  let text := script.textAt
  let cause := if has "cause" then List.lookup "cause" inner else none
  if has "custom" then .custom (text "custom")
  else if has "missing" then .missingArtifact (text "missing")
  else if has "config" then
    match cause with
    | some cause => .causedConfiguration (text "config") (text "message") cause
    | none => .configuration (text "config") (text "message")
  else if has "no_provider" then .noProvider (text "no_provider") (text "field") (text "provider")
  else if has "injection" then .injection (vocabulary.injectionError script)
  else if has "panicked" then .panicked (text "panicked") (text "message")
  else if has "foreign" then
    match cause with
    | some cause => .causedForeign (text "foreign") cause
    | none => .foreign (text "foreign")
  else
    match List.lookup "other" inner with
    | some inner => .other inner
    | none => .custom ""

mutual

def error (vocabulary : Vocabulary) : Json → PluginError
  | .object members =>
    errorOf vocabulary (.object members) (memberErrors vocabulary members)
  | _ => .custom ""

def memberErrors (vocabulary : Vocabulary) :
    List (String × Json) → List (String × PluginError)
  | [] => []
  | (name, script) :: rest => (name, error vocabulary script) :: memberErrors vocabulary rest

end

/-- A panic without a text is scripted by a number. -/
def panic? (script : Json) : Option Panic :=
  match script.given? "panic", script.given? "panic_string", script.given? "panic_other" with
  | some message, _, _ => some (.text message.asText)
  | _, some message, _ => some (.text message.asText)
  | _, _, some _ => some .untold
  | _, _, _ => none

/-- What describes neither a panic nor a failure is a success. -/
def outcome (vocabulary : Vocabulary) (script : Json) : Outcome Unit :=
  match panic? script, script.given? "err" with
  | some panic, _ => .panicked panic
  | none, some failure => .failed (vocabulary.error failure)
  | none, none => .done ()

end Vocabulary

def category (name : String) : Category :=
  let label := name.map fun c => if c = '_' then ' ' else c
  (Category.bootOrder.find? fun category => category.label == label).getD .service

def interceptPoint (name : String) : InterceptPoint :=
  (InterceptPoint.all.find? fun point => point.name == name).getD .requestAfterAuth

def initPoint (name : String) : InitPoint :=
  (InitPoint.all.find? fun point => point.name == name).getD .afterStartup

end PluginHost.Scripted
