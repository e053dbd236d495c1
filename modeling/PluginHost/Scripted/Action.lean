import PluginHost.Registry.Program
import PluginHost.Scripted.Plugin

/-
This file reads actions on the registry, and the initializers and whole candidates that are
scripted with them.
-/

namespace PluginHost.Scripted

/-- A request to the registry, the warnings that its making brings up, and the form in which its
answer is told. -/
structure Action where
  label : String
  warnings : List Log.Event
  request : Request
  tell : Answer → Json

namespace Action

def tellNames : Answer → Json
  | .records records => Record.namesJson records
  | _ => .null

def tellRecords : Answer → Json
  | .records records => .list (records.map Record.json)
  | _ => .null

def tellPlainly : Answer → Json
  | .count number => .integer number
  | .flag value => .flag value
  | _ => .text "ok"

/-- All the criteria that are given have to be met. -/
def selection (script : Json) : Selection := fun record =>
  .ok (((script.given? "name").all fun name => record.name == name.asText) &&
    ((script.given? "priority_ge").all fun least =>
      least.asInteger ≤ record.priority.toInt) &&
    ((script.given? "secure").all fun secure => secure.flag? == some record.registration.secure) &&
    ((script.given? "enabled").all fun enabled => enabled.flag? == some record.enabled))

def read? (vocabulary : Vocabulary) (script : Json) : Option Action :=
  let service := (script.given? "service").map Json.asText
  let point := interceptPoint (script.textOr "point" "request_after_auth")
  let added := script.member "plugin"
  let entries := (script.member "config").pairs
  let make := Action.mk (script.textAt "do")
  match script.textAt "do" with
  | "services" => some (make [] .services tellNames)
  | "interceptors" => some (make [] .interceptors tellNames)
  | "service_records" => some (make [] .services tellRecords)
  | "interceptor_records" => some (make [] .interceptors tellRecords)
  | "interceptors_for" => some (make [] (.interceptorsFor service point) tellNames)
  | "same_view" => some (make [] (.sharesView service point) tellPlainly)
  | "add_service" =>
    some (make (Sections.warnings entries)
      (.addService (vocabulary.descriptor added) (.ofArguments entries)
        (vocabulary.exchanger added)) tellPlainly)
  | "add_interceptor" =>
    some (make (Sections.warnings entries)
      (.addInterceptor (vocabulary.descriptor added) (.ofArguments entries)
        (vocabulary.exchanger added)) tellPlainly)
  | "remove_service_if" =>
    some (make [] (.removeServices (selection (script.member "where"))) tellPlainly)
  | "remove_interceptor_if" =>
    some (make [] (.removeInterceptors (selection (script.member "where"))) tellPlainly)
  | _ => none

end Action

namespace Vocabulary

/-- Steps that are no actions are outcomes, and the first that is no success ends the program. -/
def program (vocabulary : Vocabulary) : List Json → Program
  | [] => .finish (.done ())
  | step :: rest =>
    match Action.read? vocabulary step with
    | some action =>
      action.warnings.foldr Program.report
        (.ask action.request fun answer =>
          .note action.label (action.tell answer) (program vocabulary rest))
    | none =>
      match vocabulary.outcome step with
      | .done () => program vocabulary rest
      | outcome => .finish outcome

def initializer (vocabulary : Vocabulary) (script : Json) : Initializer where
  toPlugin := vocabulary.plugin script
  init _ :=
    if isPlain script then .finish (.done ())
    else vocabulary.program (script.itemsIn "init")

def make (vocabulary : Vocabulary) (script : Json) : Category → Instance
  | .provider => .provider (vocabulary.provider script)
  | .initializer => .initializer (vocabulary.initializer script)
  | .authMechanism => .authMechanism (vocabulary.plugin script)
  | .authorizer => .authorizer (vocabulary.plugin script)
  | .tokenManager => .tokenManager (vocabulary.plugin script)
  | .authenticator => .authenticator (vocabulary.plugin script)
  | .interceptor => .interceptor (vocabulary.exchanger script)
  | .service => .service (vocabulary.exchanger script)

/-- The instance of the category that the script names. -/
def ownInstance (vocabulary : Vocabulary) (script : Json) : Instance :=
  vocabulary.make script (vocabulary.descriptor script).category

/-- A constructor may be missing, may fail, and may make an instance of another category. -/
def constructor (vocabulary : Vocabulary) (script : Json) : Option (Outcome Instance) :=
  let own := vocabulary.ownInstance script
  match script.given? "constructor" with
  | none => some (.done own)
  | some (.text "none") => none
  | some ending =>
    match ending.given? "instance" with
    | some other => some (.done (vocabulary.make script (category other.asText)))
    | none =>
      match vocabulary.outcome ending with
      | .done () => some (.done own)
      | .failed error => some (.failed error)
      | .panicked panic => some (.panicked panic)

def candidate (vocabulary : Vocabulary) (script : Json) : Candidate where
  descriptor := vocabulary.descriptor script
  constructor := vocabulary.constructor script

end Vocabulary

/-- The category under which a raw discovery lists the plugin. -/
def listing (script : Json) : Category :=
  category (script.textOr "listed" (script.textOr "category" "service"))

end PluginHost.Scripted
