import PluginHost.Scripted.Vocabulary

/-
This file reads plugins from scripts: what describes them, and how their instances answer.
-/

namespace PluginHost.Scripted

/-- A plain instance answers as if nothing but its category were known. -/
def isPlain (script : Json) : Bool := script.flagOr "plain" false

def registration (script : Json) : Registration where
  name := script.textAt "name"
  description := script.textAt "description"
  priority := Int32.ofInt (script.integerOr "priority" 10)
  enabledByDefault := script.flagOr "enabled" true
  secure := script.flagOr "secure" false
  interceptPoint := interceptPoint (script.textOr "intercept_point" "request_after_auth")
  initPoint := initPoint (script.textOr "init_point" "after_startup")
  dontIntercept := (script.textsIn "dont_intercept").map interceptPoint
  defaultUri := (script.given? "default_uri").bind Json.text?

/-- The text with each occurrence of a part replaced. -/
def replaced (text part replacement : String) : String :=
  String.intercalate replacement (text.splitOn part)

/-- The names of both sides are put into the template. -/
def producedText (script : Json) (consumer : String) : String :=
  replaced
    (replaced (script.textOr "value" "\x7bself\x7d->\x7bconsumer\x7d") "\x7bself\x7d"
      (script.textAt "name"))
    "\x7bconsumer\x7d" consumer

namespace Vocabulary

variable (vocabulary : Vocabulary)

/-- A field takes its own name for the provider, and a hook is told apart by class and method,
unless they say otherwise. -/
def injectionPoint (className : String) (script : Json) : InjectionPoint :=
  match script.given? "hook" with
  | some hook =>
    .method ⟨hook.asText,
      identityOf (script.textOr "identity" (className ++ "::" ++ hook.asText))⟩
  | none =>
    .field ⟨script.textAt "field", vocabulary.type (script.textOr "type" "Foo"),
      script.textOr "provider" (script.textAt "field")⟩

def className (script : Json) : String :=
  script.textOr "class" ("test::" ++ script.textAt "name")

def descriptor (script : Json) : Descriptor where
  category := category (script.textOr "category" "service")
  className := className script
  registration := registration script
  apiVersion := UInt32.ofInt (script.integerOr "api_version" 65536)
  injections := (script.itemsIn "injections").map (vocabulary.injectionPoint (className script))

/-- Without a list of methods every method exists and succeeds. -/
def hook? (script : Json) (method : String) : Option (Memory → Reply Unit) :=
  match script.given? "methods" with
  | none => some fun memory => ⟨.done (), memory, []⟩
  | some methods =>
    (methods.asSection.find? method).map fun ending => fun memory =>
      ⟨vocabulary.outcome ending, memory, []⟩

def slots (script : Json) : List (String × TypeInfo) :=
  match script.given? "slots" with
  | some declared =>
    declared.asSection.map fun slot => (slot.1, vocabulary.type slot.2.asText)
  | none =>
    (vocabulary.descriptor script).fields.map fun field => (field.field, field.declaredType)

def plugin (script : Json) : Plugin :=
  if isPlain script then { visibility := .birth }
  else
    { slots := vocabulary.slots script
      hook? := vocabulary.hook? script
      visibility := .full }

/-- The first value that is shared is handed out for ever. -/
def produce (script : Json) (consumer : Record Plugin) (memory : Memory) : Reply Provided :=
  match vocabulary.outcome (script.member "produce"), memory.shared with
  | .failed error, _ => ⟨.failed error, memory, []⟩
  | .panicked panic, _ => ⟨.panicked panic, memory, []⟩
  | .done (), some value => ⟨.done value, memory, []⟩
  | .done (), none =>
    let value := vocabulary.provided (script.textOr "produces" "Foo")
      (producedText script consumer.name) (consumer.config.getD [])
    ⟨.done value,
      if script.flagOr "shared" false then { memory with shared := some value } else memory, []⟩

def producedType (script : Json) : Except Panic TypeInfo :=
  let produced := vocabulary.type (script.textOr "produces" "Foo")
  match script.given? "produced_type" with
  | some (.text other) => .ok (vocabulary.type other)
  | some ending => (panic? ending).elim (.ok produced) .error
  | none => .ok produced

def plainValue : Provided := vocabulary.provided "Foo" "plain" []

def provider (script : Json) : Provider :=
  if isPlain script then
    { toPlugin := vocabulary.plugin script
      producedType := .ok vocabulary.plainValue.type
      produce := fun _ memory => ⟨.done vocabulary.plainValue, memory, []⟩ }
  else
    { toPlugin := vocabulary.plugin script
      producedType := vocabulary.producedType script
      produce := vocabulary.produce script }

/-- A plain instance keeps the default contract. -/
def exchanger (script : Json) : Exchanger where
  toPlugin := vocabulary.plugin script
  contract :=
    match script.given? "contract" with
    | none => .ok .byteStream
    | some contract =>
      if isPlain script then .ok .byteStream
      else (panic? contract).elim (.ok (vocabulary.contract contract)) .error

end Vocabulary

end PluginHost.Scripted
