import PluginHost.Exchange

/-
This file holds the ways in which a plugin or its injection can fail. A failure may rest on another
one, and the chain of causes ends at its root.
-/

namespace PluginHost

inductive InjectionError where
  | unknownField (field : String)
  | typeMismatch (field : String) (expected found : TypeInfo)
  | alreadyInjected (field : String)
deriving DecidableEq, Repr

namespace InjectionError

def message : InjectionError → String
  | .unknownField field => s!"no injectable field named '{field}'"
  | .typeMismatch field expected found =>
    s!"field '{field}' expects '{expected.name}' but the provider produced '{found.name}'"
  | .alreadyInjected field => s!"field '{field}' has already been injected"

def kind : InjectionError → String
  | .unknownField _ => "UnknownField"
  | .typeMismatch .. => "TypeMismatch"
  | .alreadyInjected _ => "AlreadyInjected"

def debug : InjectionError → String
  | .unknownField field =>
    Text.labelled "UnknownField" [("field", Text.quoted field)]
  | .typeMismatch field expected found =>
    Text.labelled "TypeMismatch" [("field", Text.quoted field),
      ("expected", Text.quoted expected.name), ("found", Text.quoted found.name)]
  | .alreadyInjected field =>
    Text.labelled "AlreadyInjected" [("field", Text.quoted field)]

end InjectionError

/-- An `injection` failure shows its cause as its own text and rests on nothing further; `other`
also shows the text of its cause, and rests on it. A `foreign` failure comes from outside the host
and stands only below another one. -/
inductive PluginError where
  | configuration (plugin message : String)
  | causedConfiguration (plugin message : String) (cause : PluginError)
  | noProvider (plugin field provider : String)
  | missingArtifact (artifact : String)
  | injection (error : InjectionError)
  | panicked (plugin message : String)
  | custom (text : String)
  | other (cause : PluginError)
  | foreign (text : String)
  | causedForeign (text : String) (cause : PluginError)
deriving DecidableEq, Repr

namespace PluginError

def message : PluginError → String
  | .configuration plugin message => s!"plugin '{plugin}': {message}"
  | .causedConfiguration plugin message _ => s!"plugin '{plugin}': {message}"
  | .noProvider plugin field provider =>
    s!"plugin '{plugin}': no provider found for field '{field}' (provider '{provider}')"
  | .missingArtifact artifact => s!"missing external artifact '{artifact}'"
  | .injection error => error.message
  | .panicked plugin message => s!"plugin '{plugin}' panicked: {message}"
  | .custom text => text
  | .other cause => cause.message
  | .foreign text => text
  | .causedForeign text _ => text

def cause? : PluginError → Option PluginError
  | .causedConfiguration _ _ cause => some cause
  | .other cause => some cause
  | .causedForeign _ cause => some cause
  | _ => none

/-- The failure itself and the causes below it. -/
def chain : PluginError → List PluginError
  | .causedConfiguration plugin message cause =>
    .causedConfiguration plugin message cause :: cause.chain
  | .other cause => .other cause :: cause.chain
  | .causedForeign text cause => .causedForeign text cause :: cause.chain
  | error => [error]

/-- The root is the last failure of the chain. -/
def root : PluginError → PluginError
  | .causedConfiguration _ _ cause => cause.root
  | .other cause => cause.root
  | .causedForeign _ cause => cause.root
  | error => error

def isArtifact : PluginError → Bool
  | .missingArtifact _ => true
  | _ => false

/-- A missing artifact anywhere in the chain calls for the same remedy. -/
def isMissingArtifact (error : PluginError) : Bool := error.chain.any isArtifact

def kind : PluginError → String
  | .configuration .. => "Configuration"
  | .causedConfiguration .. => "Configuration"
  | .noProvider .. => "NoProvider"
  | .missingArtifact _ => "MissingArtifact"
  | .injection _ => "Injection"
  | .panicked .. => "Panicked"
  | .custom _ => "Custom"
  | .other _ => "Other"
  | .foreign _ => "Other"
  | .causedForeign .. => "Other"

end PluginError

/-- What the host advises when an artifact is missing. -/
def missingArtifactHint : String :=
  "an external dependency is missing. Make the missing library available to the host and restart"

/-- The hint takes the place of the failure's own text. -/
def PluginError.advice (error : PluginError) : String :=
  if error.isMissingArtifact then missingArtifactHint else error.message

end PluginHost
