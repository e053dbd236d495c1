import PluginHost.Sections

/-
This file holds the graph of providers: who stands in it, whom a field depends on, and why a
provider can be excluded.
-/

namespace PluginHost

/-- The types that providers have reported, by provider name. -/
abbrev TypeTable := Table TypeInfo

inductive Exclusion where
  | missingProvider (field provider : String)
  | disabledProvider (field provider : String)
  | typeMismatch (field provider : String) (expected found : TypeInfo)
  | selfReference (field : String)
  | invalidDependency (field provider : String)
  | cycle
  | duplicateName
deriving DecidableEq, Repr

namespace Exclusion

def message : Exclusion → String
  | .missingProvider field provider => s!"no provider found for '{provider}' (field '{field}')"
  | .disabledProvider field provider => s!"provider '{provider}' is disabled (field '{field}')"
  | .typeMismatch field provider expected found =>
    s!"provider '{provider}' produces '{found.name}', not assignable to field '{field}' of type " ++
      s!"'{expected.name}'"
  | .selfReference field => s!"depends on itself (field '{field}')"
  | .invalidDependency field provider =>
    s!"depends on invalid provider '{provider}' (field '{field}')"
  | .cycle => "dependency cycle detected"
  | .duplicateName => "another enabled provider has the same name"

def kind : Exclusion → String
  | .missingProvider .. => "MissingProvider"
  | .disabledProvider .. => "DisabledProvider"
  | .typeMismatch .. => "TypeMismatch"
  | .selfReference _ => "SelfReference"
  | .invalidDependency .. => "InvalidDependency"
  | .cycle => "Cycle"
  | .duplicateName => "DuplicateName"

end Exclusion

/-- A provider with its position in the input. -/
structure Node where
  position : Nat
  descriptor : Descriptor

/-- The whole input of a validation. -/
structure Graph where
  nodes : List Node
  sections : Sections
  types : TypeTable

namespace Graph

def ofProviders (providers : List Descriptor) (sections : Sections) (types : TypeTable) :
    Graph where
  nodes := providers.zipIdx.map fun entry => ⟨entry.2, entry.1⟩
  sections := sections
  types := types

def isEnabled (graph : Graph) (node : Node) : Bool := graph.sections.enables node.descriptor

/-- A provider that has reported no type was not instantiated. -/
def isInstantiated (graph : Graph) (node : Node) : Bool :=
  graph.types.contains node.descriptor.name

/-- Only enabled and instantiated providers take part. -/
def isCandidate (graph : Graph) (node : Node) : Bool :=
  graph.isEnabled node && graph.isInstantiated node

/-- The first enabled holder of a name shadows all others; without one the first holder counts. -/
def holder? (graph : Graph) (name : String) : Option Node :=
  (graph.nodes.find? fun node => node.descriptor.name == name && graph.isEnabled node).or
    (graph.nodes.find? fun node => node.descriptor.name == name)

/-- No holder of a name that several enabled providers share can be valid. -/
def sharesName (graph : Graph) (node : Node) : Bool :=
  1 < (graph.nodes.filter fun other =>
    other.descriptor.name == node.descriptor.name && graph.isEnabled other).length

/-- Membership is by position. -/
def isAmong (nodes : List Node) (node : Node) : Bool :=
  nodes.any fun other => other.position == node.position

def without (nodes : List Node) (node : Node) : List Node :=
  nodes.filter fun other => other.position != node.position

/-- The live nodes that the fields of a node resolve to, once for each such field. -/
def dependenciesBy (resolve : String → Option Node) (live : List Node) (node : Node) : List Node :=
  node.descriptor.fields.filterMap fun field => (resolve field.provider).filter (isAmong live)

def dependencies (graph : Graph) (live : List Node) (node : Node) : List Node :=
  dependenciesBy graph.holder? live node

end Graph

end PluginHost
