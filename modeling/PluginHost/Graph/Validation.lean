import PluginHost.Graph.Order

/-
This file finds the providers that can be relied on. Providers with a wrong dependency and
providers on or behind a cycle are excluded in turns until nothing changes.
-/

namespace PluginHost

structure Finding where
  provider : String
  className : String
  cause : Exclusion
deriving DecidableEq, Repr

/-- The findings stand in the order in which they were decided, and the load order has
dependencies first. -/
structure Validation where
  valid : List Descriptor := []
  findings : List Finding := []
  loadOrder : List Descriptor := []

namespace Validation

def isValid (validation : Validation) (provider : String) : Bool :=
  validation.valid.any fun descriptor => descriptor.name == provider

def finding? (validation : Validation) (provider : String) : Option Finding :=
  validation.findings.find? fun finding => finding.provider == provider

/-- Descriptors are told apart by their class. -/
def holdsClass (validation : Validation) (className : String) : Bool :=
  validation.valid.any fun descriptor => descriptor.className == className

end Validation

namespace Graph

/-- The first reason for which the field cannot be served by a live node. -/
def wrongField? (graph : Graph) (live : List Node) (node : Node) (field : FieldInjection) :
    Option Exclusion :=
  match graph.holder? field.provider with
  | none => some (.missingProvider field.field field.provider)
  | some holder =>
    if holder.position == node.position then some (.selfReference field.field)
    else if !graph.isEnabled holder then some (.disabledProvider field.field field.provider)
    else if !graph.isInstantiated holder then
      some (.missingProvider field.field field.provider)
    else if !isAmong live holder then some (.invalidDependency field.field field.provider)
    else
      (graph.types.find? field.provider).bind fun found =>
        if found.isAssignableTo field.declaredType then none
        else some (.typeMismatch field.field field.provider field.declaredType found)

def wrongDependency? (graph : Graph) (live : List Node) (node : Node) : Option Exclusion :=
  node.descriptor.fields.findSome? (graph.wrongField? live node)

/-- Visits the given nodes in order. A node excluded on the way no longer counts as live for the
nodes behind it. -/
def sweep (graph : Graph) : List Node → List Node → List Node × List (Node × Exclusion)
  | [], live => (live, [])
  | node :: rest, live =>
    match graph.wrongDependency? live node with
    | none => graph.sweep rest live
    | some cause =>
      let (remaining, found) := graph.sweep rest (without live node)
      (remaining, (node, cause) :: found)

structure Reduction where
  live : List Node
  found : List (Node × Exclusion)
  order : List Node

/-- One turn drops wrong dependencies first and cycles after them. -/
def turn (graph : Graph) (live : List Node) : Reduction :=
  let (swept, wrong) := graph.sweep live live
  let (order, stuck) := graph.dependencyOrder swept
  { live := swept.filter fun node => !isAmong stuck node
    found := wrong ++ stuck.map fun node => (node, .cycle)
    order := order }

/-- Turns are taken until one of them drops nothing. -/
def reduce (graph : Graph) (live : List Node) : Reduction :=
  let taken := graph.turn live
  if taken.live.length < live.length then
    let rest := graph.reduce taken.live
    { rest with found := taken.found ++ rest.found }
  else taken
termination_by live.length

def candidates (graph : Graph) : List Node := graph.nodes.filter graph.isCandidate

/-- All the exclusions, in the order in which they are decided. -/
def reduction (graph : Graph) : Reduction :=
  let shared := graph.candidates.filter graph.sharesName
  let reduced := graph.reduce (graph.candidates.filter fun node => !graph.sharesName node)
  { reduced with found := shared.map (fun node => (node, .duplicateName)) ++ reduced.found }

def finding (entry : Node × Exclusion) : Finding where
  provider := entry.1.descriptor.name
  className := entry.1.descriptor.className
  cause := entry.2

def validate (graph : Graph) : Validation :=
  let reduction := graph.reduction
  { valid := reduction.live.map Node.descriptor
    findings := reduction.found.map finding
    loadOrder := reduction.order.map Node.descriptor }

/-- A provider that takes no part is mentioned, and each exclusion is reported as an error. -/
def validationLog (graph : Graph) (validation : Validation) : List Log.Event :=
  let target := "tessera_engine::graph"
  let absent := graph.nodes.filterMap fun node =>
    let fields := [("provider", Log.Field.quoted node.descriptor.name)]
    if !graph.isEnabled node then
      some { level := .debug, target := target, fields := fields
             message := "Provider disabled, skipping validation" : Log.Event }
    else if !graph.isInstantiated node then
      some { level := .debug, target := target, fields := fields
             message := "Provider was not instantiated, skipping validation" : Log.Event }
    else none
  let excluded := validation.findings.map fun finding =>
    { level := .error, target := target
      message := "Provider excluded from the valid set"
      fields := [("provider", .quoted finding.provider), ("class", .shown finding.className),
        ("cause", .shown finding.cause.message)] : Log.Event }
  absent ++ excluded

end Graph

end PluginHost
