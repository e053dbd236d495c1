import PluginHost.Plugin

/-
This file holds what plugin code leaves behind: the memories of the instances, the journal of the
calls made into them, and the log.
-/

namespace PluginHost

/-- The calls that the host makes into plugin code. -/
inductive Call where
  | construct (plugin : String)
  | producedType (provider : String)
  | produce (provider consumer : String)
  | inject (plugin field : String)
  | invoke (plugin method : String)
  | contract (plugin : String)
  | init (plugin : String)
  | note (plugin label : String) (detail : Json)

/-- Each call is written down, and marked if it is to be shown. -/
structure JournalEntry where
  call : Call
  shown : Bool

structure Resident where
  name : String
  plugin : Plugin
  memory : Memory

/-- The residents stand in the order in which they were built. -/
structure World where
  residents : List Resident := []
  journal : List JournalEntry := []
  log : List Log.Entry := []

namespace World

def memory (world : World) (id : Nat) : Memory :=
  (world.residents[id]?.map Resident.memory).getD {}

def setMemory (world : World) (id : Nat) (memory : Memory) : World :=
  { world with residents := world.residents.modify id fun resident =>
      { resident with memory := memory } }

/-- A new resident is given the next number and empty slots. -/
def enroll {ι : Type} (world : World) (name : String) (plugin : Plugin) (face : ι) :
    Live ι × World :=
  (⟨world.residents.length, face⟩,
    { world with residents := world.residents ++ [⟨name, plugin, Memory.fresh plugin.slots⟩] })

def called (world : World) (call : Call) (shown : Bool) : World :=
  { world with journal := world.journal ++ [⟨call, shown⟩] }

def calledOn (world : World) (plugin : Plugin) (call : Call) : World :=
  world.called call (plugin.visibility == .full)

def reportAll (world : World) (events : List Log.Event) : World :=
  { world with log := world.log ++ events.map .event }

def report (world : World) (event : Log.Event) : World := world.reportAll [event]

def mark (world : World) (entry : Log.Entry) : World :=
  { world with log := world.log ++ [entry] }

/-- A reply settles the memory of the plugin that gave it. -/
def settle {α : Type} (world : World) (id : Nat) (reply : Reply α) : World :=
  (world.setMemory id reply.memory).reportAll reply.events

end World

end PluginHost
