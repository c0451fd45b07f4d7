import Gateway.Session.BridgeStep
import Gateway.Session.PluginStep

/-!
# Steps on a server

A server has its core from the start. A bridge takes the core over when it is installed; until then
the core can be worked with alone.
-/

namespace Gateway

/-- A server with the plugin in it. -/
structure Server where
  /-- The core while no bridge has it. -/
  idle : Core := {}
  plugin : Plugin := {}

namespace Server

def core (s : Server) : Core :=
  match s.plugin.bridge with
  | none => s.idle
  | some b => b.core

def withCore (s : Server) (c : Core) : Server :=
  match s.plugin.bridge with
  | none => { s with idle := c }
  | some b => { s with plugin := { s.plugin with bridge := some (b.withCore c) } }

/-- How many environments wait, where there is a bridge. -/
def pending? (s : Server) : Option Nat :=
  s.plugin.bridge.map fun b => b.pending.size

/-- The journal of the bridge; without one there is nothing in it. -/
def journal (s : Server) : List Note :=
  match s.plugin.bridge with
  | none => []
  | some b => b.host.journal

end Server

/-- A step on a server. -/
inductive ServerStep where
  | core (s : CoreStep)
  | bridge (s : BridgeStep)
  | install (app : Application) (settings : Settings)
  | plugin (s : PluginStep)

namespace ServerStep

/-- Performs a step on the plugin. -/
def onPlugin (s : PluginStep) (t : Server) : Answer × Server :=
  match s.run t.plugin with
  | (a, p) => (a, { t with plugin := p })

def run (s : ServerStep) (t : Server) : Answer × Server :=
  match s with
  | .core s =>
    match s.run t.core with
    | (a, c) => (a, t.withCore c)
  | .bridge s =>
    match t.plugin.bridge with
    | none => (.noBridge, t)
    | some b =>
      match s.run b with
      | (a, b) => (a, { t with plugin := { t.plugin with bridge := some b } })
  | .install app settings => onPlugin (.install app settings t.core) t
  | .plugin s => onPlugin s t

end ServerStep

end Gateway
