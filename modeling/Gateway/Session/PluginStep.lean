import Gateway.Plugin
import Gateway.Report.Answer

/-!
# Steps on the plugin

What the server does with the plugin: it has a bridge installed, and calls the entry points.
-/

namespace Gateway

/-- A step on the plugin. -/
inductive PluginStep where
  | install (app : Application) (settings : Settings) (core : Core)
  | postFork
  | postInit
  | envNew (request : Nat)
  | envAdd (env : Nat) (name : Option Bytes) (nameLength : Int) (value : Option Bytes)
      (valueLength : Int)
  | envFree (env : Nat)
  | request (env request : Nat)
  | signalHandler (signum : Int) (tag : Nat)
  | runCore (id : Int)
  /-- Asks whether there are services to be used. -/
  | capabilities
  /-- Sets up the log. -/
  | initTracing

namespace PluginStep

def coded (r : Int × Plugin) : Answer × Plugin := (.number r.1, r.2)

def run (s : PluginStep) (p : Plugin) : Answer × Plugin :=
  match s with
  | .install app settings core =>
    match p.install app settings core with
    | (.error f, p) => (.failure f, p)
    | (.ok (), p) => (.nothing, p)
  | .postFork => (.nothing, p.postFork)
  | .postInit => (.nothing, p.postInit)
  | .envNew h =>
    match p.envNew h with
    | (env, p) => (.number env, p)
  | .envAdd env name nameLength value valueLength =>
    coded (p.envAdd env name nameLength value valueLength)
  | .envFree env => coded (p.envFree env)
  | .request env h => coded (p.request env h)
  | .signalHandler signum tag => coded (p.signalHandler signum tag)
  | .runCore id => (.nothing, p.runCore id)
  | .capabilities => (.flag p.bridge.isSome, p)
  | .initTracing =>
    match p.initTracing with
    | (first, p) => (.flag first, p)

end PluginStep

end Gateway
