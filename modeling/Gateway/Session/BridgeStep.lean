import Gateway.Bridge
import Gateway.Session.HandlerStep

/-!
# Steps on a bridge
-/

namespace Gateway

/-- A step on a bridge. -/
inductive BridgeStep where
  | core (s : CoreStep)
  | service (s : Service)
  /-- Opens a request with a body, fills its environment and dispatches it. -/
  | request (vars : List (Bytes × Bytes)) (chunks : List Bytes)
  | envNew (h : Handle)
  | envAdd (h : Handle) (name value : Bytes)
  | envRelease (h : Handle)
  /-- Counts the environments that wait. -/
  | pending
  /-- Dispatches a request with an environment. -/
  | dispatch (env h : Handle)
  | dispatchSignal (signum : UInt8)
  | runCore (id : Int)
  | banner
  | postFork
  | postInit
  | settings
  | workerId
  /-- Names no request and does nothing. -/
  | unaddressed

namespace BridgeStep

def ended (r : Option Panic × Bridge) : Answer × Bridge := (.ofEnding r.1, r.2)

/-- Opens a request, queues the chunks of its body, fills its environment and dispatches it. -/
def serve (vars : List (Bytes × Bytes)) (chunks : List Bytes) (b : Bridge) : Answer × Bridge :=
  let h := b.core.nextHandle
  let b := b.withCore (chunks.foldl (fun c chunk => c.pushBody h chunk) b.core.openRequest.2)
  let b := vars.foldl (fun b v => (b.envAdd h v.1 v.2).2) (b.envNew h)
  match b.dispatch h h with
  | (panic, b) => (.served h panic (b.core.exchange h), b)

def run (s : BridgeStep) (b : Bridge) : Answer × Bridge :=
  match s with
  | .core s =>
    match s.run b.core with
    | (a, c) => (a, b.withCore c)
  | .service s =>
    match b.host.serve s with
    | (x, h) => (s.report x, { b with host := h })
  | .request vars chunks => serve vars chunks b
  | .envNew h => (.number h.token, b.envNew h)
  | .envAdd h name value =>
    match b.envAdd h name value with
    | (stored, b) => (.flag stored, b)
  | .envRelease h =>
    match b.envRelease h with
    | (dropped, b) => (.flag dropped, b)
  | .pending => (.number b.pending.size, b)
  | .dispatch env h => ended (b.dispatch env h)
  | .dispatchSignal n =>
    match b.dispatchSignal n with
    | ((ran, none), b) => (.number (if ran then 0 else -1), b)
    | ((_, some p), b) => (.failure (.panicked p), b)
  | .runCore id =>
    match b.runCore id with
    | (name, b) => (.text name, b)
  | .banner => ended b.banner
  | .postFork => ended b.postFork
  | .postInit => ended b.postInit
  | .settings => (.settings b.settings, b)
  | .workerId => (.number b.core.workerId, b)
  | .unaddressed => (.nullHandle, b)

end BridgeStep

end Gateway
