import TunnelFleet.Ports.Assigner
import TunnelFleet.Storage.SshConfig

/-!
# Aliases for workspaces

Before any tunnel is started, each workspace gets its local port, and with it an
alias in the managed ssh config. A workspace without a port gets no alias.
-/

namespace TunnelFleet

/-- The aliases of some workspaces, and what finding their ports leaves behind. -/
structure Aliases (σ : Type) where
  entries : List HostEntry
  assigner : Assigner
  store : σ
  logs : List LogLine
  /-- Whether no port could be drawn at all for one of the workspaces; those after it
  were not reached. -/
  aborted : Bool := false

namespace Assigner

variable {σ : Type}

/-- Finds the ports of the workspaces one by one. -/
def resolveEach (ports : PortStore σ) (sampler : Sampler) (a : Assigner) (store : σ) :
    List Workspace → Aliases σ
  | [] => { entries := [], assigner := a, store, logs := [] }
  | w :: ws =>
    let l := w.localId
    let r := a.resolve ports sampler l store
    match r.result with
    | .port p =>
      let rest := resolveEach ports sampler r.assigner r.store ws
      { rest with entries := ⟨l, p⟩ :: rest.entries, logs := r.logs ++ rest.logs }
    | .refused e =>
      let rest := resolveEach ports sampler r.assigner r.store ws
      let failed := LogLine.about .warn .commandLine l.text s!"No local port: {e.message}"
      { rest with logs := r.logs ++ failed :: rest.logs }
    | .aborted =>
      { entries := [], assigner := r.assigner, store := r.store, logs := r.logs, aborted := true }

/-- Sets the pinned ports of the workspaces aside and finds a port for each of them. -/
def aliases (ports : PortStore σ) (sampler : Sampler) (ws : List Workspace) (a : Assigner)
    (store : σ) : Aliases σ :=
  let (a, logs) := a.reserve ports store ws
  let found := a.resolveEach ports sampler store ws
  { found with logs := logs ++ found.logs }

end Assigner

end TunnelFleet
