import TunnelFleet.Proofs.Ports.Resolution
import TunnelFleet.Proofs.Storage.PortFile

/-!
# Drawn ports outlive their run

A port that was drawn for a workspace and saved in a port file is pinned there, and every
assigner that works on the file later finds the pin. Nothing but setting or removing this
very pin takes it away: not what is drawn and saved for others, nor what else is set or
removed, although each update writes the whole file anew.
-/

namespace TunnelFleet.PortFile

variable {f : PortFile} {t : FileTree} {l : LocalId} {p : UInt16}

/-- One use of a port file. Setting pins aside for a run only reads the file and does not count
as one. -/
inductive Use
  /-- An assigner is asked for the port of a local id. It may be a new one, with any drawing,
  or one that has set pins aside and been at work for a while. -/
  | resolve (a : Assigner) (sampler : Sampler) (k : LocalId)
  | set (k : LocalId) (port : UInt16)
  | remove (k : LocalId)

namespace Use

/-- The tree after one use of the file. -/
def apply (f : PortFile) : Use → FileTree → FileTree
  | .resolve a sampler k, t => (a.resolve f.asStore sampler k t).store
  | .set k port, t => (f.set k port t).2
  | .remove k, t => (f.remove k t).2

/-- Whether a use does not set or remove the pin of a local id by hand. -/
def LeavesPin (l : LocalId) : Use → Prop
  | .resolve _ _ _ => True
  | .set k _ => k ≠ l
  | .remove k => k ≠ l

/-- A pin outlives every use that is not about this pin: an assigner saves ports only for local
ids without a pin. -/
theorem get_apply (hp : f.get l t = .ok (some p)) {u : Use} (hu : u.LeavesPin l) :
    f.get l (u.apply f t) = .ok (some p) := by
  cases u with
  | resolve a sampler k =>
    obtain hstore | ⟨q, hneeds, hq⟩ := a.store_resolve f.asStore sampler k t
    · rw [apply, hstore]
      exact hp
    · have hk : k ≠ l := by
        rintro rfl
        have hnone := lookup_asStore_eq_ok.mp hneeds.1
        rw [hp] at hnone
        cases hnone
      obtain ⟨-, n, hresolve⟩ := Assigner.resolve_of_draw hneeds hq
      rw [apply, hresolve]
      exact get_set_of_ne hk q hp
  | set k q => exact get_set_of_ne hu q hp
  | remove k => exact get_remove_of_ne hu hp

end Use

/-- A pin outlives every history of uses that are not about this pin. -/
theorem get_foldl_apply (hp : f.get l t = .ok (some p)) {uses : List Use}
    (huses : ∀ u ∈ uses, u.LeavesPin l) :
    f.get l (uses.foldl (fun t u => u.apply f t) t) = .ok (some p) := by
  induction uses generalizing t with
  | nil => exact hp
  | cons u uses ih =>
    exact ih (Use.get_apply hp (huses u List.mem_cons_self)) fun u' hu' =>
      huses u' (List.mem_cons_of_mem u hu')

/-- A port that was drawn without a warning is pinned. -/
theorem get_resolve_of_draw {a : Assigner} {sampler : Sampler}
    (hneeds : a.NeedsDraw f.asStore t l)
    (hp : (a.resolve f.asStore sampler l t).result = .port p)
    (hsaved : (a.resolve f.asStore sampler l t).logs = []) :
    f.get l (a.resolve f.asStore sampler l t).store = .ok (some p) := by
  obtain ⟨-, n, hresolve⟩ := Assigner.resolve_of_draw hneeds hp
  rw [hresolve] at hsaved ⊢
  cases hsave : (f.asStore.save t l p).1 with
  | error e => simp [hsave] at hsaved
  | ok u => exact get_set (save_asStore_eq_ok.mp hsave)

/-- If a request for the port of a local id is answered with a port that it drew, and no warning
tells that the port could not be saved, then every later request for this local id is answered
with the same port, by whatever assigner, as long as nobody sets or removes this pin by hand. In
between the same and other assigners may have drawn and saved ports for anybody, and any other
pins may have been set and removed, with success or without. -/
theorem drawn_port_survives {a : Assigner} {sampler : Sampler}
    (hneeds : a.NeedsDraw f.asStore t l)
    (hp : (a.resolve f.asStore sampler l t).result = .port p)
    (hsaved : (a.resolve f.asStore sampler l t).logs = [])
    {uses : List Use} (huses : ∀ u ∈ uses, u.LeavesPin l) (b : Assigner) (later : Sampler) :
    let t' := uses.foldl (fun t u => u.apply f t) (a.resolve f.asStore sampler l t).store
    (b.resolve f.asStore later l t').result = .port p := by
  intro t'
  have hpin : f.get l t' = .ok (some p) :=
    get_foldl_apply (get_resolve_of_draw hneeds hp hsaved) huses
  rw [Assigner.resolve, lookup_asStore_eq_ok.mpr hpin]

/-- The first port of a range, drawn where there is no file yet. In the next run a port is drawn
for another workspace, which is then pinned elsewhere and loses its pin. -/
theorem drawn_port_survives_next_run :
    let f : PortFile := ⟨⟨["", "ports"]⟩⟩
    let web := SmallRun.web.localId
    let db := SmallRun.db.localId
    let first : Assigner := { drawing := SmallRun.twoPorts }
    let second : Assigner := { drawing := SmallRun.twoPorts }
    let uses : List Use := [.resolve second SmallRun.inTurn db, .set db 30001, .remove db]
    let drawn := first.resolve f.asStore SmallRun.inTurn web {}
    let t := uses.foldl (fun t u => u.apply f t) drawn.store
    first.NeedsDraw f.asStore {} web ∧ drawn.result = .port 30000 ∧ drawn.logs = [] ∧
    (∀ u ∈ uses, u.LeavesPin web) ∧
    (second.resolve f.asStore SmallRun.inTurn web t).result = .port 30000 := by
  intro f web db first second uses drawn t
  have habsent : FileTree.has {} f.path = false := by decide +kernel
  have hneeds : first.NeedsDraw f.asStore {} web := by
    refine ⟨lookup_asStore_eq_ok.mpr ?_, by decide +kernel⟩
    simp [get, list, habsent, Except.map]
  have hp : drawn.result = .port 30000 := by decide +kernel
  have hsaved : drawn.logs = [] := by decide +kernel
  have huses : ∀ u ∈ uses, u.LeavesPin web := by
    have hne : db ≠ web := by decide +kernel
    simp [uses, Use.LeavesPin, hne]
  exact ⟨hneeds, hp, hsaved, huses,
    drawn_port_survives hneeds hp hsaved huses second SmallRun.inTurn⟩

end TunnelFleet.PortFile
