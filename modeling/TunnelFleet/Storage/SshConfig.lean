import TunnelFleet.Log
import TunnelFleet.Storage.Error

/-!
# The managed ssh config

One file gives every workspace an alias: a `Host` block that points at the local
end of its tunnel. Each time the whole file is written anew. It is a header followed
by one block for each local id, in the order in which the local ids first occur.
-/

namespace TunnelFleet

/-- An alias and the local port of its tunnel. -/
structure HostEntry where
  localId : LocalId
  port : UInt16
  deriving DecidableEq

/-- The managed file and what all of its blocks share. -/
structure SshConfig where
  path : Path
  user : String
  identity : Option Path

namespace SshConfig

/-- The first line of the file. -/
def header : String := "# Managed by portfleet. Rewritten on every \x60portfleet up\x60, do not edit."

/-- The lines of one block. An empty line sets it apart from what stands above. -/
def block (c : SshConfig) (e : HostEntry) : List String :=
  ["", s!"Host {e.localId}", "  HostName 127.0.0.1", s!"  Port {e.port.toNat}",
    s!"  User {c.user}"] ++
  (match c.identity with
    | some key => [s!"  IdentityFile \"{key}\""]
    | none => []) ++
  ["  NoHostAuthenticationForLocalhost yes"]

/-- The entries whose local id is not in `seen` and does not occur before. -/
def firstEntries (seen : List LocalId) : List HostEntry → List HostEntry
  | [] => []
  | e :: es =>
    if e.localId ∈ seen then firstEntries seen es
    else e :: firstEntries (e.localId :: seen) es

theorem mem_of_mem_firstEntries {seen : List LocalId} {entries : List HostEntry} {e : HostEntry}
    (he : e ∈ firstEntries seen entries) : e ∈ entries ∧ e.localId ∉ seen := by
  induction entries generalizing seen with
  | nil => cases he
  | cons first entries ih =>
    unfold firstEntries at he
    split at he
    · obtain ⟨hmem, hnew⟩ := ih he
      exact ⟨List.mem_cons_of_mem first hmem, hnew⟩
    · next hfirst =>
      rcases List.mem_cons.mp he with rfl | he
      · exact ⟨List.mem_cons_self, hfirst⟩
      · obtain ⟨hmem, hnew⟩ := ih he
        exact ⟨List.mem_cons_of_mem first hmem, fun hseen => hnew (List.mem_cons_of_mem _ hseen)⟩

/-- No local id is kept twice. -/
theorem nodup_firstEntries (seen : List LocalId) (entries : List HostEntry) :
    ((firstEntries seen entries).map HostEntry.localId).Nodup := by
  induction entries generalizing seen with
  | nil => exact List.nodup_nil
  | cons first entries ih =>
    unfold firstEntries
    split
    · exact ih seen
    · rw [List.map_cons, List.nodup_cons]
      refine ⟨fun hagain => ?_, ih (first.localId :: seen)⟩
      obtain ⟨e, he, hlocal⟩ := List.mem_map.mp hagain
      exact (mem_of_mem_firstEntries he).2 (hlocal ▸ List.mem_cons_self)

/-- No local id is lost. -/
theorem exists_mem_firstEntries {seen : List LocalId} {entries : List HostEntry} {e : HostEntry}
    (he : e ∈ entries) (hnew : e.localId ∉ seen) :
    ∃ e' ∈ firstEntries seen entries, e'.localId = e.localId := by
  induction entries generalizing seen with
  | nil => cases he
  | cons first entries ih =>
    unfold firstEntries
    by_cases hfirst : first.localId ∈ seen
    · rw [if_pos hfirst]
      rcases List.mem_cons.mp he with rfl | he
      · exact absurd hfirst hnew
      · exact ih he hnew
    · rw [if_neg hfirst]
      by_cases hlocal : e.localId = first.localId
      · exact ⟨first, List.mem_cons_self, hlocal.symm⟩
      · have hmem : e ∈ entries := (List.mem_cons.mp he).resolve_left fun h => hlocal (h ▸ rfl)
        have hstill : e.localId ∉ first.localId :: seen := fun hseen =>
          (List.mem_cons.mp hseen).elim hlocal hnew
        obtain ⟨e', he', hsame⟩ := ih hmem hstill
        exact ⟨e', List.mem_cons_of_mem first he', hsame⟩

/-- The entries whose local id is in `seen` or occurs before. -/
def repeatedEntries (seen : List LocalId) : List HostEntry → List HostEntry
  | [] => []
  | e :: es =>
    if e.localId ∈ seen then e :: repeatedEntries seen es
    else repeatedEntries (e.localId :: seen) es

/-- The lines of the file for these entries. -/
def lines (c : SshConfig) (entries : List HostEntry) : List String :=
  header :: (firstEntries [] entries).flatMap c.block

/-- The text of the file for these entries: each of its lines, ended by a line
break. -/
def render (c : SshConfig) (entries : List HostEntry) : String :=
  String.join ((c.lines entries).map (· ++ "\n"))

/-- The warnings about entries that have no block of their own. -/
def warnings (entries : List HostEntry) : List LogLine :=
  (repeatedEntries [] entries).map fun e =>
    .about .warn .sshConfig e.localId.text
      s!"Duplicate ssh config entry for port {e.port.toNat} skipped"

/-- Writes the file anew for these entries. -/
def sync (c : SshConfig) (entries : List HostEntry) (t : FileTree) :
    Except StoreError Unit × FileTree × List LogLine :=
  match t.makeParent c.path with
  | (.error e, t) => (.error e, t, [])
  | (.ok (), t) =>
    match t.writeText c.path (c.render entries) with
    | .error fault => (.error (.ofFault c.path fault), t, warnings entries)
    | .ok t => (.ok (), t, warnings entries)

/-- The line by which the user's own configuration takes in the managed file. -/
def includeLine (c : SshConfig) : String := s!"Include {c.path}"

end SshConfig

end TunnelFleet
