import TunnelFleet.Ports.Alias
import TunnelFleet.Proofs.Ports.Resolution

/-!
# Settled ports

A local id is settled on a port if a request for its port can have no other answer. Whoever
is given a port is settled on it, and stays so while ports are set aside and found for
anybody, as long as nobody else touches the store. So the aliases of some workspaces name
the ports that later requests will be answered with.
-/

namespace TunnelFleet

variable {σ : Type} {ports : PortStore σ} {states : σ → Prop}

/-- Whether in these states of a store nobody but an assigner touches the pins, and no lookup
starts to fail: whatever is saved, a lookup that succeeded before succeeds afterwards and tells
the same, except that the port may now be the pin of the local id that it was saved for. A save
may fail or be dropped. -/
structure PortStore.Undisturbed (ports : PortStore σ) (states : σ → Prop) : Prop where
  saved : ∀ {store : σ} (l : LocalId) (p : UInt16), states store → states (ports.save store l p).2
  kept : ∀ {store : σ} {k : LocalId} {pin : Option UInt16} (l : LocalId) (p : UInt16),
    states store → ports.lookup store k = .ok pin →
      ports.lookup (ports.save store l p).2 k = .ok pin ∨
        k = l ∧ ports.lookup (ports.save store l p).2 k = .ok (some p)

/-- A table of pins is undisturbed, whatever faults it has and whether or not it keeps what is
saved. -/
theorem PinTable.undisturbed : PinTable.asStore.Undisturbed fun _ => True where
  saved _ _ _ := trivial
  kept {t k pin} l p _ hlookup := by
    change t.lookup k = .ok pin at hlookup
    change (t.save l p).2.lookup k = .ok pin ∨ k = l ∧ (t.save l p).2.lookup k = .ok (some p)
    unfold save
    split
    · exact .inl hlookup
    · cases t.saveFaults[l]? with
      | some reason => exact .inl hlookup
      | none =>
        obtain ⟨hfault, hpin⟩ := lookup_eq_ok.mp hlookup
        by_cases hk : k = l
        · exact .inr ⟨hk, lookup_eq_ok.mpr ⟨hfault, by simp [hk]⟩⟩
        · refine .inl (lookup_eq_ok.mpr ⟨hfault, ?_⟩)
          rw [← hpin]
          simp [Std.ExtTreeMap.getElem?_insert, Ne.symm hk]

namespace Assigner

variable {sampler : Sampler} {a : Assigner} {store store' : σ} {l k : LocalId} {p : UInt16}

/-- A local id is settled on a port: it is pinned to the port, or it is issued the port and has
no pin. -/
def Settled (ports : PortStore σ) (a : Assigner) (store : σ) (l : LocalId) (p : UInt16) : Prop :=
  ports.lookup store l = .ok (some p) ∨
    ports.lookup store l = .ok none ∧ a.issued[l]? = some p

/-- Whoever is given a port is settled on it, whether it was pinned, issued or drawn, and
whatever became of saving it. -/
theorem settled_of_resolve (hports : ports.Undisturbed states) (hstore : states store)
    (hp : (a.resolve ports sampler l store).result = .port p) :
    Settled ports (a.resolve ports sampler l store).assigner
      (a.resolve ports sampler l store).store l p := by
  obtain ⟨e, -, hresolve⟩ | ⟨q, hlookup, hresolve⟩ | ⟨q, hlookup, hissued, hresolve⟩ |
    ⟨hneeds, -⟩ := resolve_cases ports sampler l a store
  · rw [hresolve] at hp
    cases hp
  · rw [hresolve] at hp ⊢
    obtain rfl := Resolution.port.inj hp
    exact .inl hlookup
  · rw [hresolve] at hp ⊢
    obtain rfl := Resolution.port.inj hp
    exact .inr ⟨hlookup, hissued⟩
  · obtain ⟨-, n, hresolve⟩ := resolve_of_draw hneeds hp
    rw [hresolve]
    rcases hports.kept l p hstore hneeds.1 with hnone | ⟨-, hpinned⟩
    · refine .inr ⟨hnone, (issued_issue a l l p).trans (if_pos rfl)⟩
    · exact .inl hpinned

namespace Settled

/-- A request for the port of a settled local id has no other answer. -/
theorem result_eq (h : Settled ports a store l p) (sampler : Sampler) :
    (a.resolve ports sampler l store).result = .port p := by
  rcases h with hpinned | ⟨hnone, hissued⟩
  · rw [resolve, hpinned]
  · rw [resolve, hnone]
    simp only [hissued]

/-- It does not matter what becomes of lookups that failed before. -/
theorem of_lookup (h : Settled ports a store l p)
    (hlookup : ∀ pin, ports.lookup store l = .ok pin → ports.lookup store' l = .ok pin) :
    Settled ports a store' l p :=
  h.imp (hlookup _) fun ⟨hnone, hissued⟩ => ⟨hlookup _ hnone, hissued⟩

theorem reserve (h : Settled ports a store l p) (ws : List Workspace) :
    Settled ports (a.reserve ports store ws).1 store l p := by
  refine h.imp id fun ⟨hnone, hissued⟩ => ⟨hnone, ?_⟩
  have hpin : ports.pin? store l = none := by rw [PortStore.pin?, hnone]
  rw [issued_reserve, hpin, Option.none_or, hissued, ite_self]

/-- A settled local id stays so when anybody's port is asked for. -/
theorem resolve (h : Settled ports a store l p) (hports : ports.Undisturbed states)
    (hstore : states store) (sampler : Sampler) (k : LocalId) :
    Settled ports (a.resolve ports sampler k store).assigner
      (a.resolve ports sampler k store).store l p := by
  by_cases hkl : k = l
  · subst hkl
    exact settled_of_resolve hports hstore (h.result_eq sampler)
  · have hissued := issued_resolve ports sampler k a store l
    rw [if_neg (Ne.symm hkl)] at hissued
    unfold Settled
    rw [hissued]
    rcases store_resolve ports sampler k a store with hsame | ⟨q, hneeds, hq⟩
    · rw [hsame]
      exact h
    · obtain ⟨-, n, hresolve⟩ := resolve_of_draw hneeds hq
      rw [hresolve]
      have hkept : ∀ pin, ports.lookup store l = .ok pin →
          ports.lookup (ports.save store k q).2 l = .ok pin := fun pin hpin =>
        (hports.kept k q hstore hpin).resolve_right fun ⟨hlk, _⟩ => hkl hlk.symm
      exact h.of_lookup hkept

end Settled

/-! ## What requests leave behind -/

/-- Requests for ports lead from states of an undisturbed store to such states. -/
theorem states_resolve (hports : ports.Undisturbed states) (hstore : states store)
    (a : Assigner) (sampler : Sampler) (l : LocalId) :
    states (a.resolve ports sampler l store).store := by
  rcases store_resolve ports sampler l a store with hsame | ⟨q, hneeds, hq⟩
  · rw [hsame]
    exact hstore
  · obtain ⟨-, n, hresolve⟩ := resolve_of_draw hneeds hq
    rw [hresolve]
    exact hports.saved l q hstore

/-- Ports are drawn in the same way throughout a run. -/
theorem drawing_resolve (ports : PortStore σ) (sampler : Sampler) (l : LocalId) (a : Assigner)
    (store : σ) : (a.resolve ports sampler l store).assigner.drawing = a.drawing := by
  obtain ⟨e, -, hresolve⟩ | ⟨q, -, hresolve⟩ | ⟨q, -, -, hresolve⟩ | ⟨-, hresolve⟩ :=
    resolve_cases ports sampler l a store
  · rw [hresolve]
  · rw [hresolve]
    rfl
  · rw [hresolve]
  · rw [hresolve]
    obtain ⟨-, hdraw⟩ | ⟨n, hdraw⟩ | ⟨q, n, -, hdraw⟩ := draw_cases ports sampler l a store
    · rw [hdraw]
    · rw [hdraw]
    · rw [hdraw]
      rfl

theorem drawing_reserve (ports : PortStore σ) (store : σ) (a : Assigner) (ws : List Workspace) :
    (a.reserve ports store ws).1.drawing = a.drawing := by
  induction ws generalizing a with
  | nil => rfl
  | cons w ws ih =>
    refine (ih (reserveOne ports store a w.localId).1).trans ?_
    unfold reserveOne
    split <;> rfl

/-- A request for a port is answered if there are any ports to draw from. -/
theorem result_ne_aborted (hrange : a.drawing.range.size ≠ 0) (ports : PortStore σ)
    (sampler : Sampler) (l : LocalId) (store : σ) :
    (a.resolve ports sampler l store).result ≠ .aborted := by
  obtain ⟨e, -, hresolve⟩ | ⟨q, -, hresolve⟩ | ⟨q, -, -, hresolve⟩ | ⟨-, hresolve⟩ :=
    resolve_cases ports sampler l a store
  · simp [hresolve]
  · simp [hresolve]
  · simp [hresolve]
  · rw [hresolve]
    obtain ⟨hempty, -⟩ | ⟨n, hdraw⟩ | ⟨q, n, -, hdraw⟩ := draw_cases ports sampler l a store
    · exact absurd hempty hrange
    · simp [hdraw]
    · simp [hdraw]

/-! ## Aliases -/

/-- What finding the aliases of some workspaces comes to: each alias is for one of the
workspaces and names the port that its local id is settled on. -/
structure Finds (ports : PortStore σ) (states : σ → Prop) (a : Assigner) (store : σ)
    (ws : List Workspace) (found : Aliases σ) : Prop where
  state : states found.store
  drawing : found.assigner.drawing = a.drawing
  /-- All workspaces are reached if there are any ports to draw from. -/
  reached : a.drawing.range.size ≠ 0 → found.aborted = false
  keeps : ∀ l p, Settled ports a store l p → Settled ports found.assigner found.store l p
  settled : ∀ e ∈ found.entries, Settled ports found.assigner found.store e.localId e.port
  named : ∀ e ∈ found.entries, ∃ w ∈ ws, w.localId = e.localId

theorem finds_resolveEach (hports : ports.Undisturbed states) (sampler : Sampler)
    (hstore : states store) (a : Assigner) (ws : List Workspace) :
    Finds ports states a store ws (a.resolveEach ports sampler store ws) := by
  induction ws generalizing a store with
  | nil => exact ⟨hstore, rfl, fun _ => rfl, fun _ _ h => h, nofun, nofun⟩
  | cons w ws ih =>
    have hstates := states_resolve hports hstore a sampler w.localId
    have hdrawing := drawing_resolve ports sampler w.localId a store
    have hkeeps := fun l p (h : Settled ports a store l p) =>
      h.resolve hports hstore sampler w.localId
    have hrest := ih hstates (a.resolve ports sampler w.localId store).assigner
    have hnamed : ∀ e ∈ ((a.resolve ports sampler w.localId store).assigner.resolveEach ports
        sampler (a.resolve ports sampler w.localId store).store ws).entries,
        ∃ w' ∈ w :: ws, w'.localId = e.localId := fun e he => by
      obtain ⟨w', hw', hlocal⟩ := hrest.named e he
      exact ⟨w', List.mem_cons_of_mem w hw', hlocal⟩
    unfold resolveEach
    dsimp only
    cases hresult : (a.resolve ports sampler w.localId store).result with
    | port p =>
      have hsettled := settled_of_resolve hports hstore hresult
      refine ⟨hrest.state, hrest.drawing.trans hdrawing, fun hrange => ?_,
        fun l p h => hrest.keeps l p (hkeeps l p h), fun e he => ?_, fun e he => ?_⟩
      · exact hrest.reached (hdrawing ▸ hrange)
      · rcases List.mem_cons.mp he with rfl | he
        · exact hrest.keeps _ _ hsettled
        · exact hrest.settled e he
      · rcases List.mem_cons.mp he with rfl | he
        · exact ⟨w, List.mem_cons_self, rfl⟩
        · exact hnamed e he
    | refused e =>
      exact ⟨hrest.state, hrest.drawing.trans hdrawing,
        fun hrange => hrest.reached (hdrawing ▸ hrange),
        fun l p h => hrest.keeps l p (hkeeps l p h), hrest.settled, hnamed⟩
    | aborted =>
      exact ⟨hstates, hdrawing,
        fun hrange => absurd hresult (result_ne_aborted hrange ports sampler w.localId store),
        hkeeps, nofun, nofun⟩

/-- The aliases that are found for some workspaces once their pins have been set aside. -/
theorem finds_aliases (hports : ports.Undisturbed states) (sampler : Sampler)
    (hstore : states store) (a : Assigner) (ws : List Workspace) :
    Finds ports states a store ws (a.aliases ports sampler ws store) := by
  have hdrawing := drawing_reserve ports store a ws
  have hfound := finds_resolveEach hports sampler hstore (a.reserve ports store ws).1 ws
  exact ⟨hfound.state, hfound.drawing.trans hdrawing,
    fun hrange => hfound.reached (hdrawing ▸ hrange),
    fun l p h => hfound.keeps l p (h.reserve ws), hfound.settled, hfound.named⟩

end Assigner

end TunnelFleet
