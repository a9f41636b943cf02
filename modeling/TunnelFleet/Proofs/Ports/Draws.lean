import TunnelFleet.Proofs.Ports.Grants
import TunnelFleet.Proofs.Ports.Settled

/-!
# Draws

A draw ends with the first of a limited number of ports that fits: one that is issued to nobody
and, if that is checked, can be bound at that moment. If none fits, it fails and leaves nothing
behind. What becomes of saving the port makes no difference to either.

This takes a range that has a port to draw. The range that is asked for is repaired if it is
empty, by the port after its first one, and the last port of all has none after it.
-/

namespace TunnelFleet

namespace PortRange

variable {r : PortRange} {first bound p : UInt16}

theorem size_ne_zero_iff : r.size ≠ 0 ↔ r.first < r.bound := by
  rw [size, UInt16.lt_iff_toNat_lt]
  omega

/-- Every port that is picked is in the range. -/
theorem contains_pick (hr : r.first < r.bound) (n : Nat) : r.contains (r.pick n) = true := by
  have hmod : n % r.size < r.size := Nat.mod_lt _ (Nat.pos_of_ne_zero (size_ne_zero_iff.mpr hr))
  have hbound := r.bound.toNat_lt
  have hpick : (r.pick n).toNat = r.first.toNat + n % r.size := by
    rw [pick, UInt16.toNat_ofNat', Nat.mod_eq_of_lt]
    unfold size at hmod ⊢
    omega
  simp only [contains, Bool.and_eq_true, decide_eq_true_eq, UInt16.le_iff_toNat_le,
    UInt16.lt_iff_toNat_lt, hpick]
  unfold size at hmod ⊢
  omega

/-- Every port in the range is picked by its distance from the first. -/
theorem pick_of_contains (hp : r.contains p = true) : r.pick (p.toNat - r.first.toNat) = p := by
  simp only [contains, Bool.and_eq_true, decide_eq_true_eq, UInt16.le_iff_toNat_le,
    UInt16.lt_iff_toNat_lt] at hp
  have hmod : (p.toNat - r.first.toNat) % r.size = p.toNat - r.first.toNat :=
    Nat.mod_eq_of_lt (by unfold size; omega)
  rw [pick, hmod, Nat.add_sub_cancel' hp.1, UInt16.ofNat_toNat]

theorem toNat_after (p : UInt16) : (after p).toNat = min (p.toNat + 1) 65535 := by
  have hp := p.toNat_lt
  unfold after
  split
  · next h =>
    rw [eq_of_beq h]
    rfl
  · next h =>
    have hne : p.toNat ≠ 65535 := fun heq => h (beq_iff_eq.mpr (UInt16.toNat_inj.mp heq))
    rw [UInt16.toNat_add, UInt16.toNat_one]
    omega

/-- A range that is repaired has a port, unless it begins with the last port of all. -/
theorem size_atLeastOne_eq_zero_iff : (atLeastOne first bound).size = 0 ↔ first = 65535 := by
  have hfirst := first.toNat_lt
  have hbound := bound.toNat_lt
  have hafter := toNat_after first
  have hlast : first = 65535 ↔ first.toNat = 65535 := UInt16.toNat_inj.symm
  have hmax : max bound (after first) = if bound ≤ after first then after first else bound := rfl
  rw [size, atLeastOne, hmax, hlast]
  dsimp only
  split
  · omega
  · next hlarger =>
    rw [UInt16.le_iff_toNat_le] at hlarger
    omega

end PortRange

namespace Assigner

variable {σ : Type} {ports : PortStore σ} {sampler : Sampler} {a : Assigner} {store : σ}
  {l : LocalId} {attempts n i : Nat}

/-! ## The draws of a search -/

/-- The port at which the `n`-th draw of a run comes out. -/
def drawnPort (a : Assigner) (sampler : Sampler) (n : Nat) : UInt16 :=
  a.drawing.range.pick (sampler.number n)

/-- Whether the `n`-th draw of a run comes out at a port that is issued to nobody and, if that is
checked, can be bound at that moment. -/
def DrawFits (a : Assigner) (sampler : Sampler) (n : Nat) : Prop :=
  (∀ k : LocalId, a.issued[k]? ≠ some (a.drawnPort sampler n)) ∧
    (a.drawing.checksBind = true → sampler.bindable n (a.drawnPort sampler n) = true)

theorem accepts_iff :
    a.accepts sampler n (a.drawnPort sampler n) = true ↔ a.DrawFits sampler n := by
  have hfree : a.isIssued (a.drawnPort sampler n) = false ↔
      ∀ k : LocalId, a.issued[k]? ≠ some (a.drawnPort sampler n) := by
    rw [Bool.eq_false_iff, ne_eq, isIssued_iff, not_exists]
  simp only [accepts, Bool.and_eq_true, Bool.not_eq_true', Bool.or_eq_true, hfree, DrawFits]
  cases a.drawing.checksBind <;> simp

instance (a : Assigner) (sampler : Sampler) (n : Nat) : Decidable (a.DrawFits sampler n) :=
  decidable_of_iff _ accepts_iff

theorem search_of_fits (h : a.DrawFits sampler n) :
    a.search sampler (attempts + 1) n = (some (a.drawnPort sampler n), n + 1) :=
  if_pos (accepts_iff.mpr h)

theorem search_of_not_fits (h : ¬a.DrawFits sampler n) :
    a.search sampler (attempts + 1) n = a.search sampler attempts (n + 1) :=
  if_neg (mt accepts_iff.mp h)

/-- A search finds the port of the first draw that fits. -/
theorem search_of_first (hi : i < attempts) (hfits : a.DrawFits sampler (n + i))
    (hfirst : ∀ j < i, ¬a.DrawFits sampler (n + j)) :
    a.search sampler attempts n = (some (a.drawnPort sampler (n + i)), n + i + 1) := by
  induction attempts generalizing n i with
  | zero => omega
  | succ attempts ih =>
    cases i with
    | zero => exact search_of_fits hfits
    | succ i =>
      have hshift : ∀ j, n + (j + 1) = n + 1 + j := fun j => by omega
      have hmisses : ¬a.DrawFits sampler n := hfirst 0 (Nat.succ_pos i)
      rw [search_of_not_fits hmisses, hshift i]
      refine ih (by omega) (hshift i ▸ hfits) fun j hj => ?_
      rw [← hshift]
      exact hfirst (j + 1) (by omega)

/-- A search finds nothing if no draw fits. -/
theorem search_of_none (hnone : ∀ i < attempts, ¬a.DrawFits sampler (n + i)) :
    a.search sampler attempts n = (none, n + attempts) := by
  induction attempts generalizing n with
  | zero => rfl
  | succ attempts ih =>
    have hshift : ∀ j, n + (j + 1) = n + 1 + j := fun j => by omega
    have hmisses : ¬a.DrawFits sampler n := hnone 0 (Nat.succ_pos attempts)
    rw [search_of_not_fits hmisses, hshift attempts]
    refine ih fun j hj => ?_
    rw [← hshift]
    exact hnone (j + 1) (by omega)

/-! ## Requests that come down to a draw -/

theorem resolve_of_needsDraw (hneeds : a.NeedsDraw ports store l) :
    a.resolve ports sampler l store = a.draw ports sampler l store := by
  unfold resolve
  rw [hneeds.1]
  simp only [hneeds.2]

/-- A draw from a range that has ports gives the first port that fits. -/
theorem draw_of_first (hrange : a.drawing.range.size ≠ 0) (hi : i < a.drawing.maxAttempts)
    (hfits : a.DrawFits sampler (a.drawn + i))
    (hfirst : ∀ j < i, ¬a.DrawFits sampler (a.drawn + j)) (ports : PortStore σ) (store : σ)
    (l : LocalId) :
    let p := a.drawnPort sampler (a.drawn + i)
    let drawn := a.draw ports sampler l store
    drawn.result = .port p ∧ drawn.assigner = { a.issue l p with drawn := a.drawn + i + 1 } ∧
      drawn.store = (ports.save store l p).2 := by
  intro p drawn
  unfold drawn
  rw [draw, if_neg hrange, search_of_first hi hfits hfirst]
  exact ⟨rfl, rfl, rfl⟩

/-- A draw in which no port fits leaves everything as it was, but for the number of draws made. -/
theorem draw_of_none (hrange : a.drawing.range.size ≠ 0)
    (hnone : ∀ i < a.drawing.maxAttempts, ¬a.DrawFits sampler (a.drawn + i))
    (ports : PortStore σ) (store : σ) (l : LocalId) :
    a.draw ports sampler l store =
      { result := .refused (.exhausted a.drawing.maxAttempts)
        assigner := { a with drawn := a.drawn + a.drawing.maxAttempts }, store } := by
  rw [draw, if_neg hrange, search_of_none hnone]

/-- A request ends without an answer exactly if it comes down to a draw and there is no port to
draw. -/
theorem result_eq_aborted_iff : (a.resolve ports sampler l store).result = .aborted ↔
    a.NeedsDraw ports store l ∧ a.drawing.range.size = 0 := by
  constructor
  · intro h
    refine ⟨?_, Classical.byContradiction fun hrange => result_ne_aborted hrange _ _ _ _ h⟩
    obtain ⟨e, -, hresolve⟩ | ⟨p, -, hresolve⟩ | ⟨p, -, -, hresolve⟩ | ⟨hneeds, -⟩ :=
      resolve_cases ports sampler l a store
    · rw [hresolve] at h
      cases h
    · rw [hresolve] at h
      cases h
    · rw [hresolve] at h
      cases h
    · exact hneeds
  · rintro ⟨hneeds, hrange⟩
    rw [resolve_of_needsDraw hneeds, draw, if_pos hrange]

/-! ## The first port that fits -/

/-- What a save comes to, the rest of a request does not depend on: neither the answer nor the
issued ports would be others. -/
theorem resolve_of_save (ports : PortStore σ)
    (save : σ → LocalId → UInt16 → Except StoreUnavailable Unit × σ) :
    let other := a.resolve { ports with save } sampler l store
    other.result = (a.resolve ports sampler l store).result ∧
      other.assigner = (a.resolve ports sampler l store).assigner := by
  intro other
  unfold other resolve
  dsimp only
  split
  · exact ⟨rfl, rfl⟩
  · exact ⟨rfl, rfl⟩
  · split
    · exact ⟨rfl, rfl⟩
    · unfold draw
      split
      · exact ⟨rfl, rfl⟩
      · split
        · exact ⟨rfl, rfl⟩
        · exact ⟨rfl, rfl⟩

/-- A local id that has neither a pin nor an issued port is given the first of a limited number of
draws that comes out at a port that fits, whatever is drawn. This local id alone is issued the
port, and the port is offered to the store. If no draw fits, as when every port of the range is
issued to somebody, the request fails and leaves the issued ports and the store as they were. So
does a request that fails with the store. What a save comes to changes neither the answer nor the
issued ports. -/
theorem first_fit (ports : PortStore σ) (sampler : Sampler) (l : LocalId) (a : Assigner)
    (store : σ) :
    let limit := a.drawing.maxAttempts
    let drawn := fun i => a.drawnPort sampler (a.drawn + i)
    let fits := fun i => a.DrawFits sampler (a.drawn + i)
    let answer := a.resolve ports sampler l store
    let fails := answer.result = .refused (.exhausted limit) ∧
      answer.assigner.issued = a.issued ∧ answer.store = store
    (a.NeedsDraw ports store l → a.drawing.range.first < a.drawing.range.bound →
      (∀ i, a.drawing.range.contains (drawn i) = true) ∧
      (∀ i < limit, fits i → (∀ j < i, ¬fits j) →
        answer.result = .port (drawn i) ∧
        (∀ k : LocalId,
          answer.assigner.issued[k]? = if k = l then some (drawn i) else a.issued[k]?) ∧
        answer.store = (ports.save store l (drawn i)).2) ∧
      ((∀ i < limit, ¬fits i) → fails) ∧
      ((∀ p, a.drawing.range.contains p = true → ∃ k : LocalId, a.issued[k]? = some p) →
        fails)) ∧
    (∀ e, answer.result = .refused (.store e) → answer.assigner = a ∧ answer.store = store) ∧
    (∀ save, let other := a.resolve { ports with save } sampler l store
      other.result = answer.result ∧ other.assigner.issued = answer.assigner.issued) ∧
    ∀ draws : Nat → UInt16, (∀ n, a.drawing.range.contains (draws n) = true) →
      ∃ number, ∀ bindable n, a.drawnPort ⟨number, bindable⟩ n = draws n := by
  intro limit drawn fits answer fails
  refine ⟨fun hneeds hrange => ?_, fun e hstore => ?_, fun save => ?_, fun draws hdraws => ?_⟩
  · have hsize : a.drawing.range.size ≠ 0 := PortRange.size_ne_zero_iff.mpr hrange
    have hdraw : answer = a.draw ports sampler l store := resolve_of_needsDraw hneeds
    have hwithin : ∀ i, a.drawing.range.contains (drawn i) = true := fun i =>
      PortRange.contains_pick hrange _
    have hfails : (∀ i < limit, ¬fits i) → fails := by
      intro hnone
      have hnothing := draw_of_none hsize hnone ports store l
      rw [← hdraw] at hnothing
      unfold fails
      rw [hnothing]
      exact ⟨rfl, rfl, rfl⟩
    refine ⟨hwithin, fun i hi hfits hfirst => ?_, hfails, fun hall => hfails fun i _ hfit => ?_⟩
    · obtain ⟨hresult, hassigner, hstore⟩ := draw_of_first hsize hi hfits hfirst ports store l
      rw [hdraw]
      refine ⟨hresult, fun k => ?_, hstore⟩
      rw [hassigner]
      exact issued_issue a l k (drawn i)
    · obtain ⟨k, hk⟩ := hall (drawn i) (hwithin i)
      exact hfit.1 k hk
  · have hlookup := lookup_of_result_store hstore
    have hanswer : answer = { result := .refused (.store e), assigner := a, store } := by
      simp only [answer, resolve, hlookup]
    rw [hanswer]
    exact ⟨rfl, rfl⟩
  · obtain ⟨hresult, hassigner⟩ := resolve_of_save ports save
    exact ⟨hresult, congrArg issued hassigner⟩
  · exact ⟨fun n => (draws n).toNat - a.drawing.range.first.toNat, fun _ n =>
      PortRange.pick_of_contains (hdraws n)⟩

/-- A draw for a workspace between two that hold ports, when the port after theirs cannot be bound
and what is drawn cannot be saved; and a request when the only port of the range is issued. -/
theorem first_fit_unsaved :
    let web := SmallRun.web.localId
    let db := SmallRun.db.localId
    let sampler : Sampler := { number := id, bindable := fun _ p => p != 30001 }
    let store : PinTable := { saveFaults := .ofList [(web, "read-only")] }
    let a : Assigner :=
      { issued := .ofList [(db, (30000 : UInt16))], drawing := { range := ⟨30000, 30003⟩ } }
    let full : Assigner := { a with drawing := { range := ⟨30000, 30001⟩ } }
    let answer := a.resolve PinTable.asStore sampler web store
    (answer.result = .port 30002 ∧ answer.assigner.issued[web]? = some 30002 ∧
      answer.assigner.issued[db]? = some 30000 ∧ answer.store.pins[web]? = none) ∧
    (full.resolve PinTable.asStore sampler web store).result = .refused (.exhausted 64) := by
  intro web db sampler store a full answer
  have hlookup : store.lookup web = .ok none := PinTable.lookup_eq_ok.mpr (by decide +kernel)
  have hissued : a.issued[web]? = none := by decide +kernel
  have hdb : db ≠ web := by decide
  have hheld : a.issued[db]? = some 30000 := by decide +kernel
  have hport : a.drawnPort sampler (a.drawn + 2) = 30002 := by decide +kernel
  constructor
  · obtain ⟨hdraws, -⟩ := first_fit PinTable.asStore sampler web a store
    obtain ⟨-, hfirst, -⟩ := hdraws ⟨hlookup, hissued⟩ (by decide)
    obtain ⟨hresult, hissued, hstore⟩ :=
      hfirst 2 (by decide) (by decide +kernel) (by decide +kernel)
    simp only [hport] at hresult hissued hstore
    refine ⟨hresult, ?_, ?_, ?_⟩
    · rw [hissued, if_pos rfl]
    · rw [hissued, if_neg hdb, hheld]
    · rw [hstore]
      decide +kernel
  · obtain ⟨hdraws, -⟩ := first_fit PinTable.asStore sampler web full store
    obtain ⟨-, -, -, hfull⟩ := hdraws ⟨hlookup, hissued⟩ (by decide)
    refine (hfull fun p hp => ⟨db, ?_⟩).1
    have hp' : p = 30000 := by
      simp only [full, PortRange.contains, Bool.and_eq_true, decide_eq_true_eq,
        UInt16.le_iff_toNat_le, UInt16.lt_iff_toNat_lt] at hp
      have h : p.toNat = 30000 := by
        have h₁ : 30000 ≤ p.toNat := hp.1
        have h₂ : p.toNat < 30001 := hp.2
        omega
      exact UInt16.toNat_inj.mp h
    rw [hp']
    decide +kernel

end Assigner

/-! ## Ranges without a port -/

namespace PortRun

variable {σ : Type}

/-- Ports are drawn in the same way throughout a run. -/
theorem drawing_after (ports : PortStore σ) (r : PortRun σ) (events : List (PortEvent σ)) :
    (r.after ports events).assigner.drawing = r.assigner.drawing := by
  induction events generalizing r with
  | nil => rfl
  | cons e events ih =>
    refine (ih (e.apply ports r)).trans ?_
    cases e with
    | reserve ws => exact Assigner.drawing_reserve ports r.store r.assigner ws
    | resolve sampler l => exact Assigner.drawing_resolve ports sampler l r.assigner r.store
    | storeChanged store => rfl

/-- When a request ends without an answer, for any range and any limit that are asked for and at
any point of a run: only if the range is to begin with the last port of all, and the local id has
neither a pin nor a port that was claimed for it or given to it before. Such a request leaves the
assigner and the store as they were. Every other range has a port to draw, and every request in its
run is answered with a port or with an error. -/
theorem aborted_iff (ports : PortStore σ) (d : Drawing) (first bound : UInt16) (limit : Nat)
    (store : σ) (events : List (PortEvent σ)) (sampler : Sampler) (l : LocalId) :
    let r := (fresh ((d.withRange first bound).withMaxAttempts limit) store).after ports events
    let range := r.assigner.drawing.range
    let answer := r.assigner.resolve ports sampler l r.store
    (range.first < range.bound ↔ first ≠ 65535) ∧
    (answer.result = .aborted ↔
      first = 65535 ∧ ports.lookup r.store l = .ok none ∧ r.lastGrant? l = none) ∧
    (answer.result = .aborted → answer.assigner = r.assigner ∧ answer.store = r.store) ∧
    (first ≠ 65535 → (∃ p, answer.result = .port p) ∨ ∃ e, answer.result = .refused e) := by
  intro r range answer
  have hissued : r.assigner.issued[l]? = r.lastGrant? l :=
    issued_after_fresh ports _ store events l
  have hrange : range = .atLeastOne first bound :=
    congrArg Drawing.range (drawing_after ports _ events)
  have hempty : range.size = 0 ↔ first = 65535 := by
    rw [hrange]
    exact PortRange.size_atLeastOne_eq_zero_iff
  have haborted : answer.result = .aborted ↔
      r.assigner.NeedsDraw ports r.store l ∧ range.size = 0 := Assigner.result_eq_aborted_iff
  refine ⟨?_, ?_, fun h => ?_, fun hfirst => ?_⟩
  · rw [← PortRange.size_ne_zero_iff, ne_eq, hempty]
  · rw [haborted, hempty, Assigner.NeedsDraw, hissued, and_comm]
  · obtain ⟨hneeds, hsize⟩ := haborted.mp h
    have hanswer : answer = { result := .aborted, assigner := r.assigner, store := r.store } :=
      (Assigner.resolve_of_needsDraw hneeds).trans (if_pos hsize)
    rw [hanswer]
    exact ⟨rfl, rfl⟩
  · cases hresult : answer.result with
    | port p => exact .inl ⟨p, rfl⟩
    | refused e => exact .inr ⟨e, rfl⟩
    | aborted => exact absurd (hempty.mp (haborted.mp hresult).2) hfirst

/-- It is not true that every range that is asked for has a port to draw. -/
theorem range_not_always_repaired :
    ¬∀ (first bound : UInt16) (limit : Nat) (l : LocalId),
      let a : Assigner := { drawing := (Drawing.withRange {} first bound).withMaxAttempts limit }
      (a.resolve PinTable.asStore SmallRun.inTurn l {}).result ≠ .aborted := by
  intro hclaim
  exact hclaim 65535 65535 64 SmallRun.web.localId (by decide +kernel)

end PortRun

end TunnelFleet
