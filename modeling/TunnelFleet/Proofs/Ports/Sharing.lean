import Mathlib.Data.List.Induction
import TunnelFleet.Ports.Run
import TunnelFleet.Proofs.Ports.Resolution

/-!
# Ports that two local ids share

A draw never comes out at a port that is issued already. So two local ids can only come to
hold the same port when the store has it pinned for the later one of them, and then the
claim says so in the log. The main statement goes back in the run, from the state in which
the port is shared to the very event that made it so.
-/

namespace TunnelFleet

namespace Assigner

variable {σ : Type} {ports : PortStore σ} {sampler : Sampler} {a : Assigner} {store : σ}
  {l k : LocalId} {p : UInt16}

/-- Two local ids hold the same port. -/
def Shares (a : Assigner) (l k : LocalId) (p : UInt16) : Prop :=
  a.issued[l]? = some p ∧ a.issued[k]? = some p

/-- A claim for one of two local ids that makes them share a port, and says so: the store has
the port pinned for it, and another local id is named as a holder. -/
def ClaimsShared (ports : PortStore σ) (store : σ) (l k : LocalId) (p : UInt16) (x : LocalId)
    (lines : List LogLine) : Prop :=
  (x = l ∨ x = k) ∧ ports.lookup store x = .ok (some p) ∧
    ∃ other, other ≠ x ∧ shared x p other ∈ lines

/-- What a request draws is issued to nobody. -/
theorem issued_ne_of_draw (hneeds : a.NeedsDraw ports store l)
    (hp : (a.resolve ports sampler l store).result = .port p) (k : LocalId) :
    a.issued[k]? ≠ some p := by
  obtain ⟨hfree, -⟩ := resolve_of_draw hneeds hp
  intro hk
  rw [isIssued_iff.mpr ⟨k, hk⟩] at hfree
  cases hfree

/-- A claim that makes two local ids share a port says so. -/
theorem claimsShared_of_claim {x : LocalId} {q : UInt16} (hne : l ≠ k)
    (hlookup : ports.lookup store x = .ok (some q)) (hbefore : ¬ a.Shares l k p)
    (hafter : (a.claim x q).1.Shares l k p) :
    ClaimsShared ports store l k p x (a.claim x q).2 := by
  obtain ⟨rfl, ⟨rfl, hk⟩ | ⟨rfl, hl⟩⟩ :=
    had_of_set hne (fun y => a.issued_claim x y q) hbefore hafter.1 hafter.2
  · exact ⟨.inl rfl, hlookup, exists_shared_mem_claim hk hne.symm⟩
  · exact ⟨.inr rfl, hlookup, exists_shared_mem_claim hl hne⟩

/-- If two local ids share a port once pins were set aside, then one of the claims made them
share it, and said so. -/
theorem claimsShared_of_reserve {ws : List Workspace} (hne : l ≠ k) (hbefore : ¬ a.Shares l k p)
    (hafter : (reserve ports store a ws).1.Shares l k p) :
    ∃ w ∈ ws, ClaimsShared ports store l k p w.localId (reserve ports store a ws).2 := by
  induction ws generalizing a with
  | nil => exact absurd hafter hbefore
  | cons w ws ih =>
    have hlines : (reserve ports store a (w :: ws)).2 =
        (reserveOne ports store a w.localId).2 ++
          (reserve ports store (reserveOne ports store a w.localId).1 ws).2 := rfl
    by_cases hone : (reserveOne ports store a w.localId).1.Shares l k p
    · refine ⟨w, List.mem_cons_self, ?_⟩
      unfold reserveOne at hone hlines
      cases hlookup : ports.lookup store w.localId with
      | error e =>
        rw [hlookup] at hone
        exact absurd hone hbefore
      | ok pin =>
        cases pin with
        | none =>
          rw [hlookup] at hone
          exact absurd hone hbefore
        | some q =>
          rw [hlookup] at hone hlines
          obtain ⟨hx, hpin, other, hother, hmem⟩ :=
            claimsShared_of_claim hne hlookup hbefore hone
          exact ⟨hx, hpin, other, hother, hlines ▸ List.mem_append_left _ hmem⟩
    · obtain ⟨w', hw', hx, hpin, other, hother, hmem⟩ := ih hone hafter
      exact ⟨w', List.mem_cons_of_mem _ hw', hx, hpin, other, hother,
        hlines ▸ List.mem_append_right _ hmem⟩

/-- If two local ids share a port after a request, then the request claimed it for one of
them, and said so. -/
theorem claimsShared_of_resolve {x : LocalId} (hne : l ≠ k) (hbefore : ¬ a.Shares l k p)
    (hafter : (a.resolve ports sampler x store).assigner.Shares l k p) :
    ClaimsShared ports store l k p x (a.resolve ports sampler x store).logs := by
  obtain ⟨e, -, hresolve⟩ | ⟨q, hlookup, hresolve⟩ | ⟨q, -, -, hresolve⟩ | ⟨hneeds, hresolve⟩ :=
    resolve_cases ports sampler x a store
  · rw [hresolve] at hafter
    exact absurd hafter hbefore
  · rw [hresolve] at hafter ⊢
    exact claimsShared_of_claim hne hlookup hbefore hafter
  · rw [hresolve] at hafter
    exact absurd hafter hbefore
  · -- A draw would have had to come out at a port that the other local id holds.
    exfalso
    have hissued := issued_resolve ports sampler x a store
    cases hport : (a.resolve ports sampler x store).result.port? with
    | none =>
      have hsame : ∀ y : LocalId,
          (a.resolve ports sampler x store).assigner.issued[y]? = a.issued[y]? := by
        intro y
        rw [hissued, hport]
        split <;> rfl
      exact hbefore ⟨(hsame l).symm.trans hafter.1, (hsame k).symm.trans hafter.2⟩
    | some q =>
      have hdrawn := Resolution.port?_eq_some.mp hport
      simp only [hport, Option.some_or] at hissued
      obtain ⟨rfl, ⟨-, hk⟩ | ⟨-, hl⟩⟩ := had_of_set hne hissued hbefore hafter.1 hafter.2
      · exact issued_ne_of_draw hneeds hdrawn k hk
      · exact issued_ne_of_draw hneeds hdrawn l hl

end Assigner

namespace PortRun

variable {σ : Type} {ports : PortStore σ} {r : PortRun σ} {l k : LocalId} {p : UInt16}

/-- The event that makes two local ids share a port is about one of them and claims the port
for it, and this is in what it adds to the log. -/
theorem claimsShared_of_apply {e : PortEvent σ} (hne : l ≠ k)
    (hbefore : ¬ r.assigner.Shares l k p) (hafter : (e.apply ports r).assigner.Shares l k p) :
    ∃ x lines, e.Concerns x ∧ (e.apply ports r).logs = r.logs ++ lines ∧
      Assigner.ClaimsShared ports r.store l k p x lines := by
  cases e with
  | reserve ws =>
    obtain ⟨w, hw, hclaims⟩ := Assigner.claimsShared_of_reserve hne hbefore hafter
    exact ⟨w.localId, _, ⟨w, hw, rfl⟩, rfl, hclaims⟩
  | resolve sampler x =>
    exact ⟨x, _, rfl, rfl, Assigner.claimsShared_of_resolve hne hbefore hafter⟩
  | storeChanged store => exact absurd hafter hbefore

theorem after_concat (ports : PortStore σ) (r : PortRun σ) (events : List (PortEvent σ))
    (e : PortEvent σ) : r.after ports (events ++ [e]) = e.apply ports (r.after ports events) := by
  simp [after]

/-- In a run, whatever the store does meanwhile, a draw never comes out at a port that is issued
to another local id. And if two local ids hold the same port, then the run can be traced back
to the event since which they do: it claimed the port for one of the two because the store had
it pinned, and it logged that the port is also used by another local id. -/
theorem shared_ports_warned (ports : PortStore σ) (drawing : Drawing) (store : σ)
    (events : List (PortEvent σ)) :
    let r := (fresh drawing store).after ports events
    (∀ (sampler : Sampler) (l : LocalId) (p : UInt16), r.assigner.NeedsDraw ports r.store l →
      (r.assigner.resolve ports sampler l r.store).result = .port p →
      ∀ k, k ≠ l → r.assigner.issued[k]? ≠ some p) ∧
    ∀ (l k : LocalId) (p : UInt16), l ≠ k → r.assigner.Shares l k p →
      ∃ before e after, events = before ++ e :: after ∧
        let u := (fresh drawing store).after ports before
        let v := e.apply ports u
        ¬ u.assigner.Shares l k p ∧
        (∀ begun, begun <+: after → (v.after ports begun).assigner.Shares l k p) ∧
        ∃ x lines, e.Concerns x ∧ v.logs = u.logs ++ lines ∧
          Assigner.ClaimsShared ports u.store l k p x lines := by
  intro r
  refine ⟨fun sampler l p hneeds hp k _ => Assigner.issued_ne_of_draw hneeds hp k, ?_⟩
  intro l k p hne hshares
  -- Go back event by event, as long as the port was shared already.
  induction events using List.reverseRecOn with
  | nil => simp [r, after, fresh, Assigner.Shares] at hshares
  | append_singleton events e ih =>
    by_cases hbefore : ((fresh drawing store).after ports events).assigner.Shares l k p
    · obtain ⟨before, e', after, rfl, hfirst, hsince, hclaims⟩ := ih hbefore
      refine ⟨before, e', after ++ [e], by simp, hfirst, ?_, hclaims⟩
      intro begun hbegun
      rcases List.prefix_concat_iff.mp hbegun with rfl | hbegun
      · simpa [r, PortRun.after] using hshares
      · exact hsince begun hbegun
    · have hafter : (e.apply ports ((fresh drawing store).after ports events)).assigner.Shares
          l k p := by
        rwa [← after_concat]
      refine ⟨events, e, [], rfl, hbefore, ?_, claimsShared_of_apply hne hbefore hafter⟩
      intro begun hbegun
      obtain rfl := List.prefix_nil.mp hbegun
      exact hafter

/-- Somebody pins a workspace to the port that another one has drawn, and it is set aside. -/
theorem shared_ports_warned_pinned_later :
    let web := SmallRun.web.localId
    let db := SmallRun.db.localId
    let table : PinTable := { pins := .ofList [(web, (30000 : UInt16)), (db, 30000)] }
    let events : List (PortEvent PinTable) :=
      [.resolve SmallRun.inTurn web, .storeChanged table, .reserve [SmallRun.db]]
    let start := fresh SmallRun.twoPorts {}
    web ≠ db ∧ (start.after PinTable.asStore events).assigner.Shares web db 30000 ∧
    ∃ before e after, events = before ++ e :: after ∧
      let u := start.after PinTable.asStore before
      ∃ x lines, (e.apply PinTable.asStore u).logs = u.logs ++ lines ∧
        Assigner.ClaimsShared PinTable.asStore u.store web db 30000 x lines := by
  intro web db table events start
  have hne : web ≠ db := by decide +kernel
  have hshares : (start.after PinTable.asStore events).assigner.Shares web db 30000 := by
    constructor <;> decide +kernel
  obtain ⟨-, htraced⟩ := shared_ports_warned PinTable.asStore SmallRun.twoPorts {} events
  obtain ⟨before, e, after, hevents, -, -, x, lines, -, hlogs, hclaims⟩ :=
    htraced web db 30000 hne hshares
  exact ⟨hne, hshares, before, e, after, hevents, x, lines, hlogs, hclaims⟩

end PortRun

end TunnelFleet
