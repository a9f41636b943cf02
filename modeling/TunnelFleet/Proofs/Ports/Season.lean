import Mathlib.Logic.Relation
import TunnelFleet.Proofs.Ports.Sharing

/-!
# Ports drawn in different runs

What is drawn in one run is saved for the next, but an assigner knows only the ports of its
own run: those that it drew and the pins that it set aside for its own workspaces. So a
port that is drawn in one run may be drawn again in another one that is not about the same
workspaces. This is the only way in which two local ids come to be pinned to the same port
when nobody pins a port by hand.
-/

namespace TunnelFleet

/-- Runs over one and the same store, one after the other: how things stand in the current
one. -/
structure Season (σ : Type) where
  /-- The workspaces that the current run is about. -/
  workspaces : List Workspace := []
  assigner : Assigner := {}
  /-- The store when the current run began and set the pins of its workspaces aside. -/
  outset : σ
  store : σ

namespace Season

variable {σ : Type}

/-- Begins a run: a new assigner sets the pins of its workspaces aside. -/
def begin (ports : PortStore σ) (drawing : Drawing) (ws : List Workspace) (s : Season σ) :
    Season σ where
  workspaces := ws
  assigner := (Assigner.reserve ports s.store { drawing } ws).1
  outset := s.store
  store := s.store

/-- Asks for the port of a local id in the current run. -/
def resolve (ports : PortStore σ) (sampler : Sampler) (l : LocalId) (s : Season σ) : Season σ :=
  let answered := s.assigner.resolve ports sampler l s.store
  { s with assigner := answered.assigner, store := answered.store }

/-- A request for the port of a local id draws this port. -/
def Draws (ports : PortStore σ) (sampler : Sampler) (s : Season σ) (l : LocalId) (p : UInt16) :
    Prop :=
  s.assigner.NeedsDraw ports s.store l ∧
    (s.assigner.resolve ports sampler l s.store).result = .port p

/-- The current run did not set the pin of a local id aside: it is not about it, or the lookup
failed. -/
def PassesOver (ports : PortStore σ) (s : Season σ) (l : LocalId) : Prop :=
  (∀ w ∈ s.workspaces, w.localId ≠ l) ∨ ∃ e, ports.lookup s.outset l = .error e

/-- One step of a season in which only draws pin ports and every save succeeds. `pins` tells
the pins that a store holds, whether or not they can be looked up at the moment. -/
inductive Step (ports : PortStore σ) (pins : σ → LocalId → Option UInt16) :
    Season σ → Season σ → Prop
  | begin (s : Season σ) (drawing : Drawing) (ws : List Workspace) :
      Step ports pins s (s.begin ports drawing ws)
  /-- A workspace of the run asks for its port. A draw pins it. -/
  | resolve (s : Season σ) (sampler : Sampler) (w : Workspace) (hw : w ∈ s.workspaces)
      (hsaves : ∀ p, s.Draws ports sampler w.localId p → ∀ k,
        pins (s.resolve ports sampler w.localId).store k =
          if k = w.localId then some p else pins s.store k) :
      Step ports pins s (s.resolve ports sampler w.localId)
  /-- Other lookups fail than before. -/
  | lookupsChange (s : Season σ) (store : σ) (hpins : ∀ k, pins store k = pins s.store k) :
      Step ports pins s { s with store }

/-- What may come of a season in which only draws pin ports and every save succeeds. -/
abbrev Leads (ports : PortStore σ) (pins : σ → LocalId → Option UInt16) :
    Season σ → Season σ → Prop :=
  Relation.ReflTransGen (Step ports pins)

variable {ports : PortStore σ} {pins : σ → LocalId → Option UInt16} {s t start : Season σ}
  {l k : LocalId} {p : UInt16}

/-- Every pin that the current run did not pass over is issued in it. -/
def Aware (ports : PortStore σ) (pins : σ → LocalId → Option UInt16) (s : Season σ) : Prop :=
  ∀ l p, pins s.store l = some p → s.assigner.issued[l]? = some p ∨ s.PassesOver ports l

/-- A new run sets the pins of its workspaces aside as far as they can be looked up. -/
theorem aware_begin (htells : ∀ store l pin, ports.lookup store l = .ok pin → pins store l = pin)
    (drawing : Drawing) (ws : List Workspace) : (s.begin ports drawing ws).Aware ports pins := by
  intro l p hl
  by_cases hmem : ∃ w ∈ ws, w.localId = l
  · cases hlookup : ports.lookup s.store l with
    | error e => exact .inr (.inr ⟨e, hlookup⟩)
    | ok pin =>
      have hpin : pin = some p := (htells _ _ _ hlookup).symm.trans hl
      subst hpin
      refine .inl ((Assigner.issued_reserve ports s.store { drawing } ws l).trans ?_)
      rw [if_pos hmem, PortStore.pin?_eq_some.mpr hlookup]
      rfl
  · exact .inr (.inl fun w hw hwl => hmem ⟨w, hw, hwl⟩)

/-- A request sets or changes no pin but the one that it draws. -/
theorem pins_resolve (sampler : Sampler) (l : LocalId)
    (hsaves : ∀ p, s.Draws ports sampler l p → ∀ k,
      pins (s.resolve ports sampler l).store k = if k = l then some p else pins s.store k) :
    (∀ k, pins (s.resolve ports sampler l).store k = pins s.store k) ∨
      ∃ p, s.Draws ports sampler l p ∧ ∀ k,
        pins (s.resolve ports sampler l).store k = if k = l then some p else pins s.store k := by
  rcases Assigner.store_resolve ports sampler l s.assigner s.store with hsame | ⟨p, hdraws⟩
  · exact .inl fun k => congrArg (pins · k) hsame
  · exact .inr ⟨p, hdraws, hsaves p hdraws⟩

/-- A request keeps the current run aware of the pins. -/
theorem Aware.resolve (hs : s.Aware ports pins)
    (htells : ∀ store l pin, ports.lookup store l = .ok pin → pins store l = pin)
    (sampler : Sampler) (l : LocalId)
    (hsaves : ∀ p, s.Draws ports sampler l p → ∀ k,
      pins (s.resolve ports sampler l).store k = if k = l then some p else pins s.store k) :
    (s.resolve ports sampler l).Aware ports pins := by
  intro k q hk
  rcases pins_resolve sampler l hsaves with hsame | ⟨p, hdraws, hset⟩
  · rw [hsame] at hk
    rcases hs k q hk with hissued | hover
    · refine .inl (Assigner.issued_resolve_of_pin hissued (fun q' hlookup => ?_) sampler l)
      exact Option.some.inj ((htells _ _ _ hlookup).symm.trans hk)
    · exact .inr hover
  · rw [hset] at hk
    have hissued := Assigner.issued_resolve ports sampler l s.assigner s.store k
    by_cases hkl : k = l
    · rw [if_pos hkl] at hk hissued
      obtain rfl := Option.some.inj hk
      rw [hdraws.2] at hissued
      exact .inl hissued
    · rw [if_neg hkl] at hk hissued
      rcases hs k q hk with hheld | hover
      · exact .inl (hissued.trans hheld)
      · exact .inr hover

/-- In a season in which only draws pin ports, every run is aware of all pins but those that it
passed over. -/
theorem Leads.aware (h : Leads ports pins start s)
    (htells : ∀ store l pin, ports.lookup store l = .ok pin → pins store l = pin)
    (hempty : ∀ l, pins start.store l = none) : s.Aware ports pins := by
  induction h with
  | refl =>
    intro l p hl
    rw [hempty] at hl
    cases hl
  | tail _ hstep ih =>
    cases hstep with
    | begin drawing ws => exact aware_begin htells drawing ws
    | resolve sampler w hw hsaves => exact ih.resolve htells sampler w.localId hsaves
    | lookupsChange store hpins =>
      intro l p hl
      exact ih l p ((hpins l).symm.trans hl)

/-- If in a season in which only draws pin ports and every save succeeds two local ids have the
same port in the store, then one of them drew it when the other one had it already, in a run
that had passed the other one over: the run was not about it, or could not look it up when it
set the pins of its workspaces aside. -/
theorem Leads.shared_pin_passed_over (h : Leads ports pins start s)
    (htells : ∀ store l pin, ports.lookup store l = .ok pin → pins store l = pin)
    (hempty : ∀ l, pins start.store l = none) (hne : l ≠ k)
    (hl : pins s.store l = some p) (hk : pins s.store k = some p) :
    ∃ (u : Season σ) (sampler : Sampler) (x y : LocalId),
      (x = l ∧ y = k ∨ x = k ∧ y = l) ∧ Leads ports pins start u ∧
      (∃ w ∈ u.workspaces, w.localId = x) ∧ u.Draws ports sampler x p ∧
      pins u.store y = some p ∧ u.PassesOver ports y ∧
      Leads ports pins (u.resolve ports sampler x) s := by
  induction h with
  | refl =>
    rw [hempty] at hl
    cases hl
  | @tail s t hlead hstep ih =>
    by_cases hbefore : pins s.store l = some p ∧ pins s.store k = some p
    · obtain ⟨u, sampler, x, y, hxy, hu, hmem, hdraws, hy, hover, hafter⟩ :=
        ih hbefore.1 hbefore.2
      exact ⟨u, sampler, x, y, hxy, hu, hmem, hdraws, hy, hover, hafter.tail hstep⟩
    · cases hstep with
      | begin drawing ws => exact absurd ⟨hl, hk⟩ hbefore
      | lookupsChange store hpins =>
        exact absurd ⟨(hpins l).symm.trans hl, (hpins k).symm.trans hk⟩ hbefore
      | resolve sampler w hw hsaves =>
        rcases pins_resolve sampler w.localId hsaves with hsame | ⟨q, hdraws, hset⟩
        · exact absurd ⟨(hsame l).symm.trans hl, (hsame k).symm.trans hk⟩ hbefore
        · -- The run cannot have known that the other local id has the port it draws.
          have hover : ∀ y, pins s.store y = some q → s.PassesOver ports y := by
            intro y hy
            rcases Leads.aware hlead htells hempty y q hy with hissued | hover
            · exact absurd hissued (Assigner.issued_ne_of_draw hdraws.1 hdraws.2 y)
            · exact hover
          obtain ⟨rfl, ⟨hx, hy⟩ | ⟨hx, hy⟩⟩ := Assigner.had_of_set hne hset hbefore hl hk
          · exact ⟨s, sampler, w.localId, k, .inl ⟨hx, rfl⟩, hlead, ⟨w, hw, rfl⟩, hdraws, hy,
              hover k hy, .refl⟩
          · exact ⟨s, sampler, w.localId, l, .inr ⟨hx, rfl⟩, hlead, ⟨w, hw, rfl⟩, hdraws, hy,
              hover l hy, .refl⟩

/-- In a table that keeps what is saved, a draw pins what it draws. -/
theorem pins_of_draws {s : Season PinTable} {sampler : Sampler} (hkeeps : s.store.keeps = true)
    (hfault : s.store.saveFaults[l]? = none) (hdraws : s.Draws PinTable.asStore sampler l p)
    (k : LocalId) :
    (s.resolve PinTable.asStore sampler l).store.pins[k]? =
      if k = l then some p else s.store.pins[k]? := by
  obtain ⟨-, n, hresolve⟩ := Assigner.resolve_of_draw hdraws.1 hdraws.2
  have hstore : (s.resolve PinTable.asStore sampler l).store = (s.store.save l p).2 :=
    congrArg Resolved.store hresolve
  rw [hstore]
  exact PinTable.pins_save hkeeps hfault p k

end Season

namespace SmallRun

/-- One port to draw from, which can be bound. -/
def onePort : Drawing := { Drawing.usual with range := ⟨30000, 30001⟩, checksBind := false }

/-- Runs over an empty table, before the first one. -/
def start : Season PinTable := { outset := {}, store := {} }

/-- After a run about `web`, in which it has drawn the port. -/
def webHasDrawn : Season PinTable :=
  (start.begin PinTable.asStore onePort [web]).resolve PinTable.asStore inTurn web.localId

/-- After another run, about `db`, in which it has drawn the port too. -/
def bothHaveDrawn : Season PinTable :=
  (webHasDrawn.begin PinTable.asStore onePort [db]).resolve PinTable.asStore inTurn db.localId

theorem leads_bothHaveDrawn :
    Season.Leads PinTable.asStore (fun t l => t.pins[l]?) start bothHaveDrawn := by
  have hfirst : Season.Leads PinTable.asStore (fun t l => t.pins[l]?) start webHasDrawn := by
    refine .tail (.single (.begin start onePort [web])) ?_
    refine .resolve _ inTurn web List.mem_cons_self fun p hdraws => ?_
    exact Season.pins_of_draws rfl (by decide +kernel) hdraws
  refine .tail (hfirst.tail (.begin webHasDrawn onePort [db])) ?_
  refine .resolve _ inTurn db List.mem_cons_self fun p hdraws => ?_
  exact Season.pins_of_draws (by decide +kernel) (by decide +kernel) hdraws

end SmallRun

namespace Season

/-- Two workspaces that have drawn the same port. -/
theorem shared_pin_passed_over_by_run :
    let s := SmallRun.bothHaveDrawn
    let web := SmallRun.web.localId
    let db := SmallRun.db.localId
    let pins := fun (t : PinTable) (l : LocalId) => t.pins[l]?
    web ≠ db ∧ pins s.store web = some 30000 ∧ pins s.store db = some 30000 ∧
    ∃ (u : Season PinTable) (sampler : Sampler) (x y : LocalId),
      (x = web ∧ y = db ∨ x = db ∧ y = web) ∧ u.Draws PinTable.asStore sampler x 30000 ∧
      pins u.store y = some 30000 ∧ u.PassesOver PinTable.asStore y := by
  intro s web db pins
  have hne : web ≠ db := by decide +kernel
  have hweb : pins s.store web = some 30000 := by decide +kernel
  have hdb : pins s.store db = some 30000 := by decide +kernel
  have htells : ∀ (t : PinTable) l pin, PinTable.asStore.lookup t l = .ok pin → pins t l = pin :=
    fun t l pin hlookup => (PinTable.lookup_eq_ok.mp hlookup).2
  have hempty : ∀ l, pins SmallRun.start.store l = none := fun l =>
    Std.ExtTreeMap.getElem?_empty
  obtain ⟨u, sampler, x, y, hxy, -, -, hdraws, hy, hover, -⟩ :=
    Leads.shared_pin_passed_over SmallRun.leads_bothHaveDrawn htells hempty hne hweb hdb
  exact ⟨hne, hweb, hdb, u, sampler, x, y, hxy, hdraws, hy, hover⟩

/-- It is not true that drawn ports are unique in the store if only draws pin ports and every
save succeeds. -/
theorem drawn_pins_not_unique :
    ¬ ∀ (start s : Season PinTable) (l k : LocalId) (p : UInt16),
      (∀ l : LocalId, start.store.pins[l]? = none) →
      Leads PinTable.asStore (fun t l => t.pins[l]?) start s → l ≠ k →
      s.store.pins[l]? = some p → s.store.pins[k]? ≠ some p := by
  intro hunique
  have hne : SmallRun.web.localId ≠ SmallRun.db.localId := by decide +kernel
  have hweb : SmallRun.bothHaveDrawn.store.pins[SmallRun.web.localId]? = some 30000 := by
    decide +kernel
  have hdb : SmallRun.bothHaveDrawn.store.pins[SmallRun.db.localId]? = some 30000 := by
    decide +kernel
  exact hunique SmallRun.start SmallRun.bothHaveDrawn _ _ _
    (fun l => Std.ExtTreeMap.getElem?_empty) SmallRun.leads_bothHaveDrawn hne hweb hdb

end Season

end TunnelFleet
