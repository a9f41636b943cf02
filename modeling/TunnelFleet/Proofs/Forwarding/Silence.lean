import Mathlib.Data.List.Nodup
import Mathlib.Data.List.Perm.Subperm
import Mathlib.Logic.Relation
import TunnelFleet.Forwarding.Forwarder
import TunnelFleet.Proofs.Supervision.SessionEnd

/-!
# What a cancelled session still reports

A cancelled session ends without a word where it heeds the cancellation: while it
waits for a connection, and in each relay that copies a stream. A relay that still
dials the workspace does not heed it, and reports the dial that fails. This file says
which reports a session can still make, from any of its states, and shows that a
cancelled session is silent just if no relay dials and its port is closed.
-/

namespace TunnelFleet

/-- An element changed in place is not told apart by what the change leaves alone. -/
theorem map_replace {α β : Type} [BEq α] [LawfulBEq α] (f : α → β) {a b : α} (h : f b = f a)
    (l : List α) : (l.replace a b).map f = l.map f := by
  induction l with
  | nil => rfl
  | cons x xs ih =>
    rw [List.replace_cons]
    cases heq : a == x with
    | true => rw [List.map_cons, List.map_cons, h, eq_of_beq heq]
    | false => rw [List.map_cons, List.map_cons, ih]

/-- A list with an element changed in place has no other new member. -/
theorem mem_of_mem_replace {α : Type} [BEq α] [LawfulBEq α] {a b x : α} {l : List α}
    (h : x ∈ l.replace a b) (hne : x ≠ b) : x ∈ l := by
  induction l with
  | nil => exact h
  | cons y ys ih =>
    rw [List.replace_cons] at h
    cases heq : a == y with
    | true =>
      rw [heq] at h
      exact List.mem_cons_of_mem _ ((List.mem_cons.mp h).resolve_left hne)
    | false =>
      rw [heq] at h
      rcases List.mem_cons.mp h with rfl | h
      · exact List.mem_cons_self
      · exact List.mem_cons_of_mem _ (ih h)

namespace Forwarder

variable {f g : Forwarder} {n : Nat}

/-- A run leads from one state to another. -/
def Leads : Forwarder → Forwarder → Prop :=
  Relation.ReflTransGen fun f g => ∃ e : ForwardEvent, f.apply e = some g

theorem Leads.of_apply (e : ForwardEvent) (h : f.apply e = some g) : f.Leads g := .single ⟨e, h⟩

/-- Whether the local port is closed for good. -/
def isClosed (f : Forwarder) : Bool :=
  match f.phase with
  | .draining | .returned _ => true
  | _ => false

/-- The report of the relay with this number that its dial has failed. -/
def dialReport (f : Forwarder) (n : Nat) (reason : String) : RelayReport :=
  ⟨n, some f.session.localId, (ProviderError.unreachable f.remote reason).message⟩

/-- Whether a relay with this number dials the workspace, or may still come to. -/
def MayDial (f : Forwarder) (n : Nat) : Prop :=
  ⟨n, .connecting⟩ ∈ f.relays ∨ f.isClosed = false ∧ f.acceptedCount ≤ n

/-- Whatever happens next, the session reports nothing more. -/
def Silent (f : Forwarder) : Prop := ∀ g, f.Leads g → g.reports = f.reports

/-! ## What an event does -/

/-- The relay that is found is the one that was asked for. -/
theorem eq_of_relay? {phase : RelayPhase} {r : Relay} (h : f.relay? n phase = some r) :
    r = ⟨n, phase⟩ := by
  have hfound := List.find?_some h
  obtain ⟨rfl, rfl⟩ : r.number = n ∧ r.phase = phase := by simpa using hfound
  rfl

theorem relay?_eq_some_iff {phase : RelayPhase} {r : Relay} :
    f.relay? n phase = some r ↔ r = ⟨n, phase⟩ ∧ ⟨n, phase⟩ ∈ f.relays := by
  constructor
  · intro h
    have heq := eq_of_relay? h
    exact ⟨heq, heq ▸ List.mem_of_find?_eq_some h⟩
  · rintro ⟨rfl, hmem⟩
    have hsome : (f.relay? n phase).isSome := by
      rw [relay?, List.find?_isSome]
      exact ⟨_, hmem, by simp⟩
    obtain ⟨r, hr⟩ := Option.isSome_iff_exists.mp hsome
    rw [hr, eq_of_relay? hr]

/-- What an event does to the relays and to the reports. -/
inductive Effect (f g : Forwarder) : Prop
  | nothing (hrelays : g.relays = f.relays) (hcount : g.acceptedCount = f.acceptedCount)
      (hreports : g.reports = f.reports)
  /-- A connection is accepted, and a relay dials the workspace for it. -/
  | accepts (hopen : f.isClosed = false)
      (hrelays : g.relays = f.relays ++ [⟨f.acceptedCount, .connecting⟩])
      (hcount : g.acceptedCount = f.acceptedCount + 1) (hreports : g.reports = f.reports)
  /-- A dial comes about. -/
  | connects (n : Nat) (hrelays : g.relays = f.relays.replace ⟨n, .connecting⟩ ⟨n, .copying⟩)
      (hcount : g.acceptedCount = f.acceptedCount) (hreports : g.reports = f.reports)
  /-- A relay stops copying. -/
  | ends (n : Nat) (hrelays : g.relays = f.relays.erase ⟨n, .copying⟩)
      (hcount : g.acceptedCount = f.acceptedCount) (hreports : g.reports = f.reports)
  /-- A dial fails. -/
  | fails (n : Nat) (reason : String) (hdials : ⟨n, .connecting⟩ ∈ f.relays)
      (hrelays : g.relays = f.relays.erase ⟨n, .connecting⟩)
      (hcount : g.acceptedCount = f.acceptedCount)
      (hreports : g.reports = f.reports ++ [f.dialReport n reason])

/-- A port that is closed stays closed, and the session remains the same. -/
structure Keeps (f g : Forwarder) : Prop where
  session_eq : g.session = f.session
  remote_eq : g.remote = f.remote
  isOpen : g.isClosed = false → f.isClosed = false

/-- A try to bind changes where the forwarder stands, and perhaps the log. -/
theorem effect_bindTried {attempt : Nat} (hphase : f.phase = .binding attempt)
    (result : Except Fault Unit) :
    Effect f (f.bindTried attempt result) ∧ Keeps f (f.bindTried attempt result) := by
  have hopen : f.isClosed = false := by rw [isClosed, hphase]
  unfold bindTried
  split
  · exact ⟨.nothing rfl rfl rfl, rfl, rfl, fun _ => hopen⟩
  · split <;> exact ⟨.nothing rfl rfl rfl, rfl, rfl, fun _ => hopen⟩

/-- Every event has one of these effects. Only a dial that fails is reported, and only
an open port brings in new dials. -/
theorem effect_of_apply {e : ForwardEvent} (h : f.apply e = some g) : Effect f g ∧ Keeps f g := by
  cases e with
  | bindTried result =>
    simp only [apply] at h
    split at h
    next attempt hphase =>
      obtain rfl := Option.some.inj h
      exact effect_bindTried hphase result
    next => cases h
  | accepted =>
    simp only [apply] at h
    split at h
    next hphase =>
      obtain rfl := Option.some.inj h
      exact ⟨.accepts (by rw [isClosed, hphase]) rfl rfl rfl, rfl, rfl, id⟩
    next => cases h
  | acceptFailed reason =>
    simp only [apply] at h
    split at h
    next hphase =>
      obtain rfl := Option.some.inj h
      exact ⟨.nothing rfl rfl rfl, rfl, rfl, fun _ => by rw [isClosed, hphase]⟩
    next => cases h
  | pauseOver =>
    simp only [apply] at h
    split at h
    next hphase =>
      obtain rfl := Option.some.inj h
      exact ⟨.nothing rfl rfl rfl, rfl, rfl, fun _ => by rw [isClosed, hphase]⟩
    next => cases h
  | connected n =>
    obtain ⟨r, hr, rfl⟩ := Option.map_eq_some_iff.mp h
    obtain ⟨rfl, -⟩ := relay?_eq_some_iff.mp hr
    exact ⟨.connects n rfl rfl rfl, rfl, rfl, id⟩
  | connectFailed n reason =>
    obtain ⟨r, hr, rfl⟩ := Option.map_eq_some_iff.mp h
    obtain ⟨rfl, hmem⟩ := relay?_eq_some_iff.mp hr
    exact ⟨.fails n reason hmem rfl rfl rfl, rfl, rfl, id⟩
  | connectTimedOut n =>
    obtain ⟨r, hr, rfl⟩ := Option.map_eq_some_iff.mp h
    obtain ⟨rfl, hmem⟩ := relay?_eq_some_iff.mp hr
    exact ⟨.fails n f.timeoutText hmem rfl rfl rfl, rfl, rfl, id⟩
  | streamEnded n =>
    obtain ⟨r, hr, rfl⟩ := Option.map_eq_some_iff.mp h
    obtain ⟨rfl, -⟩ := relay?_eq_some_iff.mp hr
    exact ⟨.ends n rfl rfl rfl, rfl, rfl, id⟩
  | streamDropped n =>
    simp only [apply] at h
    split at h
    · obtain ⟨r, hr, rfl⟩ := Option.map_eq_some_iff.mp h
      obtain ⟨rfl, -⟩ := relay?_eq_some_iff.mp hr
      exact ⟨.ends n rfl rfl rfl, rfl, rfl, id⟩
    · cases h
  | cancel =>
    obtain rfl := Option.some.inj h
    exact ⟨.nothing rfl rfl rfl, rfl, rfl, id⟩
  | cancelNoticed =>
    have hnoticed : g = { f with phase := .draining } := by
      simp only [apply] at h
      split at h
      · exact (Option.some.inj (Option.ite_none_right_eq_some.mp h).2).symm
      · exact (Option.some.inj (Option.ite_none_right_eq_some.mp h).2).symm
      · cases h
    subst hnoticed
    exact ⟨.nothing rfl rfl rfl, rfl, rfl, nofun⟩
  | drained =>
    simp only [apply] at h
    split at h
    next =>
      split at h
      · obtain rfl := Option.some.inj h
        exact ⟨.nothing rfl rfl rfl, rfl, rfl, nofun⟩
      · cases h
    next => cases h

/-! ## The connections -/

/-- The connections that were reported, and those that still have a relay. -/
def connections (f : Forwarder) : List Nat :=
  f.reports.map RelayReport.relay ++ f.relays.map Relay.number

/-- No connection is reported twice, none that was reported has a relay, and all of
them were accepted. -/
structure Orderly (f : Forwarder) : Prop where
  nodup : f.connections.Nodup
  accepted : ∀ n ∈ f.connections, n < f.acceptedCount

/-- Where no connection is added, they stay orderly. -/
theorem Orderly.of_subperm (hf : f.Orderly) (hsub : g.connections.Subperm f.connections)
    (hcount : g.acceptedCount = f.acceptedCount) : g.Orderly := by
  constructor
  · obtain ⟨l, hperm, hl⟩ := hsub
    exact hperm.nodup (hf.nodup.sublist hl)
  · intro n hn
    rw [hcount]
    exact hf.accepted n (hsub.subset hn)

/-- What one event does keeps the connections orderly. -/
theorem Orderly.of_effect (hf : f.Orderly) (h : Effect f g) : g.Orderly := by
  cases h with
  | nothing hrelays hcount hreports =>
    refine hf.of_subperm ?_ hcount
    rw [connections, hrelays, hreports]
    exact .refl _
  | accepts _ hrelays hcount hreports =>
    have heq : g.connections = f.connections ++ [f.acceptedCount] := by
      simp [connections, hrelays, hreports]
    have hnew : f.acceptedCount ∉ f.connections := fun h => Nat.lt_irrefl _ (hf.accepted _ h)
    constructor
    · rw [heq, ← List.concat_eq_append]
      exact hf.nodup.concat hnew
    · intro n hn
      rw [heq, List.mem_append, List.mem_singleton] at hn
      rw [hcount]
      rcases hn with hn | rfl
      · exact Nat.lt_succ_of_lt (hf.accepted n hn)
      · exact Nat.lt_succ_self _
  | connects n hrelays hcount hreports =>
    refine hf.of_subperm ?_ hcount
    rw [connections, hrelays, hreports, map_replace Relay.number (by rfl)]
    exact .refl _
  | ends n hrelays hcount hreports =>
    refine hf.of_subperm ?_ hcount
    rw [connections, hrelays, hreports]
    exact ((List.erase_sublist.map _).append_left _).subperm
  | fails n reason hdials hrelays hcount hreports =>
    -- The number of the relay goes from one list to the other.
    refine hf.of_subperm ?_ hcount
    have hmoved := (List.perm_cons_erase hdials).map Relay.number
    rw [connections, hrelays, hreports, List.map_append, List.append_assoc]
    exact (hmoved.symm.append_left _).subperm

/-- The connections of every forwarder are orderly. -/
theorem Reachable.orderly (hf : Reachable f) : f.Orderly := by
  induction hf with
  | fresh session remotePort options cancelled =>
    exact ⟨List.nodup_nil, fun n hn => absurd hn List.not_mem_nil⟩
  | step e _ hg ih => exact ih.of_effect (effect_of_apply hg).1

theorem Reachable.leads (hf : Reachable f) (h : f.Leads g) : Reachable g := by
  induction h with
  | refl => exact hf
  | tail _ hstep ih =>
    obtain ⟨e, he⟩ := hstep
    exact .step e ih he

/-! ## What a run adds to the reports -/

/-- What was added to the reports on the way from one state to another: failed dials of
relays that might dial to begin with. No others may come to dial on the way. -/
structure Adds (f g : Forwarder) : Prop where
  session_eq : g.session = f.session
  remote_eq : g.remote = f.remote
  mayDial : ∀ n, g.MayDial n → f.MayDial n
  reports : ∃ new, g.reports = f.reports ++ new ∧
    ∀ report ∈ new, ∃ n reason, f.MayDial n ∧ report = f.dialReport n reason

theorem dialReport_eq (hsession : g.session = f.session) (hremote : g.remote = f.remote)
    (n : Nat) (reason : String) : g.dialReport n reason = f.dialReport n reason := by
  rw [dialReport, dialReport, hsession, hremote]

namespace Adds

theorem refl (f : Forwarder) : Adds f f :=
  ⟨rfl, rfl, fun _ h => h, [], (List.append_nil _).symm, fun _ h => absurd h List.not_mem_nil⟩

theorem trans {h : Forwarder} (hfg : Adds f g) (hgh : Adds g h) : Adds f h where
  session_eq := hgh.session_eq.trans hfg.session_eq
  remote_eq := hgh.remote_eq.trans hfg.remote_eq
  mayDial n hn := hfg.mayDial n (hgh.mayDial n hn)
  reports := by
    obtain ⟨first, hfirst, hfirstDials⟩ := hfg.reports
    obtain ⟨second, hsecond, hsecondDials⟩ := hgh.reports
    refine ⟨first ++ second, by rw [hsecond, hfirst, List.append_assoc], fun report hreport => ?_⟩
    rcases List.mem_append.mp hreport with hmem | hmem
    · exact hfirstDials report hmem
    · obtain ⟨n, reason, hn, rfl⟩ := hsecondDials report hmem
      exact ⟨n, reason, hfg.mayDial n hn, dialReport_eq hfg.session_eq hfg.remote_eq n reason⟩

/-- No event lets a relay dial that could not come to dial before. -/
theorem mayDial_of_effect (h : Effect f g) (hkeeps : Keeps f g) (hn : g.MayDial n) :
    f.MayDial n := by
  rcases hn with hdials | ⟨hopen, hlater⟩
  · cases h with
    | nothing hrelays _ _ => exact .inl (hrelays ▸ hdials)
    | accepts hopen hrelays _ _ =>
      rw [hrelays, List.mem_append, List.mem_singleton] at hdials
      rcases hdials with hdials | heq
      · exact .inl hdials
      · exact .inr ⟨hopen, Nat.le_of_eq (congrArg Relay.number heq).symm⟩
    | connects m hrelays _ _ =>
      exact .inl (mem_of_mem_replace (hrelays ▸ hdials) (by simp))
    | ends m hrelays _ _ => exact .inl (List.mem_of_mem_erase (hrelays ▸ hdials))
    | fails m reason _ hrelays _ _ => exact .inl (List.mem_of_mem_erase (hrelays ▸ hdials))
  · refine .inr ⟨hkeeps.isOpen hopen, ?_⟩
    cases h <;> omega

/-- What one event adds. -/
theorem of_apply {e : ForwardEvent} (h : f.apply e = some g) : Adds f g := by
  obtain ⟨heffect, hkeeps⟩ := effect_of_apply h
  refine ⟨hkeeps.session_eq, hkeeps.remote_eq, fun n => mayDial_of_effect heffect hkeeps, ?_⟩
  cases heffect with
  | fails n reason hdials _ _ hreports =>
    refine ⟨_, hreports, fun report hreport => ?_⟩
    exact ⟨n, reason, .inl hdials, List.mem_singleton.mp hreport⟩
  | nothing _ _ hreports | accepts _ _ _ hreports | connects _ _ _ hreports
  | ends _ _ _ hreports =>
    exact ⟨[], by rw [hreports, List.append_nil], fun _ h => absurd h List.not_mem_nil⟩

/-- What a run adds. -/
theorem of_leads (h : f.Leads g) : Adds f g := by
  induction h with
  | refl => exact .refl f
  | tail _ hstep ih =>
    obtain ⟨e, he⟩ := hstep
    exact ih.trans (.of_apply he)

end Adds

/-! ## What the network can bring about -/

/-- A port that is not closed can come to accept connections. -/
theorem leads_accepting (h : f.isClosed = false) : f.Leads { f with phase := .accepting } := by
  cases hphase : f.phase with
  | binding attempt => exact .of_apply (.bindTried (.ok ())) (by simp [apply, bindTried, hphase])
  | accepting =>
    have heq : { f with phase := .accepting } = f := by rw [← hphase]
    rw [heq]
    exact .refl
  | pausing => exact .of_apply .pauseOver (by simp [apply, hphase])
  | draining | returned _ => simp [isClosed, hphase] at h

/-- While connections are accepted, one more can come in. -/
theorem leads_accepted (hphase : f.phase = .accepting) : f.Leads { f with
    relays := f.relays ++ [⟨f.acceptedCount, .connecting⟩]
    acceptedCount := f.acceptedCount + 1 } :=
  .of_apply .accepted (by simp only [apply, hphase])

/-- Connections can come in until there is one with a given number. -/
theorem leads_dialing (hphase : f.phase = .accepting) (hn : f.acceptedCount ≤ n) :
    ∃ g, f.Leads g ∧ ⟨n, .connecting⟩ ∈ g.relays ∧ g.reports = f.reports := by
  obtain ⟨k, rfl⟩ := Nat.exists_eq_add_of_le hn
  induction k generalizing f with
  | zero =>
    exact ⟨_, leads_accepted hphase, List.mem_append_right _ List.mem_cons_self, rfl⟩
  | succ k ih =>
    obtain ⟨g, hg, hdials, hreports⟩ := @ih { f with
      relays := f.relays ++ [⟨f.acceptedCount, .connecting⟩]
      acceptedCount := f.acceptedCount + 1 } hphase (Nat.le_add_right _ _)
    refine ⟨g, (leads_accepted hphase).trans hg, ?_, hreports⟩
    rwa [Nat.add_right_comm, Nat.add_assoc] at hdials

/-- Each dial that a relay makes or may still come to make can fail, for any reason, and
the report of that can be all that is added. -/
theorem leads_report (hn : f.MayDial n) (reason : String) :
    ∃ g, f.Leads g ∧ g.reports = f.reports ++ [f.dialReport n reason] := by
  have hdialing : ∃ g, f.Leads g ∧ ⟨n, .connecting⟩ ∈ g.relays ∧ g.reports = f.reports := by
    rcases hn with hdials | ⟨hopen, hle⟩
    · exact ⟨f, .refl, hdials, rfl⟩
    · obtain ⟨g, hg, hdials, hreports⟩ :=
        leads_dialing (f := { f with phase := .accepting }) rfl hle
      exact ⟨g, (leads_accepting hopen).trans hg, hdials, hreports⟩
  obtain ⟨g, hg, hdials, hreports⟩ := hdialing
  have hrelay := relay?_eq_some_iff.mpr ⟨rfl, hdials⟩
  have hfails : g.apply (.connectFailed n reason) = some (g.failRelay ⟨n, .connecting⟩ reason) := by
    rw [apply, hrelay, Option.map_some]
  have hadds := Adds.of_leads hg
  refine ⟨_, hg.tail ⟨_, hfails⟩, ?_⟩
  rw [← hreports, ← dialReport_eq hadds.session_eq hadds.remote_eq]
  rfl

/-- A session is silent just if its port is closed and no relay dials. -/
theorem silent_iff :
    f.Silent ↔ f.isClosed = true ∧ ∀ r ∈ f.relays, r.phase = .copying := by
  have hmayDial : f.Silent ↔ ∀ n, ¬f.MayDial n := by
    constructor
    · intro hsilent n hn
      obtain ⟨g, hg, hreports⟩ := leads_report hn ""
      simp [hsilent g hg] at hreports
    · intro hnone g hg
      obtain ⟨new, hreports, hnew⟩ := (Adds.of_leads hg).reports
      cases new with
      | nil => rw [hreports, List.append_nil]
      | cons report _ =>
        obtain ⟨n, _, hn, _⟩ := hnew report List.mem_cons_self
        exact absurd hn (hnone n)
  rw [hmayDial]
  constructor
  · intro hnone
    constructor
    · cases hclosed : f.isClosed with
      | true => rfl
      | false => exact absurd (.inr ⟨hclosed, Nat.le_refl _⟩) (hnone f.acceptedCount)
    · intro r hr
      cases hphase : r.phase with
      | copying => rfl
      | connecting => exact absurd (.inl (hphase ▸ hr)) (hnone r.number)
  · rintro ⟨hclosed, hcopying⟩ n (hdials | ⟨hopen, -⟩)
    · exact absurd (hcopying _ hdials) (by simp)
    · rw [hclosed] at hopen
      cases hopen

/-- A cancelled forwarder whose port is closed can come to its end without a report: each
dial comes about, and then the relay drops its stream. -/
theorem leads_returned_of_draining (hphase : f.phase = .draining)
    (hcancelled : f.cancelled = true) :
    ∃ g, f.Leads g ∧ g.reports = f.reports ∧ g.ending?.isSome = true := by
  obtain ⟨relays, hrelays⟩ : ∃ relays, f.relays = relays := ⟨_, rfl⟩
  induction relays generalizing f with
  | nil =>
    have hend : f.apply .drained = some { f with phase := .returned (.ok ()) } := by
      simp [apply, hphase, hrelays]
    exact ⟨_, .of_apply _ hend, rfl, rfl⟩
  | cons r rest ih =>
    -- Without its first relay the forwarder is as before.
    obtain ⟨g, hg, hreports, hend⟩ := @ih { f with relays := rest } hphase hcancelled rfl
    suffices hdropped : f.Leads { f with relays := rest } from
      ⟨g, hdropped.trans hg, hreports, hend⟩
    have hdrop (k : Forwarder) (hk : k.cancelled = true)
        (hfirst : k.relays = ⟨r.number, .copying⟩ :: rest) :
        k.apply (.streamDropped r.number) = some { k with relays := rest } := by
      simp [apply, hk, relay?, removeRelay, hfirst]
    obtain ⟨n, phase⟩ := r
    cases phase with
    | copying => exact .of_apply _ (hdrop f hcancelled hrelays)
    | connecting =>
      have hconnect : f.apply (.connected n) =
          some { f with relays := ⟨n, .copying⟩ :: rest } := by
        simp [apply, relay?, hrelays]
      exact .head ⟨_, hconnect⟩ (Leads.of_apply _ (hdrop _ hcancelled rfl))

/-- A cancelled session can come to its end without a report. -/
theorem leads_returned (hcancelled : f.cancelled = true) :
    ∃ g, f.Leads g ∧ g.reports = f.reports ∧ g.ending?.isSome = true := by
  cases hclosed : f.isClosed with
  | true =>
    cases hphase : f.phase with
    | draining => exact leads_returned_of_draining hphase hcancelled
    | returned ending => exact ⟨f, .refl, rfl, by rw [ending?, hphase]; rfl⟩
    | binding _ | accepting | pausing => simp [isClosed, hphase] at hclosed
  | false =>
    obtain ⟨g, hg, hreports, hend⟩ :=
      leads_returned_of_draining (f := { f with phase := .draining }) rfl hcancelled
    have hnoticed : ({ f with phase := .accepting } : Forwarder).apply .cancelNoticed =
        some { f with phase := .draining } := by
      simp [apply, hcancelled]
    exact ⟨g, ((leads_accepting hclosed).tail ⟨_, hnoticed⟩).trans hg, hreports, hend⟩

end Forwarder

namespace Supervisor

variable {σ : Type} {s : Supervisor σ}

/-- A signal that reaches a listening health loop starts a pass over all workspaces. -/
theorem probing_of_report (setup : Setup σ) (hlistening : s.healthLoop = .listening)
    (hempty : s.mailbox = {}) (signal : Signal) :
    ∃ t, Event.applyAll setup [.report signal, .receiveSignal, .takeSnapshot] s = some t ∧
      t.healthLoop = .probing s.registry.workspaces := by
  let reported := (s.report signal).2
  let alerted := ({ reported with mailbox := {}, healthLoop := .alerted }.record
    [.received signal]).note [received signal]
  have hpending : reported.mailbox = { pending := some signal } := by
    simp [reported, report, record, hempty, Mailbox.report]
  have hreceived : reported.receiveSignal = some alerted := by
    have hloop : reported.healthLoop = .listening := hlistening
    simp only [receiveSignal, hloop, hpending, Mailbox.receive, alerted]
  have hlast : Event.applyAll setup [.takeSnapshot] alerted =
      some ({ alerted with healthLoop := .probing s.registry.workspaces }.record
        [.surveyed s.registry.workspaces]) := rfl
  exact ⟨_, applyAll_cons.mpr ⟨_, rfl, applyAll_cons.mpr ⟨_, hreceived, hlast⟩⟩, rfl⟩

end Supervisor

namespace SmallFleet

/-- The first session of `web`, cancelled while its one relay dials. -/
def cutShort : Forwarder :=
  { Forwarder.ofSession ⟨1, web, 1024⟩ 22 with
    phase := .accepting
    cancelled := true
    relays := [⟨0, .connecting⟩]
    acceptedCount := 1 }

theorem cutShort_reachable : cutShort.Reachable :=
  .step .cancel (.step .accepted (.step (.bindTried (.ok ()))
    (.fresh ⟨1, web, 1024⟩ 22 {} false) rfl) rfl) rfl

/-- The supervisor that has cut this session short, and listens. -/
def listening : Supervisor PinTable :=
  { started.beginLoop.2 with registry := (started.registry.closeSession web.localId 1).2 }

end SmallFleet

namespace Forwarder

variable {f g : Forwarder}

/-- **What a cancelled session still reports.** In every order of events, the reports
that are added are failed dials, at most one for each connection, of relays that dial
when the session is cancelled or whose connections come in before that is noticed; and
each of these dials can fail and be reported. So the session is silent just if its port
is closed and every relay copies, although it could always end without a report. The
supervisor does not report the end of a cancelled session, but it takes up the report
of such a relay like any other and checks all workspaces. -/
theorem Reachable.reports_of_cancelled (hf : Reachable f) (hcancelled : f.cancelled = true) :
    (∀ g, f.Leads g → ∃ new, g.reports = f.reports ++ new ∧
      (g.reports.map RelayReport.relay).Nodup ∧
      ∀ report ∈ new, ∃ n reason, f.MayDial n ∧ report = f.dialReport n reason) ∧
    (∀ n, f.MayDial n → ∀ reason, ∃ g, f.Leads g ∧
      g.reports = f.reports ++ [f.dialReport n reason]) ∧
    (f.Silent ↔ f.isClosed = true ∧ ∀ r ∈ f.relays, r.phase = .copying) ∧
    (∃ g, f.Leads g ∧ g.reports = f.reports ∧ g.ending?.isSome = true) ∧
    ∀ (σ : Type) (setup : Setup σ) (s : Supervisor σ),
      s.registry.tokens.isCancelled f.session.number = true →
      (∀ ending, (s.sessionEnded f.session ending).mailbox = s.mailbox) ∧
      (s.healthLoop = .listening → s.mailbox = {} → ∀ n reason, ∃ t,
        Event.applyAll setup
          [.report (f.dialReport n reason).signal, .receiveSignal, .takeSnapshot] s = some t ∧
        t.healthLoop = .probing s.registry.workspaces) := by
  refine ⟨fun g hg => ?_, fun n hn reason => leads_report hn reason, silent_iff,
    leads_returned hcancelled, fun σ setup s hs => ⟨?_, ?_⟩⟩
  · obtain ⟨new, hreports, hnew⟩ := (Adds.of_leads hg).reports
    have horderly := (hf.leads hg).orderly
    exact ⟨new, hreports, horderly.nodup.of_append_left, hnew⟩
  · intro ending
    rw [Supervisor.sessionEnded_of_cancelled hs]
  · intro hlistening hempty n reason
    exact Supervisor.probing_of_report setup hlistening hempty _

/-- A session is closed while a relay dials, and the dial that times out makes the supervisor
check all workspaces. -/
theorem reports_of_cancelled_dialing :
    let f := SmallFleet.cutShort
    let s := SmallFleet.listening
    Reachable f ∧ f.cancelled = true ∧ f.MayDial 0 ∧ ¬f.Silent ∧
      s.registry.tokens.isCancelled f.session.number = true ∧
      (s.sessionEnded f.session (.ok ())).mailbox = {} ∧
      ∃ g report t, f.Leads g ∧ g.reports = [report] ∧
        Event.applyAll SmallFleet.setup [.report report.signal, .receiveSignal, .takeSnapshot] s =
          some t ∧
        t.healthLoop = .probing s.registry.workspaces := by
  intro f s
  have hdials : f.MayDial 0 := .inl List.mem_cons_self
  have htoken : s.registry.tokens.isCancelled f.session.number = true := by decide +kernel
  have hlistening : s.healthLoop = .listening := by decide +kernel
  have hempty : s.mailbox = {} := by decide +kernel
  obtain ⟨-, hreport, hsilent, -, hsupervisor⟩ :=
    Reachable.reports_of_cancelled SmallFleet.cutShort_reachable rfl
  obtain ⟨g, hg, hreports⟩ := hreport 0 hdials f.timeoutText
  obtain ⟨hended, hpass⟩ := hsupervisor PinTable SmallFleet.setup s htoken
  obtain ⟨t, ht, hprobing⟩ := hpass hlistening hempty 0 f.timeoutText
  refine ⟨SmallFleet.cutShort_reachable, rfl, hdials, fun h => ?_, htoken,
    (hended (.ok ())).trans hempty, g, _, t, hg, hreports, ht, hprobing⟩
  exact absurd (hsilent.mp h).1 (by decide)

/-- It is not true that a cancelled session is silent: a relay that dials when the
cancellation is noticed reports that its dial has timed out. -/
theorem cancelled_not_silent :
    ¬∀ f : Forwarder, Reachable f → f.cancelled = true → f.Silent := by
  intro hclaim
  let f := SmallFleet.cutShort
  let draining : Forwarder := { f with phase := .draining }
  have hnoticed : f.apply .cancelNoticed = some draining := rfl
  have htimedOut : draining.apply (.connectTimedOut 0) =
      some (draining.failRelay ⟨0, .connecting⟩ draining.timeoutText) := rfl
  have hsilent := hclaim f SmallFleet.cutShort_reachable rfl _
    ((Leads.of_apply _ hnoticed).tail ⟨_, htimedOut⟩)
  exact absurd hsilent (List.cons_ne_nil _ _)

end Forwarder

end TunnelFleet
