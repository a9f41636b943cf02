import Mathlib.Algebra.BigOperators.Group.List.Basic
import Mathlib.Algebra.GroupWithZero.Nat
import Mathlib.Data.List.Induction
import TunnelFleet.Proofs.Forwarding.Silence

/-!
# The course of a session

A session that got its local port goes on, whatever the network does, until it is cancelled. Then
it closes the port, waits for its relays, and returns without an error. What the network has done to
each connection is enough to tell what was reported, and a session that did not get its port says
why. Everything here is about any sequence of events that can happen, one after the other.
-/

namespace TunnelFleet

/-- An element that is changed in place is taken out and put back as another one. -/
theorem perm_replace {α : Type} [BEq α] [LawfulBEq α] {a b : α} {l : List α} (h : a ∈ l) :
    (l.replace a b).Perm (b :: l.erase a) := by
  induction l with
  | nil => cases h
  | cons x xs ih =>
    rw [List.replace_cons, List.erase_cons]
    cases heq : a == x with
    | true => rw [eq_of_beq heq, beq_self_eq_true, if_pos rfl]
    | false =>
      have hne : (x == a) = false := by
        rw [beq_eq_false_iff_ne] at heq ⊢
        exact heq.symm
      rw [hne, if_neg Bool.false_ne_true]
      have hmem : a ∈ xs := (List.mem_cons.mp h).resolve_left fun hax => by simp [hax] at heq
      exact ((ih hmem).cons x).trans (.swap b x _)

namespace ForwardEvent

/-! ## What an event is about -/

/-- How a try to bind the local port ends. -/
def bindResult? : ForwardEvent → Option (Except Fault Unit)
  | .bindTried result => some result
  | _ => none

/-- Whether this is an accepted connection. -/
def isAccept : ForwardEvent → Bool
  | .accepted => true
  | _ => false

def isCancel : ForwardEvent → Bool
  | .cancel => true
  | _ => false

theorem isCancel_iff {e : ForwardEvent} : e.isCancel = true ↔ .cancel = e := by
  cases e <;> simp [isCancel]

/-- Whether the local port has a part in this, or is about to be had. -/
def usesPort : ForwardEvent → Bool
  | .bindTried _ | .accepted | .acceptFailed _ | .pauseOver => true
  | _ => false

/-- Whether a cancelled forwarder does this by itself, without waiting for the network. -/
def isOwn : ForwardEvent → Bool
  | .cancelNoticed | .connectTimedOut _ | .streamDropped _ | .drained => true
  | _ => false

/-- The connection whose dial to the workspace ends, well or badly. -/
def dialed? : ForwardEvent → Option Nat
  | .connected n | .connectFailed n _ | .connectTimedOut n => some n
  | _ => none

/-- The connection whose relay ends. -/
def ended? : ForwardEvent → Option Nat
  | .connectFailed n _ | .connectTimedOut n | .streamEnded n | .streamDropped n => some n
  | _ => none

/-- The relays that go away, in the phase that they were in. -/
def leaving : ForwardEvent → List Relay
  | .connected n | .connectFailed n _ | .connectTimedOut n => [⟨n, .connecting⟩]
  | .streamEnded n | .streamDropped n => [⟨n, .copying⟩]
  | _ => []

/-- The relays that come in their place. -/
def entering (count : Nat) : ForwardEvent → List Relay
  | .accepted => [⟨count, .connecting⟩]
  | .connected n => [⟨n, .copying⟩]
  | _ => []

end ForwardEvent

namespace Forwarder

variable {f g start : Forwarder} {e : ForwardEvent} {events : List ForwardEvent}

/-- The state after events one after the other, if they can happen. -/
def applyAll (events : List ForwardEvent) (f : Forwarder) : Option Forwarder :=
  events.foldlM apply f

/-- The report that a dial has failed, if this is what has happened. -/
def dialFailure? (f : Forwarder) : ForwardEvent → Option RelayReport
  | .connectFailed n reason => some (f.dialReport n reason)
  | .connectTimedOut n => some (f.dialReport n f.timeoutText)
  | _ => none

/-- The numbers of the relays that are still dialing the workspace. -/
def dialing (relays : List Relay) : List Nat :=
  (relays.filter (·.phase = .connecting)).map Relay.number

/-- How many events relays can still go through: to get their connection, and to end. -/
def workOf (relays : List Relay) : Nat :=
  (relays.map fun r => if r.phase = .connecting then 2 else 1).sum

/-- How many events besides cancellations can still happen once the local port is closed. -/
def remaining (f : Forwarder) : Nat :=
  match f.phase with
  | .draining => workOf f.relays + 1
  | _ => workOf f.relays

/-! ## One event -/

theorem apply_bindTried {result : Except Fault Unit} (h : f.apply (.bindTried result) = some g) :
    ∃ attempt, f.phase = .binding attempt ∧ g = f.bindTried attempt result := by
  simp only [apply] at h
  split at h
  next attempt hphase => exact ⟨attempt, hphase, (Option.some.inj h).symm⟩
  next => cases h

theorem apply_accepted (h : f.apply .accepted = some g) : f.phase = .accepting ∧
    g = { f with
      relays := f.relays ++ [{ number := f.acceptedCount }]
      acceptedCount := f.acceptedCount + 1 } := by
  simp only [apply] at h
  split at h
  next hphase => exact ⟨hphase, (Option.some.inj h).symm⟩
  next => cases h

theorem apply_acceptFailed {reason : String} (h : f.apply (.acceptFailed reason) = some g) :
    f.phase = .accepting ∧ ∃ text, g = { f with phase := .pausing }.say .error text := by
  simp only [apply] at h
  split at h
  next hphase => exact ⟨hphase, _, (Option.some.inj h).symm⟩
  next => cases h

theorem apply_pauseOver (h : f.apply .pauseOver = some g) :
    f.phase = .pausing ∧ g = { f with phase := .accepting } := by
  simp only [apply] at h
  split at h
  next hphase => exact ⟨hphase, (Option.some.inj h).symm⟩
  next => cases h

theorem apply_streamDropped {n : Nat} (h : f.apply (.streamDropped n) = some g) :
    f.cancelled = true ∧ (f.relay? n .copying).map f.removeRelay = some g :=
  Option.ite_none_right_eq_some.mp h

theorem apply_cancelNoticed (h : f.apply .cancelNoticed = some g) :
    f.isListening = true ∧ f.cancelled = true ∧ g = { f with phase := .draining } := by
  simp only [apply] at h
  split at h
  next hphase =>
    obtain ⟨hcancelled, hg⟩ := Option.ite_none_right_eq_some.mp h
    exact ⟨by rw [isListening, hphase], hcancelled, (Option.some.inj hg).symm⟩
  next hphase =>
    obtain ⟨hcancelled, hg⟩ := Option.ite_none_right_eq_some.mp h
    exact ⟨by rw [isListening, hphase], hcancelled, (Option.some.inj hg).symm⟩
  next => cases h

theorem apply_drained (h : f.apply .drained = some g) :
    f.phase = .draining ∧ f.relays = [] ∧ g = { f with phase := .returned (.ok ()) } := by
  simp only [apply] at h
  split at h
  next hphase =>
    obtain ⟨hempty, hg⟩ := Option.ite_none_right_eq_some.mp h
    exact ⟨hphase, List.isEmpty_iff.mp hempty, (Option.some.inj hg).symm⟩
  next => cases h

/-- What an event does to everything but the phase. -/
structure Step (e : ForwardEvent) (f g : Forwarder) : Prop where
  session_eq : g.session = f.session
  remote_eq : g.remote = f.remote
  options_eq : g.options = f.options
  cancelled : g.cancelled = (f.cancelled || e.isCancel)
  count : g.acceptedCount = f.acceptedCount + e.isAccept.toNat
  reports : g.reports = f.reports ++ (f.dialFailure? e).toList
  relays : ∃ rest, f.relays.Perm (e.leaving ++ rest) ∧
    g.relays.Perm (e.entering f.acceptedCount ++ rest)

/-- The step of an event that leaves the relays alone. -/
theorem Step.of_same (hsession : g.session = f.session) (hremote : g.remote = f.remote)
    (hoptions : g.options = f.options) (hcancelled : g.cancelled = (f.cancelled || e.isCancel))
    (hcount : g.acceptedCount = f.acceptedCount) (haccept : e.isAccept = false)
    (hreports : g.reports = f.reports) (hfailure : f.dialFailure? e = none)
    (hrelays : g.relays = f.relays) (hleaving : e.leaving = [])
    (hentering : e.entering f.acceptedCount = []) : Step e f g where
  session_eq := hsession
  remote_eq := hremote
  options_eq := hoptions
  cancelled := hcancelled
  count := by rw [hcount, haccept]; rfl
  reports := by rw [hreports, hfailure, Option.toList_none, List.append_nil]
  relays := by
    rw [hleaving, hentering, hrelays]
    exact ⟨f.relays, .refl _, .refl _⟩

theorem step_of_apply (h : f.apply e = some g) : Step e f g := by
  cases e with
  | bindTried result =>
    obtain ⟨attempt, -, rfl⟩ := apply_bindTried h
    unfold bindTried
    split
    · exact .of_same rfl rfl rfl (by simp [ForwardEvent.isCancel]) rfl rfl rfl rfl rfl rfl rfl
    · split <;>
        exact .of_same rfl rfl rfl (by simp [say, ForwardEvent.isCancel]) rfl rfl rfl rfl rfl rfl
          rfl
  | accepted =>
    obtain ⟨-, rfl⟩ := apply_accepted h
    exact ⟨rfl, rfl, rfl, by simp [ForwardEvent.isCancel], rfl, by simp [dialFailure?],
      f.relays, .refl _, List.perm_append_comm⟩
  | acceptFailed reason =>
    obtain ⟨-, text, rfl⟩ := apply_acceptFailed h
    exact .of_same rfl rfl rfl (by simp [say, ForwardEvent.isCancel]) rfl rfl rfl rfl rfl rfl rfl
  | pauseOver =>
    obtain ⟨-, rfl⟩ := apply_pauseOver h
    exact .of_same rfl rfl rfl (by simp [ForwardEvent.isCancel]) rfl rfl rfl rfl rfl rfl rfl
  | connected n =>
    obtain ⟨r, hr, rfl⟩ := Option.map_eq_some_iff.mp h
    obtain ⟨rfl, hmem⟩ := relay?_eq_some_iff.mp hr
    exact ⟨rfl, rfl, rfl, by simp [ForwardEvent.isCancel], rfl, by simp [dialFailure?],
      f.relays.erase ⟨n, .connecting⟩, List.perm_cons_erase hmem, perm_replace hmem⟩
  | connectFailed n reason =>
    obtain ⟨r, hr, rfl⟩ := Option.map_eq_some_iff.mp h
    obtain ⟨rfl, hmem⟩ := relay?_eq_some_iff.mp hr
    exact ⟨rfl, rfl, rfl, by simp [failRelay, say, removeRelay, ForwardEvent.isCancel], rfl, rfl,
      f.relays.erase ⟨n, .connecting⟩, List.perm_cons_erase hmem, .refl _⟩
  | connectTimedOut n =>
    obtain ⟨r, hr, rfl⟩ := Option.map_eq_some_iff.mp h
    obtain ⟨rfl, hmem⟩ := relay?_eq_some_iff.mp hr
    exact ⟨rfl, rfl, rfl, by simp [failRelay, say, removeRelay, ForwardEvent.isCancel], rfl, rfl,
      f.relays.erase ⟨n, .connecting⟩, List.perm_cons_erase hmem, .refl _⟩
  | streamEnded n =>
    obtain ⟨r, hr, rfl⟩ := Option.map_eq_some_iff.mp h
    obtain ⟨rfl, hmem⟩ := relay?_eq_some_iff.mp hr
    exact ⟨rfl, rfl, rfl, by simp [removeRelay, ForwardEvent.isCancel], rfl,
      by simp [removeRelay, dialFailure?],
      f.relays.erase ⟨n, .copying⟩, List.perm_cons_erase hmem, .refl _⟩
  | streamDropped n =>
    obtain ⟨-, hdropped⟩ := apply_streamDropped h
    obtain ⟨r, hr, rfl⟩ := Option.map_eq_some_iff.mp hdropped
    obtain ⟨rfl, hmem⟩ := relay?_eq_some_iff.mp hr
    exact ⟨rfl, rfl, rfl, by simp [removeRelay, ForwardEvent.isCancel], rfl,
      by simp [removeRelay, dialFailure?],
      f.relays.erase ⟨n, .copying⟩, List.perm_cons_erase hmem, .refl _⟩
  | cancel =>
    obtain rfl := Option.some.inj h
    exact .of_same rfl rfl rfl (by simp [ForwardEvent.isCancel]) rfl rfl rfl rfl rfl rfl rfl
  | cancelNoticed =>
    obtain ⟨-, -, rfl⟩ := apply_cancelNoticed h
    exact .of_same rfl rfl rfl (by simp [ForwardEvent.isCancel]) rfl rfl rfl rfl rfl rfl rfl
  | drained =>
    obtain ⟨-, -, rfl⟩ := apply_drained h
    exact .of_same rfl rfl rfl (by simp [ForwardEvent.isCancel]) rfl rfl rfl rfl rfl rfl rfl

/-- What happens to a relay does not depend on where the forwarder stands, and changes nothing about
it. -/
theorem phase_of_leaving (h : f.apply e = some g) (he : e.leaving ≠ []) :
    f.relays ≠ [] ∧ g.phase = f.phase := by
  obtain ⟨rest, hbefore, -⟩ := (step_of_apply h).relays
  refine ⟨fun hnone => he ?_, ?_⟩
  · rw [hnone] at hbefore
    exact (List.append_eq_nil_iff.mp (List.nil_perm.mp hbefore)).1
  · cases e with
    | connected n | connectFailed n reason | connectTimedOut n | streamEnded n =>
      obtain ⟨r, -, rfl⟩ := Option.map_eq_some_iff.mp h
      rfl
    | streamDropped n =>
      obtain ⟨-, hdropped⟩ := apply_streamDropped h
      obtain ⟨r, -, rfl⟩ := Option.map_eq_some_iff.mp hdropped
      rfl
    | bindTried _ | accepted | acceptFailed _ | pauseOver | cancel | cancelNoticed | drained =>
      exact absurd rfl he

/-! ## The phases -/

/-- How the tries to bind the local port have ended, in order. -/
def tries (events : List ForwardEvent) : List (Except Fault Unit) :=
  events.filterMap ForwardEvent.bindResult?

/-- The local port was in use a few times, and then it was had. -/
def Bound (events : List ForwardEvent) : Prop :=
  ∃ k, tries events = List.replicate k (.error .addressInUse) ++ [.ok ()]

/-- The last try to bind the local port failed, for this reason: only while the port was in use it
was tried again, and no more often than it may be. -/
def GivenUp (start : Forwarder) (events : List ForwardEvent) (fault : Fault) : Prop :=
  ∃ k, tries events = List.replicate k (.error .addressInUse) ++ [.error fault] ∧
    k + 1 ≤ max 1 start.options.bindAttempts ∧
    (fault = .addressInUse → start.options.bindAttempts ≤ k + 1)

/-- The session was cancelled, this was noticed, and the local port has not been used since. -/
def Noticed (start : Forwarder) (events : List ForwardEvent) : Prop :=
  ∃ before after, events = before ++ .cancelNoticed :: after ∧
    (start.cancelled = true ∨ .cancel ∈ before) ∧ ∀ e ∈ after, e.usesPort = false

/-- What has happened to a forwarder that stands in a phase. -/
def Standing (start : Forwarder) (events : List ForwardEvent) : ForwardPhase → Prop
  | .binding attempt => ∃ k, attempt = k + 1 ∧ attempt ≤ max 1 start.options.bindAttempts ∧
      tries events = List.replicate k (.error .addressInUse)
  | .accepting | .pausing => Bound events
  | .draining | .returned (.ok ()) => Bound events ∧ Noticed start events
  | .returned (.error error) => ∃ fault, GivenUp start events fault ∧
      error = .bind start.session.port fault.message

theorem tries_concat (events : List ForwardEvent) (e : ForwardEvent) :
    tries (events ++ [e]) = tries events ++ e.bindResult?.toList := by
  rw [tries, List.filterMap_append, List.filterMap_cons, tries]
  cases e.bindResult? <;> rfl

theorem tries_of_none (he : e.bindResult? = none) : tries (events ++ [e]) = tries events := by
  rw [tries_concat, he, Option.toList_none, List.append_nil]

theorem Bound.concat (h : Bound events) (he : e.bindResult? = none) : Bound (events ++ [e]) := by
  rwa [Bound, tries_of_none he]

theorem Noticed.concat (h : Noticed start events) (he : e.usesPort = false) :
    Noticed start (events ++ [e]) := by
  obtain ⟨before, after, rfl, hcancel, hafter⟩ := h
  refine ⟨before, after ++ [e], by simp, hcancel, fun e' he' => ?_⟩
  rcases List.mem_append.mp he' with he' | he'
  · exact hafter e' he'
  · rw [List.mem_singleton.mp he', he]

/-- An event that has nothing to do with the local port leaves a forwarder where it stands. -/
theorem Standing.concat {phase : ForwardPhase} (h : Standing start events phase)
    (hresult : e.bindResult? = none) (he : e.usesPort = false) :
    Standing start (events ++ [e]) phase := by
  cases phase with
  | binding attempt => rwa [Standing, tries_of_none hresult]
  | accepting | pausing => exact Bound.concat h hresult
  | draining => exact ⟨Bound.concat h.1 hresult, h.2.concat he⟩
  | returned ending =>
    cases ending with
    | ok u => exact ⟨Bound.concat h.1 hresult, h.2.concat he⟩
    | error error =>
      obtain ⟨fault, ⟨k, htries, hlast⟩, rfl⟩ := h
      exact ⟨fault, ⟨k, (tries_of_none hresult).trans htries, hlast⟩, rfl⟩

theorem Standing.bound_of_isListening (hs : Standing start events f.phase)
    (h : f.isListening = true) : Bound events := by
  cases hphase : f.phase with
  | accepting | pausing =>
    rw [hphase] at hs
    exact hs
  | binding attempt | draining | returned ending => simp [isListening, hphase] at h

/-- A try to bind the local port ends. -/
theorem standing_bindTried {attempt : Nat} (hs : Standing start events (.binding attempt))
    (hsession : f.session = start.session) (hoptions : f.options = start.options)
    (result : Except Fault Unit) :
    Standing start (events ++ [.bindTried result]) (f.bindTried attempt result).phase := by
  obtain ⟨k, rfl, hle, htries⟩ := hs
  have hnext : tries (events ++ [.bindTried result]) =
      List.replicate k (.error .addressInUse) ++ [result] := by
    rw [tries_concat, htries]
    rfl
  unfold bindTried
  split
  · exact ⟨k, hnext⟩
  · next fault =>
    rw [hoptions]
    split
    · next hretry =>
      obtain ⟨rfl, hlt⟩ := hretry
      refine ⟨k + 1, rfl, by omega, ?_⟩
      rw [hnext, List.replicate_succ']
    · next hretry =>
      refine ⟨fault, ⟨k, hnext, hle, fun hfault => ?_⟩, by rw [hsession]⟩
      by_contra hlt
      exact hretry ⟨hfault, by omega⟩

/-- Each event leads from where a forwarder stands to where it stands next. -/
theorem standing_of_apply (hs : Standing start events f.phase)
    (hsession : f.session = start.session) (hoptions : f.options = start.options)
    (hcancelled : f.cancelled = true → start.cancelled = true ∨ .cancel ∈ events)
    (h : f.apply e = some g) : Standing start (events ++ [e]) g.phase := by
  cases e with
  | bindTried result =>
    obtain ⟨attempt, hphase, rfl⟩ := apply_bindTried h
    rw [hphase] at hs
    exact standing_bindTried hs hsession hoptions result
  | accepted =>
    obtain ⟨hphase, rfl⟩ := apply_accepted h
    change Standing start _ f.phase
    rw [hphase] at hs ⊢
    exact Bound.concat hs rfl
  | acceptFailed reason =>
    obtain ⟨hphase, text, rfl⟩ := apply_acceptFailed h
    rw [hphase] at hs
    exact Bound.concat hs rfl
  | pauseOver =>
    obtain ⟨hphase, rfl⟩ := apply_pauseOver h
    rw [hphase] at hs
    exact Bound.concat hs rfl
  | connected n | connectFailed n reason | connectTimedOut n | streamEnded n | streamDropped n =>
    rw [(phase_of_leaving h (List.cons_ne_nil _ _)).2]
    exact hs.concat rfl rfl
  | cancel =>
    obtain rfl := Option.some.inj h
    exact hs.concat rfl rfl
  | cancelNoticed =>
    obtain ⟨hlistening, hcancel, rfl⟩ := apply_cancelNoticed h
    exact ⟨(hs.bound_of_isListening hlistening).concat rfl, events, [], rfl, hcancelled hcancel,
      fun _ h => absurd h List.not_mem_nil⟩
  | drained =>
    obtain ⟨hphase, -, rfl⟩ := apply_drained h
    rw [hphase] at hs
    exact ⟨hs.1.concat rfl, hs.2.concat rfl⟩

/-! ## Conservation -/

open scoped List in
/-- Numbers of relays that are taken out and put back in keep their balance over an event: whatever
has come out stays on record, and each accepted connection comes in. -/
theorem Step.conserves {view : List Relay → List Nat} (h : Step e f g)
    (happend : ∀ xs ys, view (xs ++ ys) = view xs ++ view ys)
    (hperm : ∀ {xs ys : List Relay}, xs.Perm ys → (view xs).Perm (view ys)) {out done : List Nat}
    (hbalance : (out ++ view (e.entering f.acceptedCount)).Perm
      (view e.leaving ++ List.replicate e.isAccept.toNat f.acceptedCount))
    (hf : (done ++ view f.relays).Perm (List.range f.acceptedCount)) :
    (done ++ out ++ view g.relays).Perm (List.range g.acceptedCount) := by
  obtain ⟨rest, hbefore, hafter⟩ := h.relays
  have hrange : List.range g.acceptedCount =
      List.range f.acceptedCount ++ List.replicate e.isAccept.toNat f.acceptedCount := by
    rw [h.count]
    cases e.isAccept with
    | false => simp
    | true => exact List.range_succ
  have hsplit : (view f.relays).Perm (view e.leaving ++ view rest) := by
    rw [← happend]
    exact hperm hbefore
  have hjoin : (view g.relays).Perm (view (e.entering f.acceptedCount) ++ view rest) := by
    rw [← happend]
    exact hperm hafter
  rw [hrange]
  calc done ++ out ++ view g.relays
      ~ done ++ (out ++ view (e.entering f.acceptedCount) ++ view rest) := by
        rw [List.append_assoc, List.append_assoc]
        exact (hjoin.append_left _).append_left _
    _ ~ done ++ (view e.leaving ++ List.replicate e.isAccept.toNat f.acceptedCount ++ view rest) :=
        (hbalance.append_right _).append_left _
    _ ~ done ++ (view e.leaving ++ view rest ++
          List.replicate e.isAccept.toNat f.acceptedCount) := by
        rw [List.append_assoc, List.append_assoc]
        exact (List.perm_append_comm.append_left _).append_left _
    _ ~ done ++ view f.relays ++ List.replicate e.isAccept.toNat f.acceptedCount := by
        rw [List.append_assoc done]
        exact (hsplit.symm.append_right _).append_left _
    _ ~ List.range f.acceptedCount ++ List.replicate e.isAccept.toNat f.acceptedCount :=
        hf.append_right _

theorem dialing_append (xs ys : List Relay) : dialing (xs ++ ys) = dialing xs ++ dialing ys := by
  rw [dialing, List.filter_append, List.map_append, dialing, dialing]

theorem dialing_perm {xs ys : List Relay} (h : xs.Perm ys) : (dialing xs).Perm (dialing ys) :=
  (h.filter _).map _

/-- What a sequence of events has made of a forwarder. -/
structure Course (start : Forwarder) (events : List ForwardEvent) (f : Forwarder) : Prop where
  session_eq : f.session = start.session
  remote_eq : f.remote = start.remote
  options_eq : f.options = start.options
  cancelled : f.cancelled = true ↔ start.cancelled = true ∨ .cancel ∈ events
  count : f.acceptedCount = events.countP ForwardEvent.isAccept
  reports : f.reports = events.filterMap start.dialFailure?
  /-- Each accepted connection has a relay, unless this has ended, once. -/
  ended : (events.filterMap ForwardEvent.ended? ++ f.relays.map Relay.number).Perm
    (List.range f.acceptedCount)
  /-- Each accepted connection is being dialed for, unless this has ended, once. -/
  dialed : (events.filterMap ForwardEvent.dialed? ++ dialing f.relays).Perm
    (List.range f.acceptedCount)
  standing : Standing start events f.phase

theorem filterMap_concat {α : Type} (part : ForwardEvent → Option α) (events : List ForwardEvent)
    (e : ForwardEvent) :
    (events ++ [e]).filterMap part = events.filterMap part ++ (part e).toList := by
  rw [List.filterMap_append, List.filterMap_cons]
  cases part e <;> rfl

theorem dialFailure?_eq (hsession : f.session = start.session) (hremote : f.remote = start.remote)
    (hoptions : f.options = start.options) : f.dialFailure? = start.dialFailure? := by
  funext e
  cases e with
  | connectFailed n reason =>
    rw [dialFailure?, dialReport_eq hsession hremote, dialFailure?]
  | connectTimedOut n =>
    have htext : f.timeoutText = start.timeoutText := by
      unfold timeoutText
      rw [hoptions]
    rw [dialFailure?, dialReport_eq hsession hremote, htext, dialFailure?]
  | bindTried _ | accepted | acceptFailed _ | pauseOver | connected _ | streamEnded _
  | streamDropped _ | cancel | cancelNoticed | drained => rfl

/-- One more event. -/
theorem Course.concat (hf : Course start events f) (h : f.apply e = some g) :
    Course start (events ++ [e]) g := by
  have hstep := step_of_apply h
  constructor
  case session_eq => exact hstep.session_eq.trans hf.session_eq
  case remote_eq => exact hstep.remote_eq.trans hf.remote_eq
  case options_eq => exact hstep.options_eq.trans hf.options_eq
  case cancelled =>
    rw [hstep.cancelled, Bool.or_eq_true, hf.cancelled, ForwardEvent.isCancel_iff, or_assoc,
      List.mem_append, List.mem_singleton]
  case count =>
    rw [hstep.count, hf.count, List.countP_append, List.countP_singleton]
    cases e.isAccept <;> rfl
  case reports =>
    rw [hstep.reports, hf.reports, filterMap_concat,
      dialFailure?_eq hf.session_eq hf.remote_eq hf.options_eq]
  case ended =>
    rw [filterMap_concat]
    refine hstep.conserves (fun _ _ => List.map_append) (fun h => h.map _) ?_ hf.ended
    cases e <;> exact .refl _
  case dialed =>
    rw [filterMap_concat]
    refine hstep.conserves dialing_append dialing_perm ?_ hf.dialed
    cases e <;> exact .refl _
  case standing =>
    exact standing_of_apply hf.standing hf.session_eq hf.options_eq hf.cancelled.mp h

theorem Course.fresh (session : Session) (remotePort : UInt16) (options : ForwardOptions)
    (cancelled : Bool) : Course (ofSession session remotePort options cancelled) []
      (ofSession session remotePort options cancelled) where
  session_eq := rfl
  remote_eq := rfl
  options_eq := rfl
  cancelled := by simp
  count := rfl
  reports := rfl
  ended := .refl _
  dialed := .refl _
  standing := ⟨0, rfl, Nat.le_max_left .., rfl⟩

theorem applyAll_concat : applyAll (events ++ [e]) start = some g ↔
    ∃ f, applyAll events start = some f ∧ f.apply e = some g := by
  rw [applyAll, List.foldlM_append, Option.bind_eq_bind, Option.bind_eq_some_iff]
  simp only [List.foldlM_cons, List.foldlM_nil, bind_pure]
  rfl

/-- Nothing has happened to the session yet. -/
def IsFresh (f : Forwarder) : Prop :=
  ∃ session remotePort options cancelled, f = ofSession session remotePort options cancelled

/-- What any sequence of events makes of the forwarder of a session. -/
theorem Course.of_applyAll (hstart : start.IsFresh) (h : applyAll events start = some f) :
    Course start events f := by
  induction events using List.reverseRecOn generalizing f with
  | nil =>
    cases h
    obtain ⟨session, remotePort, options, cancelled, rfl⟩ := hstart
    exact .fresh session remotePort options cancelled
  | append_singleton events e ih =>
    obtain ⟨f', hf', he⟩ := applyAll_concat.mp h
    exact (ih hf').concat he

/-! ## Relays -/

/-- There are relays only while the local port is open or the last of them are waited for. -/
def Attended (f : Forwarder) : Prop :=
  f.relays = [] ∨ f.isListening = true ∨ f.phase = .draining

theorem Attended.of_apply (hf : f.Attended) (h : f.apply e = some g) : g.Attended := by
  cases e with
  | bindTried result =>
    obtain ⟨attempt, hphase, rfl⟩ := apply_bindTried h
    have hnone : f.relays = [] := by simpa [Attended, isListening, hphase] using hf
    unfold bindTried
    split
    · exact .inl hnone
    · split <;> exact .inl hnone
  | accepted =>
    obtain ⟨hphase, rfl⟩ := apply_accepted h
    exact .inr (.inl (by rw [isListening, hphase]))
  | acceptFailed reason =>
    obtain ⟨-, text, rfl⟩ := apply_acceptFailed h
    exact .inr (.inl rfl)
  | pauseOver =>
    obtain ⟨-, rfl⟩ := apply_pauseOver h
    exact .inr (.inl rfl)
  | connected n | connectFailed n reason | connectTimedOut n | streamEnded n | streamDropped n =>
    obtain ⟨hrelays, hphase⟩ := phase_of_leaving h (List.cons_ne_nil _ _)
    refine .inr ?_
    rw [isListening, hphase, ← isListening]
    exact hf.resolve_left hrelays
  | cancel =>
    obtain rfl := Option.some.inj h
    exact hf
  | cancelNoticed =>
    obtain ⟨-, -, rfl⟩ := apply_cancelNoticed h
    exact .inr (.inr rfl)
  | drained =>
    obtain ⟨-, hnone, rfl⟩ := apply_drained h
    exact .inl hnone

theorem Reachable.attended (hf : Reachable f) : f.Attended := by
  induction hf with
  | fresh session remotePort options cancelled => exact .inl rfl
  | step e _ hg ih => exact ih.of_apply hg

theorem leads_of_applyAll (h : applyAll events f = some g) : f.Leads g := by
  induction events using List.reverseRecOn generalizing g with
  | nil =>
    cases h
    exact .refl
  | append_singleton events e ih =>
    obtain ⟨f', hf', he⟩ := applyAll_concat.mp h
    exact (ih hf').tail ⟨e, he⟩

/-! ## Coming to an end -/

theorem workOf_perm {xs ys : List Relay} (h : xs.Perm ys) : workOf xs = workOf ys :=
  (h.map _).sum_eq

theorem workOf_append (xs ys : List Relay) : workOf (xs ++ ys) = workOf xs + workOf ys := by
  rw [workOf, List.map_append, List.sum_append, workOf, workOf]

/-- What leaves takes its work along, and what enters brings its own. -/
theorem Step.work (h : Step e f g) : workOf g.relays + workOf e.leaving =
    workOf f.relays + workOf (e.entering f.acceptedCount) := by
  obtain ⟨rest, hbefore, hafter⟩ := h.relays
  rw [workOf_perm hbefore, workOf_perm hafter, workOf_append, workOf_append]
  omega

theorem remaining_of_phase (h : g.phase = f.phase) :
    g.remaining + workOf f.relays = f.remaining + workOf g.relays := by
  unfold remaining
  rw [h]
  split <;> omega

theorem isClosed_eq_false_of_isListening (h : f.isListening = true) : f.isClosed = false := by
  cases hphase : f.phase with
  | accepting | pausing => rw [isClosed, hphase]
  | binding attempt | draining | returned ending => simp [isListening, hphase] at h

/-- A relay has less work left after each event that it goes through. -/
theorem workOf_entering_lt (he : e.leaving ≠ []) (count : Nat) :
    workOf (e.entering count) + (!e.isCancel).toNat ≤ workOf e.leaving := by
  cases e with
  | connected n | connectFailed n reason | connectTimedOut n | streamEnded n | streamDropped n =>
    simp [ForwardEvent.entering, ForwardEvent.leaving, ForwardEvent.isCancel, workOf]
  | bindTried _ | accepted | acceptFailed _ | pauseOver | cancel | cancelNoticed | drained =>
    exact absurd rfl he

/-- Once the local port is closed it stays closed, and whatever happens but a cancellation leaves
less to come. -/
theorem remaining_of_apply (hclosed : f.isClosed = true) (h : f.apply e = some g) :
    g.isClosed = true ∧ g.remaining + (!e.isCancel).toNat ≤ f.remaining := by
  by_cases hleaving : e.leaving = []
  · cases e with
    | bindTried result =>
      obtain ⟨attempt, hphase, -⟩ := apply_bindTried h
      simp [isClosed, hphase] at hclosed
    | accepted => simp [isClosed, (apply_accepted h).1] at hclosed
    | acceptFailed reason => simp [isClosed, (apply_acceptFailed h).1] at hclosed
    | pauseOver => simp [isClosed, (apply_pauseOver h).1] at hclosed
    | cancel =>
      obtain rfl := Option.some.inj h
      exact ⟨hclosed, Nat.le_refl _⟩
    | cancelNoticed =>
      have hopen := isClosed_eq_false_of_isListening (apply_cancelNoticed h).1
      rw [hclosed] at hopen
      cases hopen
    | drained =>
      obtain ⟨hphase, -, rfl⟩ := apply_drained h
      have hlast : f.remaining = workOf f.relays + 1 := by rw [remaining, hphase]
      exact ⟨rfl, hlast.ge⟩
    | connected n | connectFailed n reason | connectTimedOut n | streamEnded n | streamDropped n =>
      cases hleaving
  · obtain ⟨-, hphase⟩ := phase_of_leaving h hleaving
    have hwork := (step_of_apply h).work
    have hless := workOf_entering_lt hleaving f.acceptedCount
    have hsame := remaining_of_phase hphase
    refine ⟨?_, by omega⟩
    rwa [isClosed, hphase, ← isClosed]

/-- So there is an end to what can happen. -/
theorem remaining_of_applyAll (hclosed : f.isClosed = true) (h : applyAll events f = some g) :
    g.isClosed = true ∧ g.remaining + events.countP (!·.isCancel) ≤ f.remaining := by
  induction events using List.reverseRecOn generalizing g with
  | nil =>
    cases h
    exact ⟨hclosed, Nat.le_refl _⟩
  | append_singleton events e ih =>
    obtain ⟨f', hf', he⟩ := applyAll_concat.mp h
    obtain ⟨hclosed', hle⟩ := ih hf'
    obtain ⟨hclosed'', hle'⟩ := remaining_of_apply hclosed' he
    refine ⟨hclosed'', ?_⟩
    have hone : (if (!e.isCancel) = true then 1 else 0) = (!e.isCancel).toNat := by
      cases e.isCancel <;> rfl
    rw [List.countP_append, List.countP_singleton, hone]
    omega

/-- A cancelled forwarder that has had its port can do something by itself until it returns. -/
theorem exists_own (hcancelled : f.cancelled = true)
    (hbegun : f.isListening = true ∨ f.phase = .draining) :
    ∃ e, e.isOwn = true ∧ (f.apply e).isSome := by
  rcases hbegun with hlistening | hdraining
  · refine ⟨.cancelNoticed, rfl, ?_⟩
    cases hphase : f.phase with
    | accepting | pausing => simp [apply, hphase, hcancelled]
    | binding attempt | draining | returned ending => simp [isListening, hphase] at hlistening
  · cases hrelays : f.relays with
    | nil => exact ⟨.drained, rfl, by simp [apply, hdraining, hrelays]⟩
    | cons r rest =>
      obtain ⟨n, phase⟩ := r
      have hfound : f.relay? n phase = some ⟨n, phase⟩ :=
        relay?_eq_some_iff.mpr ⟨rfl, by rw [hrelays]; exact List.mem_cons_self⟩
      cases phase with
      | connecting => exact ⟨.connectTimedOut n, rfl, by simp [apply, hfound]⟩
      | copying => exact ⟨.streamDropped n, rfl, by simp [apply, hcancelled, hfound]⟩

/-! ## Where a forwarder stands, by what has happened -/

/-- Once the local port is had, the forwarder listens, waits for its relays, or has returned without
an error. -/
theorem Standing.of_bound (hs : Standing start events f.phase)
    (hbound : .bindTried (.ok ()) ∈ events) :
    f.isListening = true ∨ f.phase = .draining ∨ f.phase = .returned (.ok ()) := by
  have hok : .ok () ∈ tries events := List.mem_filterMap.mpr ⟨_, hbound, rfl⟩
  cases hphase : f.phase with
  | binding attempt =>
    rw [hphase] at hs
    obtain ⟨k, -, -, htries⟩ := hs
    rw [htries] at hok
    cases List.eq_of_mem_replicate hok
  | accepting | pausing => exact .inl (by rw [isListening, hphase])
  | draining => exact .inr (.inl rfl)
  | returned ending =>
    rw [hphase] at hs
    cases ending with
    | ok u => exact .inr (.inr rfl)
    | error error =>
      obtain ⟨fault, ⟨k, htries, -⟩, -⟩ := hs
      rw [htries, List.mem_append, List.mem_singleton] at hok
      rcases hok with hok | hok
      · cases List.eq_of_mem_replicate hok
      · cases hok

/-- What was tried last is never had if it was given up. -/
theorem GivenUp.not_bound {fault : Fault} (h : GivenUp start events fault) : ¬Bound events := by
  rintro ⟨k', hbound⟩
  obtain ⟨k, htries, -⟩ := h
  have hlast := (List.append_inj' (hbound.symm.trans htries) rfl).2
  cases hlast

/-- The forwarder has returned with an error exactly if it has given up the local port. -/
theorem Standing.returned_error_iff {phase : ForwardPhase} {error : ProviderError}
    (hs : Standing start events phase) : phase = .returned (.error error) ↔
      ∃ fault, GivenUp start events fault ∧ error = .bind start.session.port fault.message := by
  constructor
  · rintro rfl
    exact hs
  · rintro ⟨fault, hgiven, rfl⟩
    cases phase with
    | binding attempt =>
      -- As many tries as were made were not enough to give up.
      obtain ⟨k, rfl, hle, hbinding⟩ := hs
      obtain ⟨k', htries, -, hlast⟩ := hgiven
      have hmem : .error fault ∈ tries events := by simp [htries]
      have hfault : fault = .addressInUse := by
        rw [hbinding] at hmem
        exact Except.error.inj (List.eq_of_mem_replicate hmem)
      have hlength := congrArg List.length (hbinding.symm.trans htries)
      simp only [List.length_replicate, List.length_append, List.length_singleton] at hlength
      have := hlast hfault
      omega
    | accepting | pausing => exact absurd hs hgiven.not_bound
    | draining => exact absurd hs.1 hgiven.not_bound
    | returned ending =>
      cases ending with
      | ok u => exact absurd hs.1 hgiven.not_bound
      | error error =>
        obtain ⟨fault', ⟨k', htries', -⟩, rfl⟩ := hs
        obtain ⟨k, htries, -⟩ := hgiven
        have hlast := (List.append_inj' (htries.symm.trans htries') rfl).2
        cases hlast
        rfl

theorem Course.cancelled_of_noticed (hf : Course start events f) (h : Noticed start events) :
    f.cancelled = true := by
  obtain ⟨before, after, rfl, hcancel, -⟩ := h
  exact hf.cancelled.mpr (hcancel.imp_right fun hmem => List.mem_append_left _ hmem)

/-- Until it is cancelled, a session that has its port listens. -/
theorem Course.isListening_of_live (hf : Course start events f) (hbegun : f.isListening = true ∨
      f.phase = .draining ∨ f.phase = .returned (.ok ())) (hlive : f.cancelled = false) :
    f.isListening = true := by
  have hstanding := hf.standing
  have hnot : ¬Noticed start events := fun h => by
    rw [hf.cancelled_of_noticed h] at hlive
    cases hlive
  rcases hbegun with hlistening | hphase | hphase
  · exact hlistening
  · rw [hphase] at hstanding
    exact absurd hstanding.2 hnot
  · rw [hphase] at hstanding
    exact absurd hstanding.2 hnot

/-- A session that has its port returns without an error, when its relays have ended. -/
theorem Course.ending_of_returned {ending : Ending} (hf : Course start events f)
    (hattended : f.Attended) (hbegun : f.isListening = true ∨ f.phase = .draining ∨
      f.phase = .returned (.ok ()))
    (hending : f.phase = .returned ending) : ending = .ok () ∧ Noticed start events ∧
      (events.filterMap ForwardEvent.ended?).Perm
        (List.range (events.countP ForwardEvent.isAccept)) := by
  have hok : ending = .ok () := by simpa [isListening, hending] using hbegun
  subst hok
  have hrelays : f.relays = [] := by simpa [Attended, isListening, hending] using hattended
  have hstanding := hf.standing
  rw [hending] at hstanding
  have hended := hf.ended
  rw [hrelays, List.map_nil, List.append_nil, hf.count] at hended
  exact ⟨rfl, hstanding.2, hended⟩

/-! ## The reports on each connection -/

theorem dialed?_of_dialFailure? {report : RelayReport} (h : start.dialFailure? e = some report) :
    e.dialed? = some report.relay := by
  cases e with
  | connectFailed n reason | connectTimedOut n =>
    cases h
    rfl
  | bindTried _ | accepted | acceptFailed _ | pauseOver | connected _ | streamEnded _
  | streamDropped _ | cancel | cancelNoticed | drained => cases h

theorem localId_of_dialFailure? {report : RelayReport} (h : start.dialFailure? e = some report) :
    report.signal.localId = some start.session.localId := by
  cases e with
  | connectFailed n reason | connectTimedOut n =>
    cases h
    rfl
  | bindTried _ | accepted | acceptFailed _ | pauseOver | connected _ | streamEnded _
  | streamDropped _ | cancel | cancelNoticed | drained => cases h

/-- What comes out of one member of a list does not come out of another. -/
theorem eq_of_nodup_filterMap {α β : Type} {part : α → Option β} {l : List α}
    (h : (l.filterMap part).Nodup) {x y : α} {b : β} (hx : x ∈ l) (hy : y ∈ l)
    (hxb : part x = some b) (hyb : part y = some b) : x = y := by
  by_contra hne
  have hsymm : Std.Symm fun x y : α => ∀ b, part x = some b → ∀ b', part y = some b' → b ≠ b' :=
    ⟨fun x y hxy b hb b' hb' heq => hxy b' hb' b hb heq.symm⟩
  exact (List.pairwise_filterMap.mp h).forall hx hy hne b hxb b hyb rfl

/-- A member is the only one with what it is told apart by. -/
theorem filter_of_nodup_map {α β : Type} [DecidableEq α] [DecidableEq β] {part : α → β}
    {l : List α} (h : (l.map part).Nodup) {x : α} (hx : x ∈ l) :
    l.filter (part · = part x) = [x] := by
  have hsame : l.filter (part · = part x) = l.filter (· == x) := by
    refine List.filter_congr fun y hy => ?_
    by_cases hyx : y = x
    · simp [hyx]
    · have hne : part y ≠ part x := fun heq => hyx (List.inj_on_of_nodup_map h hy hx heq)
      simp [hyx, hne]
  rw [hsame, List.filter_beq, List.count_eq_one_of_mem (.of_map _ h) hx]
  rfl

/-- **The course of a session.** A session whose local port cannot be bound returns an error that
names the port, after it was tried again while it was in use and for no other fault. A session whose
port is bound goes on listening until it is cancelled, whatever happens. If it returns, it returns
without an error, after the cancellation was noticed and the port given up for good, and when each
relay that was started has ended, once. And it does return: once it is cancelled it can always do
something by itself, and once the port is closed there is a bound on what can happen to it besides.
For each connection there is at most one report, which names the local id of the session: exactly
one if its dial has failed or timed out, and none if the dial came about, whatever becomes of the
stream. -/
theorem goes_on_until_cancelled (hstart : start.IsFresh) (h : applyAll events start = some f) :
    (∀ error, f.phase = .returned (.error error) ↔
      ∃ fault, GivenUp start events fault ∧ error = .bind start.session.port fault.message) ∧
    (.bindTried (.ok ()) ∈ events →
      (f.cancelled = false → f.isListening = true) ∧
      (∀ ending, f.phase = .returned ending → ending = .ok () ∧ Noticed start events ∧
        (events.filterMap ForwardEvent.ended?).Perm
          (List.range (events.countP ForwardEvent.isAccept))) ∧
      (f.cancelled = true → (∀ e, e.isOwn = true → f.apply e = none) →
        f.phase = .returned (.ok ())) ∧
      (f.isClosed = true → ∀ more g, applyAll more f = some g →
        more.countP (!·.isCancel) ≤ f.remaining)) ∧
    (f.cancelled = true ↔ start.cancelled = true ∨ .cancel ∈ events) ∧
    (f.reports.map RelayReport.relay).Nodup ∧
    (∀ report ∈ f.reports, report.relay < events.countP ForwardEvent.isAccept ∧
      report.signal.localId = some start.session.localId ∧
      ∃ e ∈ events, start.dialFailure? e = some report) ∧
    (∀ e ∈ events, ∀ report, start.dialFailure? e = some report →
      f.reports.filter (·.relay = report.relay) = [report]) ∧
    ∀ n, .connected n ∈ events → f.reports.filter (·.relay = n) = [] := by
  have hcourse := Course.of_applyAll hstart h
  have hreachable : Reachable f := by
    obtain ⟨session, remotePort, options, cancelled, rfl⟩ := hstart
    exact (Reachable.fresh session remotePort options cancelled).leads (leads_of_applyAll h)
  have hnodup : (f.reports.map RelayReport.relay).Nodup := hreachable.orderly.nodup.of_append_left
  have hdials : (events.filterMap ForwardEvent.dialed?).Nodup :=
    (hcourse.dialed.nodup_iff.mpr List.nodup_range).of_append_left
  refine ⟨fun error => hcourse.standing.returned_error_iff, fun hbound => ?_, hcourse.cancelled,
    hnodup, fun report hreport => ?_, fun e he report hfailure => ?_, fun n hn => ?_⟩
  · have hbegun := hcourse.standing.of_bound hbound
    refine ⟨fun hlive => ?_, fun ending hending => ?_, fun hcancel hstuck => ?_,
      fun hclosed more g hg => ?_⟩
    · exact hcourse.isListening_of_live hbegun hlive
    · exact hcourse.ending_of_returned hreachable.attended hbegun hending
    · by_contra hrunning
      have hgoing : f.isListening = true ∨ f.phase = .draining :=
        hbegun.imp_right fun hphase => hphase.resolve_right hrunning
      obtain ⟨e, hown, he⟩ := exists_own hcancel hgoing
      rw [hstuck e hown] at he
      cases he
    · have hle := (remaining_of_applyAll hclosed hg).2
      omega
  · have hmem := hreport
    rw [hcourse.reports] at hmem
    obtain ⟨e, he, hfailure⟩ := List.mem_filterMap.mp hmem
    have hconnection : report.relay ∈ f.connections :=
      List.mem_append_left _ (List.mem_map_of_mem hreport)
    refine ⟨?_, localId_of_dialFailure? hfailure, e, he, hfailure⟩
    rw [← hcourse.count]
    exact hreachable.orderly.accepted _ hconnection
  · refine filter_of_nodup_map hnodup ?_
    rw [hcourse.reports]
    exact List.mem_filterMap.mpr ⟨e, he, hfailure⟩
  · rw [List.filter_eq_nil_iff]
    intro report hreport hrelay
    rw [hcourse.reports] at hreport
    obtain ⟨e, he, hfailure⟩ := List.mem_filterMap.mp hreport
    -- The dial would have ended twice.
    have hdialed : e.dialed? = some n := by
      rw [dialed?_of_dialFailure? hfailure, of_decide_eq_true hrelay]
    obtain rfl := eq_of_nodup_filterMap hdials he hn hdialed rfl
    cases hfailure

/-- A session gets its port at the second try. Its first connection finds no workspace, then
accepting fails for a while, and the second connection is relayed until the session is cancelled.
Another session finds its port in use three times. -/
theorem goes_on_until_cancelled_two_connections :
    let start := ofSession ⟨1, SmallFleet.web, 1024⟩ 22
    let inUse : ForwardEvent := .bindTried (.error .addressInUse)
    let events : List ForwardEvent :=
      [inUse, .bindTried (.ok ()), .accepted, .connectFailed 0 "Connection refused",
        .acceptFailed "Too many open files", .pauseOver, .accepted, .connected 1, .cancel,
        .cancelNoticed, .streamDropped 1, .drained]
    start.IsFresh ∧
      (∃ f, applyAll events start = some f ∧ f.phase = .returned (.ok ()) ∧
        Noticed start events ∧
        (events.filterMap ForwardEvent.ended?).Perm (List.range 2) ∧
        f.reports.filter (·.relay = 0) = [start.dialReport 0 "Connection refused"] ∧
        f.reports.filter (·.relay = 1) = []) ∧
      ∃ f, applyAll [inUse, inUse, inUse] start = some f ∧
        f.phase = .returned (.error (.bind 1024 Fault.addressInUse.message)) := by
  intro start inUse events
  have hstart : start.IsFresh := ⟨⟨1, SmallFleet.web, 1024⟩, 22, {}, false, rfl⟩
  obtain ⟨f, hf, hphase⟩ : ∃ f, applyAll events start = some f ∧ f.phase = .returned (.ok ()) :=
    ⟨_, rfl, rfl⟩
  obtain ⟨f', hf'⟩ : ∃ f, applyAll [inUse, inUse, inUse] start = some f := ⟨_, rfl⟩
  obtain ⟨-, hbound, -, -, -, hfailed, hconnected⟩ := goes_on_until_cancelled hstart hf
  obtain ⟨hgiven, -⟩ := goes_on_until_cancelled hstart hf'
  obtain ⟨-, hreturned, -⟩ := hbound (by simp [events])
  obtain ⟨-, hnoticed, hended⟩ := hreturned (.ok ()) hphase
  refine ⟨hstart, ⟨f, hf, hphase, hnoticed, hended, ?_, ?_⟩, f', hf', ?_⟩
  · exact hfailed (.connectFailed 0 "Connection refused") (by simp [events]) _ rfl
  · exact hconnected 1 (by simp [events])
  · refine (hgiven _).mpr ⟨.addressInUse, ⟨2, rfl, by decide, fun _ => by decide⟩, rfl⟩

end Forwarder

end TunnelFleet
