import TunnelFleet.Files.Fault
import TunnelFleet.Log
import TunnelFleet.Supervision.Session
import TunnelFleet.Supervision.Signal
import TunnelFleet.Text.Duration

/-!
# Forwarding

A forwarder runs one tunnel session. It binds the local port, relays every accepted
connection to the workspace, and returns once the session is cancelled and all of
its relays have ended. A relay that cannot reach the workspace reports a fatal
signal; a stream that ends is no error.

The network decides what happens next, so a forwarder is a machine that takes the
events of the network, in any order in which they can occur.
-/

namespace TunnelFleet

/-- How a forwarder deals with the network. -/
structure ForwardOptions where
  /-- How often the local port is tried while somebody else holds it. -/
  bindAttempts : Nat := 3
  /-- The pause between two tries. -/
  bindRetryDelay : Duration := .ofMilliseconds 500
  /-- How long a connection to the workspace may take to come about. -/
  connectTimeout : Duration := .ofSeconds 10

/-- What a relay is doing. -/
inductive RelayPhase
  | connecting
  | copying
  deriving DecidableEq

/-- A relay of the accepted connection with this number. -/
structure Relay where
  number : Nat
  phase : RelayPhase := .connecting
  deriving DecidableEq

/-- Where the forwarder stands. -/
inductive ForwardPhase
  /-- It tries to bind the local port, for the given time, counted from one. -/
  | binding (attempt : Nat)
  | accepting
  /-- It pauses after a failed accept. -/
  | pausing
  /-- The local port is closed, and relays are still running. -/
  | draining
  | returned (ending : Ending)

/-- A fatal signal and the relay that reported it. -/
structure RelayReport where
  relay : Nat
  signal : Signal
  deriving DecidableEq

/-- The state of a forwarder. -/
structure Forwarder where
  session : Session
  /-- The address of the workspace's SSH service. -/
  remote : String
  options : ForwardOptions := {}
  phase : ForwardPhase := .binding 1
  /-- Whether the session is cancelled. -/
  cancelled : Bool := false
  /-- The relays that have not ended. -/
  relays : List Relay := []
  /-- How many connections were accepted. -/
  acceptedCount : Nat := 0
  /-- The signals reported, in order. -/
  reports : List RelayReport := []
  logs : List LogLine := []

/-- What happens to a forwarder. -/
inductive ForwardEvent
  /-- A try to bind the local port ends. -/
  | bindTried (result : Except Fault Unit)
  | accepted
  | acceptFailed (reason : String)
  | pauseOver
  | connected (relay : Nat)
  | connectFailed (relay : Nat) (reason : String)
  | connectTimedOut (relay : Nat)
  /-- One side of a relayed stream has closed, or the stream has broken. -/
  | streamEnded (relay : Nat)
  /-- A relay drops its stream because the session is cancelled. -/
  | streamDropped (relay : Nat)
  /-- The session is cancelled. -/
  | cancel
  /-- The forwarder notices that the session is cancelled. -/
  | cancelNoticed
  /-- The last relay has ended, and the forwarder returns. -/
  | drained

namespace Forwarder

/-- A forwarder for a session that leads to the workspace's SSH service. -/
def ofSession (session : Session) (remotePort : UInt16) (options : ForwardOptions := {})
    (cancelled : Bool := false) : Forwarder :=
  { session, remote := session.workspace.sshAddress remotePort, options, cancelled }

/-- Adds a line about the session to the log. -/
def say (f : Forwarder) (level : LogLevel) (text : String) : Forwarder :=
  { f with logs := f.logs ++ [.about level .forwarder f.session.localId.text text] }

/-- The warning that the local port will be tried again. -/
def retryText (f : Forwarder) (attempt : Nat) : String :=
  s!"Port {f.session.port.toNat} is in use (attempt {attempt}/{f.options.bindAttempts}), " ++
    s!"retrying in {f.options.bindRetryDelay.text}"

/-- A try to bind the local port has ended. A port that is in use is tried again
while tries are left; any other fault ends the session.

Once the port is bound, the system is asked for its address, which is logged. That it
knows the address of a port that it has just bound is taken for granted: a fault there,
which would end the session as `ProviderError.io`, is no event of this machine. -/
def bindTried (f : Forwarder) (attempt : Nat) : Except Fault Unit → Forwarder
  | .ok () => { f with phase := .accepting }
  | .error fault =>
    if fault = .addressInUse ∧ attempt < f.options.bindAttempts then
      { f with phase := .binding (attempt + 1) }.say .warn (f.retryText attempt)
    else { f with phase := .returned (.error (.bind f.session.port fault.message)) }

/-- The relay with this number in this phase, if it is running. -/
def relay? (f : Forwarder) (number : Nat) (phase : RelayPhase) : Option Relay :=
  f.relays.find? fun r => r.number == number && r.phase == phase

/-- Removes a relay that has ended. -/
def removeRelay (f : Forwarder) (r : Relay) : Forwarder := { f with relays := f.relays.erase r }

/-- A relay could not reach the workspace: that is logged and reported. -/
def failRelay (f : Forwarder) (r : Relay) (reason : String) : Forwarder :=
  let text := (ProviderError.unreachable f.remote reason).message
  let report : RelayReport := ⟨r.number, ⟨some f.session.localId, text⟩⟩
  { f.removeRelay r with reports := f.reports ++ [report] }.say .error text

/-- What is said of a connection that did not come about in time. -/
def timeoutText (f : Forwarder) : String :=
  s!"connect timed out after {f.options.connectTimeout.text}"

/-- The state after an event, if the event can happen in this state. A relay that is
still connecting does not heed the cancellation. -/
def apply (f : Forwarder) : ForwardEvent → Option Forwarder
  | .bindTried result =>
    match f.phase with
    | .binding attempt => some (f.bindTried attempt result)
    | _ => none
  | .accepted =>
    match f.phase with
    | .accepting =>
      some { f with
        relays := f.relays ++ [{ number := f.acceptedCount }]
        acceptedCount := f.acceptedCount + 1 }
    | _ => none
  | .acceptFailed reason =>
    match f.phase with
    | .accepting =>
      some ({ f with phase := .pausing }.say .error s!"Failed to accept connection: {reason}")
    | _ => none
  | .pauseOver =>
    match f.phase with
    | .pausing => some { f with phase := .accepting }
    | _ => none
  | .connected n =>
    (f.relay? n .connecting).map fun r =>
      { f with relays := f.relays.replace r { r with phase := .copying } }
  | .connectFailed n reason => (f.relay? n .connecting).map (f.failRelay · reason)
  | .connectTimedOut n => (f.relay? n .connecting).map (f.failRelay · f.timeoutText)
  | .streamEnded n => (f.relay? n .copying).map f.removeRelay
  | .streamDropped n => if f.cancelled then (f.relay? n .copying).map f.removeRelay else none
  | .cancel => some { f with cancelled := true }
  | .cancelNoticed =>
    match f.phase with
    | .accepting | .pausing => if f.cancelled then some { f with phase := .draining } else none
    | _ => none
  | .drained =>
    match f.phase with
    | .draining => if f.relays.isEmpty then some { f with phase := .returned (.ok ()) } else none
    | _ => none

/-- The states that a forwarder can reach. -/
inductive Reachable : Forwarder → Prop
  | fresh (session : Session) (remotePort : UInt16) (options : ForwardOptions)
      (cancelled : Bool) : Reachable (ofSession session remotePort options cancelled)
  | step {f g : Forwarder} (e : ForwardEvent) (hf : Reachable f) (hg : f.apply e = some g) :
      Reachable g

/-- Tries to bind the local port until that succeeds or is given up, at most `fuel`
times. `answer` is what the system says at a moment. -/
def bindAll (answer : Duration → Except Fault Unit) : (fuel : Nat) → Duration → Forwarder → Forwarder
  | 0, _, f => f
  | fuel + 1, now, f =>
    match f.apply (.bindTried (answer now)) with
    | some f => bindAll answer fuel ⟨now.nanoseconds + f.options.bindRetryDelay.nanoseconds⟩ f
    | none => f

/-- Binds the local port, as far as the system lets it. -/
def bind (f : Forwarder) (answer : Duration → Except Fault Unit) : Forwarder :=
  f.bindAll answer (f.options.bindAttempts + 1) ⟨0⟩

/-- Whether the local port accepts connections. -/
def isListening (f : Forwarder) : Bool :=
  match f.phase with
  | .accepting | .pausing => true
  | _ => false

/-- How the session ended, if it did. -/
def ending? (f : Forwarder) : Option Ending :=
  match f.phase with
  | .returned ending => some ending
  | _ => none

/-- Lets the forwarder notice what it can notice by itself: a cancellation, relayed
streams to drop, and that nothing is left. -/
def windDown (f : Forwarder) : Forwarder :=
  let f := (f.apply .cancelNoticed).getD f
  let f := f.relays.foldl (fun f r => (f.apply (.streamDropped r.number)).getD f) f
  (f.apply .drained).getD f

end Forwarder

end TunnelFleet
