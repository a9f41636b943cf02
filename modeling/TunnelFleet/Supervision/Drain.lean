import TunnelFleet.Supervision.Event

/-!
# Waiting for the sessions to end

A shutdown closes everything at once and then waits for the sessions, but not beyond its
grace period. Meanwhile the supervisor lives on: sessions end, and calls come in. What
happens while a shutdown waits is given as a course of events with their moments.
-/

namespace TunnelFleet

/-- An event with the moment at which it comes up. -/
structure TimedEvent (σ : Type) where
  moment : Duration
  event : Event σ

/-- What a shutdown answers. -/
structure ShutdownReport where
  /-- How many handles were not closed before. -/
  closed : Nat
  /-- Whether all sessions ended in time. -/
  drained : Bool
  deriving DecidableEq

namespace Supervisor

variable {σ : Type}

/-- Waits until no session is left or the deadline has come, while a course of events takes
place. An event that cannot happen when its moment comes is passed over. -/
def waitAmid (setup : Setup σ) (deadline : Duration) :
    List (TimedEvent σ) → Supervisor σ → Supervisor σ
  | [], s => s
  | x :: course, s =>
    if s.waitIsOver deadline x.moment then s
    else waitAmid setup deadline course ((x.event.apply setup s).getD s)

/-- Shuts down at a moment, and waits for the sessions while a course of events takes
place. -/
def shutdownAmid (setup : Setup σ) (now : Duration) (course : List (TimedEvent σ))
    (s : Supervisor σ) : ShutdownReport × Supervisor σ :=
  let (closed, s) := s.shutdown
  let s := s.waitAmid setup (setup.deadline now) course
  ({ closed, drained := s.isDrained }, s.noteDrain setup)

end Supervisor

end TunnelFleet
