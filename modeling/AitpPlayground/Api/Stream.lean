import AitpPlayground.Api.Runs
import AitpPlayground.Runner.Delivery

/-!
# `AitpPlayground.Api.Stream`: the event stream of a run

`stream_run_events` (`src/aitp_playground/api/runs.py`) answers with a generator. It
subscribes, replays the backlog, and then loops: it reads the record, ends the stream when
the status is terminal and its queue is empty, and otherwise waits for an event for at most
one second.

`StreamSystem` puts the parts together: the run on the event loop, the cancel requests, the
telemetry of the agents, the notifications and callbacks of `Runner/Delivery.lean`, and any
number of streams of the run. The stream at position `q` reads the queue `q`.

A generator gives up control at every `yield` and every `await`, and `StreamPc` has a control
point at each. The test of the loop reads the record and then the queue. Both reads are one
step here, because only callbacks of the generator's own event loop write its queue.

The route answers 404 before it makes a generator when there is no record. A record is never
removed, so the model makes that test together with the subscription.
-/

set_option autoImplicit false

namespace AitpPlayground.Api

open AitpPlayground.Lib
open AitpPlayground.Runner

/-- Who calls the store: the run, a cancel request, or a telemetry request of an agent. -/
inductive Producer where
  | engine
  | cancel (i : Nat)
  | telemetry (i : Nat)
deriving DecidableEq

/-- A piece of the response. -/
inductive Chunk where
  | event (e : Event)
  | heartbeat
  /-- The line `data: {"type":"stream.end"}`. -/
  | streamEnd
deriving DecidableEq

/-- The event of a chunk. -/
def Chunk.event? : Chunk → Option Event
  | .event e => some e
  | _ => none

/-- The control points of the generator. -/
inductive StreamPc where
  /-- The events of the backlog that are yet to be replayed. -/
  | replay (rest : List Event)
  /-- At the head of the loop. -/
  | check
  /-- In `wait_for(q.get(), timeout=1.0)`. -/
  | wait
  /-- `stream.end` was yielded. -/
  | ended
  /-- The generator is done, and its queue is not registered any more. -/
  | closed
deriving DecidableEq

/-- A stream, with what it has yielded. -/
structure Stream where
  pc : StreamPc
  out : List Chunk
deriving DecidableEq

/-- The events a stream has yielded. -/
def Stream.events (st : Stream) : List Event := st.out.filterMap Chunk.event?

/-- One run with its cancel requests and its streams. -/
structure StreamSystem where
  delivery : Delivery Producer Event
  engine : EnginePc
  cancels : Nat → CancelPc
  streams : List Stream

/-- Who moves. -/
inductive StreamLabel where
  | engine (choice : EngineChoice)
  | cancel (i : Nat) (kills : Bool)
  /-- `POST /internal/telemetry` with this body. -/
  | telemetry (i : Nat) (body : Event)
  | notify (producer : Producer)
  | runCallback (q : Nat)
  | openStream
  /-- The next step of a generator. -/
  | stream (q : Nat)
  /-- The wait of a generator times out. -/
  | timeout (q : Nat)
  /-- The client is gone: the generator is closed where it stands. -/
  | disconnect (q : Nat)

/-- A move of a caller whose store call goes through `Delivery`. -/
def moveBy {π : Type} (d : Delivery Producer Event) (producer : Producer) (runId : String)
    (m : Move π) (now : ℚ) : Option (Delivery Producer Event × π) :=
  match m.call with
  -- `append_event` has not returned while the producer has notifications to make.
  | none => if d.pending.any (Delivery.noteOf producer) then none else some (d, m.next .done)
  | some c =>
    (d.call producer runId c now).map fun d' => (d', m.next (d.store.call runId now c).2.1)

namespace StreamSystem

/-- Replaces the stream `q`. -/
def setStream (s : StreamSystem) (q : Nat) (st : Stream) : StreamSystem :=
  { s with streams := s.streams.set q st }

/-- The test that ends a stream: `terminal and q.empty()`. -/
def drained (s : StreamSystem) (runId : String) (q : Nat) : Bool :=
  isTerminal (s.delivery.store.status runId) &&
    ((s.delivery.subscribers[q]?).map fun sub => sub.queue.isEmpty).getD false

/-- `unsubscribe` in the `finally` of a generator. -/
def close (s : StreamSystem) (q : Nat) (st : Stream) : Option StreamSystem :=
  (s.delivery.unsubscribe q).map fun delivery =>
    { s with delivery : StreamSystem }.setStream q { st with pc := .closed }

/-- The generator gets the next event of its queue and yields it. -/
def receive (s : StreamSystem) (q : Nat) (out : List Chunk) : Option StreamSystem :=
  match (s.delivery.subscribers[q]?).map Subscriber.queue with
  | some (event :: _) =>
    (s.delivery.read q).map fun delivery =>
      { s with delivery : StreamSystem }.setStream q ⟨.check, out ++ [.event event]⟩
  | _ => none

/-- The next step of the generator `q`. -/
def advance (s : StreamSystem) (runId : String) (q : Nat) (st : Stream) : Option StreamSystem :=
  match st.pc with
  | .replay (event :: rest) => some (s.setStream q ⟨.replay rest, st.out ++ [.event event]⟩)
  | .replay [] => some (s.setStream q ⟨.check, st.out⟩)
  | .check =>
    if s.drained runId q then some (s.setStream q ⟨.ended, st.out ++ [.streamEnd]⟩)
    else some (s.setStream q ⟨.wait, st.out⟩)
  | .wait => s.receive q st.out
  -- `return` runs the `finally`.
  | .ended => s.close q st
  | .closed => none

end StreamSystem

/-- One move of the system. -/
def streamStep (args : RunArgs) (s : StreamSystem) (l : StreamLabel × ℚ) : Option StreamSystem :=
  match l with
  | (.engine choice, now) =>
    (s.engine.move args now choice).bind fun m =>
      (moveBy s.delivery .engine args.runId m now).map fun r =>
        { s with delivery := r.1, engine := r.2 }
  | (.cancel i kills, now) =>
    ((s.cancels i).move args.runId now kills).bind fun m =>
      (moveBy s.delivery (.cancel i) args.runId m now).map fun r =>
        { s with delivery := r.1, cancels := Function.update s.cancels i r.2 }
  | (.telemetry i body, now) =>
    (s.delivery.call (.telemetry i) args.runId (.appendEvent body) now).map fun delivery =>
      { s with delivery }
  | (.notify producer, _) => (s.delivery.notify producer).map fun delivery => { s with delivery }
  | (.runCallback q, _) => (s.delivery.runCallback q).map fun delivery => { s with delivery }
  | (.openStream, _) =>
    -- A run that is not there is a 404.
    if (s.delivery.store.get args.runId).isSome then
      some { s with
        delivery := s.delivery.subscribe args.runId
        streams := s.streams ++ [⟨.replay (s.delivery.store.log args.runId), []⟩] }
    else none
  | (.stream q, _) => (s.streams[q]?).bind fun st => s.advance args.runId q st
  | (.timeout q, _) =>
    (s.streams[q]?).bind fun st =>
      if st.pc = .wait then some (s.setStream q ⟨.check, st.out ++ [.heartbeat]⟩) else none
  | (.disconnect q, _) =>
    (s.streams[q]?).bind fun st => if st.pc = .closed then none else s.close q st

end AitpPlayground.Api
