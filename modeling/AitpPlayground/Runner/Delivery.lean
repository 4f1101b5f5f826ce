import AitpPlayground.Lib.Lts
import AitpPlayground.Runner.Store

/-!
# `AitpPlayground.Runner.Delivery`: from the event log to the subscribers

`append_event` (`src/aitp_playground/runner/store.py`) writes the log and copies the list of
subscribers under the lock. After it released the lock it calls `call_soon_threadsafe` once
for each subscriber, and the event loop of the subscriber runs `_safe_put` later.
`Delivery` is the store with everything on the way between the log and a reader:

* a note is a call of `call_soon_threadsafe` that a thread has yet to make;
* `Subscriber.scheduled` holds the callbacks the loop has yet to run, in the order they
  were scheduled;
* `Subscriber.queue` is the `asyncio.Queue`, and `received` what was read from it.

A thread makes its notifications in the order of the subscribers, and makes no other call
of the store before the last of them. Callbacks of two subscribers touch two queues, so the
model leaves the order between them open.

The loop of a subscriber is open here. `append_event` ignores the `RuntimeError` of a closed
loop, whose queue nobody reads any more.

The type `τ` names the threads, and `ε` is the type of events.
-/

set_option autoImplicit false

namespace AitpPlayground.Runner

open AitpPlayground.Lib

/-- The `maxsize` of the queue that `subscribe` creates. -/
def queueMaxsize : Nat := 500

/-- `_safe_put`: a full queue drops the event. -/
def safePut {ε : Type} (queue : List ε) (event : ε) : List ε :=
  if queue.length < queueMaxsize then queue ++ [event] else queue

/-- One subscription, with what reached it. -/
structure Subscriber (ε : Type) where
  runId : String
  /-- The queue is registered: `unsubscribe` was not called. -/
  active : Bool
  backlog : List ε
  received : List ε
  queue : List ε
  scheduled : List ε
deriving DecidableEq

/-- A notification that `thread` has yet to make. -/
structure Note (τ ε : Type) where
  thread : τ
  queue : Nat
  event : ε
deriving DecidableEq

/-- The store, the subscriptions and the notifications under way. The number of a queue is
its position among the subscriptions. -/
structure Delivery (τ ε : Type) where
  store : RunStore ε
  subscribers : List (Subscriber ε)
  pending : List (Note τ ε)

/-- The moves of the producers, of the event loop and of the readers. -/
inductive DeliveryLabel (τ ε : Type) where
  /-- The locked part of a store method. -/
  | call (thread : τ) (runId : String) (call : RunStore.Call ε) (now : ℚ)
  /-- The next `call_soon_threadsafe` of a thread. -/
  | notify (thread : τ)
  | subscribe (runId : String)
  /-- The loop runs the next `_safe_put` of a queue. -/
  | runCallback (q : Nat)
  /-- The reader takes an event off its queue. -/
  | read (q : Nat)
  | unsubscribe (q : Nat)

/-- The notifications a call leaves to its thread. -/
def notesOf {τ ε : Type} (thread : τ) : RunStore.Call ε → List Nat → List (Note τ ε)
  | .appendEvent event, queues => queues.map fun q => ⟨thread, q, event⟩
  | _, _ => []

namespace Delivery

variable {τ ε : Type} [DecidableEq τ]

/-- The notes of one thread, as a test. -/
def noteOf (thread : τ) (n : Note τ ε) : Bool := decide (n.thread = thread)

/-- Replaces the subscription `q` by its image. -/
def modify (s : Delivery τ ε) (q : Nat) (f : Subscriber ε → Subscriber ε) : Delivery τ ε :=
  { s with subscribers := s.subscribers.modify q f }

/-- The locked part of a store method, called by a thread that has nothing left to notify. -/
def call (s : Delivery τ ε) (thread : τ) (runId : String) (c : RunStore.Call ε) (now : ℚ) :
    Option (Delivery τ ε) :=
  if s.pending.any (noteOf thread) then none
  else
    let (store, _, queues) := s.store.call runId now c
    some { s with store, pending := s.pending ++ notesOf thread c queues }

/-- The next `call_soon_threadsafe` of a thread. -/
def notify (s : Delivery τ ε) (thread : τ) : Option (Delivery τ ε) :=
  (s.pending.find? (noteOf thread)).map fun n =>
    { s with pending := s.pending.eraseP (noteOf thread) : Delivery τ ε }.modify n.queue
      fun sub => { sub with scheduled := sub.scheduled ++ [n.event] }

/-- `subscribe`: a new queue, whose number is the next position. -/
def subscribe (s : Delivery τ ε) (runId : String) : Delivery τ ε :=
  let (store, backlog) := s.store.subscribe runId s.subscribers.length
  { s with
      store
      subscribers := s.subscribers ++
        [{ runId, active := true, backlog, received := [], queue := [], scheduled := [] }] }

/-- The loop runs the next `_safe_put` of a queue. -/
def runCallback (s : Delivery τ ε) (q : Nat) : Option (Delivery τ ε) :=
  match (s.subscribers[q]?).map Subscriber.scheduled with
  | some (event :: rest) =>
    some (s.modify q fun sub =>
      { sub with scheduled := rest, queue := safePut sub.queue event })
  | _ => none

/-- The reader takes an event off its queue. -/
def read (s : Delivery τ ε) (q : Nat) : Option (Delivery τ ε) :=
  match (s.subscribers[q]?).map Subscriber.queue with
  | some (event :: rest) =>
    some (s.modify q fun sub => { sub with queue := rest, received := sub.received ++ [event] })
  | _ => none

/-- `unsubscribe`. -/
def unsubscribe (s : Delivery τ ε) (q : Nat) : Option (Delivery τ ε) :=
  (s.subscribers[q]?).map fun sub =>
    { s with store := s.store.unsubscribe sub.runId q : Delivery τ ε }.modify q
      fun sub => { sub with active := false }

/-- One move. -/
def step (s : Delivery τ ε) : DeliveryLabel τ ε → Option (Delivery τ ε)
  | .call thread runId c now => s.call thread runId c now
  | .notify thread => s.notify thread
  | .subscribe runId => some (s.subscribe runId)
  | .runCallback q => s.runCallback q
  | .read q => s.read q
  | .unsubscribe q => s.unsubscribe q

/-- The notifications for one queue that are yet to be made. -/
def notesFor (s : Delivery τ ε) (q : Nat) : List (Note τ ε) :=
  s.pending.filter fun n => decide (n.queue = q)

end Delivery

/-- The events that left the log for this subscriber: in its hands, in its queue, or
scheduled. -/
def Subscriber.sent {ε : Type} (sub : Subscriber ε) : List ε :=
  sub.backlog ++ sub.received ++ sub.queue ++ sub.scheduled

end AitpPlayground.Runner
