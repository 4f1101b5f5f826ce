import AitpPlayground.Lib.Lts
import Mathlib.Data.Finset.Card
import Mathlib.Data.Finset.Insert
import Mathlib.Data.Finset.SDiff

/-!
# `AitpPlayground.Hosting.PortAllocator`: ports for agents

`PortAllocator` (`src/aitp_playground/hosting/port_allocator.py`) hands out ports from a base
upwards and takes them back into a pool. Each method holds the lock, so a call is one step.
-/

set_option autoImplicit false

namespace AitpPlayground.Hosting

/-- The allocator. -/
structure PortAllocator where
  start : Int
  next : Int
  /-- The ports that were given back, the last one at the end. -/
  free : List Int
  inUse : Finset Int

namespace PortAllocator

/-- `PortAllocator(start)`. -/
def new (start : Int) : PortAllocator := { start, next := start, free := [], inUse := ∅ }

/-- `while self._next in self._in_use: self._next += 1`. As many turns as there are ports in
use are enough. -/
def skipInUse (inUse : Finset Int) : Nat → Int → Int
  | 0, port => port
  | turns + 1, port => if port ∈ inUse then skipInUse inUse turns (port + 1) else port

/-- `allocate`: the port, and the allocator after it. -/
def allocate (a : PortAllocator) (offset : Int) : Int × PortAllocator :=
  let candidate := a.start + offset
  if candidate ∉ a.inUse ∧ candidate ∉ a.free then
    (candidate, { a with
      inUse := insert candidate a.inUse
      next := if a.next ≤ candidate then candidate + 1 else a.next })
  else
    match a.free.getLast? with
    | some port => (port, { a with free := a.free.dropLast, inUse := insert port a.inUse })
    | none =>
      let port := skipInUse a.inUse a.inUse.card a.next
      (port, { a with next := port + 1, inUse := insert port a.inUse })

/-- `release`. -/
def release (a : PortAllocator) (port : Int) : PortAllocator :=
  if port ∈ a.inUse then { a with inUse := a.inUse.erase port, free := a.free ++ [port] } else a

/-- `reset`. -/
def reset (a : PortAllocator) : PortAllocator :=
  { a with next := a.start, free := [], inUse := ∅ }

/-- The loop of `ScenarioRunner.run` that asks for the ports of its agents, in order, each by
its offset. -/
def allocateAll (a : PortAllocator) : List Int → List Int × PortAllocator
  | [] => ([], a)
  | offset :: offsets =>
    let (port, a) := a.allocate offset
    let (ports, a) := a.allocateAll offsets
    (port :: ports, a)

/-- The loop at the end of a run that gives its ports back, in the order in which it got
them. -/
def releaseAll (a : PortAllocator) (ports : List Int) : PortAllocator := ports.foldl release a

/-- A call of the allocator. -/
inductive Call where
  | allocate (offset : Int)
  | release (port : Int)
  | reset

/-- One call. -/
def step (a : PortAllocator) : Call → Option PortAllocator
  | .allocate offset => some (a.allocate offset).2
  | .release port => some (a.release port)
  | .reset => some a.reset

end PortAllocator

end AitpPlayground.Hosting
