import AitpPlayground.Hosting.PortAllocator

/-!
# `AitpPlayground.Proofs.Hosting.PortAllocator`: what the allocator keeps

`Valid` is the invariant of the allocator. A port that was given back is not in use, and the
counter is above every port it ever handed out. So the port of an `allocate` is new in every
one of its three branches, and the loop over `_next` never turns.

`ports_handed_out_once` states this for every sequence of calls. An offset can ask for a port
far above the counter, and the counter then jumps over a gap. The ports of the gap are below
the counter, and neither in use nor in the pool. They are handed out by their offset only.
-/

set_option autoImplicit false

namespace AitpPlayground.Proofs.Hosting

open AitpPlayground.Lib
open AitpPlayground.Hosting

/-- The invariant of the allocator. -/
structure Valid (a : PortAllocator) : Prop where
  nodup : a.free.Nodup
  disjoint : ∀ p ∈ a.free, p ∉ a.inUse
  inUse_lt : ∀ p ∈ a.inUse, p < a.next
  free_lt : ∀ p ∈ a.free, p < a.next

/-- A new allocator is valid. -/
theorem valid_new (start : Int) : Valid (.new start) := by
  refine ⟨List.nodup_nil, ?_, ?_, ?_⟩ <;> intro p hp <;> cases hp

/-- The loop stops at once when its port is not in use. -/
theorem skipInUse_of_not_mem {inUse : Finset Int} {port : Int} (h : port ∉ inUse) (turns : Nat) :
    PortAllocator.skipInUse inUse turns port = port := by
  cases turns with
  | zero => rfl
  | succ turns => exact if_neg h

/-- A port that was not in use is taken. -/
structure Allocated (a : PortAllocator) (port : Int) (a' : PortAllocator) : Prop where
  new : port ∉ a.inUse
  inUse : a'.inUse = insert port a.inUse
  valid : Valid a'

/-- What an allocation gives and leaves. -/
theorem allocated_allocate {a : PortAllocator} (h : Valid a) (offset : Int) :
    Allocated a (a.allocate offset).1 (a.allocate offset).2 := by
  unfold PortAllocator.allocate
  simp only
  split
  case isTrue hcand =>
    -- The candidate itself: it is neither in use nor in the pool.
    refine ⟨hcand.1, rfl, h.nodup, ?_, ?_, ?_⟩
    · intro p hp hin
      rcases Finset.mem_insert.mp hin with rfl | hin
      · exact hcand.2 hp
      · exact h.disjoint p hp hin
    · intro p hin
      show p < if a.next ≤ a.start + offset then a.start + offset + 1 else a.next
      rcases Finset.mem_insert.mp hin with rfl | hin
      · split <;> omega
      · have hlt := h.inUse_lt p hin
        split <;> omega
    · intro p hp
      show p < if a.next ≤ a.start + offset then a.start + offset + 1 else a.next
      have hlt := h.free_lt p hp
      split <;> omega
  case isFalse =>
    cases hlast : a.free.getLast? with
    | some port =>
      -- The last port of the pool.
      have hmem : port ∈ a.free := List.mem_of_getLast? hlast
      have hsplit : a.free.dropLast ++ [port] = a.free :=
        List.dropLast_append_getLast? port hlast
      have hnodup : (a.free.dropLast ++ [port]).Nodup := by
        rw [hsplit]
        exact h.nodup
      have hrest : ∀ p ∈ a.free.dropLast, p ∈ a.free := fun p => List.mem_of_mem_dropLast
      refine ⟨h.disjoint port hmem, rfl, (List.nodup_append.mp hnodup).1, ?_, ?_, ?_⟩
      · intro p hp hin
        rcases Finset.mem_insert.mp hin with rfl | hin
        · exact (List.nodup_append.mp hnodup).2.2 p hp p (List.mem_singleton_self p) rfl
        · exact h.disjoint p (hrest p hp) hin
      · intro p hin
        rcases Finset.mem_insert.mp hin with rfl | hin
        · exact h.free_lt p hmem
        · exact h.inUse_lt p hin
      · intro p hp
        exact h.free_lt p (hrest p hp)
    | none =>
      -- The pool is empty: the next port.
      have hnew : a.next ∉ a.inUse := fun hin => lt_irrefl _ (h.inUse_lt _ hin)
      have hnone : a.free = [] := List.getLast?_eq_none_iff.mp hlast
      simp only
      rw [skipInUse_of_not_mem hnew]
      refine ⟨hnew, rfl, h.nodup, ?_, ?_, ?_⟩
      · intro p hp
        rw [hnone] at hp
        cases hp
      · intro p hin
        show p < a.next + 1
        rcases Finset.mem_insert.mp hin with rfl | hin
        · omega
        · have hlt := h.inUse_lt p hin
          omega
      · intro p hp
        rw [hnone] at hp
        cases hp

/-- A release takes the port out, and does nothing else that a reader of the set sees. -/
theorem inUse_release (a : PortAllocator) (port : Int) :
    (a.release port).inUse = a.inUse.erase port := by
  unfold PortAllocator.release
  split
  case isTrue => rfl
  case isFalse hnot => exact (Finset.erase_eq_of_notMem hnot).symm

/-- A release keeps the allocator valid. -/
theorem valid_release {a : PortAllocator} (h : Valid a) (port : Int) : Valid (a.release port) := by
  unfold PortAllocator.release
  split
  case isFalse => exact h
  case isTrue hin =>
    -- A port in use is not free, so it is not in the list twice.
    have hnot : port ∉ a.free := fun hp => h.disjoint port hp hin
    refine ⟨?_, ?_, ?_, ?_⟩
    · refine List.nodup_append.mpr ⟨h.nodup, List.nodup_singleton port, ?_⟩
      rintro p hp q hq rfl
      rw [List.mem_singleton.mp hq] at hp
      exact hnot hp
    · intro p hp hin'
      obtain ⟨hne, hin'⟩ := Finset.mem_erase.mp hin'
      rcases List.mem_append.mp hp with hp | hp
      · exact h.disjoint p hp hin'
      · exact hne (List.mem_singleton.mp hp)
    · intro p hin'
      exact h.inUse_lt p (Finset.mem_of_mem_erase hin')
    · intro p hp
      rcases List.mem_append.mp hp with hp | hp
      · exact h.free_lt p hp
      · rw [List.mem_singleton.mp hp]
        exact h.inUse_lt port hin

/-- The ports that are given back are out of use. -/
theorem inUse_releaseAll (a : PortAllocator) (ports : List Int) :
    (a.releaseAll ports).inUse = a.inUse \ ports.toFinset := by
  unfold PortAllocator.releaseAll
  induction ports generalizing a with
  | nil => simp
  | cons port ports ih =>
    rw [List.foldl_cons, ih, inUse_release, List.toFinset_cons, Finset.erase_sdiff_comm,
      Finset.sdiff_insert]

/-- Releases in a row keep the invariant. -/
theorem valid_releaseAll {a : PortAllocator} (h : Valid a) (ports : List Int) :
    Valid (a.releaseAll ports) := by
  induction ports generalizing a with
  | nil => exact h
  | cons port ports ih => exact ih (valid_release h port)

/-- A reset keeps the allocator valid. -/
theorem valid_reset (a : PortAllocator) : Valid a.reset := valid_new a.start

/-- A call keeps the invariant. -/
theorem valid_step {a a' : PortAllocator} (c : PortAllocator.Call) (h : Valid a)
    (hs : a.step c = some a') : Valid a' := by
  cases c with
  | allocate offset =>
    cases hs
    exact (allocated_allocate h offset).valid
  | release port =>
    cases hs
    exact valid_release h port
  | reset =>
    cases hs
    exact valid_reset a

/-- After any calls, a port that is handed out was not in use and is then, the pool and the
ports in use are apart and below the counter, and a release of a port that is not in use
changes nothing. -/
theorem ports_handed_out_once {start : Int} {a : PortAllocator}
    (h : Reach PortAllocator.step anyStep (.new start) a) :
    Valid a ∧
    (∀ offset, (a.allocate offset).1 ∉ a.inUse ∧
      (a.allocate offset).1 ∈ (a.allocate offset).2.inUse) ∧
    ∀ port, port ∉ a.inUse → a.release port = a := by
  have hvalid : Valid a :=
    h.invariant (fun _ c _ hv _ hs => valid_step c hv hs) (valid_new start)
  refine ⟨hvalid, ?_, ?_⟩
  · intro offset
    have hport := allocated_allocate hvalid offset
    refine ⟨hport.new, ?_⟩
    rw [hport.inUse]
    exact Finset.mem_insert_self _ _
  · intro port hnot
    exact if_neg hnot

/-- The pool holds a port, and the counter has jumped over a gap. -/
theorem ports_handed_out_once_over_gap :
    ∃ a, Reach PortAllocator.step anyStep (.new 8100) a ∧
      a.next = 8151 ∧ a.free = [8100] ∧ (a.allocate 0).1 = 8100 ∧ (a.allocate (-3)).1 = 8097 ∧
      (a.allocate 0).1 ∉ a.inUse ∧ ∀ port, port ∉ a.inUse → a.release port = a := by
  have heval : ((exec PortAllocator.step anyStep (.new 8100)
      [.allocate 0, .allocate 50, .release 8100, .release 9000]).map fun a =>
        (a.next, a.free, (a.allocate 0).1, (a.allocate (-3)).1)) =
      some (8151, [8100], 8100, 8097) := by decide +kernel
  obtain ⟨a, hrun, hreads⟩ := exists_reach_of_exec heval
  obtain ⟨-, hports, hrelease⟩ := ports_handed_out_once hrun
  simp only [Prod.mk.injEq] at hreads
  exact ⟨a, hrun, hreads.1, hreads.2.1, hreads.2.2.1, hreads.2.2.2, (hports 0).1, hrelease⟩

end AitpPlayground.Proofs.Hosting
