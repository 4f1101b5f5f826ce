import AitpPlayground.Proofs.Hosting.PortAllocator

/-!
# `AitpPlayground.Proofs.Hosting.RequestedPorts`: who gets the port it asks for

A scenario may have the numbers of its ports in its text. Its agents then ask for them by
offset. `allocate` grants the candidate if it was never handed out. A candidate that was given
back is in the pool, and `allocate` does not look for it there: it takes the last port of the
pool, whatever was asked for. So a port that is free is granted if and only if it is not in
the pool, or was the last one to get into it (`allocate_eq_candidate_iff`).

`allocateAll_eq_iff` states this for the agents of a scenario together. A scenario gives its
ports back in the order in which it got them, so the pool then offers them in the opposite
order, and the same scenario gets them back in the right places only if it has one agent.
-/

set_option autoImplicit false

namespace AitpPlayground.Proofs.Hosting

open AitpPlayground.Lib
open AitpPlayground.Hosting

/-- The allocator keeps its base. -/
theorem start_step {a a' : PortAllocator} (c : PortAllocator.Call) (hs : a.step c = some a') :
    a'.start = a.start := by
  cases c with
  | allocate offset =>
    cases hs
    unfold PortAllocator.allocate
    simp only
    split
    · rfl
    · split <;> rfl
  | release port =>
    cases hs
    unfold PortAllocator.release
    split <;> rfl
  | reset =>
    cases hs
    rfl

/-- An allocation leaves the first port. -/
theorem start_allocate (a : PortAllocator) (offset : Int) :
    (a.allocate offset).2.start = a.start := start_step (.allocate offset) rfl

/-! ### One request -/

/-- A candidate that is neither in use nor in the pool is granted, and the pool stays. -/
theorem allocate_of_fresh {a : PortAllocator} {offset : Int} (huse : a.start + offset ∉ a.inUse)
    (hfree : a.start + offset ∉ a.free) :
    (a.allocate offset).1 = a.start + offset ∧ (a.allocate offset).2.free = a.free := by
  simp [PortAllocator.allocate, huse, hfree]

/-- A candidate of the pool is not looked at: the last port of the pool is handed out. -/
theorem allocate_of_pooled {a : PortAllocator} {offset port : Int} {rest : List Int}
    (hfree : a.start + offset ∈ a.free) (hpool : a.free.reverse = port :: rest) :
    (a.allocate offset).1 = port ∧ (a.allocate offset).2.free.reverse = rest := by
  have hlast : a.free.getLast? = some port := by
    rw [List.getLast?_eq_head?_reverse, hpool]
    rfl
  have hdrop : a.free.dropLast.reverse = rest := by
    rw [← List.tail_reverse, hpool]
    rfl
  simp [PortAllocator.allocate, hfree, hlast, hdrop]

/-- A port that is not in use is granted to the one who asks for it if and only if it was never
given back since it was handed out last, or is the last one that was. -/
theorem allocate_eq_candidate_iff {a : PortAllocator} {offset : Int}
    (huse : a.start + offset ∉ a.inUse) :
    (a.allocate offset).1 = a.start + offset ↔
      a.start + offset ∉ a.free ∨ a.free.getLast? = some (a.start + offset) := by
  by_cases hfree : a.start + offset ∈ a.free
  · obtain ⟨port, rest, hpool⟩ := List.exists_cons_of_ne_nil
      (List.ne_nil_of_mem (List.mem_reverse.mpr hfree))
    rw [(allocate_of_pooled hfree hpool).1, List.getLast?_eq_head?_reverse, hpool]
    simp [hfree]
  · simp [(allocate_of_fresh huse hfree).1, hfree]

/-! ### The requests of a scenario -/

/-- The ports that a scenario asks for. -/
def candidates (a : PortAllocator) (offsets : List Int) : List Int := offsets.map (a.start + ·)

/-- The ports of a list that are in the pool. -/
def pooled (a : PortAllocator) (ports : List Int) : List Int :=
  ports.filter fun p => decide (p ∈ a.free)

/-- The first request is granted and the pool then suits the rest, if and only if the pool suits
them all. -/
theorem granted_and_rest_iff {a : PortAllocator} {offset : Int} {ports : List Int}
    (hnot : a.start + offset ∉ ports) (huse : a.start + offset ∉ a.inUse) :
    ((a.allocate offset).1 = a.start + offset ∧
      pooled (a.allocate offset).2 ports <+: (a.allocate offset).2.free.reverse) ↔
    pooled a ((a.start + offset) :: ports) <+: a.free.reverse := by
  by_cases hfree : a.start + offset ∈ a.free
  · obtain ⟨port, rest, hpool⟩ := List.exists_cons_of_ne_nil
      (List.ne_nil_of_mem (List.mem_reverse.mpr hfree))
    obtain ⟨hgot, hleft⟩ := allocate_of_pooled hfree hpool
    have hcons : pooled a ((a.start + offset) :: ports) = (a.start + offset) :: pooled a ports :=
      List.filter_cons_of_pos (decide_eq_true hfree)
    rw [hgot, hleft, hcons, hpool, List.cons_prefix_cons, eq_comm]
    refine and_congr_right fun hport => ?_
    -- The rest asks for other ports, so the pool without this one is the same for it.
    have hsame : pooled (a.allocate offset).2 ports = pooled a ports := by
      apply List.filter_congr
      intro p hp
      have hne : p ≠ port := fun heq => hnot (hport ▸ heq ▸ hp)
      have hold : p ∈ a.free ↔ p ∈ rest := by
        rw [← List.mem_reverse, hpool]
        simp [hne]
      rw [decide_eq_decide, hold, ← List.mem_reverse, hleft]
    rw [hsame]
  · obtain ⟨hgot, hsame⟩ := allocate_of_fresh huse hfree
    have hcons : pooled a ((a.start + offset) :: ports) = pooled a ports :=
      List.filter_cons_of_neg (by simpa using hfree)
    have hrest : pooled (a.allocate offset).2 ports = pooled a ports := by
      unfold pooled
      rw [hsame]
    rw [hcons, hrest, hsame]
    exact and_iff_right hgot

/-- The agents of a scenario get what they ask for if and only if no two ask for one port, no
port is in use, and the ports of the pool among them are the ones given back last, the very
last one first. -/
theorem allocateAll_eq_iff {a : PortAllocator} (h : Valid a) (offsets : List Int) :
    (a.allocateAll offsets).1 = candidates a offsets ↔
      (candidates a offsets).Nodup ∧ (∀ p ∈ candidates a offsets, p ∉ a.inUse) ∧
        pooled a (candidates a offsets) <+: a.free.reverse := by
  induction offsets generalizing a with
  | nil => simp [PortAllocator.allocateAll, candidates, pooled]
  | cons offset offsets ih =>
    have hport := allocated_allocate h offset
    have hrest := ih hport.valid
    have hsame : candidates (a.allocate offset).2 offsets = candidates a offsets := by
      unfold candidates
      rw [start_allocate]
    rw [hsame, hport.inUse] at hrest
    have hcons : candidates a (offset :: offsets) = (a.start + offset) :: candidates a offsets :=
      rfl
    have hall : (a.allocateAll (offset :: offsets)).1 =
        (a.allocate offset).1 :: ((a.allocate offset).2.allocateAll offsets).1 := rfl
    rw [hcons, hall, List.cons.injEq, hrest, List.nodup_cons, List.forall_mem_cons]
    constructor
    · rintro ⟨hgot, hnodup, huse, hpool⟩
      rw [hgot] at huse
      have hnot : a.start + offset ∉ candidates a offsets := fun hmem =>
        huse _ hmem (Finset.mem_insert_self _ _)
      have hnew : a.start + offset ∉ a.inUse := hgot ▸ hport.new
      refine ⟨⟨hnot, hnodup⟩, ⟨hnew, fun p hp hin => huse p hp (Finset.mem_insert_of_mem hin)⟩,
        ?_⟩
      exact (granted_and_rest_iff hnot hnew).mp ⟨hgot, hpool⟩
    · rintro ⟨⟨hnot, hnodup⟩, ⟨hnew, huse⟩, hpool⟩
      obtain ⟨hgot, hpool⟩ := (granted_and_rest_iff hnot hnew).mpr hpool
      refine ⟨hgot, hnodup, ?_, hpool⟩
      intro p hp hin
      rcases Finset.mem_insert.mp hin with rfl | hin
      · rw [hgot] at hp
        exact hnot hp
      · exact huse p hp hin

/-! ### The same scenario again -/

/-- The ports of a scenario are in use when it has them, and the invariant holds. -/
theorem allocateAll_inUse {a : PortAllocator} (h : Valid a) (offsets : List Int) :
    Valid (a.allocateAll offsets).2 ∧
    ∀ p, p ∈ (a.allocateAll offsets).2.inUse ↔ p ∈ (a.allocateAll offsets).1 ∨ p ∈ a.inUse := by
  induction offsets generalizing a with
  | nil => exact ⟨h, fun p => by simp [PortAllocator.allocateAll]⟩
  | cons offset offsets ih =>
    have hport := allocated_allocate h offset
    obtain ⟨hvalid, hmem⟩ := ih hport.valid
    refine ⟨hvalid, fun p => ?_⟩
    show p ∈ ((a.allocate offset).2.allocateAll offsets).2.inUse ↔
      p ∈ (a.allocate offset).1 :: ((a.allocate offset).2.allocateAll offsets).1 ∨ p ∈ a.inUse
    rw [hmem p, hport.inUse, Finset.mem_insert, List.mem_cons]
    tauto

/-- Several allocations leave the first port. -/
theorem start_allocateAll (a : PortAllocator) (offsets : List Int) :
    (a.allocateAll offsets).2.start = a.start := by
  induction offsets generalizing a with
  | nil => rfl
  | cons offset offsets ih => exact (ih _).trans (start_allocate a offset)

/-- Ports in use that are given back are at the end of the pool, in that order. -/
theorem releaseAll_eq {a : PortAllocator} {ports : List Int} (hnodup : ports.Nodup)
    (huse : ∀ p ∈ ports, p ∈ a.inUse) :
    (a.releaseAll ports).start = a.start ∧ (a.releaseAll ports).free = a.free ++ ports := by
  induction ports generalizing a with
  | nil => simp [PortAllocator.releaseAll]
  | cons port ports ih =>
    obtain ⟨hnot, hnodup⟩ := List.nodup_cons.mp hnodup
    have hport := huse port List.mem_cons_self
    have hfree : (a.release port).free = a.free ++ [port] := by
      simp [PortAllocator.release, hport]
    have hstart : (a.release port).start = a.start := start_step (.release port) rfl
    have huse' : ∀ p ∈ ports, p ∈ (a.release port).inUse := by
      intro p hp
      rw [inUse_release]
      exact Finset.mem_erase.mpr ⟨fun heq => hnot (heq ▸ hp), huse p (List.mem_cons_of_mem _ hp)⟩
    obtain ⟨hstart', hfree'⟩ := ih hnodup huse'
    refine ⟨hstart'.trans hstart, ?_⟩
    show ((a.release port).releaseAll ports).free = _
    rw [hfree', hfree, List.append_assoc, List.singleton_append]

/-- A list of distinct items that reads the same backwards has one item at most. -/
theorem length_le_one_of_eq_reverse {l : List Int} (hnodup : l.Nodup) (h : l = l.reverse) :
    l.length ≤ 1 := by
  by_contra hlong
  have hpos : 0 < l.length := by omega
  have hlast : l.length - 1 < l.length := by omega
  have hends : l[0] = l[l.length - 1] := by
    have h0 : l[0]? = l.reverse[0]? := congrArg (·[0]?) h
    rw [List.getElem?_reverse hpos, List.getElem?_eq_getElem hpos, Nat.sub_zero,
      List.getElem?_eq_getElem hlast] at h0
    exact Option.some.inj h0
  have heq := (hnodup.getElem_inj_iff).mp hends
  omega

/-- A scenario whose agents all got what they asked for gives its ports back and is run again.
Its agents get the same ports again if and only if there is at most one of them. -/
theorem repeated_iff {a : PortAllocator} (h : Valid a) {offsets : List Int}
    (hgot : (a.allocateAll offsets).1 = candidates a offsets) :
    (((a.allocateAll offsets).2.releaseAll (candidates a offsets)).allocateAll offsets).1 =
      candidates a offsets ↔ offsets.length ≤ 1 := by
  obtain ⟨hnodup, -, -⟩ := (allocateAll_eq_iff h offsets).mp hgot
  obtain ⟨hvalid, hmem⟩ := allocateAll_inUse h offsets
  have huse : ∀ p ∈ candidates a offsets, p ∈ (a.allocateAll offsets).2.inUse := fun p hp =>
    (hmem p).mpr (.inl (hgot ▸ hp))
  obtain ⟨hstart, hfree⟩ := releaseAll_eq hnodup huse
  have hsame : candidates ((a.allocateAll offsets).2.releaseAll (candidates a offsets)) offsets =
      candidates a offsets := by
    unfold candidates at hstart ⊢
    rw [hstart, start_allocateAll]
  have hpooled : pooled ((a.allocateAll offsets).2.releaseAll (candidates a offsets))
      (candidates a offsets) = candidates a offsets := by
    apply List.filter_eq_self.mpr
    intro p hp
    rw [hfree]
    exact decide_eq_true (List.mem_append_right _ hp)
  have hagain := allocateAll_eq_iff (valid_releaseAll hvalid (candidates a offsets)) offsets
  rw [hsame, hpooled, hfree, List.reverse_append] at hagain
  rw [hagain]
  have hlength : (candidates a offsets).length = offsets.length := List.length_map _
  constructor
  · rintro ⟨-, -, hbegins⟩
    -- The pool offers the ports backwards.
    have hrev : candidates a offsets = (candidates a offsets).reverse :=
      (List.prefix_of_prefix_length_le hbegins (List.prefix_append _ _) (by simp)).eq_of_length
        (by simp)
    rw [← hlength]
    exact length_le_one_of_eq_reverse hnodup hrev
  · intro hone
    refine ⟨hnodup, fun p hp hin => ?_, ?_⟩
    · rw [inUse_releaseAll] at hin
      exact (Finset.mem_sdiff.mp hin).2 (List.mem_toFinset.mpr hp)
    have hrev : (candidates a offsets).reverse = candidates a offsets := by
      rw [← hlength] at hone
      generalize candidates a offsets = l at hone
      match l, hone with
      | [], _ => rfl
      | [_], _ => rfl
    rw [hrev]
    exact List.prefix_append _ _

/-! ### After any calls -/

/-- A call that is not a reset. -/
def noReset (_ : PortAllocator) : PortAllocator.Call → Prop
  | .allocate _ | .release _ => True
  | .reset => False

instance (a : PortAllocator) : (c : PortAllocator.Call) → Decidable (noReset a c)
  | .allocate _ | .release _ => isTrue trivial
  | .reset => isFalse id

/-- After any calls, a port that is not in use is granted to the one who asks for it if and only
if it is not in the pool, or was the last one to get into it. The agents of a scenario get what
they ask for under the same condition for all of them, and a scenario of two or more agents
does not get its ports again after it gave them back. -/
theorem requested_port_granted_iff {start : Int} {a : PortAllocator}
    (h : Reach PortAllocator.step anyStep (.new start) a) :
    a.start = start ∧
    (∀ offset, a.start + offset ∉ a.inUse →
      ((a.allocate offset).1 = a.start + offset ↔
        a.start + offset ∉ a.free ∨ a.free.getLast? = some (a.start + offset))) ∧
    (∀ offsets, (a.allocateAll offsets).1 = candidates a offsets ↔
      (candidates a offsets).Nodup ∧ (∀ p ∈ candidates a offsets, p ∉ a.inUse) ∧
        pooled a (candidates a offsets) <+: a.free.reverse) ∧
    ∀ offsets, (a.allocateAll offsets).1 = candidates a offsets →
      ((((a.allocateAll offsets).2.releaseAll (candidates a offsets)).allocateAll offsets).1 =
        candidates a offsets ↔ offsets.length ≤ 1) := by
  have hvalid : Valid a :=
    h.invariant (fun _ c _ hv _ hs => valid_step c hv hs) (valid_new start)
  have hstart : a.start = start :=
    h.invariant (P := fun a => a.start = start)
      (fun _ c _ hv _ hs => (start_step c hs).trans hv) rfl
  exact ⟨hstart, fun _ huse => allocate_eq_candidate_iff huse, allocateAll_eq_iff hvalid,
    fun _ hgot => repeated_iff hvalid hgot⟩

/-- A port that was released last is granted again, and a scenario of one agent gets its port
again. -/
theorem requested_port_granted_iff_last_released :
    ∃ a, Reach PortAllocator.step anyStep (.new 8100) a ∧ a.free = [8101, 8100] ∧
      (a.allocate 0).1 = a.start + 0 ∧ (a.allocate 1).1 ≠ a.start + 1 ∧
      (((a.allocateAll [0]).2.releaseAll (candidates a [0])).allocateAll [0]).1 =
        candidates a [0] := by
  have heval : ((exec PortAllocator.step anyStep (.new 8100)
      [.allocate 0, .allocate 1, .release 8101, .release 8100]).map fun a =>
        (a.start, a.free, decide (a.inUse = ∅), (a.allocateAll [0]).1)) =
      some (8100, [8101, 8100], true, [8100]) := by decide +kernel
  obtain ⟨a, hrun, hreads⟩ := exists_reach_of_exec heval
  simp only [Prod.mk.injEq, decide_eq_true_eq] at hreads
  obtain ⟨hstart, hfree, hnone, hgot⟩ := hreads
  obtain ⟨-, hone, -, hrepeat⟩ := requested_port_granted_iff hrun
  have hnot : ∀ p, p ∉ a.inUse := fun p => by simp [hnone]
  refine ⟨a, hrun, hfree, (hone 0 (hnot _)).mpr ?_, fun heq => ?_, (hrepeat [0] ?_).mpr ?_⟩
  · rw [hstart, hfree]
    decide
  · have hcond := (hone 1 (hnot _)).mp heq
    rw [hstart, hfree] at hcond
    revert hcond
    decide
  · rw [hgot, candidates, hstart]
    rfl
  · decide

/-- Two agents get the ports they ask for and give them back. Then nobody uses port 8100, and who
asks for it gets 8101. -/
theorem requested_port_not_granted :
    ¬∀ a, Reach PortAllocator.step noReset (.new 8100) a → ∀ offset,
      8100 + offset ∉ a.inUse → (a.allocate offset).1 = 8100 + offset := by
  intro hclaim
  have heval : ((exec PortAllocator.step noReset (.new 8100)
      [.allocate 0, .allocate 1, .release 8100, .release 8101]).map fun a =>
        (decide (8100 ∉ a.inUse), (a.allocate 0).1)) = some (true, 8101) := by decide +kernel
  obtain ⟨a, hrun, hreads⟩ := exists_reach_of_exec heval
  simp only [Prod.mk.injEq, decide_eq_true_eq] at hreads
  have hgot := hclaim a hrun 0 hreads.1
  rw [hreads.2] at hgot
  exact absurd hgot (by decide)

end AitpPlayground.Proofs.Hosting
