import AitpPlayground.Api.Stream
import AitpPlayground.Proofs.Api.Cancellation
import AitpPlayground.Proofs.Runner.Delivery
import Mathlib.Algebra.Order.Group.Multiset
import Mathlib.Tactic.Abel

/-!
# `AitpPlayground.Proofs.Api.Stream`: when a stream ends

A stream ends when it reads a terminal status and finds its queue empty. The status and the
terminal event are two writes, and an event that is scheduled is not in the queue yet. So
the end test says less than it should: `EndReady` is what it leaves out. The terminal event
is in the log, and what is still on its way to the queue are events after it.

Every move of the system is a move of `Runner/Delivery.lean` (`delivery_step`), so its
invariants hold here. `Synced` ties each generator to its subscription: what it yielded is
the backlog and what it received. With the conservation of events, `EndReady` is exactly the
condition for everything to be sent (`endReady_iff`). `stream_ends_complete` is the statement
about runs, and `stream_ends_early` is a cancelled run whose stream ends without
`run.cancelled`.
-/

set_option autoImplicit false

namespace AitpPlayground.Proofs.Api

open AitpPlayground.Lib
open AitpPlayground.Runner
open AitpPlayground.Api
open AitpPlayground.Proofs.Runner

/-! ### The moves as moves of the delivery -/

/-- No update of the engine carries events. -/
theorem plainCall_engine {args : RunArgs} {now : ℚ} {pc : EnginePc} {choice : EngineChoice}
    {m : Move EnginePc} {c : RunStore.Call Event} (hm : pc.move args now choice = some m)
    (hc : m.call = some c) : PlainCall c := by
  unfold EnginePc.move at hm
  split at hm
  -- The emit of the body has a test of its own.
  all_goals try split at hm
  -- No move, a move without a call, a read or an append, or an update with no events.
  all_goals first | (cases hm; done) | (cases hm; cases hc; done) | (cases hm; cases hc; trivial)

/-- No update of a cancel request carries events. -/
theorem plainCall_cancel {runId : String} {now : ℚ} {kills : Bool} {pc : CancelPc}
    {m : Move CancelPc} {c : RunStore.Call Event} (hm : pc.move runId now kills = some m)
    (hc : m.call = some c) : PlainCall c := by
  cases pc with
  | idle => cases hm; cases hc; trivial
  | write => cases hm; cases hc; rfl
  | append => cases hm; cases hc; trivial
  | kill => cases hm; cases hc
  | returned b => cases hm
  | raised => cases hm

/-- A label that is not a move of a reader. -/
def ofProducer {τ ε : Type} : DeliveryLabel τ ε → Prop
  | .subscribe _ | .read _ | .unsubscribe _ => False
  | _ => True

/-- The delivery after a move: the same, or one plain move further. -/
def DeliveryMoved (P : DeliveryLabel Producer Event → Prop) (d d' : Delivery Producer Event) :
    Prop :=
  d' = d ∨ ∃ l, PlainLabel l ∧ P l ∧ d.step l = some d'

/-- A move of a producer moves the delivery. -/
theorem deliveryMoved_moveBy {π : Type} {d : Delivery Producer Event} {producer : Producer}
    {runId : String} {m : Move π} {now : ℚ} {r : Delivery Producer Event × π}
    (hplain : ∀ c, m.call = some c → PlainCall c)
    (h : moveBy d producer runId m now = some r) : DeliveryMoved ofProducer d r.1 := by
  unfold moveBy at h
  split at h
  · split at h
    · cases h
    · cases h
      exact .inl rfl
  · rename_i c hc
    obtain ⟨d', hd', rfl⟩ := Option.map_eq_some_iff.mp h
    exact .inr ⟨.call producer runId c now, hplain c hc, trivial, hd'⟩

/-- The labels that are not moves of a generator. -/
def isProducer : StreamLabel → Bool
  | .engine _ | .cancel _ _ | .telemetry _ _ | .notify _ | .runCallback _ => true
  | _ => false

/-- A move of a producer or of the event loop: the generators stay where they are. -/
theorem producer_step {args : RunArgs} {s s' : StreamSystem} {l : StreamLabel × ℚ}
    (hl : isProducer l.1 = true) (hstep : streamStep args s l = some s') :
    s'.streams = s.streams ∧ DeliveryMoved ofProducer s.delivery s'.delivery := by
  obtain ⟨label, now⟩ := l
  cases label with
  | engine choice =>
    obtain ⟨m, hm, hrest⟩ := Option.bind_eq_some_iff.mp hstep
    obtain ⟨r, hr, rfl⟩ := Option.map_eq_some_iff.mp hrest
    exact ⟨rfl, deliveryMoved_moveBy (fun c => plainCall_engine hm) hr⟩
  | cancel i kills =>
    obtain ⟨m, hm, hrest⟩ := Option.bind_eq_some_iff.mp hstep
    obtain ⟨r, hr, rfl⟩ := Option.map_eq_some_iff.mp hrest
    exact ⟨rfl, deliveryMoved_moveBy (fun c => plainCall_cancel hm) hr⟩
  | telemetry i body =>
    obtain ⟨d, hd, rfl⟩ := Option.map_eq_some_iff.mp hstep
    exact ⟨rfl, .inr ⟨.call (.telemetry i) args.runId (.appendEvent body) now, trivial, trivial,
      hd⟩⟩
  | notify producer =>
    obtain ⟨d, hd, rfl⟩ := Option.map_eq_some_iff.mp hstep
    exact ⟨rfl, .inr ⟨.notify producer, trivial, trivial, hd⟩⟩
  | runCallback q =>
    obtain ⟨d, hd, rfl⟩ := Option.map_eq_some_iff.mp hstep
    exact ⟨rfl, .inr ⟨.runCallback q, trivial, trivial, hd⟩⟩
  | _ => cases hl

/-- What a generator knows of its subscription: everything but what is on its way. -/
def coreOf {ε : Type} (sub : Subscriber ε) : Subscriber ε :=
  { sub with queue := [], scheduled := [] }

/-- A change of the queue alone leaves the rest of the subscribers. -/
theorem map_coreOf_modify {ε : Type} {l : List (Subscriber ε)} {q : Nat}
    {f : Subscriber ε → Subscriber ε} (h : ∀ sub, coreOf (f sub) = coreOf sub) :
    (l.modify q f).map coreOf = l.map coreOf := by
  apply List.ext_getElem?
  intro p
  rw [List.getElem?_map, List.getElem?_map, List.getElem?_modify]
  cases l[p]? with
  | none => rfl
  | some sub => by_cases hp : q = p <;> simp [hp, h]

/-- Only the readers change what a generator knows. -/
theorem map_coreOf_step {d d' : Delivery Producer Event} {l : DeliveryLabel Producer Event}
    (hl : ofProducer l) (hstep : d.step l = some d') :
    d'.subscribers.map coreOf = d.subscribers.map coreOf := by
  cases l with
  | call thread runId c now => rw [call_eq hstep]
  | notify thread =>
    obtain ⟨n, -, rfl⟩ := Option.map_eq_some_iff.mp hstep
    exact map_coreOf_modify fun _ => rfl
  | runCallback q =>
    obtain ⟨event, rest, -, rfl⟩ := runCallback_eq hstep
    exact map_coreOf_modify fun _ => rfl
  | subscribe runId => exact absurd hl id
  | read q => exact absurd hl id
  | unsubscribe q => exact absurd hl id

/-- The log only grows. -/
theorem log_step {d d' : Delivery Producer Event} {l : DeliveryLabel Producer Event}
    (hplain : PlainLabel l) (hstep : d.step l = some d') (runId : String) :
    ∃ added, d'.store.log runId = d.store.log runId ++ added := by
  -- Only a store call extends the log.
  cases l with
  | call thread r c now =>
    rw [call_eq hstep]
    exact ⟨_, log_call d.store r runId now hplain⟩
  | notify thread =>
    obtain ⟨n, -, rfl⟩ := Option.map_eq_some_iff.mp hstep
    exact ⟨[], (List.append_nil _).symm⟩
  | subscribe r =>
    cases hstep
    exact ⟨[], (List.append_nil _).symm⟩
  | runCallback q =>
    obtain ⟨event, rest, -, rfl⟩ := runCallback_eq hstep
    exact ⟨[], (List.append_nil _).symm⟩
  | read q =>
    obtain ⟨event, rest, -, rfl⟩ := read_eq hstep
    exact ⟨[], (List.append_nil _).symm⟩
  | unsubscribe q =>
    obtain ⟨sub, -, rfl⟩ := Option.map_eq_some_iff.mp hstep
    exact ⟨[], (List.append_nil _).symm⟩

/-! ### What a stream has sent -/

/-- The log has a terminal event, and every event up to the first one is among `sent`. -/
def AllSent (log sent : List Event) : Prop :=
  ∃ before e after, log = before ++ e :: after ∧ (terminalType e).isSome = true ∧
    terminalEvents before = [] ∧ (before ++ [e]).Subperm sent

/-- What was sent completely stays so while the log grows. -/
theorem AllSent.mono {log sent : List Event} (h : AllSent log sent) (added : List Event) :
    AllSent (log ++ added) sent := by
  obtain ⟨before, e, after, rfl, he, hbefore, hsub⟩ := h
  exact ⟨before, e, after ++ added, by simp, he, hbefore, hsub⟩

/-- The events on the way to a queue. -/
def onTheWay (s : StreamSystem) (q : Nat) (sub : Subscriber Event) : List Event :=
  sub.scheduled ++ (s.delivery.notesFor q).map Note.event

/-- The log has a terminal event, and what is on the way to the queue are events after the
first one. -/
def EndReady (runId : String) (s : StreamSystem) (q : Nat) : Prop :=
  ∀ sub ∈ s.delivery.subscribers[q]?, ∃ before e after,
    s.delivery.store.log runId = before ++ e :: after ∧ (terminalType e).isSome = true ∧
      terminalEvents before = [] ∧ (onTheWay s q sub).Subperm after

/-- Of two splits of one multiset, one has the smaller second part when the other has the
smaller first part. -/
theorem subperm_iff_of_perm {α : Type} {a b c d : List α} (h : (a ++ b).Perm (c ++ d)) :
    b.Subperm d ↔ c.Subperm a := by
  -- As multisets, `a + b = c + d`, and what is added on one side cancels on the other.
  have hsum : (a : Multiset α) + b = (c : Multiset α) + d := by
    simpa using Multiset.coe_eq_coe.mpr h
  rw [← Multiset.coe_le, ← Multiset.coe_le]
  constructor
  · intro hle
    obtain ⟨x, hx⟩ := Multiset.le_iff_exists_add.mp hle
    refine Multiset.le_iff_exists_add.mpr ⟨x, ?_⟩
    have hcancel : (a : Multiset α) + b = (c + x) + b := by
      rw [hsum, hx]
      abel
    exact add_right_cancel hcancel
  · intro hle
    obtain ⟨x, hx⟩ := Multiset.le_iff_exists_add.mp hle
    refine Multiset.le_iff_exists_add.mpr ⟨x, ?_⟩
    have hcancel : (c : Multiset α) + d = c + (b + x) := by
      rw [← hsum, hx]
      abel
    exact add_left_cancel hcancel

/-- What the generator yielded against its subscription. -/
def Follows (st : Stream) (sub : Subscriber Event) : Prop :=
  match st.pc with
  | .replay rest => sub.active = true ∧ sub.received = [] ∧ st.events ++ rest = sub.backlog
  | .check | .wait | .ended => sub.active = true ∧ st.events = sub.backlog ++ sub.received
  | .closed => True

/-- The streams are the subscriptions, each follows its own, and one that ended had sent
everything. -/
structure Synced (runId : String) (s : StreamSystem) : Prop where
  length : s.streams.length = s.delivery.subscribers.length
  follows : ∀ (q : Nat) st sub, s.streams[q]? = some st → s.delivery.subscribers[q]? = some sub →
    sub.runId = runId ∧ Follows st sub
  sent : ∀ (q : Nat) st, s.streams[q]? = some st → .streamEnd ∈ st.out →
    (st.pc = .ended ∨ st.pc = .closed) ∧ AllSent (s.delivery.store.log runId) st.events

/-- `Follows` reads only what a generator knows. -/
theorem follows_congr {runId : String} {st : Stream} {sub sub' : Subscriber Event}
    (h : coreOf sub' = coreOf sub) (hf : sub.runId = runId ∧ Follows st sub) :
    sub'.runId = runId ∧ Follows st sub' := by
  obtain ⟨r, a, b, c, _, _⟩ := sub
  obtain ⟨r', a', b', c', _, _⟩ := sub'
  obtain ⟨rfl, rfl, rfl, rfl⟩ : r' = r ∧ a' = a ∧ b' = b ∧ c' = c := by simpa [coreOf] using h
  exact hf

/-- A move of a producer or of the event loop keeps the streams in step. -/
theorem synced_producer {runId : String} {s s' : StreamSystem} (hs : Synced runId s)
    (hstreams : s'.streams = s.streams)
    (hmoved : DeliveryMoved ofProducer s.delivery s'.delivery) : Synced runId s' := by
  rcases hmoved with heq | ⟨l, hplain, hl, hstep⟩
  · exact ⟨by rw [hstreams, heq]; exact hs.length, by rw [hstreams, heq]; exact hs.follows,
      by rw [hstreams, heq]; exact hs.sent⟩
  -- A producer changes neither which subscriptions there are nor what they have received.
  · have hcore := map_coreOf_step hl hstep
    obtain ⟨added, hlog⟩ := log_step hplain hstep runId
    refine ⟨?_, ?_, ?_⟩
    · have hlen := congrArg List.length hcore
      rw [List.length_map, List.length_map] at hlen
      rw [hstreams, hlen]
      exact hs.length
    · -- The subscription may have more on its way, which `Follows` does not read.
      intro q st sub' hst hsub'
      rw [hstreams] at hst
      have hq := congrArg (fun l => l[q]?) hcore
      simp only [List.getElem?_map, hsub', Option.map_some] at hq
      obtain ⟨sub, hsub, heq⟩ := Option.map_eq_some_iff.mp hq.symm
      exact follows_congr heq.symm (hs.follows q st sub hst hsub)
    · intro q st hst hend
      rw [hstreams] at hst
      obtain ⟨hpc, hall⟩ := hs.sent q st hst hend
      rw [hlog]
      exact ⟨hpc, hall.mono added⟩

/-- One generator moves, and its subscription with it. -/
theorem synced_set {runId : String} {s : StreamSystem} {d : Delivery Producer Event} {q : Nat}
    {st st' : Stream} (hs : Synced runId s) (hst : s.streams[q]? = some st)
    (hlen : d.subscribers.length = s.delivery.subscribers.length)
    (hlog : d.store.log runId = s.delivery.store.log runId)
    (hother : ∀ p, p ≠ q → d.subscribers[p]? = s.delivery.subscribers[p]?)
    (hfollows : ∀ sub, d.subscribers[q]? = some sub → sub.runId = runId ∧ Follows st' sub)
    (hsent : .streamEnd ∈ st'.out →
      (st'.pc = .ended ∨ st'.pc = .closed) ∧ AllSent (d.store.log runId) st'.events) :
    Synced runId ({ s with delivery := d : StreamSystem }.setStream q st') := by
  obtain ⟨hlt, -⟩ := List.getElem?_eq_some_iff.mp hst
  -- The stream at a position after the move.
  have hget : ∀ p, (s.streams.set q st')[p]? = if q = p then some st' else s.streams[p]? := by
    intro p
    rw [List.getElem?_set]
    by_cases hp : q = p <;> simp [hp]
    omega
  refine ⟨?_, ?_, ?_⟩
  · simp only [StreamSystem.setStream, List.length_set]
    rw [hlen]
    exact hs.length
  · intro p pst sub hpst hsub
    have hpst' : (s.streams.set q st')[p]? = some pst := hpst
    rw [hget] at hpst'
    by_cases hp : q = p
    · subst hp
      rw [if_pos rfl] at hpst'
      cases hpst'
      exact hfollows sub hsub
    · rw [if_neg hp] at hpst'
      have hsub' : d.subscribers[p]? = some sub := hsub
      rw [hother p (Ne.symm hp)] at hsub'
      exact hs.follows p pst sub hpst' hsub'
  · intro p pst hpst hend
    have hpst' : (s.streams.set q st')[p]? = some pst := hpst
    rw [hget] at hpst'
    by_cases hp : q = p
    · subst hp
      rw [if_pos rfl] at hpst'
      cases hpst'
      exact hsent hend
    · rw [if_neg hp] at hpst'
      show _ ∧ AllSent (d.store.log runId) _
      rw [hlog]
      exact hs.sent p pst hpst' hend

/-! ### The end test -/

/-- The generator `q` is about to yield `stream.end`. -/
def Ends (runId : String) (s : StreamSystem) (q : Nat) : Prop :=
  ∃ st ∈ s.streams[q]?, st.pc = .check ∧ s.drained runId q = true

/-- The queues have room. -/
def Rooms (s : StreamSystem) : Prop :=
  ∀ sub ∈ s.delivery.subscribers, sub.queue.length < queueMaxsize

/-- The queues have room, and a stream that is about to end is ready to. -/
def StreamOk (runId : String) (s : StreamSystem) (l : StreamLabel × ℚ) : Prop :=
  Rooms s ∧ ∀ q, l.1 = .stream q → Ends runId s q → EndReady runId s q

/-- Every queue is conserved. -/
def AllConserved (d : Delivery Producer Event) : Prop := Wf d ∧ ∀ q, Conserved q d

/-- The queue of a stream that ends is empty. -/
theorem queue_of_drained {runId : String} {s : StreamSystem} {q : Nat} {sub : Subscriber Event}
    (h : s.drained runId q = true) (hsub : s.delivery.subscribers[q]? = some sub) :
    sub.queue = [] := by
  simp only [StreamSystem.drained, hsub, Bool.and_eq_true] at h
  simpa using h.2

/-- The subscription of a stream. -/
theorem Synced.subscriber {runId : String} {s : StreamSystem} (hs : Synced runId s) {q : Nat}
    {st : Stream} (hst : s.streams[q]? = some st) :
    ∃ sub, s.delivery.subscribers[q]? = some sub := by
  obtain ⟨hlt, -⟩ := List.getElem?_eq_some_iff.mp hst
  rw [hs.length] at hlt
  exact ⟨_, List.getElem?_eq_getElem hlt⟩

/-- At the end test, being ready is exactly having sent everything. -/
theorem endReady_iff {runId : String} {s : StreamSystem} {q : Nat} {st : Stream}
    (hs : Synced runId s) (hcons : AllConserved s.delivery) (hst : s.streams[q]? = some st)
    (hpc : st.pc = .check) (hdrained : s.drained runId q = true) :
    EndReady runId s q ↔ AllSent (s.delivery.store.log runId) st.events := by
  obtain ⟨sub, hsub⟩ := hs.subscriber hst
  obtain ⟨hrun, hfollows⟩ := hs.follows q st sub hst hsub
  simp only [Follows, hpc] at hfollows
  obtain ⟨hactive, hevents⟩ := hfollows
  -- What was yielded and what is on the way are the log.
  have hperm : (st.events ++ onTheWay s q sub).Perm (s.delivery.store.log runId) := by
    have h := hcons.2 q sub hsub hactive
    rw [hrun] at h
    simpa [wholeOf, Subscriber.sent, onTheWay, hevents, queue_of_drained hdrained hsub] using h
  -- So what is on the way lies behind a split exactly when all before it was yielded.
  have hsplit : ∀ before e after, s.delivery.store.log runId = before ++ e :: after →
      ((onTheWay s q sub).Subperm after ↔ (before ++ [e]).Subperm st.events) := by
    intro before e after hlog
    refine subperm_iff_of_perm ?_
    rw [hlog] at hperm
    simpa using hperm
  constructor
  · intro hready
    obtain ⟨before, e, after, hlog, he, hbefore, hway⟩ := hready sub hsub
    exact ⟨before, e, after, hlog, he, hbefore, (hsplit before e after hlog).mp hway⟩
  · rintro ⟨before, e, after, hlog, he, hbefore, hsent⟩ sub' hsub'
    obtain rfl : sub = sub' := Option.some.inj (hsub.symm.trans hsub')
    exact ⟨before, e, after, hlog, he, hbefore, (hsplit before e after hlog).mpr hsent⟩

/-! ### Each move keeps the streams in step -/

/-- One more chunk. -/
theorem events_append (pc pc' : StreamPc) (out : List Chunk) (c : Chunk) :
    (Stream.mk pc (out ++ [c])).events = (Stream.mk pc' out).events ++ c.event?.toList := by
  simp only [Stream.events, List.filterMap_append]
  cases h : c.event? <;> simp [h]

/-- A stream that has not ended has not yielded `stream.end`. -/
theorem Synced.not_ended {runId : String} {s : StreamSystem} (hs : Synced runId s) {q : Nat}
    {st : Stream} (hst : s.streams[q]? = some st) (hpc : st.pc ≠ .ended ∧ st.pc ≠ .closed) :
    .streamEnd ∉ st.out := by
  intro hend
  rcases (hs.sent q st hst hend).1 with h | h
  · exact hpc.1 h
  · exact hpc.2 h

/-- A stream that has not ended has no `stream.end` after any other chunk. -/
theorem Synced.not_ended_append {runId : String} {s : StreamSystem} (hs : Synced runId s) {q : Nat}
    {st : Stream} (hst : s.streams[q]? = some st) (hpc : st.pc ≠ .ended ∧ st.pc ≠ .closed)
    {c : Chunk} (hc : c ≠ .streamEnd) : .streamEnd ∉ st.out ++ [c] := by
  intro hend
  rcases List.mem_append.mp hend with hold | hnew
  · exact hs.not_ended hst hpc hold
  · exact hc (List.mem_singleton.mp hnew).symm

/-- The generator moves and leaves its subscription alone. -/
theorem synced_yield {runId : String} {s : StreamSystem} {q : Nat} {st st' : Stream}
    (hs : Synced runId s) (hst : s.streams[q]? = some st)
    (hfollows : ∀ sub, s.delivery.subscribers[q]? = some sub → Follows st sub → Follows st' sub)
    (hsent : .streamEnd ∈ st'.out → (st'.pc = .ended ∨ st'.pc = .closed) ∧
      AllSent (s.delivery.store.log runId) st'.events) :
    Synced runId (s.setStream q st') :=
  synced_set hs hst rfl rfl (fun _ _ => rfl)
    (fun sub hsub => ⟨(hs.follows q st sub hst hsub).1,
      hfollows sub hsub (hs.follows q st sub hst hsub).2⟩) hsent

/-- The `finally` of a generator. -/
theorem synced_close {runId : String} {s s' : StreamSystem} {q : Nat} {st : Stream}
    (hs : Synced runId s) (hst : s.streams[q]? = some st) (hstep : s.close q st = some s') :
    Synced runId s' := by
  obtain ⟨d, hd, rfl⟩ := Option.map_eq_some_iff.mp hstep
  obtain ⟨sub, hsub, rfl⟩ := Option.map_eq_some_iff.mp hd
  refine synced_set hs hst (by simp [Delivery.modify]) rfl ?_ ?_ ?_
  · intro p hp
    simp [Delivery.modify, Ne.symm hp]
  · intro sub' hsub'
    obtain ⟨old, hold, rfl⟩ := getElem?_modify_cases hsub'
    refine ⟨?_, trivial⟩
    rw [if_pos rfl]
    exact (hs.follows q st old hst hold).1
  · intro hend
    exact ⟨.inr rfl, (hs.sent q st hst hend).2⟩

/-- The generator takes the next event of its queue. -/
theorem synced_receive {runId : String} {s s' : StreamSystem} {q : Nat} {st : Stream}
    (hs : Synced runId s) (hst : s.streams[q]? = some st) (hpc : st.pc = .wait)
    (hstep : s.receive q st.out = some s') : Synced runId s' := by
  unfold StreamSystem.receive at hstep
  split at hstep
  · rename_i event rest hqueue
    obtain ⟨d, hd, rfl⟩ := Option.map_eq_some_iff.mp hstep
    simp only [Delivery.read, hqueue] at hd
    cases hd
    refine synced_set hs hst (by simp [Delivery.modify]) rfl ?_ ?_ ?_
    · intro p hp
      simp [Delivery.modify, Ne.symm hp]
    -- The event goes from the queue to the stream.
    · intro sub' hsub'
      obtain ⟨sub, hsub, rfl⟩ := getElem?_modify_cases hsub'
      obtain ⟨hrun, hfollows⟩ := hs.follows q st sub hst hsub
      simp only [Follows, hpc] at hfollows
      obtain ⟨hactive, hevents⟩ := hfollows
      rw [if_pos rfl]
      refine ⟨hrun, hactive, ?_⟩
      rw [events_append .check st.pc, hevents]
      simp [Chunk.event?]
    · intro hend
      exact absurd hend (hs.not_ended_append hst (by simp [hpc]) (by simp))
  · cases hstep

/-- A step of a generator keeps the streams in step, when one that ends is ready to. -/
theorem synced_advance {runId : String} {s s' : StreamSystem} {q : Nat} {st : Stream}
    (hs : Synced runId s) (hcons : AllConserved s.delivery)
    (hready : Ends runId s q → EndReady runId s q) (hst : s.streams[q]? = some st)
    (hstep : s.advance runId q st = some s') : Synced runId s' := by
  unfold StreamSystem.advance at hstep
  cases hpc : st.pc with
  | replay rest =>
    rw [hpc] at hstep
    cases rest with
    | cons event rest =>
      -- One more event of the backlog.
      cases hstep
      refine synced_yield hs hst ?_ ?_
      · intro sub hsub hf
        simp only [Follows, hpc] at hf ⊢
        refine ⟨hf.1, hf.2.1, ?_⟩
        rw [events_append _ st.pc, ← hf.2.2]
        simp [Chunk.event?]
      · intro hend
        exact absurd hend (hs.not_ended_append hst (by simp [hpc]) (by simp))
    | nil =>
      -- The backlog is replayed, and nothing was received yet.
      cases hstep
      have hnot := hs.not_ended hst (by simp [hpc])
      refine synced_yield hs hst ?_ (fun hend => absurd hend hnot)
      intro sub hsub hf
      simp only [Follows, hpc] at hf ⊢
      refine ⟨hf.1, ?_⟩
      rw [hf.2.1, ← hf.2.2]
      simp [Stream.events]
  | check =>
    rw [hpc] at hstep
    dsimp only at hstep
    split at hstep
    · -- The end test passes, and `EndReady` says that everything was sent.
      rename_i hdrained
      cases hstep
      have hready' := hready ⟨st, hst, hpc, hdrained⟩
      have hall := (endReady_iff hs hcons hst hpc hdrained).mp hready'
      refine synced_yield hs hst ?_ ?_
      · intro sub hsub hf
        simp only [Follows, hpc] at hf ⊢
        refine ⟨hf.1, ?_⟩
        rw [events_append _ st.pc, hf.2]
        simp [Chunk.event?]
      · intro _
        refine ⟨.inl rfl, ?_⟩
        rw [events_append _ st.pc]
        simpa [Chunk.event?] using hall
    · cases hstep
      have hnot := hs.not_ended hst (by simp [hpc])
      refine synced_yield hs hst ?_ (fun hend => absurd hend hnot)
      intro sub hsub hf
      simp only [Follows, hpc] at hf ⊢
      exact hf
  | wait =>
    rw [hpc] at hstep
    exact synced_receive hs hst hpc hstep
  | ended =>
    rw [hpc] at hstep
    exact synced_close hs hst hstep
  | closed =>
    rw [hpc] at hstep
    cases hstep

/-- A new stream. -/
theorem synced_open {runId : String} {s : StreamSystem} (hs : Synced runId s) :
    Synced runId { s with
      delivery := s.delivery.subscribe runId
      streams := s.streams ++ [⟨.replay (s.delivery.store.log runId), []⟩] } := by
  -- The subscription that is added has the position of the stream that is added.
  have hsubs : (s.delivery.subscribe runId).subscribers =
      s.delivery.subscribers ++ [⟨runId, true, s.delivery.store.log runId, [], [], []⟩] := rfl
  refine ⟨?_, ?_, ?_⟩
  · simp [hsubs, hs.length]
  · intro q st sub hst hsub
    simp only [hsubs] at hst hsub
    rcases Nat.lt_trichotomy q s.streams.length with hlt | heq | hgt
    · rw [List.getElem?_append_left hlt] at hst
      rw [List.getElem?_append_left (hs.length ▸ hlt)] at hsub
      exact hs.follows q st sub hst hsub
    · rw [heq, List.getElem?_concat_length, Option.some.injEq] at hst
      rw [heq, hs.length, List.getElem?_concat_length, Option.some.injEq] at hsub
      subst hst hsub
      exact ⟨rfl, rfl, rfl, rfl⟩
    · rw [List.getElem?_eq_none (by simp; omega)] at hst
      cases hst
  · intro q st hst hend
    simp only at hst
    rcases Nat.lt_trichotomy q s.streams.length with hlt | heq | hgt
    · rw [List.getElem?_append_left hlt] at hst
      exact hs.sent q st hst hend
    · rw [heq, List.getElem?_concat_length, Option.some.injEq] at hst
      subst hst
      cases hend
    · rw [List.getElem?_eq_none (by simp; omega)] at hst
      cases hst

/-- Every move that meets `StreamOk` keeps the streams in step. -/
theorem synced_step {args : RunArgs} {s s' : StreamSystem} {l : StreamLabel × ℚ}
    (hs : Synced args.runId s) (hcons : AllConserved s.delivery)
    (hok : StreamOk args.runId s l) (hstep : streamStep args s l = some s') :
    Synced args.runId s' := by
  obtain ⟨label, now⟩ := l
  cases label with
  | openStream =>
    simp only [streamStep] at hstep
    split at hstep
    · cases hstep
      exact synced_open hs
    · cases hstep
  | stream q =>
    obtain ⟨st, hst, hadv⟩ := Option.bind_eq_some_iff.mp hstep
    exact synced_advance hs hcons (hok.2 q rfl) hst hadv
  | timeout q =>
    obtain ⟨st, hst, hwait⟩ := Option.bind_eq_some_iff.mp hstep
    split at hwait
    case isFalse => cases hwait
    case isTrue hpc =>
      cases hwait
      -- A timeout yields a heartbeat, which is no event.
      refine synced_yield hs hst ?_ ?_
      · intro sub hsub hf
        simp only [Follows, hpc] at hf ⊢
        refine ⟨hf.1, ?_⟩
        rw [events_append _ st.pc, hf.2]
        simp [Chunk.event?]
      · intro hend
        exact absurd hend (hs.not_ended_append hst (by simp [hpc]) (by simp))
  | disconnect q =>
    obtain ⟨st, hst, hclose⟩ := Option.bind_eq_some_iff.mp hstep
    split at hclose
    · cases hclose
    · exact synced_close hs hst hclose
  | _ =>
    obtain ⟨hstreams, hmoved⟩ := producer_step rfl hstep
    exact synced_producer hs hstreams hmoved

/-- Every move is a move of the delivery, or leaves it alone. -/
theorem delivery_step {args : RunArgs} {s s' : StreamSystem} {l : StreamLabel × ℚ}
    (hstep : streamStep args s l = some s') :
    DeliveryMoved (fun _ => True) s.delivery s'.delivery := by
  -- A generator is closed at its end, or where the client leaves it.
  have hclose : ∀ {q st}, s.close q st = some s' →
      DeliveryMoved (fun _ => True) s.delivery s'.delivery := by
    intro q st h
    obtain ⟨d, hd, rfl⟩ := Option.map_eq_some_iff.mp h
    exact .inr ⟨.unsubscribe q, trivial, trivial, hd⟩
  obtain ⟨label, now⟩ := l
  cases label with
  | openStream =>
    simp only [streamStep] at hstep
    split at hstep
    · cases hstep
      exact .inr ⟨.subscribe args.runId, trivial, trivial, rfl⟩
    · cases hstep
  | stream q =>
    obtain ⟨st, hst, hadv⟩ := Option.bind_eq_some_iff.mp hstep
    unfold StreamSystem.advance at hadv
    cases hpc : st.pc with
    | replay rest =>
      rw [hpc] at hadv
      cases rest <;> cases hadv <;> exact .inl rfl
    | check =>
      rw [hpc] at hadv
      dsimp only at hadv
      split at hadv <;> cases hadv <;> exact .inl rfl
    | wait =>
      -- The only move of a generator that reads its queue.
      rw [hpc] at hadv
      simp only [StreamSystem.receive] at hadv
      split at hadv
      · obtain ⟨d, hd, rfl⟩ := Option.map_eq_some_iff.mp hadv
        exact .inr ⟨.read q, trivial, trivial, hd⟩
      · cases hadv
    | ended =>
      rw [hpc] at hadv
      exact hclose hadv
    | closed =>
      rw [hpc] at hadv
      cases hadv
  | timeout q =>
    obtain ⟨st, hst, hwait⟩ := Option.bind_eq_some_iff.mp hstep
    split at hwait <;> cases hwait
    exact .inl rfl
  | disconnect q =>
    obtain ⟨st, hst, hdis⟩ := Option.bind_eq_some_iff.mp hstep
    split at hdis
    · cases hdis
    · exact hclose hdis
  | _ =>
    -- What `producer_step` says about the label is left out.
    rcases (producer_step rfl hstep).2 with heq | ⟨dl, hplain, -, hd⟩
    · exact .inl heq
    · exact .inr ⟨dl, hplain, trivial, hd⟩

/-- The conservation of events, along the moves of the system. -/
theorem allConserved_step {args : RunArgs} {s s' : StreamSystem} {l : StreamLabel × ℚ}
    (hcons : AllConserved s.delivery) (hok : StreamOk args.runId s l)
    (hstep : streamStep args s l = some s') : AllConserved s'.delivery := by
  rcases delivery_step hstep with heq | ⟨dl, hplain, -, hd⟩
  · rw [heq]
    exact hcons
  · refine ⟨wf_step hcons.1 hd, fun q => ?_⟩
    refine conserved_step hcons.1 hplain ?_ hd (hcons.2 q)
    intro sub hsub
    exact hok.1 sub (List.mem_of_getElem? hsub)

/-- The start: the run and the requests are yet to move, and there is no subscription. -/
structure StreamStart (s : StreamSystem) : Prop where
  delivery : Quiet s.delivery
  engine : s.engine = .start
  cancels : ∀ i, s.cancels i = .idle
  streams : s.streams = []

/-- **A stream ends only after everything was sent**, in every run in which the queues have
room and each stream that yields `stream.end` is ready to (`EndReady`): it has yielded every
event of the log up to and including the terminal event. In each state of such a run, a
stream about to end has sent everything if and only if it is ready. -/
theorem stream_ends_complete (args : RunArgs) {s₀ s : StreamSystem} (hstart : StreamStart s₀)
    (hrun : Reach (streamStep args) (StreamOk args.runId) s₀ s) :
    (∀ (q : Nat) st, s.streams[q]? = some st → .streamEnd ∈ st.out →
      AllSent (s.delivery.store.log args.runId) st.events) ∧
    (∀ (q : Nat) now s', Ends args.runId s q → streamStep args s (.stream q, now) = some s' →
      (EndReady args.runId s q ↔ ∃ st, s'.streams[q]? = some st ∧ .streamEnd ∈ st.out ∧
        AllSent (s'.delivery.store.log args.runId) st.events)) := by
  have hinv : AllConserved s.delivery ∧ Synced args.runId s := by
    refine Reach.invariant
      (P := fun s => AllConserved s.delivery ∧ Synced args.runId s) ?_ hrun
      ⟨⟨wf_quiet hstart.delivery, ?_⟩, by simp [hstart.streams, hstart.delivery.subscribers],
        by simp [hstart.streams], by simp [hstart.streams]⟩
    · rintro r l r' ⟨hcons, hsync⟩ hok hstep
      exact ⟨allConserved_step hcons hok hstep, synced_step hsync hcons hok hstep⟩
    · simp [Conserved, hstart.delivery.subscribers]
  obtain ⟨hcons, hsync⟩ := hinv
  refine ⟨fun q st hst hend => (hsync.sent q st hst hend).2, ?_⟩
  -- The next step: the end test passes, and `stream.end` adds no event to what was sent.
  rintro q now s' ⟨st, hst, hpc, hdrained⟩ hstep
  obtain ⟨st', hst', hadv⟩ := Option.bind_eq_some_iff.mp hstep
  obtain rfl : st' = st := Option.some.inj (hst'.symm.trans hst)
  simp only [StreamSystem.advance, hpc, hdrained, if_true, Option.some.injEq] at hadv
  subst hadv
  obtain ⟨hlt, -⟩ := List.getElem?_eq_some_iff.mp hst'
  rw [endReady_iff hsync hcons hst' hpc hdrained]
  have hget : (s.streams.set q ⟨.ended, st'.out ++ [.streamEnd]⟩)[q]? =
      some ⟨.ended, st'.out ++ [.streamEnd]⟩ := by
    simp [hlt]
  have hevents := events_append .ended st'.pc st'.out .streamEnd
  simp only [Chunk.event?, Option.toList_none, List.append_nil] at hevents
  constructor
  · intro hall
    exact ⟨_, hget, by simp, by rw [hevents]; exact hall⟩
  · rintro ⟨st, hst, -, hall⟩
    obtain rfl := Option.some.inj (hget.symm.trans hst)
    rw [hevents] at hall
    exact hall

/-- The run `r` with nothing stored and no stream. -/
def bareStream : StreamSystem := ⟨⟨.new, [], []⟩, .start, fun _ => .idle, []⟩

/-- The system of the concrete runs is a start. -/
theorem streamStart_bareStream : StreamStart bareStream where
  delivery := ⟨rfl, rfl, fun _ => rfl⟩
  engine := rfl
  cancels := fun _ => rfl
  streams := rfl

instance (s : StreamSystem) : Decidable (Rooms s) :=
  inferInstanceAs (Decidable (∀ sub ∈ s.delivery.subscribers, _ < _))

/-- The generator a label moves. -/
def movedStream : StreamLabel → Option Nat
  | .stream q => some q
  | _ => none

/-- The queues have room, and no generator is about to yield `stream.end`. -/
def NoEndTest (runId : String) (s : StreamSystem) (l : StreamLabel × ℚ) : Prop :=
  Rooms s ∧ ∀ q ∈ movedStream l.1, ∀ st ∈ s.streams[q]?,
    ¬(st.pc = .check ∧ s.drained runId q = true)

instance (runId : String) (s : StreamSystem) (l : StreamLabel × ℚ) :
    Decidable (NoEndTest runId s l) :=
  inferInstanceAs (Decidable (Rooms s ∧ ∀ q ∈ movedStream l.1, ∀ st ∈ s.streams[q]?,
    ¬(st.pc = .check ∧ s.drained runId q = true)))

/-- A step without an end test meets the condition. -/
theorem streamOk_of_noEndTest (runId : String) {s : StreamSystem} {l : StreamLabel × ℚ}
    (h : NoEndTest runId s l) : StreamOk runId s l := by
  refine ⟨h.1, fun q hl => ?_⟩
  rintro ⟨st, hst, hends⟩
  exact absurd hends (h.2 q (by rw [hl]; rfl) st hst)

/-- An event of an agent. -/
def agentEvent (type : String) : Event := Dict.ofList [("type", .str type)]

/-- A stream is opened while the run goes on, and gets each event as it comes. The run fails, and
the last event of an agent comes after that, and is not delivered when the stream ends. -/
def failedRun : List (StreamLabel × ℚ) :=
  [(.engine .go, 0), (.openStream, 1), (.stream 0, 1), (.stream 0, 1), (.engine .pass, 2),
   (.engine .go, 2), (.engine .go, 2), (.notify .engine, 2), (.runCallback 0, 2), (.stream 0, 2),
   (.stream 0, 2), (.timeout 0, 3), (.stream 0, 3), (.engine .pass, 3),
   (.telemetry 0 (agentEvent "handshake.complete"), 3), (.notify (.telemetry 0), 3),
   (.runCallback 0, 3), (.stream 0, 3), (.engine (.fail none "boom"), 4), (.engine .go, 4),
   (.engine .go, 4), (.notify .engine, 4), (.runCallback 0, 4), (.stream 0, 4), (.stream 0, 4),
   (.engine .go, 5), (.engine .go, 5), (.telemetry 1 (agentEvent "tct.revoked"), 5)]

/-- What the stream of `failedRun` yields before it ends. -/
def failedChunks : List Chunk :=
  [.event (startedEvent bareArgs 2), .heartbeat, .event (agentEvent "handshake.complete"),
   .event (failedEvent bareArgs none "boom" 4)]

/-- The stream of `failedRun` yields `run.failed` as the last event, and ends. -/
theorem stream_ends_complete_failed :
    ∃ s st, Reach (streamStep bareArgs) (StreamOk "r") bareStream s ∧
      s.streams[0]? = some st ∧ st.out = failedChunks ++ [.streamEnd] ∧
      AllSent (s.delivery.store.log "r") st.events := by
  obtain ⟨s, hs⟩ : ∃ s, exec (streamStep bareArgs) (NoEndTest "r") bareStream failedRun = some s :=
    Option.isSome_iff_exists.mp (by decide +kernel)
  have hstreams : s.streams = [⟨.check, failedChunks⟩] :=
    exec_reads (fun s => s.streams) hs (by decide +kernel)
  have hlog : s.delivery.store.log "r" = [startedEvent bareArgs 2,
      agentEvent "handshake.complete", failedEvent bareArgs none "boom" 4,
      agentEvent "tct.revoked"] :=
    exec_reads (fun s => s.delivery.store.log "r") hs (by decide +kernel)
  have hsubs : s.delivery.subscribers = [⟨"r", true, [], [startedEvent bareArgs 2,
      agentEvent "handshake.complete", failedEvent bareArgs none "boom" 4], [], []⟩] :=
    exec_reads (fun s => s.delivery.subscribers) hs (by decide +kernel)
  have hpending : s.delivery.pending = [⟨.telemetry 1, 0, agentEvent "tct.revoked"⟩] :=
    exec_reads (fun s => s.delivery.pending) hs (by decide +kernel)
  have hdrained : s.drained "r" 0 = true :=
    exec_reads (fun s => s.drained "r" 0) hs (by decide +kernel)
  -- `run.failed` is in the log, and what is on the way is the event after it.
  have hready : EndReady "r" s 0 := by
    intro sub hsub
    rw [hsubs] at hsub
    obtain rfl := Option.some.inj hsub
    refine ⟨[startedEvent bareArgs 2, agentEvent "handshake.complete"],
      failedEvent bareArgs none "boom" 4, [agentEvent "tct.revoked"], hlog, by decide, by decide,
      ?_⟩
    simp [onTheWay, Delivery.notesFor, hpending]
  have hbefore := (reach_of_exec _ hs).weaken fun _ _ => streamOk_of_noEndTest "r"
  have hstep : streamStep bareArgs s (.stream 0, 6) =
      some (s.setStream 0 ⟨.ended, failedChunks ++ [.streamEnd]⟩) := by
    simp [streamStep, hstreams, StreamSystem.advance, hdrained, show bareArgs.runId = "r" from rfl]
  have hrooms : Rooms s := by simp [Rooms, hsubs, queueMaxsize]
  have hrun := hbefore.snoc ⟨hrooms, fun q hq _ => by cases hq; exact hready⟩ hstep
  have hget : (s.setStream 0 ⟨.ended, failedChunks ++ [.streamEnd]⟩).streams[0]? =
      some ⟨.ended, failedChunks ++ [.streamEnd]⟩ := by
    simp [StreamSystem.setStream, hstreams]
  exact ⟨_, _, hrun, hget, rfl,
    (stream_ends_complete bareArgs streamStart_bareStream hrun).1 0 _ hget (by simp)⟩

/-- A request that is between its two writes, while the stream makes its end test. -/
def earlyEndRun : List (StreamLabel × ℚ) :=
  [(.engine .go, 0), (.openStream, 1), (.stream 0, 1), (.cancel 0 true, 2), (.cancel 0 true, 2),
   (.stream 0, 3)]

/-- A stream can end early. In `earlyEndRun` the request has written `cancelled` and is about
to append `run.cancelled` when the stream yields `stream.end`. -/
theorem stream_ends_early :
    ¬ ∀ (args : RunArgs) (s₀ s : StreamSystem), StreamStart s₀ →
      Reach (streamStep args) (fun s _ => Rooms s) s₀ s →
      ∀ (q : Nat) st, s.streams[q]? = some st → .streamEnd ∈ st.out →
        AllSent (s.delivery.store.log args.runId) st.events := by
  intro hall
  have hexec : (exec (streamStep bareArgs) (fun s _ => Rooms s) bareStream earlyEndRun).map
      (fun s => (s.streams, (s.delivery.store.log "r").length)) =
        some ([⟨.ended, [.streamEnd]⟩], 0) := by decide +kernel
  obtain ⟨s, hrun, heq⟩ := exists_reach_of_exec hexec
  obtain ⟨hstreams, hlog⟩ := Prod.mk.inj heq
  obtain ⟨before, e, after, hsplit, -⟩ := hall bareArgs bareStream s streamStart_bareStream
    hrun 0 ⟨.ended, [.streamEnd]⟩ (by rw [hstreams]; rfl) (by simp)
  have hnil : s.delivery.store.log bareArgs.runId = [] := List.length_eq_zero_iff.mp hlog
  rw [hnil] at hsplit
  simp at hsplit

end AitpPlayground.Proofs.Api
