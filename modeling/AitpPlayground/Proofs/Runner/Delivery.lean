import AitpPlayground.Runner.Delivery
import AitpPlayground.Proofs.Runner.Store

/-!
# `AitpPlayground.Proofs.Runner.Delivery`: every event reaches a subscriber once

What a subscriber has or is about to get is its backlog, what it received, what is in its
queue, what is scheduled for it, and the notes for its queue. `Flow` says once how a move
changes these five: an append adds the event to the log and to the notes, a notification
moves one note to the scheduled callbacks, and every other move leaves the whole alone.
From `Flow` follow the two invariants of `delivered_once`: the whole is a permutation of the
log (`Conserved`), and the events of one thread are in it in the order of the log
(`InOrder`).

`Wf` carries the registration: a queue is listed once under its own run while it is
registered, and not at all under another.

`Roomy` is the assumption that the queue is never full, since `_safe_put` drops an event
then. `PlainLabel` is the other one: an update that carries events extends the log and
notifies nobody (`merged_events_not_delivered`). No caller makes such an update.
-/

set_option autoImplicit false

namespace AitpPlayground.Proofs.Runner

open AitpPlayground.Lib
open AitpPlayground.Runner

variable {τ ε : Type}

/-! ### The registration -/

/-- The notes and the lists of subscribers name queues that exist, and a queue is listed
once under its run while it is registered. -/
structure Wf (s : Delivery τ ε) : Prop where
  notes : ∀ n ∈ s.pending, n.queue < s.subscribers.length
  known : ∀ r, ∀ q ∈ s.store.subscribersOf r, q < s.subscribers.length
  listed : ∀ q sub, s.subscribers[q]? = some sub → ∀ r,
    (s.store.subscribersOf r).count q = if sub.active = true ∧ sub.runId = r then 1 else 0

/-- The move carries no events in an update. -/
def PlainLabel : DeliveryLabel τ ε → Prop
  | .call _ _ c _ => PlainCall c
  | _ => True

/-- The queue has room for one more event. -/
def Roomy (q : Nat) (s : Delivery τ ε) : Prop :=
  ∀ sub ∈ s.subscribers[q]?, sub.queue.length < queueMaxsize

/-- A subscription after a change to one of them. -/
theorem getElem?_modify_cases {l : List (Subscriber ε)} {p q : Nat}
    {f : Subscriber ε → Subscriber ε} {sub' : Subscriber ε}
    (h : (l.modify p f)[q]? = some sub') :
    ∃ sub, l[q]? = some sub ∧ sub' = if p = q then f sub else sub := by
  rw [List.getElem?_modify] at h
  obtain ⟨sub, hsub, heq⟩ := Option.map_eq_some_iff.mp h
  refine ⟨sub, hsub, ?_⟩
  by_cases hpq : p = q <;> simp [hpq] at heq ⊢ <;> exact heq.symm

/-- A change that keeps the run and the registration of a subscription. -/
theorem Wf.modify {s : Delivery τ ε} (hs : Wf s) (q : Nat) {f : Subscriber ε → Subscriber ε}
    (hrun : ∀ sub, (f sub).runId = sub.runId) (hactive : ∀ sub, (f sub).active = sub.active) :
    Wf (s.modify q f) where
  notes := by simpa [Delivery.modify] using hs.notes
  known := by simpa [Delivery.modify] using hs.known
  listed := by
    intro p sub' hsub' r
    obtain ⟨sub, hsub, rfl⟩ := getElem?_modify_cases hsub'
    show (s.store.subscribersOf r).count p = _
    rw [hs.listed p sub hsub r]
    by_cases hqp : q = p <;> simp [hqp, hrun, hactive]

/-- A subscription keeps the queues well formed. -/
theorem wf_subscribe {s : Delivery τ ε} (hs : Wf s) (runId : String) :
    Wf (s.subscribe runId) := by
  -- The new queue has a number that no list of subscribers knows.
  have hfresh : ∀ r, (s.store.subscribersOf r).count s.subscribers.length = 0 := by
    intro r
    rw [List.count_eq_zero]
    intro hmem
    exact absurd (hs.known r _ hmem) (lt_irrefl _)
  refine ⟨?_, ?_, ?_⟩
  · intro n hn
    have hlt := hs.notes n hn
    simp only [Delivery.subscribe, List.length_append, List.length_singleton]
    omega
  · intro r q hq
    simp only [Delivery.subscribe, List.length_append, List.length_singleton]
    rw [Delivery.subscribe, subscribersOf_subscribe] at hq
    rcases List.mem_append.mp hq with hold | hnew
    · have hlt := hs.known r q hold
      omega
    · split at hnew
      · rw [List.mem_singleton] at hnew
        omega
      · cases hnew
  · intro q sub hsub r
    simp only [Delivery.subscribe] at hsub ⊢
    rw [subscribersOf_subscribe, List.count_append]
    rcases Nat.lt_trichotomy q s.subscribers.length with hlt | rfl | hgt
    · rw [List.getElem?_append_left hlt] at hsub
      rw [hs.listed q sub hsub r]
      have hne : s.subscribers.length ≠ q := by omega
      by_cases hr : runId = r <;> simp [hr, hne]
    · simp only [List.getElem?_concat_length, Option.some.injEq] at hsub
      subst hsub
      rw [hfresh]
      by_cases h : runId = r <;> simp [h]
    · rw [List.getElem?_append_right (by omega), List.getElem?_eq_none (by simp; omega)] at hsub
      cases hsub

/-- The end of a subscription keeps the queues well formed. -/
theorem wf_unsubscribe {s s' : Delivery τ ε} {q : Nat} (hs : Wf s)
    (hstep : s.unsubscribe q = some s') : Wf s' := by
  obtain ⟨old, hold, rfl⟩ := Option.map_eq_some_iff.mp hstep
  refine ⟨?_, ?_, ?_⟩
  · intro n hn
    simpa [Delivery.modify] using hs.notes n hn
  · intro r p hp
    have hmem : p ∈ s.store.subscribersOf r := by
      have hp' : p ∈ (s.store.unsubscribe old.runId q).subscribersOf r := hp
      rw [subscribersOf_unsubscribe] at hp'
      split at hp'
      · exact (List.mem_filter.mp hp').1
      · exact hp'
    simpa [Delivery.modify] using hs.known r p hmem
  · intro p sub' hsub' r
    obtain ⟨sub, hsub, rfl⟩ := getElem?_modify_cases hsub'
    have hcount := hs.listed p sub hsub r
    show ((s.store.unsubscribe old.runId q).subscribersOf r).count p = _
    rw [subscribersOf_unsubscribe]
    by_cases hpq : q = p
    · -- The queue itself: it was listed under its own run only.
      subst hpq
      obtain rfl : sub = old := by rw [hsub] at hold; exact Option.some.inj hold
      simp only [if_pos, Bool.false_eq_true, false_and, if_false]
      by_cases hr : sub.runId = r
      · simp [hr, List.count_eq_zero]
      · rw [if_neg hr, hcount]
        simp [hr]
    · -- Another queue: the filter does not touch its listings.
      simp only [if_neg hpq]
      rw [← hcount]
      split
      · exact List.count_filter (by simpa using Ne.symm hpq)
      · rfl

variable [DecidableEq τ]

/-- The state after the locked part of a store method. -/
theorem call_eq {s s' : Delivery τ ε} {thread : τ} {runId : String} {c : RunStore.Call ε} {now : ℚ}
    (hstep : s.call thread runId c now = some s') :
    s' = { s with
      store := (s.store.call runId now c).1
      pending := s.pending ++ notesOf thread c (s.store.call runId now c).2.2 } := by
  unfold Delivery.call at hstep
  split at hstep
  · cases hstep
  · exact (Option.some.inj hstep).symm

omit [DecidableEq τ] in
/-- The state after a callback: the first scheduled event is put into the queue. -/
theorem runCallback_eq {s s' : Delivery τ ε} {q : Nat} (hstep : s.runCallback q = some s') :
    ∃ event rest, (s.subscribers[q]?).map Subscriber.scheduled = some (event :: rest) ∧
      s' = s.modify q fun sub =>
        { sub with scheduled := rest, queue := safePut sub.queue event } := by
  unfold Delivery.runCallback at hstep
  split at hstep
  · rename_i event rest hsched
    exact ⟨event, rest, hsched, (Option.some.inj hstep).symm⟩
  · cases hstep

omit [DecidableEq τ] in
/-- The state after a read: the first event of the queue was received. -/
theorem read_eq {s s' : Delivery τ ε} {q : Nat} (hstep : s.read q = some s') :
    ∃ event rest, (s.subscribers[q]?).map Subscriber.queue = some (event :: rest) ∧
      s' = s.modify q fun sub =>
        { sub with queue := rest, received := sub.received ++ [event] } := by
  unfold Delivery.read at hstep
  split at hstep
  · rename_i event rest hqueue
    exact ⟨event, rest, hqueue, (Option.some.inj hstep).symm⟩
  · cases hstep

/-- A call of the store keeps the queues well formed. -/
theorem wf_call {s s' : Delivery τ ε} {thread : τ} {runId : String} {c : RunStore.Call ε} {now : ℚ}
    (hs : Wf s) (hstep : s.call thread runId c now = some s') : Wf s' := by
  rw [call_eq hstep]
  refine ⟨?_, ?_, ?_⟩
  · intro n hn
    rcases List.mem_append.mp hn with hold | hnew
    · exact hs.notes n hold
    · -- The notes of an append name the subscribers of its run.
      cases c with
      | appendEvent event =>
        obtain ⟨q, hq, rfl⟩ := List.mem_map.mp hnew
        exact hs.known runId q hq
      | _ => cases hnew
  · intro r q hq
    rw [subscribersOf_call] at hq
    exact hs.known r q hq
  · intro q sub hsub r
    rw [subscribersOf_call]
    exact hs.listed q sub hsub r

/-- A delivery keeps the queues well formed. -/
theorem wf_notify {s s' : Delivery τ ε} {thread : τ} (hs : Wf s)
    (hstep : s.notify thread = some s') : Wf s' := by
  obtain ⟨n, -, rfl⟩ := Option.map_eq_some_iff.mp hstep
  have hrest : Wf { s with pending := s.pending.eraseP (Delivery.noteOf thread) } :=
    ⟨fun m hm => hs.notes m (List.eraseP_subset hm), hs.known, hs.listed⟩
  exact hrest.modify _ (fun _ => rfl) (fun _ => rfl)

/-- Every move keeps the registration. -/
theorem wf_step {s s' : Delivery τ ε} {l : DeliveryLabel τ ε} (hs : Wf s)
    (hstep : s.step l = some s') : Wf s' := by
  cases l with
  | call thread runId c now => exact wf_call hs hstep
  | notify thread => exact wf_notify hs hstep
  | subscribe runId => cases hstep; exact wf_subscribe hs runId
  | runCallback q =>
    obtain ⟨event, rest, -, rfl⟩ := runCallback_eq hstep
    exact hs.modify _ (fun _ => rfl) (fun _ => rfl)
  | read q =>
    obtain ⟨event, rest, -, rfl⟩ := read_eq hstep
    exact hs.modify _ (fun _ => rfl) (fun _ => rfl)
  | unsubscribe q => exact wf_unsubscribe hs hstep

/-! ### What a move does to one subscriber -/

/-- What a move does to the subscription `q`, which is `sub'` after it. -/
inductive Flow (q : Nat) (s s' : Delivery τ ε) (sub' : Subscriber ε) : Prop where
  /-- The subscription is new: its backlog is the log. -/
  | opened (notes : s'.notesFor q = []) (sent : sub'.sent = s'.store.log sub'.runId)
  /-- Nothing reached the log, and nothing was notified. -/
  | kept (sub : Subscriber ε) (old : s.subscribers[q]? = some sub)
      (active : sub.active = true) (notes : s'.notesFor q = s.notesFor q)
      (sent : sub'.sent = sub.sent)
      (log : s'.store.log sub'.runId = s.store.log sub.runId)
  /-- A thread appended an event to the run. -/
  | appended (sub : Subscriber ε) (thread : τ) (event : ε) (old : s.subscribers[q]? = some sub)
      (active : sub.active = true) (notes : s'.notesFor q = s.notesFor q ++ [⟨thread, q, event⟩])
      (sent : sub'.sent = sub.sent)
      (log : s'.store.log sub'.runId = s.store.log sub.runId ++ [event])
  /-- A thread made its first notification for this queue. -/
  | notified (sub : Subscriber ε) (n : Note τ ε) (before after : List (Note τ ε))
      (old : s.subscribers[q]? = some sub) (active : sub.active = true)
      (notes : s.notesFor q = before ++ n :: after) (rest : s'.notesFor q = before ++ after)
      (first : ∀ m ∈ before, m.thread ≠ n.thread)
      (sent : sub'.sent = sub.sent ++ [n.event])
      (log : s'.store.log sub'.runId = s.store.log sub.runId)

omit [DecidableEq τ] in
/-- The notes of a call for one queue: one for each listing of the queue. -/
theorem filter_notesOf (thread : τ) (event : ε) (queues : List Nat) (q : Nat) :
    (notesOf thread (.appendEvent event) queues).filter (fun n => decide (n.queue = q)) =
      List.replicate (queues.count q) ⟨thread, q, event⟩ := by
  induction queues with
  | nil => rfl
  | cons p queues ih =>
    simp only [notesOf, List.map_cons] at ih ⊢
    by_cases h : p = q
    · subst h
      simp [ih, List.replicate_succ]
    · simp [ih, h]

/-- What a call does to one queue. -/
theorem flow_call {s s' : Delivery τ ε} {thread : τ} {runId : String} {c : RunStore.Call ε}
    {now : ℚ} {q : Nat} {sub' : Subscriber ε} (hs : Wf s) (hplain : PlainCall c)
    (hstep : s.call thread runId c now = some s') (hsub : s'.subscribers[q]? = some sub')
    (hactive : sub'.active = true) : Flow q s s' sub' := by
  rw [call_eq hstep] at hsub ⊢
  have hlog := log_call s.store runId sub'.runId now hplain
  cases c with
  | appendEvent event =>
    have hcount := hs.listed q sub' hsub runId
    by_cases hrun : sub'.runId = runId
    · -- The queue is listed once under the run, so it gets one note.
      refine .appended sub' thread event hsub hactive ?_ rfl ?_
      · rw [if_pos ⟨hactive, hrun⟩] at hcount
        simp only [Delivery.notesFor, List.filter_append]
        show _ ++ (notesOf thread (.appendEvent event) (s.store.subscribersOf runId)).filter _ = _
        rw [filter_notesOf, hcount]
        rfl
      · simpa [hrun, addedBy] using hlog
    · -- An event of another run: the queue is not listed there.
      refine .kept sub' hsub hactive ?_ rfl ?_
      · rw [if_neg fun h => hrun h.2] at hcount
        simp only [Delivery.notesFor, List.filter_append]
        show _ ++ (notesOf thread (.appendEvent event) (s.store.subscribersOf runId)).filter _ = _
        rw [filter_notesOf, hcount]
        simp
      · simpa [Ne.symm hrun] using hlog
  | _ => exact .kept sub' hsub hactive (by simp [Delivery.notesFor, notesOf]) rfl
           (by simpa [addedBy] using hlog)

/-- The first note of a thread, and what is left of the notes for one queue. -/
theorem notesFor_erase {pending : List (Note τ ε)} {thread : τ} {n : Note τ ε}
    (hfind : pending.find? (Delivery.noteOf thread) = some n) (q : Nat) :
    ∃ before after, pending.filter (fun m => decide (m.queue = q)) =
        before ++ (if n.queue = q then [n] else []) ++ after ∧
      (pending.eraseP (Delivery.noteOf thread)).filter (fun m => decide (m.queue = q)) =
        before ++ after ∧
      (∀ m ∈ before, m.thread ≠ thread) ∧ n.thread = thread := by
  obtain ⟨hthread, front, back, rfl, hfront⟩ := List.find?_eq_some_iff_append.mp hfind
  have hne : ∀ m ∈ front, m.thread ≠ thread := by
    intro m hm
    simpa [Delivery.noteOf] using hfront m hm
  refine ⟨front.filter fun m => decide (m.queue = q), back.filter fun m => decide (m.queue = q),
    ?_, ?_, ?_, by simpa [Delivery.noteOf] using hthread⟩
  · by_cases hq : n.queue = q <;> simp [hq]
  · rw [List.eraseP_append_right _ (fun m hm => by simpa [Delivery.noteOf] using hne m hm),
      List.eraseP_cons_of_pos hthread, List.filter_append]
  · intro m hm
    exact hne m (List.mem_filter.mp hm).1

/-- What a delivery does to it. -/
theorem flow_notify {s s' : Delivery τ ε} {thread : τ} {q : Nat} {sub' : Subscriber ε}
    (hstep : s.notify thread = some s') (hsub : s'.subscribers[q]? = some sub')
    (hactive : sub'.active = true) : Flow q s s' sub' := by
  obtain ⟨n, hfind, rfl⟩ := Option.map_eq_some_iff.mp hstep
  obtain ⟨sub, hold, rfl⟩ := getElem?_modify_cases hsub
  obtain ⟨before, after, hnotes, hrest, hfirst, hthread⟩ := notesFor_erase hfind q
  by_cases hq : n.queue = q
  · -- The note moves from the notes to the scheduled callbacks.
    rw [if_pos hq] at hnotes hactive ⊢
    refine .notified sub n before after hold hactive ?_ hrest ?_ ?_ rfl
    · rw [Delivery.notesFor, hnotes]
      simp
    · rw [hthread]
      exact hfirst
    · simp [Subscriber.sent]
  · rw [if_neg hq] at hnotes hactive ⊢
    refine .kept sub hold hactive ?_ rfl rfl
    show (s.pending.eraseP (Delivery.noteOf thread)).filter _ = s.pending.filter _
    rw [hrest, hnotes]
    simp

omit [DecidableEq τ] in
/-- What a new subscription starts with. -/
theorem flow_subscribe {s : Delivery τ ε} {runId : String} {q : Nat} {sub' : Subscriber ε}
    (hs : Wf s) (hsub : (s.subscribe runId).subscribers[q]? = some sub')
    (hactive : sub'.active = true) : Flow q s (s.subscribe runId) sub' := by
  have hsubs : (s.subscribers ++
      [Subscriber.mk runId true (s.store.log runId) [] [] []])[q]? = some sub' := hsub
  rcases Nat.lt_trichotomy q s.subscribers.length with hlt | rfl | hgt
  · rw [List.getElem?_append_left hlt] at hsubs
    exact .kept sub' hsubs hactive rfl rfl rfl
  · simp only [List.getElem?_concat_length, Option.some.injEq] at hsubs
    subst hsubs
    refine .opened ?_ (by simp [Subscriber.sent]; rfl)
    -- No thread has a note for a queue that did not exist.
    rw [Delivery.notesFor, List.filter_eq_nil_iff]
    intro n hn hq
    have hlt := hs.notes n hn
    rw [of_decide_eq_true hq] at hlt
    exact lt_irrefl _ hlt
  · rw [List.getElem?_append_right (by omega), List.getElem?_eq_none (by simp; omega)] at hsubs
    cases hsubs

omit [DecidableEq τ] in
/-- A change of one subscription that keeps its run, its registration and what left the log
for it. -/
theorem flow_modify {s : Delivery τ ε} {p q : Nat} {f : Subscriber ε → Subscriber ε}
    {sub' : Subscriber ε} (hsub : (s.modify p f).subscribers[q]? = some sub')
    (hactive : sub'.active = true)
    (hkeep : ∀ sub, s.subscribers[p]? = some sub → p = q →
      (f sub).runId = sub.runId ∧ (f sub).active = sub.active ∧ (f sub).sent = sub.sent) :
    Flow q s (s.modify p f) sub' := by
  obtain ⟨sub, hold, rfl⟩ := getElem?_modify_cases hsub
  by_cases hpq : p = q
  · subst hpq
    obtain ⟨hrun, hact, hsent⟩ := hkeep sub hold rfl
    simp only [if_pos] at hactive ⊢
    refine .kept sub hold (hact ▸ hactive) rfl hsent ?_
    show s.store.log (f sub).runId = _
    rw [hrun]
  · rw [if_neg hpq] at hactive ⊢
    exact .kept sub hold hactive rfl rfl rfl

/-- Every plain move of a system whose queue `q` has room is one of `Flow`. -/
theorem flow_step {s s' : Delivery τ ε} {l : DeliveryLabel τ ε} {q : Nat} {sub' : Subscriber ε}
    (hs : Wf s) (hplain : PlainLabel l) (hroom : Roomy q s) (hstep : s.step l = some s')
    (hsub : s'.subscribers[q]? = some sub') (hactive : sub'.active = true) :
    Flow q s s' sub' := by
  cases l with
  | call thread runId c now => exact flow_call hs hplain hstep hsub hactive
  | notify thread => exact flow_notify hstep hsub hactive
  | subscribe runId => cases hstep; exact flow_subscribe hs hsub hactive
  | runCallback p =>
    -- The queue has room, so `_safe_put` keeps the event.
    obtain ⟨event, rest, hsched, rfl⟩ := runCallback_eq hstep
    refine flow_modify hsub hactive ?_
    rintro sub hold rfl
    have hsched' : sub.scheduled = event :: rest := by simpa [hold] using hsched
    refine ⟨rfl, rfl, ?_⟩
    simp [Subscriber.sent, safePut, hroom sub hold, hsched']
  | read p =>
    obtain ⟨event, rest, hqueue, rfl⟩ := read_eq hstep
    refine flow_modify hsub hactive ?_
    rintro sub hold rfl
    have hqueue' : sub.queue = event :: rest := by simpa [hold] using hqueue
    exact ⟨rfl, rfl, by simp [Subscriber.sent, hqueue']⟩
  | unsubscribe p =>
    obtain ⟨old, hold, rfl⟩ := Option.map_eq_some_iff.mp hstep
    obtain ⟨sub, hsub', rfl⟩ := getElem?_modify_cases hsub
    by_cases hpq : p = q
    · -- The queue is not registered after this move.
      rw [if_pos hpq] at hactive
      cases hactive
    · rw [if_neg hpq] at hactive ⊢
      exact .kept sub hsub' hactive rfl rfl rfl

/-! ### The two invariants -/

/-- What the subscriber has or is about to get, in the order it will get it. -/
def wholeOf (s : Delivery τ ε) (q : Nat) (sub : Subscriber ε) : List ε :=
  sub.sent ++ (s.notesFor q).map Note.event

/-- Nothing is lost and nothing comes twice, for the subscription `q`. -/
def Conserved (q : Nat) (s : Delivery τ ε) : Prop :=
  ∀ sub, s.subscribers[q]? = some sub → sub.active = true →
    (wholeOf s q sub).Perm (s.store.log sub.runId)

/-- A step loses nothing on the way to a queue, and doubles nothing. -/
theorem conserved_step {s s' : Delivery τ ε} {l : DeliveryLabel τ ε} {q : Nat} (hs : Wf s)
    (hplain : PlainLabel l) (hroom : Roomy q s) (hstep : s.step l = some s')
    (hcons : Conserved q s) : Conserved q s' := by
  intro sub' hsub' hactive'
  cases flow_step hs hplain hroom hstep hsub' hactive' with
  | opened notes sent => simp [wholeOf, notes, sent]
  | kept sub old active notes sent log =>
    have hperm := hcons sub old active
    rw [wholeOf, notes, sent, log]
    exact hperm
  | appended sub thread event old active notes sent log =>
    have hperm := hcons sub old active
    rw [wholeOf, notes, sent, log, List.map_append, ← List.append_assoc]
    exact hperm.append_right [event]
  | notified sub n before after old active notes rest first sent log =>
    -- The note may stand behind others, so the order changes here.
    have hperm := hcons sub old active
    rw [log]
    refine List.Perm.trans ?_ hperm
    simp only [wholeOf, sent, rest, notes, List.map_append, List.map_cons, List.append_assoc,
      List.singleton_append]
    exact List.Perm.append_left _ List.perm_middle.symm

/-- `owner` names the thread that appends each event. The store never reads an event, so a run
over events that do not name their thread is one over pairs of a thread and an event, with
`Prod.fst` as the owner. -/
def Owned (owner : ε → τ) : DeliveryLabel τ ε → Prop
  | .call thread _ (.appendEvent event) _ => owner event = thread
  | _ => True

/-- The events of one thread, among others. -/
def eventsBy (owner : ε → τ) (thread : τ) (events : List ε) : List ε :=
  events.filter fun e => decide (owner e = thread)

/-- A note is for an event of its thread, and the events of each thread are in the whole in
the order of the log. -/
structure InOrder (owner : ε → τ) (q : Nat) (s : Delivery τ ε) : Prop where
  notes : ∀ n ∈ s.pending, owner n.event = n.thread
  order : ∀ sub, s.subscribers[q]? = some sub → sub.active = true → ∀ thread,
    eventsBy owner thread (wholeOf s q sub) = eventsBy owner thread (s.store.log sub.runId)

/-- The events on the way are those of the thread that put them there. -/
theorem notes_step {owner : ε → τ} {s s' : Delivery τ ε} {l : DeliveryLabel τ ε}
    (howned : Owned owner l) (hstep : s.step l = some s')
    (hnotes : ∀ n ∈ s.pending, owner n.event = n.thread) :
    ∀ n ∈ s'.pending, owner n.event = n.thread := by
  intro n hn
  cases l with
  | call thread runId c now =>
    rw [call_eq hstep] at hn
    -- The new notes are those of the thread that appends.
    rcases List.mem_append.mp hn with hold | hnew
    · exact hnotes n hold
    · cases c with
      | appendEvent event =>
        obtain ⟨q, -, rfl⟩ := List.mem_map.mp hnew
        exact howned
      | _ => cases hnew
  | notify thread =>
    obtain ⟨m, -, rfl⟩ := Option.map_eq_some_iff.mp hstep
    exact hnotes n (List.eraseP_subset hn)
  | subscribe runId => cases hstep; exact hnotes n hn
  | runCallback p =>
    obtain ⟨event, rest, -, rfl⟩ := runCallback_eq hstep
    exact hnotes n hn
  | read p =>
    obtain ⟨event, rest, -, rfl⟩ := read_eq hstep
    exact hnotes n hn
  | unsubscribe p =>
    obtain ⟨old, -, rfl⟩ := Option.map_eq_some_iff.mp hstep
    exact hnotes n hn

/-- Notes of other threads hold no event of this thread. -/
theorem eventsBy_notes {owner : ε → τ} {notes : List (Note τ ε)} {thread : τ}
    (howner : ∀ n ∈ notes, owner n.event = n.thread) (hne : ∀ n ∈ notes, n.thread ≠ thread) :
    eventsBy owner thread (notes.map Note.event) = [] := by
  rw [eventsBy, List.filter_eq_nil_iff]
  intro e he
  obtain ⟨n, hn, rfl⟩ := List.mem_map.mp he
  simp [howner n hn, hne n hn]

/-- A step keeps each producer's events in order. -/
theorem inOrder_step {owner : ε → τ} {s s' : Delivery τ ε} {l : DeliveryLabel τ ε} {q : Nat}
    (hs : Wf s) (hplain : PlainLabel l) (hroom : Roomy q s) (howned : Owned owner l)
    (hstep : s.step l = some s') (hord : InOrder owner q s) : InOrder owner q s' := by
  refine ⟨notes_step howned hstep hord.notes, ?_⟩
  intro sub' hsub' hactive' thread
  -- What a step does to the way of one queue.
  cases flow_step hs hplain hroom hstep hsub' hactive' with
  | opened notes sent => simp [wholeOf, notes, sent]
  | kept sub old active notes sent log =>
    have heq := hord.order sub old active thread
    rw [wholeOf, notes, sent, log]
    exact heq
  | appended sub t event old active notes sent log =>
    have heq := hord.order sub old active thread
    simp only [eventsBy, wholeOf] at heq
    rw [wholeOf, notes, sent, log]
    simp only [eventsBy, List.map_append, List.filter_append, ← List.append_assoc] at heq ⊢
    rw [heq]
    rfl
  | notified sub n before after old active notes rest first sent log =>
    have heq := hord.order sub old active thread
    rw [log, ← heq]
    simp only [wholeOf, sent, rest, notes, List.map_append, List.map_cons]
    by_cases ht : owner n.event = thread
    · -- The notes before it are of other threads, so the event is the next of its thread.
      have howner : ∀ m ∈ before, owner m.event = m.thread := by
        intro m hm
        have hmem : m ∈ s.notesFor q := by rw [notes]; simp [hm]
        exact hord.notes m (List.mem_filter.mp hmem).1
      have hmem : n ∈ s.notesFor q := by rw [notes]; simp
      have hthread : n.thread = thread := by
        rw [← ht]
        exact (hord.notes n (List.mem_filter.mp hmem).1).symm
      have hbefore := eventsBy_notes howner (hthread ▸ first)
      simp only [eventsBy] at hbefore ⊢
      simp [hbefore, ht]
    · simp [eventsBy, ht]

/-- No subscription yet, and no notification under way. -/
structure Quiet (s : Delivery τ ε) : Prop where
  subscribers : s.subscribers = []
  pending : s.pending = []
  listed : ∀ r, s.store.subscribersOf r = []

omit [DecidableEq τ] in
/-- With nothing on the way the queues are well formed. -/
theorem wf_quiet {s : Delivery τ ε} (h : Quiet s) : Wf s where
  notes := by simp [h.pending]
  known := by simp [h.listed]
  listed := by simp [h.subscribers]

/-- **Delivery is exactly-once.** Take any interleaving of store calls by any threads, of
their notifications, of the callbacks, the reads and the subscriptions, in which the queue
`q` always has room and no update carries events. While the subscription `q` is registered,
its backlog with the events received, queued, scheduled and not yet scheduled is a
permutation of the log of the run. The events of one thread, where `owner` names the thread
of each event, reach the subscriber in the order in which that thread appended them. -/
theorem delivered_once (q : Nat) {s₀ s : Delivery τ ε} (hstart : Quiet s₀)
    (hrun : Reach Delivery.step (fun s l => Roomy q s ∧ PlainLabel l) s₀ s)
    (sub : Subscriber ε) (hsub : s.subscribers[q]? = some sub) (hactive : sub.active = true) :
    (sub.backlog ++ sub.received ++ sub.queue ++ sub.scheduled ++
      (s.notesFor q).map Note.event).Perm (s.store.log sub.runId) ∧
    ∀ owner : ε → τ,
      Reach Delivery.step (fun s l => Roomy q s ∧ Owned owner l ∧ PlainLabel l) s₀ s →
      ∀ thread, eventsBy owner thread (sub.backlog ++ sub.received) <+:
        eventsBy owner thread (s.store.log sub.runId) := by
  have hwf₀ : Wf s₀ := wf_quiet hstart
  constructor
  · have hinv : Wf s ∧ Conserved q s := by
      refine Reach.invariant (P := fun s => Wf s ∧ Conserved q s) ?_ hrun
        ⟨hwf₀, by simp [Conserved, hstart.subscribers]⟩
      rintro s l s' ⟨hwf, hcons⟩ ⟨hroom, hplain⟩ hstep
      exact ⟨wf_step hwf hstep, conserved_step hwf hplain hroom hstep hcons⟩
    exact hinv.2 sub hsub hactive
  · intro owner howner thread
    have hinv : Wf s ∧ InOrder owner q s := by
      refine Reach.invariant (P := fun s => Wf s ∧ InOrder owner q s) ?_ howner
        ⟨hwf₀, by simp [hstart.pending], by simp [hstart.subscribers]⟩
      rintro s l s' ⟨hwf, hord⟩ ⟨hroom, howned, hplain⟩ hstep
      exact ⟨wf_step hwf hstep, inOrder_step hwf hplain hroom howned hstep hord⟩
    rw [← hinv.2.order sub hsub hactive thread]
    -- What was replayed and received comes first in the whole.
    refine ⟨eventsBy owner thread
      (sub.queue ++ sub.scheduled ++ (s.notesFor q).map Note.event), ?_⟩
    simp [eventsBy, wholeOf, Subscriber.sent]

instance : (c : RunStore.Call ε) → Decidable (PlainCall c)
  | .get => isTrue trivial
  | .upsert record => inferInstanceAs (Decidable (record.events = []))
  | .upsertUnlessCancelled record => inferInstanceAs (Decidable (record.events = []))
  | .appendEvent _ => isTrue trivial

instance : (l : DeliveryLabel τ ε) → Decidable (PlainLabel l)
  | .call _ _ c _ => inferInstanceAs (Decidable (PlainCall c))
  | .notify _ | .subscribe _ | .runCallback _ | .read _ | .unsubscribe _ => isTrue trivial

instance (owner : ε → τ) : (l : DeliveryLabel τ ε) → Decidable (Owned owner l)
  | .call thread _ (.appendEvent event) _ => inferInstanceAs (Decidable (owner event = thread))
  | .call _ _ .get _ | .call _ _ (.upsert _) _ | .call _ _ (.upsertUnlessCancelled _) _ =>
    isTrue trivial
  | .notify _ | .subscribe _ | .runCallback _ | .read _ | .unsubscribe _ => isTrue trivial

instance (q : Nat) (s : Delivery τ ε) : Decidable (Roomy q s) :=
  inferInstanceAs (Decidable (∀ sub ∈ s.subscribers[q]?, sub.queue.length < queueMaxsize))

/-- An event with the number of its producer. -/
abbrev Tagged := Nat × Dict String Json

/-- The system before any subscription. -/
def bareDelivery : Delivery Nat Tagged := ⟨.new, [], []⟩

/-- Nothing is on the way at the start of the concrete run. -/
theorem quiet_bareDelivery : Quiet bareDelivery where
  subscribers := rfl
  pending := rfl
  listed := fun _ => rfl

/-- Two threads append one event each around a subscription, and the later one notifies
first. -/
def overtakingRun : List (DeliveryLabel Nat Tagged) :=
  [.call 1 "r" (.appendEvent (1, Dict.empty)) 0, .subscribe "r",
   .call 1 "r" (.appendEvent (1, Dict.empty)) 1, .call 2 "r" (.appendEvent (2, Dict.empty)) 2,
   .notify 2, .runCallback 0, .read 0]

/-- In `overtakingRun` the event of thread 2 overtakes one of thread 1. The whole is still a
permutation of the log, and the events of thread 1 are in order. -/
theorem delivered_once_overtaking :
    ∃ s sub, s.subscribers[0]? = some sub ∧ sub.received = [(2, Dict.empty)] ∧
      (sub.backlog ++ sub.received ++ sub.queue ++ sub.scheduled ++
        (s.notesFor 0).map Note.event).Perm (s.store.log sub.runId) ∧
      eventsBy Prod.fst 1 (sub.backlog ++ sub.received) <+:
        eventsBy Prod.fst 1 (s.store.log sub.runId) ∧
      Reach Delivery.step (fun s l => Roomy 0 s ∧ Owned Prod.fst l ∧ PlainLabel l)
        bareDelivery s := by
  have hexec : ((exec Delivery.step (fun s l => Roomy 0 s ∧ Owned Prod.fst l ∧ PlainLabel l)
      bareDelivery overtakingRun).map (·.subscribers)) =
        some [⟨"r", true, [(1, Dict.empty)], [(2, Dict.empty)], [], []⟩] := by decide +kernel
  obtain ⟨s, hrun, hsubs⟩ := exists_reach_of_exec hexec
  have hsub : s.subscribers[0]? =
      some ⟨"r", true, [(1, Dict.empty)], [(2, Dict.empty)], [], []⟩ := by rw [hsubs]; rfl
  have hplain : Reach Delivery.step (fun s l => Roomy 0 s ∧ PlainLabel l) bareDelivery s :=
    hrun.weaken fun _ _ h => ⟨h.1, h.2.2⟩
  obtain ⟨hperm, horder⟩ := delivered_once 0 quiet_bareDelivery hplain _ hsub rfl
  exact ⟨s, _, hsub, rfl, hperm, horder Prod.fst hrun 1, hrun⟩

/-- Delivery is not exactly-once for an update that carries events: they are in the log, and
no subscriber is ever notified of them. -/
theorem merged_events_not_delivered :
    ¬ ∀ (q : Nat) (s₀ s : Delivery Nat Tagged), Quiet s₀ →
      Reach Delivery.step (fun s l => Roomy q s ∧ Owned Prod.fst l) s₀ s →
      ∀ sub, s.subscribers[q]? = some sub → sub.active = true →
        (sub.backlog ++ sub.received ++ sub.queue ++ sub.scheduled ++
          (s.notesFor q).map Note.event).Perm (s.store.log sub.runId) ∧
        ∀ thread, eventsBy Prod.fst thread (sub.backlog ++ sub.received) <+:
          eventsBy Prod.fst thread (s.store.log sub.runId) := by
  intro hall
  have hexec : ((exec Delivery.step (fun s l => Roomy 0 s ∧ Owned Prod.fst l) bareDelivery
      [.subscribe "r", .call 1 "r" (.upsert ⟨Dict.empty, [(1, Dict.empty)]⟩) 0]).map
        fun s => (s.subscribers, s.pending.length, (s.store.log "r").length)) =
          some ([⟨"r", true, [], [], [], []⟩], 0, 1) := by decide +kernel
  obtain ⟨s, hrun, heq⟩ := exists_reach_of_exec hexec
  obtain ⟨hsubs, hrest⟩ := Prod.mk.inj heq
  obtain ⟨hnotes, hlog⟩ := Prod.mk.inj hrest
  obtain ⟨hperm, -⟩ := hall 0 bareDelivery s quiet_bareDelivery hrun
    ⟨"r", true, [], [], [], []⟩ (by rw [hsubs]; rfl) rfl
  have hlen := hperm.length_eq
  simp [Delivery.notesFor, List.length_eq_zero_iff.mp hnotes, hlog] at hlen

end AitpPlayground.Proofs.Runner
