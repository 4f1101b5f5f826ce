import AitpPlayground.Agents.HandshakeSessions

/-!
# `AitpPlayground.Proofs.Agents.HandshakeSessions`: a session is used once, with its key

Between two `await`s one request runs alone. A hello builds its responder and stores it in one
such stretch, and a rotation replaces the key and clears the table in one. So the table never
holds a responder of another key, except while a rotation is between its two statements, and
then no other request runs (`SessionInv.bound`). A commit takes its responder out of the table
in the stretch in which it uses it, and the ids of the SDK are distinct: no id comes back.
-/

set_option autoImplicit false

namespace AitpPlayground.Proofs.Agents

open AitpPlayground.Lib
open AitpPlayground.Agents

/-- A session id that the SDK has given, and that was not handed to `process_commit`. -/
def Unspent (s : SessionServer) (sessionId : String) : Prop :=
  sessionId ∈ s.sessionIds ∧ sessionId ∉ s.commits.map CommitCall.sessionId

/-- What the running request knows at its next statement. -/
def HandlerOk (s : SessionServer) : HandlerAt → Prop
  | .helloProcess responder => responder = s.agent
  | .helloStore responder sessionId | .commitProcess sessionId responder =>
    responder = s.agent ∧ Unspent s sessionId ∧ s.sessions.get? sessionId = none
  | _ => True

/-- The responders in the table are those of the present key. -/
def AllBound (s : SessionServer) : Prop :=
  ∀ sessionId responder, s.sessions.get? sessionId = some responder → responder = s.agent

/-- The invariant of the sessions. -/
structure SessionInv (s : SessionServer) : Prop where
  running : ∀ request p, s.running = some (request, p) → HandlerOk s p
  /-- Only a rotation that is between its two statements leaves responders of the old key. -/
  bound : AllBound s ∨ ∃ request, s.running = some (request, .rotateClear)
  unspent : ∀ sessionId responder, s.sessions.get? sessionId = some responder →
    Unspent s sessionId
  known : ∀ c ∈ s.commits, c.sessionId ∈ s.sessionIds
  once : (s.commits.map CommitCall.sessionId).Nodup
  keyed : ∀ c ∈ s.commits, c.responder = c.agent

/-- The invariant holds at the start. -/
theorem sessionInv_start (agent : String) : SessionInv (.start agent) := by
  constructor <;> simp [SessionServer.start, AllBound]

namespace SessionInv

variable {s : SessionServer} {request : Nat} {p : HandlerAt}

/-- Away from the middle of a rotation, the table is bound to the key. -/
theorem allBound (h : SessionInv s) (hrun : ∀ r, s.running ≠ some (r, .rotateClear)) :
    AllBound s := by
  rcases h.bound with hbound | ⟨r, hr⟩
  · exact hbound
  · exact absurd hr (hrun r)

/-- The running request goes on, and neither the key nor the table moves. -/
theorem goto (h : SessionInv s) (hbound : AllBound s) (hnext : HandlerOk s p) :
    SessionInv (s.goto request p) := by
  refine ⟨?_, .inl hbound, h.unspent, h.known, h.once, h.keyed⟩
  rintro _ _ ⟨⟩
  -- What is known about a statement does not read who runs.
  cases p <;> exact hnext

/-- The running request stops, and neither the key nor the table moves. -/
theorem stop (h : SessionInv s) (hbound : AllBound s) (suspended : Nat → Option Suspended) :
    SessionInv { s with running := none, suspended } :=
  ⟨nofun, .inl hbound, h.unspent, h.known, h.once, h.keyed⟩

/-- The SDK gives a session id. -/
theorem give (h : SessionInv s) (hbound : AllBound s) {sessionId : String}
    (hnew : sessionId ∉ s.sessionIds) :
    SessionInv { s.goto request (.helloStore s.agent sessionId) with
      sessionIds := sessionId :: s.sessionIds } := by
  have hspent : sessionId ∉ s.commits.map CommitCall.sessionId := by
    intro hmem
    obtain ⟨c, hc, rfl⟩ := List.mem_map.mp hmem
    exact hnew (h.known c hc)
  have habsent : s.sessions.get? sessionId = none := by
    cases hget : s.sessions.get? sessionId with
    | none => rfl
    | some responder => exact absurd (h.unspent _ _ hget).1 hnew
  refine ⟨?_, .inl hbound, ?_, ?_, h.once, h.keyed⟩
  · rintro _ _ ⟨⟩
    exact ⟨rfl, ⟨List.mem_cons_self, hspent⟩, habsent⟩
  · intro i responder hi
    exact ⟨List.mem_cons_of_mem _ (h.unspent i responder hi).1, (h.unspent i responder hi).2⟩
  · exact fun c hc => List.mem_cons_of_mem _ (h.known c hc)

/-- A hello stores its responder. -/
theorem store (h : SessionInv s) (hbound : AllBound s) {sessionId : String}
    (hnew : Unspent s sessionId) (suspended : Nat → Option Suspended) :
    SessionInv { s with
      running := none, suspended, sessions := s.sessions.set sessionId s.agent } := by
  refine ⟨nofun, .inl ?_, ?_, h.known, h.once, h.keyed⟩
  · intro i responder hi
    simp only [Dict.get?_set] at hi
    split at hi
    · exact (Option.some.inj hi).symm
    · exact hbound i responder hi
  · intro i responder hi
    simp only [Dict.get?_set] at hi
    split at hi
    case isTrue heq => exact heq ▸ hnew
    case isFalse => exact h.unspent i responder hi

/-- A commit takes its responder out of the table. -/
theorem pop (h : SessionInv s) (hbound : AllBound s) {sessionId responder : String}
    (hget : s.sessions.get? sessionId = some responder) :
    SessionInv { s.goto request (.commitProcess sessionId responder) with
      sessions := s.sessions.erase sessionId } := by
  have hrest : ∀ i r, (s.sessions.erase sessionId).get? i = some r →
      s.sessions.get? i = some r := by
    intro i r hi
    rw [Dict.get?_erase] at hi
    split at hi
    · cases hi
    · exact hi
  refine ⟨?_, .inl fun i r hi => hbound i r (hrest i r hi),
    fun i r hi => h.unspent i r (hrest i r hi), h.known, h.once, h.keyed⟩
  rintro _ _ ⟨⟩
  refine ⟨hbound _ _ hget, h.unspent _ _ hget, ?_⟩
  show (s.sessions.erase sessionId).get? sessionId = none
  rw [Dict.get?_erase, if_pos rfl]

/-- A commit hands its session id to `process_commit`. -/
theorem process (h : SessionInv s) (hbound : AllBound s) {sessionId : String}
    (hid : Unspent s sessionId) (hgone : s.sessions.get? sessionId = none)
    (suspended : Nat → Option Suspended) :
    SessionInv { s with
      running := none
      suspended
      commits := { sessionId, responder := s.agent, agent := s.agent } :: s.commits } := by
  refine ⟨nofun, .inl hbound, ?_, ?_, ?_, ?_⟩
  · intro i r hi
    obtain ⟨hmem, hspent⟩ := h.unspent i r hi
    refine ⟨hmem, ?_⟩
    simp only [List.map_cons, List.mem_cons, not_or]
    refine ⟨?_, hspent⟩
    -- The session was taken out before it is processed.
    rintro rfl
    rw [hgone] at hi
    cases hi
  · intro c hc
    rcases List.mem_cons.mp hc with rfl | hc
    · exact hid.1
    · exact h.known c hc
  · exact List.nodup_cons.mpr ⟨hid.2, h.once⟩
  · intro c hc
    rcases List.mem_cons.mp hc with rfl | hc
    · rfl
    · exact h.keyed c hc

/-- A rotation installs its key. The table is cleared next. -/
theorem install (h : SessionInv s) (newAgent : String) :
    SessionInv { s.goto request .rotateClear with agent := newAgent } := by
  refine ⟨?_, .inr ⟨request, rfl⟩, h.unspent, h.known, h.once, h.keyed⟩
  rintro _ _ ⟨⟩
  trivial

/-- A rotation clears the table. -/
theorem clear (h : SessionInv s) (suspended : Nat → Option Suspended) :
    SessionInv { s with running := none, suspended, sessions := Dict.empty } :=
  ⟨nofun, .inl nofun, nofun, h.known, h.once, h.keyed⟩

end SessionInv

/-- One statement keeps the invariant. -/
theorem sessionInv_execute {s s' : SessionServer} (h : SessionInv s) {request : Nat}
    {p : HandlerAt} {outcome : HandlerOutcome} (hrun : s.running = some (request, p))
    (hs : sessionExecute s request p outcome = some s') : SessionInv s' := by
  have hok := h.running request p hrun
  have hbound : p ≠ .rotateClear → AllBound s := by
    intro hne
    refine h.allBound fun r hr => hne ?_
    rw [hrun] at hr
    cases hr
    rfl
  cases p with
  | helloScreen =>
    cases outcome <;> cases hs
    · exact h.goto (hbound nofun) trivial
    · exact h.stop (hbound nofun) _
  | helloBuild =>
    cases outcome <;> cases hs
    · exact h.goto (hbound nofun) rfl
    · exact h.stop (hbound nofun) _
  | helloProcess responder =>
    cases outcome with
    | ok => cases hs
    | refused =>
      cases hs
      exact h.stop (hbound nofun) _
    | session sessionId =>
      simp only [sessionExecute] at hs
      split at hs <;> cases hs
      cases hok
      exact h.give (hbound nofun) ‹_›
  | helloStore responder sessionId =>
    obtain ⟨rfl, hid, -⟩ := hok
    cases outcome <;> cases hs
    exact h.store (hbound nofun) hid _
  | commitScreen sessionId =>
    cases outcome <;> cases hs
    · exact h.goto (hbound nofun) trivial
    · exact h.stop (hbound nofun) _
  | commitPop sessionId =>
    cases outcome with
    | ok =>
      simp only [sessionExecute] at hs
      split at hs <;> cases hs
      · exact h.stop (hbound nofun) _
      · exact h.pop (hbound nofun) ‹_›
    | refused => cases hs
    | session => cases hs
  | commitProcess sessionId responder =>
    obtain ⟨rfl, hid, hgone⟩ := hok
    -- The session is spent, whether `process_commit` raises or not.
    cases outcome <;> cases hs <;> exact h.process (hbound nofun) hid hgone _
  | rotateMint newAgent =>
    cases outcome <;> cases hs
    · exact h.goto (hbound nofun) trivial
    · exact h.stop (hbound nofun) _
  | rotateInstall newAgent =>
    cases outcome <;> cases hs
    exact h.install newAgent
  | rotateClear =>
    cases outcome <;> cases hs
    exact h.clear _

/-- A step keeps it. -/
theorem sessionInv_step {s s' : SessionServer} {l : SessionLabel} (h : SessionInv s)
    (hs : sessionStep s l = some s') : SessionInv s' := by
  cases l with
  | hello request | commit request sessionId | rotate request newAgent =>
    simp only [sessionStep] at hs
    split at hs <;> cases hs
    rename_i hidle
    exact h.stop (h.allBound (by rw [hidle.1]; nofun)) _
  | resume request =>
    simp only [sessionStep] at hs
    split at hs <;> cases hs
    rename_i waits hrun hwaits
    have hbound : AllBound s := h.allBound (by rw [hrun]; nofun)
    have hstop := h.stop hbound (Function.update s.suspended request none)
    -- A request goes on where it waited.
    cases waits with
    | telemetry => exact hstop
    | helloBody => exact hstop.goto (p := .helloScreen) hbound trivial
    | commitBody sessionId => exact hstop.goto (p := .commitScreen sessionId) hbound trivial
    | rotateBegin newAgent => exact hstop.goto (p := .rotateMint newAgent) hbound trivial
  | execute outcome =>
    simp only [sessionStep] at hs
    split at hs
    · cases hs
    · exact sessionInv_execute h ‹_› hs

/-- In every run of the event loop, no session id is handed to `process_commit` twice, and
every call is on a responder that was built from the key of the server at that moment. -/
theorem sessions_single_use_and_bound {agent : String} {s : SessionServer}
    (h : Reach sessionStep anyStep (.start agent) s) :
    (s.commits.map CommitCall.sessionId).Nodup ∧
      ∀ c ∈ s.commits, c.responder = c.agent := by
  have hinv : SessionInv s :=
    h.invariant (fun _ _ _ hinv _ hs => sessionInv_step hinv hs) (sessionInv_start agent)
  exact ⟨hinv.once, hinv.keyed⟩

/-- Two sessions of one key, a commit of the first that is sent twice, a rotation, a commit of
the second that comes too late, and a session of the new key. -/
theorem sessions_single_use_across_rotation :
    ∃ s, Reach sessionStep anyStep (.start "k1") s ∧
      s.commits = [⟨"s3", "k2", "k2"⟩, ⟨"s1", "k1", "k1"⟩] ∧
      (s.commits.map CommitCall.sessionId).Nodup ∧ ∀ c ∈ s.commits, c.responder = c.agent := by
  let hello (request : Nat) (sessionId : String) : List SessionLabel :=
    [.hello request, .resume request, .execute .ok, .execute .ok, .execute (.session sessionId),
      .execute .ok]
  let begun (request : Nat) : List SessionLabel :=
    [.resume request, .execute .ok, .execute .ok]
  have heval : ((exec sessionStep anyStep (.start "k1")
      (hello 1 "s1" ++ hello 2 "s2" ++ [.commit 3 "s1", .commit 4 "s1", .rotate 5 "k2"] ++
        begun 4 ++ [.execute .ok] ++ begun 3 ++ begun 5 ++ [.execute .ok] ++
        [.commit 6 "s2"] ++ begun 6 ++ hello 7 "s3" ++ [.commit 8 "s3"] ++ begun 8 ++
        [.execute .refused])).map SessionServer.commits) =
      some [⟨"s3", "k2", "k2"⟩, ⟨"s1", "k1", "k1"⟩] := by decide +kernel
  obtain ⟨s, hrun, hcommits⟩ := exists_reach_of_exec heval
  exact ⟨s, hrun, hcommits, sessions_single_use_and_bound hrun⟩

end AitpPlayground.Proofs.Agents
