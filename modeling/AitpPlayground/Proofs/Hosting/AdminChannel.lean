import AitpPlayground.Hosting.AdminChannel
import AitpPlayground.Proofs.Hosting.KillRun

/-!
# `AitpPlayground.Proofs.Hosting.AdminChannel`: the playground reaches its agents

The table of the supervisor has at most one token for a port, and an agent that is launched on a
port from an allocator takes the port of another one only when that one is dead. So what a client
sends to the port of an agent is the token of that agent, if it is a token at all (`ChannelInv`).
A launch on a pinned port that a live agent has would break this, and is in no run here.

* `admin_token_stays_home`: no token goes to another host or to another agent.
* `admin_channel_open_iff`: every agent can be reached as long as no kill comes too late. A late
  kill takes the token of the agent that has the port by then, and the playground is a stranger
  to it from there on.
-/

set_option autoImplicit false

namespace AitpPlayground.Proofs.Hosting

open AitpPlayground.Lib
open AitpPlayground.Hosting
open AitpPlayground.Agents

/-! ### Headers -/

/-- The header that was set is found. -/
theorem lookup_setHeader (name : String) (value : List UInt8)
    (headers : List (String × List UInt8)) :
    (setHeader name value headers).lookup name = some value := by
  induction headers with
  | nil => simp [setHeader]
  | cons header rest ih =>
    unfold setHeader
    split
    · simp
    · rename_i hne
      rw [List.lookup_cons, beq_eq_false_iff_ne.mpr (Ne.symm hne), ih]

/-- The header is set for a port that has a token. -/
theorem authFlow_of_token {tokens : Dict Int String} {r : ClientRequest} {port : Int}
    {token : String} (hadmin : r.toAdmin = true) (hport : r.port = some port)
    (htoken : tokens.get? port = some token) (hne : token ≠ "") :
    authFlow tokens r =
      { r with headers := setHeader adminTokenHeader (utf8 token) r.headers } := by
  unfold authFlow
  rw [if_pos hadmin, hport, Option.bind_some, htoken]
  exact if_neg hne

/-- Without a token the request goes out as it is. -/
theorem authFlow_of_none {tokens : Dict Int String} {r : ClientRequest} {port : Int}
    (hport : r.port = some port) (htoken : tokens.get? port = none) : authFlow tokens r = r := by
  unfold authFlow
  split
  · rw [hport, Option.bind_some, htoken]
  · rfl

/-- The token that an agent compares is the one of its bootstrap. -/
theorem new_token {token : String} (h : token ≠ "") :
    (AdminAuthMiddleware.new (some token)).token = some (utf8 token) := by
  simp [AdminAuthMiddleware.new, h]

/-- The guard lets a request with the token through. -/
theorem passes_of_token {token : String} {s : Scope} (h : token ≠ "")
    (hs : s.headers.lookup adminTokenHeader = some (utf8 token)) :
    (AdminAuthMiddleware.new (some token)).passes s = true := by
  unfold AdminAuthMiddleware.passes AdminAuthMiddleware.authorized
  rw [new_token h, hs]
  simp

/-! ### Steps -/

/-- The port in the record of an agent, which it keeps when it is dead. -/
def recordPort (s : AdminSystem) (k : String) : Option Int :=
  (s.threads.sup.agents.get? k).map RunningAgent.port

/-- What a step does to the ports of the live agents and to both kinds of tokens. -/
inductive ChannelMove (s : AdminSystem) (l : KillLabel) (s' : AdminSystem) : Prop where
  | launch (k : String) (port : Int) (token : String) (late : killsLate s l = false)
    (free : ∀ k', s.threads.sup.livePort k' ≠ some port)
    (live : ∀ k', s'.threads.sup.livePort k' =
      if k' = k then some port else s.threads.sup.livePort k')
    (bootstraps : ∀ k', s'.bootstraps.get? k' =
      if k' = k then some token else s.bootstraps.get? k')
    (registered : token ≠ "" → s'.tokens.get? port = some token)
    (others : ∀ port', port' ≠ port → s'.tokens.get? port' = s.tokens.get? port')
  | kill (k : String)
    (late : killsLate s l = true ↔
      ∃ k' port token, k' ≠ k ∧ recordPort s k = some port ∧ s.Listens k' port token)
    (live : ∀ k', s'.threads.sup.livePort k' =
      if k' = k then none else s.threads.sup.livePort k')
    (bootstraps : s'.bootstraps = s.bootstraps)
    (tokens : ∀ port, s'.tokens.get? port =
      if recordPort s k = some port then none else s.tokens.get? port)
  | rest (late : killsLate s l = false)
    (live : ∀ k', s'.threads.sup.livePort k' = s.threads.sup.livePort k')
    (bootstraps : s'.bootstraps = s.bootstraps)
    (tokens : ∀ k' port, s.threads.sup.livePort k' = some port →
      s'.tokens.get? port = s.tokens.get? port)

/-- A kill comes too late when the recorded port is that of another agent. -/
theorem killsLate_iff {s : AdminSystem} {thread : Nat} {runId k : String} {rest : List String}
    (hloop : s.threads.loops thread = some (runId, k :: rest)) :
    killsLate s (.killNext thread) = true ↔
      ∃ k' port token, k' ≠ k ∧ recordPort s k = some port ∧ s.Listens k' port token := by
  have hmem {k' : String} {port : Int} (h : s.threads.sup.livePort k' = some port) :
      k' ∈ s.threads.sup.processes.keys := by
    obtain ⟨⟨p, hp⟩, -⟩ := livePort_eq_some.mp h
    rw [Dict.mem_keys_iff, hp]
    rfl
  unfold killsLate recordPort
  simp only [hloop]
  cases s.threads.sup.agents.get? k with
  | none => simp
  | some stale =>
    simp only [List.any_eq_true, Bool.and_eq_true, decide_eq_true_eq, Option.map_some,
      Option.any_eq_true, Option.some_inj]
    constructor
    · rintro ⟨k', -, ⟨hne, hlive⟩, token, htoken, hempty⟩
      exact ⟨k', stale.port, token, hne, rfl, hlive, htoken, hempty⟩
    · rintro ⟨k', port, token, hne, rfl, hlive, htoken, hempty⟩
      exact ⟨k', hmem hlive, ⟨hne, hlive⟩, token, htoken, hempty⟩

/-- A step makes the move of its label. -/
theorem channelMove_step {s s' : AdminSystem} {l : KillLabel} (h : KillInv s.threads)
    (hs : adminSystemStep s l = some s') : ChannelMove s l s' := by
  obtain ⟨threads, hthreads, rfl⟩ := Option.map_eq_some_iff.mp hs
  have hfree {port : Int} (hport : port ∉ s.threads.taken) (k' : String) :
      s.threads.sup.livePort k' ≠ some port := fun hlive => hport (h.taken k' port hlive)
  cases l with
  | launch runId agentId port token origin pid =>
    simp only [killStep] at hthreads
    split at hthreads
    case isFalse => cases hthreads
    case isTrue hok =>
      cases hthreads
      refine .launch (AgentSupervisor.key runId agentId) port token rfl (hfree hok.1)
        (fun k' => livePort_register ..) (fun k' => ?_) (fun hne => ?_) fun port' hne => ?_
      · rw [Dict.get?_set]
        simp only [eq_comm]
      · show (s.threads.sup.register runId agentId port token origin pid).adminTokens.get? port = _
        rw [adminTokens_register _ _ _ _ _ _ hne, Dict.get?_set_self]
      · show (s.threads.sup.register runId agentId port token origin pid).adminTokens.get? port' = _
        by_cases hempty : token = ""
        · unfold AgentSupervisor.register AgentSupervisor.setToken
          rw [if_pos hempty]
          rfl
        · rw [adminTokens_register _ _ _ _ _ _ hempty, Dict.get?_set_ne _ _ (Ne.symm hne)]
          rfl
  | launchFails port token =>
    simp only [killStep] at hthreads
    split at hthreads
    case isFalse => cases hthreads
    case isTrue hport =>
      cases hthreads
      refine .rest rfl (fun k' => livePort_setToken ..) rfl fun k' port' hlive => ?_
      have hne : port ≠ port' := fun heq => hfree hport k' (heq ▸ hlive)
      show (s.threads.sup.setToken port token).adminTokens.get? port' = _
      by_cases hempty : token = ""
      · unfold AgentSupervisor.setToken
        rw [if_pos hempty]
        rfl
      · rw [adminTokens_setToken _ _ hempty, Dict.get?_set_ne _ _ hne]
        rfl
  | ready runId agentId aid =>
    cases hthreads
    refine .rest rfl (fun k' => livePort_signalReady ..) rfl fun k' port hlive => ?_
    show (s.threads.sup.signalReady runId agentId aid).adminTokens.get? port = _
    rw [adminTokens_signalReady]
    rfl
  | release port =>
    simp only [killStep] at hthreads
    split at hthreads
    case isFalse => cases hthreads
    case isTrue =>
      cases hthreads
      exact .rest rfl (fun _ => rfl) rfl fun _ _ _ => rfl
  | killStart thread runId =>
    simp only [killStep] at hthreads
    split at hthreads
    case isFalse => cases hthreads
    case isTrue =>
      cases hthreads
      exact .rest rfl (fun _ => rfl) rfl fun _ _ _ => rfl
  | killNext thread =>
    simp only [killStep] at hthreads
    split at hthreads
    case h_1 => cases hthreads
    case h_2 hloop =>
      cases hthreads
      refine .rest ?_ (fun _ => rfl) rfl fun _ _ _ => rfl
      unfold killsLate
      simp only [hloop]
    case h_3 runId k rest hloop =>
      cases hthreads
      obtain ⟨hrun, hkeys⟩ := h.loops thread runId _ hloop
      obtain ⟨agentId, hk⟩ := hkeys k (List.mem_cons_self ..)
      have hkill : AgentSupervisor.key runId (AgentSupervisor.agentOf k) = k := by
        rw [hk, agentOf_key hrun]
      refine .kill k (killsLate_iff hloop) (fun k' => ?_) rfl fun port => ?_
      · rw [livePort_kill, hkill]
      · show (s.threads.sup.kill runId (AgentSupervisor.agentOf k)).adminTokens.get? port = _
        rw [adminTokens_kill, hkill]
        rfl

/-! ### The invariant -/

/-- The token in the table for the port of an agent is the one of its bootstrap. -/
structure ChannelInv (s : AdminSystem) : Prop where
  sup : KillInv s.threads
  own : ∀ k port token t, s.Listens k port token → s.tokens.get? port = some t → t = token

/-- The invariant holds at the start. -/
theorem channelInv_new : ChannelInv .new where
  sup := killInv_new
  own k port token t h := by
    obtain ⟨-, hbootstrap, -⟩ := h
    cases hbootstrap

/-- The agents after a launch. -/
theorem listens_launch {s s' : AdminSystem} {k : String} {port : Int} {token : String}
    (live : ∀ k', s'.threads.sup.livePort k' =
      if k' = k then some port else s.threads.sup.livePort k')
    (bootstraps : ∀ k', s'.bootstraps.get? k' =
      if k' = k then some token else s.bootstraps.get? k')
    {k' : String} {port' : Int} {token' : String} (h : s'.Listens k' port' token') :
    (port' = port ∧ token' = token ∧ token ≠ "") ∨ s.Listens k' port' token' := by
  obtain ⟨hlive, hbootstrap, hne⟩ := h
  rw [live] at hlive
  rw [bootstraps] at hbootstrap
  by_cases hk : k' = k
  · rw [if_pos hk] at hlive hbootstrap
    cases hlive
    cases hbootstrap
    exact .inl ⟨rfl, rfl, hne⟩
  · rw [if_neg hk] at hlive hbootstrap
    exact .inr ⟨hlive, hbootstrap, hne⟩

/-- The agents after a kill are the others. -/
theorem listens_kill {s s' : AdminSystem} {k : String}
    (live : ∀ k', s'.threads.sup.livePort k' =
      if k' = k then none else s.threads.sup.livePort k')
    (bootstraps : s'.bootstraps = s.bootstraps) {k' : String} {port : Int} {token : String} :
    s'.Listens k' port token ↔ k' ≠ k ∧ s.Listens k' port token := by
  unfold AdminSystem.Listens
  rw [live, bootstraps]
  by_cases hk : k' = k
  · rw [if_pos hk]
    simp [hk]
  · rw [if_neg hk]
    simp [hk]

/-- A step keeps it. -/
theorem channelInv_step {s s' : AdminSystem} {l : KillLabel} (h : ChannelInv s)
    (hs : adminSystemStep s l = some s') : ChannelInv s' := by
  constructor
  · obtain ⟨threads, hthreads, rfl⟩ := Option.map_eq_some_iff.mp hs
    exact killInv_step h.sup hthreads
  · intro k' port' token' t hlistens ht
    cases channelMove_step h.sup hs with
    | launch k port token _ free live bootstraps registered others =>
      rcases listens_launch live bootstraps hlistens with ⟨rfl, rfl, hne⟩ | hbefore
      · rw [registered hne] at ht
        exact (Option.some.inj ht).symm
      · have hport : port' ≠ port := fun heq => free k' (heq ▸ hbefore.1)
        rw [others port' hport] at ht
        exact h.own k' port' token' t hbefore ht
    | kill k _ live bootstraps tokens =>
      have hbefore := ((listens_kill live bootstraps).mp hlistens).2
      rw [tokens] at ht
      split at ht
      · cases ht
      · exact h.own k' port' token' t hbefore ht
    | rest _ live bootstraps tokens =>
      have hbefore : s.Listens k' port' token' := by
        unfold AdminSystem.Listens at hlistens
        rw [live, bootstraps] at hlistens
        exact hlistens
      rw [tokens k' port' hbefore.1] at ht
      exact h.own k' port' token' t hbefore ht

/-- The invariant holds in every run. -/
theorem channelInv_reach {ok : AdminSystem → KillLabel → Prop} {s : AdminSystem}
    (h : Reach adminSystemStep ok .new s) : ChannelInv s :=
  h.invariant (fun _ _ _ hinv _ hs => channelInv_step hinv hs) channelInv_new

/-! ### What a token reaches -/

/-- In every run in which each launch is on a port that is not taken, and for every request of a
client: the request goes out as it is, or it goes to an admin route on the loopback with a token,
and if an agent listens on the port, the token is the one that it compares. -/
theorem admin_token_stays_home {s : AdminSystem} (h : Reach adminSystemStep anyStep .new s)
    (r : ClientRequest) :
    authFlow s.tokens r = r ∨
      ∃ port t, r.toAdmin = true ∧ r.port = some port ∧ s.tokens.get? port = some t ∧
        authFlow s.tokens r =
          { r with headers := setHeader adminTokenHeader (utf8 t) r.headers } ∧
        ∀ k token, s.Listens k port token → t = token := by
  have hinv := channelInv_reach h
  by_cases hadmin : r.toAdmin = true
  · cases hport : r.port with
    | none =>
      left
      unfold authFlow
      rw [if_pos hadmin, hport]
      rfl
    | some port =>
      cases ht : s.tokens.get? port with
      | none => exact .inl (authFlow_of_none hport ht)
      | some t =>
        by_cases hne : t = ""
        · left
          unfold authFlow
          rw [if_pos hadmin, hport, Option.bind_some, ht]
          exact if_pos hne
        · refine .inr ⟨port, t, hadmin, rfl, ht, ?_, fun k token hlistens =>
            hinv.own k port token t hlistens ht⟩
          rw [authFlow_of_token hadmin hport ht hne, hport]
  · left
    unfold authFlow
    rw [if_neg hadmin]

/-- A request to the second of two agents. -/
theorem admin_token_stays_home_two_agents :
    ∃ s, Reach adminSystemStep anyStep .new s ∧ s.Listens "r2:b" 8101 "t2" ∧
      ∃ t, authFlow s.tokens ⟨"localhost", some 8101, "/admin/invoke", []⟩ =
          ⟨"localhost", some 8101, "/admin/invoke", [(adminTokenHeader, utf8 t)]⟩ ∧
        t = "t2" := by
  have heval : ((exec adminSystemStep anyStep .new
      [.launch "r1" "a" 8100 "t1" "http://localhost:8100" 1,
        .launch "r2" "b" 8101 "t2" "http://localhost:8101" 2]).map fun s =>
        (s.threads.sup.livePort "r2:b", s.bootstraps.get? "r2:b", s.tokens.get? 8101)) =
      some (some 8101, some "t2", some "t2") := by decide +kernel
  obtain ⟨s, hrun, hreads⟩ := exists_reach_of_exec heval
  simp only [Prod.mk.injEq] at hreads
  obtain ⟨hlive, hbootstrap, htoken⟩ := hreads
  have hlistens : s.Listens "r2:b" 8101 "t2" := ⟨hlive, hbootstrap, by decide⟩
  refine ⟨s, hrun, hlistens, ?_⟩
  rcases admin_token_stays_home hrun ⟨"localhost", some 8101, "/admin/invoke", []⟩ with
    hsame | ⟨port, t, -, hport, -, hsent, hown⟩
  · rw [authFlow_of_token (by decide) rfl htoken (by decide)] at hsame
    exact absurd (congrArg ClientRequest.headers hsame) (List.cons_ne_nil _ _)
  · cases hport
    exact ⟨t, hsent, hown _ _ hlistens⟩

/-! ### What gets through -/

/-- The table has the token of every agent. -/
def TokensKept (s : AdminSystem) : Prop :=
  ∀ k port token, s.Listens k port token → s.tokens.get? port = some token

/-- The channel is open when every agent's token is kept. -/
theorem open_of_kept {s : AdminSystem} (h : TokensKept s) : s.Open := by
  intro k port token hlistens r hadmin hport
  rw [authFlow_of_token hadmin hport (h k port token hlistens) hlistens.2.2]
  exact passes_of_token hlistens.2.2 (lookup_setHeader ..)

/-- A step that is no late kill keeps the tokens. -/
theorem tokensKept_step {s s' : AdminSystem} {l : KillLabel} (hinv : KillInv s.threads)
    (h : TokensKept s) (hs : adminSystemStep s l = some s') (hlate : killsLate s l = false) :
    TokensKept s' := by
  intro k' port' token' hlistens
  cases channelMove_step hinv hs with
  | launch k port token _ free live bootstraps registered others =>
    rcases listens_launch live bootstraps hlistens with ⟨rfl, rfl, hne⟩ | hbefore
    · exact registered hne
    · have hport : port' ≠ port := fun heq => free k' (heq ▸ hbefore.1)
      rw [others port' hport]
      exact h k' port' token' hbefore
  | kill k late live bootstraps tokens =>
    obtain ⟨hne, hbefore⟩ := (listens_kill live bootstraps).mp hlistens
    have hrecord : recordPort s k ≠ some port' := by
      intro hrecord
      rw [late.mpr ⟨k', port', token', hne, hrecord, hbefore⟩] at hlate
      cases hlate
    rw [tokens, if_neg hrecord]
    exact h k' port' token' hbefore
  | rest _ live bootstraps tokens =>
    have hbefore : s.Listens k' port' token' := by
      unfold AdminSystem.Listens at hlistens
      rw [live, bootstraps] at hlistens
      exact hlistens
    rw [tokens k' port' hbefore.1]
    exact h k' port' token' hbefore

/-- In a run without a late kill it is. -/
theorem tokensKept_reach {s : AdminSystem}
    (h : Reach adminSystemStep (fun s l => killsLate s l = false) .new s) : TokensKept s := by
  have hboth : ChannelInv s ∧ TokensKept s := by
    refine h.invariant (P := fun s => ChannelInv s ∧ TokensKept s) ?_ ⟨channelInv_new, ?_⟩
    · intro s l s' hs hlate hstep
      exact ⟨channelInv_step hs.1 hstep, tokensKept_step hs.1.sup hs.2 hstep hlate⟩
    · intro k port token hlistens
      obtain ⟨-, hbootstrap, -⟩ := hlistens
      cases hbootstrap
  exact hboth.2

/-- A request to the trust store of an agent. -/
def trustRequest (port : Int) : ClientRequest :=
  ⟨"localhost", some port, "/admin/trust-peers", []⟩

/-- The request goes to an admin route. -/
theorem toAdmin_trustRequest (port : Int) : (trustRequest port).toAdmin = true := by
  show (["localhost", "127.0.0.1"].contains "localhost" && ("/admin/trust-peers" == "/admin" ||
    "/admin/".toList.isPrefixOf "/admin/trust-peers".toList)) = true
  decide

/-- As it is, no agent takes it. -/
theorem refused_trustRequest (m : AdminAuthMiddleware) (port : Int) :
    m.passes (trustRequest port).scope = false := by
  have hguarded : guarded "/admin/trust-peers" = true := by decide
  show ("http" != "http" || !guarded "/admin/trust-peers" ||
    m.authorized (trustRequest port).scope) = false
  rw [hguarded]
  unfold AdminAuthMiddleware.authorized
  cases m.token <;> rfl

/-- After a late kill a request to the other agent is refused. -/
theorem not_open_of_late {s s' : AdminSystem} {l : KillLabel} (hinv : KillInv s.threads)
    (hs : adminSystemStep s l = some s') (hlate : killsLate s l = true) : ¬ s'.Open := by
  intro hopen
  cases channelMove_step hinv hs with
  | launch _ _ _ late | rest late =>
    rw [late] at hlate
    cases hlate
  | kill k late live bootstraps tokens =>
    obtain ⟨k', port, token, hne, hrecord, hlistens⟩ := late.mp hlate
    have hafter := (listens_kill live bootstraps).mpr ⟨hne, hlistens⟩
    have hnone : s'.tokens.get? port = none := by rw [tokens, if_pos hrecord]
    have hpasses := hopen k' port token hafter (trustRequest port) (toAdmin_trustRequest port) rfl
    rw [authFlow_of_none rfl hnone, refused_trustRequest] at hpasses
    cases hpasses

/-- In every run without a late kill in which each launch is on a port that is not taken, and after
every further step: each admin request of the playground to a live agent gets past the guard if
and only if the step was no late kill. -/
theorem admin_channel_open_iff {s s' : AdminSystem} {l : KillLabel}
    (h : Reach adminSystemStep (fun s l => killsLate s l = false) .new s)
    (hs : adminSystemStep s l = some s') : s'.Open ↔ killsLate s l = false := by
  have hinv := (channelInv_reach h).sup
  constructor
  · intro hopen
    cases hlate : killsLate s l with
    | false => rfl
    | true => exact absurd hopen (not_open_of_late hinv hs hlate)
  · intro hlate
    exact open_of_kept (tokensKept_step hinv (tokensKept_reach h) hs hlate)

/-- The agent of one run is killed and that of another can be reached. When the kill comes after
the port was launched on again, it cannot. -/
theorem admin_channel_open_iff_first_and_late :
    (∃ s s', Reach adminSystemStep (fun s l => killsLate s l = false) .new s ∧
      adminSystemStep s (.killNext 0) = some s' ∧ s.Listens "r2:b" 8101 "t2" ∧ s'.Open) ∧
    ∃ s s', Reach adminSystemStep (fun s l => killsLate s l = false) .new s ∧
      adminSystemStep s (.killNext 0) = some s' ∧ s.Listens "r2:b" 8100 "t2" ∧ ¬ s'.Open := by
  have hrun (labels : List KillLabel) (port : Int) (late : Bool)
      (heval : ((exec adminSystemStep (fun s l => killsLate s l = false) .new labels).map fun s =>
        (s.threads.sup.livePort "r2:b", s.bootstraps.get? "r2:b", killsLate s (.killNext 0),
          (adminSystemStep s (.killNext 0)).isSome)) =
        some (some port, some "t2", late, true)) :
      ∃ s s', Reach adminSystemStep (fun s l => killsLate s l = false) .new s ∧
        adminSystemStep s (.killNext 0) = some s' ∧ s.Listens "r2:b" port "t2" ∧
          killsLate s (.killNext 0) = late := by
    obtain ⟨s, hreach, hreads⟩ := exists_reach_of_exec heval
    simp only [Prod.mk.injEq] at hreads
    obtain ⟨hlive, hbootstrap, hlate, hstep⟩ := hreads
    obtain ⟨s', hs⟩ := Option.isSome_iff_exists.mp hstep
    exact ⟨s, s', hreach, hs, ⟨hlive, hbootstrap, by decide⟩, hlate⟩
  constructor
  · obtain ⟨s, s', hreach, hs, hlistens, hlate⟩ := hrun
      [.launch "r1" "a" 8100 "t1" "http://localhost:8100" 1,
        .launch "r2" "b" 8101 "t2" "http://localhost:8101" 2, .killStart 0 "r1"]
      8101 false (by decide +kernel)
    exact ⟨s, s', hreach, hs, hlistens, (admin_channel_open_iff hreach hs).mpr hlate⟩
  · obtain ⟨s, s', hreach, hs, hlistens, hlate⟩ := hrun
      [.launch "r1" "a" 8100 "t1" "http://localhost:8100" 1, .killStart 0 "r1",
        .killStart 1 "r1", .killNext 1, .release 8100,
        .launch "r2" "b" 8100 "t2" "http://localhost:8100" 2]
      8100 true (by decide +kernel)
    refine ⟨s, s', hreach, hs, hlistens, fun hopen => ?_⟩
    rw [(admin_channel_open_iff hreach hs).mp hopen] at hlate
    cases hlate

end AitpPlayground.Proofs.Hosting
