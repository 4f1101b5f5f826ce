import AitpPlayground.Proofs.Runner.Steps

/-!
# `AitpPlayground.Proofs.Runner.TrustStores`: whom the agents of a run trust

`_push_trusted_peers` replaces the trust store of each agent, one after the other, by the AIDs
of the others in the table `running`. `trustStores_push` says that a push that returns
establishes `TrustStores` from any state. Every step but `rotate_keys` leaves the table and the
stores alone (`Still`), and `rotate_keys` pushes again. So `TrustStores` holds at the start of
every step of a run.

Nothing is assumed of the state the run starts in, or of what the agents and the peers answer.
-/

set_option autoImplicit false

namespace AitpPlayground.Proofs.Runner

open AitpPlayground.Lib
open AitpPlayground.Lib.Act
open AitpPlayground.Agents
open AitpPlayground.Hosting
open AitpPlayground.Registry
open AitpPlayground.Runner
open AitpPlayground.Proofs.Agents

variable {setting : RunSetting} {s s' : Workflow}

/-- Each agent of the table trusts the AIDs of the others, without empty ones, and no other. -/
def TrustStores (s : Workflow) : Prop :=
  ∀ agentId ra, s.running.get? agentId = some ra →
    ∃ p, s.processes.get? agentId = some p ∧ ∀ aid, aid ∈ p.trustedPeerAids ↔
      aid ≠ "" ∧ ∃ other ra', other ≠ agentId ∧ s.running.get? other = some ra' ∧ ra'.aid = aid

/-! ### What a push asks for -/

/-- The other AIDs are those of the other running agents that have one. -/
theorem mem_otherAids {running : Dict String RunningAgent} {agentId aid : String} :
    aid ∈ otherAids running agentId ↔
      aid ≠ "" ∧ ∃ other ra, other ≠ agentId ∧ running.get? other = some ra ∧ ra.aid = aid := by
  unfold otherAids
  rw [List.mem_mergeSort, List.mem_map]
  constructor
  · rintro ⟨⟨other, ra⟩, hmem, rfl⟩
    obtain ⟨hmem, hkeep⟩ := List.mem_filter.mp hmem
    obtain ⟨hne, hempty⟩ := of_decide_eq_true hkeep
    exact ⟨hempty, other, ra, hne, (Dict.get?_eq_some_iff _ _ _).mpr hmem, rfl⟩
  · rintro ⟨hempty, other, ra, hne, hget, rfl⟩
    refine ⟨(other, ra), List.mem_filter.mpr ⟨?_, decide_eq_true ⟨hne, hempty⟩⟩, rfl⟩
    exact (Dict.get?_eq_some_iff _ _ _).mp hget

/-- A list of AIDs that are not empty is accepted as it is. -/
theorem aidList_textList {aids : List String} (h : ∀ aid ∈ aids, aid ≠ "") :
    aidList (textList aids) = some aids := by
  unfold aidList textList
  induction aids with
  | nil => rfl
  | cons aid aids ih =>
    have hne : aid ≠ "" := h aid (List.mem_cons_self ..)
    have hrest := ih fun other hother => h other (List.mem_cons_of_mem _ hother)
    simp only [List.map_cons, List.mapM_cons, if_neg hne] at hrest ⊢
    rw [hrest]
    rfl

/-- The push to one agent: the SDK judges the AIDs, and then they replace the store. -/
theorem trustPeers_trustBody (sdk : AdminSdk) (running : Dict String RunningAgent)
    (agentId : String) (salt : Nat) (p : AgentProcess) :
    trustPeers sdk (trustBody running agentId) salt p =
      match sdk.newResponder p.serverAid
        ((otherAids running agentId).toFinset.sort (· ≤ ·)) salt with
      | .ok _ => .ok (trustReply (otherAids running agentId).toFinset)
        { p with trustedPeerAids := (otherAids running agentId).toFinset }
      | .error exc => .error (trustRefusal exc) p := by
  have hnodup : ([("aids", textList (otherAids running agentId)), ("replace", .bool true)].map
      Prod.fst).Nodup := by simp
  -- The two members of the body, as the route reads them.
  have haids : (trustBody running agentId).member "aids" =
      .ok (textList (otherAids running agentId)) := by
    simp only [Json.member, trustBody, Json.dict?, Dict.get?_ofList hnodup]
    rfl
  have hreplace : (trustBody running agentId).member "replace" = .ok (.bool true) := by
    simp only [Json.member, trustBody, Json.dict?, Dict.get?_ofList hnodup]
    rfl
  have hlist : aidList (textList (otherAids running agentId)) =
      some (otherAids running agentId) :=
    aidList_textList fun aid haid => (mem_otherAids.mp haid).1
  unfold trustPeers Route.lift
  simp only [haids, hreplace, ofExcept_ok_bind, hlist]
  show (Act.ofExcept trustRefusal (sdk.newResponder p.serverAid _ salt) >>= _ : Route Json) p = _
  simp only [trustCandidate, Json.truthy, if_true]
  cases sdk.newResponder p.serverAid ((otherAids running agentId).toFinset.sort (· ≤ ·)) salt with
  | ok _ => rfl
  | error exc => rfl

/-- An SDK that refuses the store is no success. -/
theorem isSuccess_trustRefusal (exc : PyErr) (p : AgentProcess) :
    (Reply.ofRoute (.error (trustRefusal exc) p)).isSuccess = false := by
  unfold trustRefusal
  split <;> rfl

/-- The process after a push for this table. -/
def trusting (running : Dict String RunningAgent) (agentId : String) (p : AgentProcess) :
    AgentProcess :=
  { p with trustedPeerAids := (otherAids running agentId).toFinset }

/-- A push to one agent that was a success. -/
theorem pushed_agent {running : Dict String RunningAgent} {agentId : String} {link : Link}
    {salt : Nat} {r : Reply}
    (h : callAgent setting agentId link (.trustPeers (trustBody running agentId) salt) s =
      .ok r s') (hr : r.isSuccess = true) :
    ∃ p, s.processes.get? agentId = some p ∧
      s' = { s with processes := s.processes.set agentId (trusting running agentId p) } := by
  obtain ⟨p, hp, hreply, hs'⟩ := callAgent_eq_ok h
  refine ⟨p, hp, ?_⟩
  have hroute := trustPeers_trustBody setting.sdk running agentId salt p
  -- A success means that the SDK took the AIDs.
  cases hsdk : setting.sdk.newResponder p.serverAid
      ((otherAids running agentId).toFinset.sort (· ≤ ·)) salt with
  | ok _ =>
    rw [hsdk] at hroute
    rw [hs']
    exact congrArg (fun q => { s with processes := s.processes.set agentId q })
      (after_of_ok hroute)
  | error exc =>
    rw [hsdk] at hroute
    rw [hreply] at hr
    change (Reply.ofRoute (trustPeers setting.sdk _ salt p)).isSuccess = true at hr
    rw [hroute, isSuccess_trustRefusal] at hr
    cases hr

/-! ### The loop -/

/-- The store of this agent is that of a push for this table. -/
def TrustsOthers (running : Dict String RunningAgent) (agentId : String) (s : Workflow) : Prop :=
  ∃ p, s.processes.get? agentId = some p ∧
    p.trustedPeerAids = (otherAids running agentId).toFinset

/-- A push to one agent sets the store of this agent, and keeps what the others have. -/
theorem trustsOthers_set {running : Dict String RunningAgent} {agentId other : String}
    (p : AgentProcess) (h : other = agentId ∨ TrustsOthers running other s) :
    TrustsOthers running other
      { s with processes := s.processes.set agentId (trusting running agentId p) } := by
  by_cases heq : agentId = other
  · subst heq
    exact ⟨_, Dict.get?_set_self _ _ _, rfl⟩
  · obtain ⟨q, hq, htrust⟩ := h.resolve_left (Ne.symm heq)
    exact ⟨q, (Dict.get?_set_ne _ _ heq).trans hq, htrust⟩

/-- The loop sets the stores of its agents, and keeps those that are set. -/
theorem trustsOthers_pushTo {links : Nat → Link} {salt : Nat}
    {running : Dict String RunningAgent} {agents : List (String × Nat)}
    (h : pushTo setting links salt running agents s = .ok () s') :
    s'.running = s.running ∧ ∀ other,
      other ∈ agents.map Prod.fst ∨ TrustsOthers running other s →
        TrustsOthers running other s' := by
  induction agents generalizing s with
  | nil =>
    obtain rfl := (pure_eq_ok.mp h).2
    refine ⟨rfl, fun other hother => hother.resolve_left ?_⟩
    exact List.not_mem_nil
  | cons agent rest ih =>
    obtain ⟨agentId, n⟩ := agent
    obtain ⟨r, s₁, hcall, h⟩ := bind_eq_ok.mp h
    obtain ⟨u, s₂, hraise, hrest⟩ := bind_eq_ok.mp h
    obtain ⟨hr, rfl⟩ := raiseForStatus_eq_ok hraise
    obtain ⟨p, -, rfl⟩ := pushed_agent hcall hr
    obtain ⟨hrunning, hset⟩ := ih hrest
    refine ⟨hrunning, fun other hother => hset other ?_⟩
    rw [List.map_cons, List.mem_cons, or_assoc] at hother
    -- This agent is set now, a later one by the rest of the loop, an earlier one stays.
    rcases hother with rfl | hlater | hbefore
    · exact .inr (trustsOthers_set p (.inl rfl))
    · exact .inl hlater
    · exact .inr (trustsOthers_set p (.inr hbefore))

/-- A push that returns sets the stores, from any state. -/
theorem trustStores_push {links : Nat → Link} {salt : Nat}
    (h : pushTrustedPeers setting links salt s = .ok () s') : TrustStores s' := by
  obtain ⟨t, s₁, hget, h⟩ := bind_eq_ok.mp h
  obtain ⟨rfl, rfl⟩ := get_eq_ok.mp hget
  obtain ⟨u, s₂, hloop, hemit⟩ := bind_eq_ok.mp h
  obtain rfl := emit_eq_ok hemit
  obtain ⟨hrunning, hset⟩ := trustsOthers_pushTo hloop
  intro agentId ra hra
  -- Every agent of the table is in the loop.
  have hkey : agentId ∈ s.running.keys.zipIdx.map Prod.fst := by
    rw [List.zipIdx_map_fst, Dict.mem_keys_iff]
    show (s.running.get? agentId).isSome
    rw [← hrunning]
    exact Option.isSome_of_eq_some hra
  obtain ⟨p, hp, htrust⟩ := hset agentId (.inl hkey)
  refine ⟨p, hp, fun aid => ?_⟩
  rw [htrust, List.mem_toFinset, mem_otherAids]
  show _ ↔ aid ≠ "" ∧ ∃ other ra', other ≠ agentId ∧ s₂.running.get? other = some ra' ∧ _
  rw [hrunning]

/-! ### Steps -/

/-- The table and the trust stores stay. -/
structure Still (s s' : Workflow) : Prop where
  running : s'.running = s.running
  trusted : ∀ agentId, (s'.processes.get? agentId).map AgentProcess.trustedPeerAids =
    (s.processes.get? agentId).map AgentProcess.trustedPeerAids

instance : Std.Refl Still := ⟨fun _ => ⟨rfl, fun _ => rfl⟩⟩

instance : IsTrans Workflow Still :=
  ⟨fun _ _ _ h h' => ⟨h'.running.trans h.running, fun id => (h'.trusted id).trans (h.trusted id)⟩⟩

/-- What holds no token leaves the trust store. -/
theorem trusted_quietly {p p' : AgentProcess} (h : Quietly p p') :
    p'.trustedPeerAids = p.trustedPeerAids := by
  induction h with
  | refl => rfl
  | tail _ hmove ih => cases hmove <;> exact ih

/-- Every request but the one that pins leaves the trust store. -/
theorem trusted_administered {p p' : AgentProcess} {c : AdminCall} (h : Administered p c p')
    (hc : ∀ body salt, c ≠ .trustPeers body salt) : p'.trustedPeerAids = p.trustedPeerAids := by
  cases h with
  | trusted body salt aids => exact absurd rfl (hc body salt)
  | revoked body jti => rfl
  | rotated newAid manifest snapshot => rfl
  | minted manifest => rfl

/-- Only a `trust_peers` request changes the trust store. -/
theorem trusted_served {c : AdminCall} (hc : ∀ body salt, c ≠ .trustPeers body salt)
    (p : AgentProcess) : (served setting c p).trustedPeerAids = p.trustedPeerAids := by
  rcases adminStep_cases setting.sdk setting.py (c := c) rfl with hout | ⟨-, hadm⟩
  · cases hr : receipt setting.sdk setting.py p c with
    | none =>
      rw [hr] at hout
      exact trusted_quietly hout
    | some r =>
      rw [hr] at hout
      obtain ⟨q, hq, hstored⟩ := hout
      exact (congrArg AgentProcess.trustedPeerAids hstored.rest).symm.trans (trusted_quietly hq)
  · exact trusted_administered hadm hc

/-- An agent with the same trust store is still. -/
theorem still_set {agentId : String} {p p' : AgentProcess}
    (hp : s.processes.get? agentId = some p) (h : p'.trustedPeerAids = p.trustedPeerAids) :
    Still s { s with processes := s.processes.set agentId p' } := by
  refine ⟨rfl, fun id => ?_⟩
  show ((s.processes.set agentId p').get? id).map _ = _
  rw [Dict.get?_set]
  split
  case isTrue heq =>
    rw [← heq, hp]
    exact congrArg some h
  case isFalse => rfl

/-- All moves but a push leave the table and the stores alone. -/
theorem tokenRules_still (setting : RunSetting) (stepId : String) :
    TokenRules setting stepId Still where
  emit _ _ _ := ⟨rfl, fun _ => rfl⟩
  output _ _ := ⟨rfl, fun _ => rfl⟩
  webhook _ _ _ := ⟨rfl, fun _ => rfl⟩
  call _ _ p c hc hp := still_set hp (trusted_served (by rintro body salt rfl; cases hc) p)
  refresh _ _ _ _ hp := still_set hp rfl
  established _ _ := ⟨rfl, fun _ => rfl⟩
  tokens _ _ p _ hc hp := still_set hp (trusted_served hc p)
  note _ _ := ⟨rfl, fun _ => rfl⟩

/-- What is still keeps the trust stores exact. -/
theorem trustStores_still (h : Still s s') (hs : TrustStores s) : TrustStores s' := by
  intro agentId ra hra
  rw [h.running] at hra
  obtain ⟨p, hp, htrust⟩ := hs agentId ra hra
  have hmap := h.trusted agentId
  rw [hp, Option.map_some, Option.map_eq_some_iff] at hmap
  obtain ⟨p', hp', heq⟩ := hmap
  refine ⟨p', hp', fun aid => ?_⟩
  rw [heq, htrust, h.running]

/-- A rotation that returns has pushed the stores again. -/
theorem trustStores_rotate {step : WorkflowStep} {world : StepWorld}
    (h : dispatchRotateKeys setting step world s = .ok () s') : TrustStores s' := by
  have hR := (tokenRules_still setting step.id).toStepRules
  unfold dispatchRotateKeys at h
  cases hagent : given step.agent with
  | none =>
    rw [hagent] at h
    cases h
  | some agent =>
    rw [hagent] at h
    obtain ⟨ra, s₁, -, h⟩ := bind_eq_ok.mp h
    obtain ⟨data, s₂, -, h⟩ := bind_eq_ok.mp h
    obtain ⟨newAid, s₃, -, h⟩ := bind_eq_ok.mp h
    obtain ⟨u, s₄, -, h⟩ := bind_eq_ok.mp h
    obtain ⟨u, s₅, hpush, hrecord⟩ := bind_eq_ok.mp h
    refine trustStores_still (Within.of_ok ?_ hrecord) (trustStores_push hpush)
    refine within_bind (within_output hR _) fun _ => ?_
    exact within_bind (within_emit hR _ _ (by decide)) fun _ => within_stepComplete hR _

/-- An eager handshake or a step leaves the table and the stores alone, or it is a rotation. -/
theorem workStep_still_or_rotates {l : WorkLabel} (h : workStep setting s l = some s') :
    Still s s' ∨ ∃ step world, dispatchRotateKeys setting step world s = .ok () s' := by
  rw [workStep_eq_some] at h
  cases l with
  | eager a b world =>
    exact .inl ((within_eagerHandshake (tokenRules_still setting "") a b world).of_ok h)
  | step step world =>
    by_cases hrotate : inferType step = some .rotateKeys ∧ step.fault = none
    · have hcode : dispatchStep setting step world = dispatchRotateKeys setting step world := by
        unfold dispatchStep
        rw [hrotate.1, hrotate.2]
        rfl
      exact .inr ⟨step, world, (congrFun hcode s).symm.trans h⟩
    · refine .inl ((within_tokenStep (tokenRules_still setting step.id) world ?_).of_ok h)
      intro htype
      cases hfault : step.fault with
      | none => exact absurd ⟨htype, hfault⟩ hrotate
      | some fault => rfl

/-- One eager handshake or step. -/
theorem trustStores_workStep {l : WorkLabel} (hs : TrustStores s)
    (h : workStep setting s l = some s') : TrustStores s' := by
  rcases workStep_still_or_rotates h with hstill | ⟨step, world, hrotate⟩
  · exact trustStores_still hstill hs
  · exact trustStores_rotate hrotate

/-- At the start of every step of every run each agent trusts exactly the others, and so no
AID that is not in the table any more. A `trust_peers` request that is refused leaves the
process as it was. -/
theorem trust_stores_exact (setting : RunSetting) (worlds : RunWorld) (n : Nat)
    {s₀ s : Workflow} (hrun : runUpTo setting worlds n s₀ = .ok () s) :
    TrustStores s ∧
      (∀ aid, (∀ other ra, s.running.get? other = some ra → ra.aid ≠ aid) →
        ∀ agentId ra p, s.running.get? agentId = some ra → s.processes.get? agentId = some p →
          aid ∉ p.trustedPeerAids) ∧
      ∀ sdk body salt p e p', trustPeers sdk body salt p = .error e p' → p' = p := by
  have hstores : TrustStores s := by
    obtain ⟨s₁, fields, hpush, hreach⟩ := reach_runUpTo hrun
    exact hreach.invariant (fun _ _ _ hs _ hstep => trustStores_workStep hs hstep)
      (trustStores_still (s := s₁) ⟨rfl, fun _ => rfl⟩ (trustStores_push hpush))
  refine ⟨hstores, ?_, ?_⟩
  · intro aid hgone agentId ra p hra hp hmem
    -- An AID in the store is that of a running agent.
    obtain ⟨q, hq, htrust⟩ := hstores agentId ra hra
    rw [hp, Option.some.injEq] at hq
    obtain ⟨-, other, ra', -, hother, haid⟩ := (htrust aid).mp (hq ▸ hmem)
    exact hgone other ra' hother haid
  · intro sdk body salt p e p' hrefused
    rcases trustPeers_cases sdk body salt p with ⟨e', h⟩ | ⟨reply, aids, replace, -, -, -, h⟩
    · rw [h] at hrefused
      cases hrefused
      rfl
    · rw [h] at hrefused
      cases hrefused

/-- An agent of a run. -/
def agentAt (agentId : String) (port : Int) : RunningAgent where
  runId := "run"
  agentId := agentId
  port := port
  aid := "aid:" ++ agentId
  manifestUrl := "https://localhost:" ++ toString port ++ "/.well-known/aitp-manifest"
  status := .ready

/-- Two agents that were just launched. -/
def launchedPair : Workflow where
  running := .ofList [("a", agentAt "a" 9001), ("b", agentAt "b" 9002)]
  processes := .ofList
    [("a", .start "aid:a" "manifest of a" false true),
     ("b", .start "aid:b" "manifest of b" false true)]
  events := []
  outputs := .empty
  cpWebhook := .null
  webhookIds := []
  ops := []

/-- A run of these agents, without eager handshakes. -/
def pairSetting (py : PyLib) (steps : List WorkflowStep) : RunSetting where
  sdk := .accepting
  py := py
  scenario :=
    { metadata := { pack := "p", scenario := "s", version := "1", name := "n", summary := none }
      spec :=
        { schema := .empty
          agents := [{ id := "a", ref := "a@1" }, { id := "b", ref := "b@1" }]
          trust := { boundary := .intraOrg, eager := false }
          steps := steps } }
  peers := .ofList
    [("a", some "https://localhost:9001/.well-known/aitp-manifest"),
     ("b", some "https://localhost:9002/.well-known/aitp-manifest")]
  manifests := .empty
  inputs := .empty
  cpEnabled := false
  playgroundBaseUrl := "http://localhost:8000"
  runId := "run"

/-- A world in which nobody but the agents of the run answers. -/
def silentWorld : StepWorld where
  link _ := .good
  salt := 0
  handshake := { manifest := .error "", hello := .error "", commit := .error "" }
  manifest := .error ""
  manifests _ := .error ""
  issuer := .error ""
  first := .error ""
  second := .error ""
  newAid := "aid:a2"
  minted := .ok "new manifest of a"
  snapshot := none
  sessionId := "session"
  direct _ := .error ""
  refreshed _ := none
  cp := { published := false, webhook := none, pinnedKey := .null, trustAnchor := .null
          pinnedKeys := [], trustAnchors := [], delegations := [] }
  spki := .error (.other "Error" "")

/-- `a` replaces its key. -/
def rotationOfA : WorkflowStep := { id := "rotate", type := some .rotateKeys, agent := some "a" }

/-- The state of a run at the start of a step, if it gets there. -/
def runUpTo? (setting : RunSetting) (worlds : RunWorld) (n : Nat) (s : Workflow) :
    Option Workflow :=
  match runUpTo setting worlds n s with
  | .ok _ s' => some s'
  | .error _ _ => none

/-- A run that is evaluated is the run. -/
theorem runUpTo_of_eval {worlds : RunWorld} {n : Nat}
    (h : runUpTo? setting worlds n s = some s') : runUpTo setting worlds n s = .ok () s' := by
  unfold runUpTo? at h
  split at h
  case h_1 u s₁ hrun =>
    cases h
    exact hrun
  case h_2 => cases h

/-- After `a` has replaced its key, `b` trusts the new AID and not the old one. -/
theorem trust_store_after_rotation :
    ∃ s, runUpTo (pairSetting .refusing [rotationOfA])
        ⟨fun _ => .good, 0, fun _ => silentWorld, fun _ => silentWorld⟩ 1 launchedPair = .ok () s ∧
      ∃ p, s.processes.get? "b" = some p ∧ "aid:a2" ∈ p.trustedPeerAids ∧
        "aid:a" ∉ p.trustedPeerAids := by
  have heval : (runUpTo? (pairSetting .refusing [rotationOfA])
      ⟨fun _ => .good, 0, fun _ => silentWorld, fun _ => silentWorld⟩ 1 launchedPair).map
        (fun s => s.running.entries.map fun e => (e.1, e.2.aid)) =
      some [("a", "aid:a2"), ("b", "aid:b")] := by
    decide +kernel
  obtain ⟨s, hs, hread⟩ := Option.map_eq_some_iff.mp heval
  have hrun := runUpTo_of_eval hs
  obtain ⟨hstores, hgone, -⟩ := trust_stores_exact _ _ _ hrun
  have haid : ∀ agentId aid, (agentId, aid) ∈ [("a", "aid:a2"), ("b", "aid:b")] →
      ∃ ra, s.running.get? agentId = some ra ∧ ra.aid = aid := by
    intro agentId aid hmem
    obtain ⟨⟨other, ra⟩, hentry, heq⟩ := List.mem_map.mp (hread ▸ hmem)
    cases heq
    exact ⟨ra, (Dict.get?_eq_some_iff _ _ _).mpr hentry, rfl⟩
  obtain ⟨raA, hgetA, haidA⟩ := haid "a" "aid:a2" (by decide)
  obtain ⟨raB, hgetB, haidB⟩ := haid "b" "aid:b" (by decide)
  obtain ⟨p, hp, htrust⟩ := hstores "b" raB hgetB
  refine ⟨s, hrun, p, hp, (htrust _).mpr ⟨by decide, "a", raA, by decide, hgetA, haidA⟩, ?_⟩
  refine hgone "aid:a" ?_ "b" raB p hgetB hp
  intro other ra hother
  have hmem : (other, ra.aid) ∈ [("a", "aid:a2"), ("b", "aid:b")] := by
    rw [← hread]
    exact List.mem_map_of_mem ((Dict.get?_eq_some_iff _ _ _).mp hother)
  rintro heq
  rw [heq] at hmem
  simp at hmem

end AitpPlayground.Proofs.Runner
