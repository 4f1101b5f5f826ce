import AitpPlayground.Proofs.Runner.Steps

/-!
# `AitpPlayground.Proofs.Runner.TokenOps`: which steps change what an agent holds

`Frame` says that a part of a run hands out no token: what the agents hold, the operations and
the events `trust.established` stay. `Handed` says what the request of a handshake, a renewal
or a redemption does. `workStep_cases` puts them together: an eager handshake or a step that
returns is one `Frame`, or it is one such request with a `Frame` before and after.

A handshake with a fault is among these requests, and its request may have failed. So `Handed`
covers the requests that raised too.
-/

set_option autoImplicit false

namespace AitpPlayground.Proofs.Runner

open AitpPlayground.Lib
open AitpPlayground.Lib.Act
open AitpPlayground.Agents
open AitpPlayground.Hosting
open AitpPlayground.Registry
open AitpPlayground.Runner
open AitpPlayground.Proofs.Agents

variable {setting : RunSetting} {s s' : Workflow}

/-! ### Without tokens -/

/-- What the agent holds stays, and what it denies too. -/
structure Undisturbed (p p' : AgentProcess) : Prop where
  held : SameHeld p p'
  denied : p.revocation.local_ ⊆ p'.revocation.local_

/-- A process is undisturbed by nothing. -/
theorem Undisturbed.refl (p : AgentProcess) : Undisturbed p p :=
  ⟨⟨rfl, rfl, rfl, rfl, Nat.le_refl _⟩, Finset.Subset.refl _⟩

/-- Two changes that disturb nothing, in turn. -/
theorem Undisturbed.trans {p q r : AgentProcess} (h : Undisturbed p q) (h' : Undisturbed q r) :
    Undisturbed p r :=
  ⟨⟨h'.held.heldTcts.trans h.held.heldTcts, h'.held.heldVouchers.trans h.held.heldVouchers,
    h'.held.tctFrom.trans h.held.tctFrom, h'.held.voucherFrom.trans h.held.voucherFrom,
    h.held.responses.trans h'.held.responses⟩, h.denied.trans h'.denied⟩

/-- All agents are undisturbed. -/
def ProcessesKept (d d' : Dict String AgentProcess) : Prop :=
  ∀ agentId, Option.Rel Undisturbed (d.get? agentId) (d'.get? agentId)

/-- Processes that stay are kept. -/
theorem ProcessesKept.refl (d : Dict String AgentProcess) : ProcessesKept d d := by
  intro agentId
  cases d.get? agentId with
  | none => exact .none
  | some p => exact .some (.refl p)

/-- Two changes that keep the processes, in turn. -/
theorem ProcessesKept.trans {d₁ d₂ d₃ : Dict String AgentProcess} (h : ProcessesKept d₁ d₂)
    (h' : ProcessesKept d₂ d₃) : ProcessesKept d₁ d₃ := by
  have hrel : ∀ {o₁ o₂ o₃ : Option AgentProcess}, Option.Rel Undisturbed o₁ o₂ →
      Option.Rel Undisturbed o₂ o₃ → Option.Rel Undisturbed o₁ o₃ := by
    intro o₁ o₂ o₃ h₁ h₂
    cases h₁ with
    | none => exact h₂
    | some h₁ =>
      cases h₂ with
      | some h₂ => exact .some (h₁.trans h₂)
  exact fun agentId => hrel (h agentId) (h' agentId)

/-- A process that changes undisturbed is kept. -/
theorem processesKept_set {d : Dict String AgentProcess} {agentId : String} {p p' : AgentProcess}
    (hp : d.get? agentId = some p) (h : Undisturbed p p') :
    ProcessesKept d (d.set agentId p') := by
  intro other
  rw [Dict.get?_set]
  split
  case isTrue heq =>
    rw [← heq, hp]
    exact .some h
  case isFalse => exact ProcessesKept.refl d other

/-- An agent after what keeps the processes. -/
theorem ProcessesKept.get? {d d' : Dict String AgentProcess} (h : ProcessesKept d d')
    {agentId : String} {p : AgentProcess} (hp : d.get? agentId = some p) :
    ∃ p', d'.get? agentId = some p' ∧ Undisturbed p p' := by
  have hrel := h agentId
  rw [hp] at hrel
  generalize d'.get? agentId = o at hrel
  cases hrel with
  | some hkept => exact ⟨_, rfl, hkept⟩

/-- An agent before what keeps the processes. -/
theorem ProcessesKept.get?_before {d d' : Dict String AgentProcess} (h : ProcessesKept d d')
    {agentId : String} {p' : AgentProcess} (hp : d'.get? agentId = some p') :
    ∃ p, d.get? agentId = some p ∧ Undisturbed p p' := by
  have hrel := h agentId
  rw [hp] at hrel
  generalize d.get? agentId = o at hrel
  cases hrel with
  | some hkept => exact ⟨_, rfl, hkept⟩

/-- No request takes a local revocation back. -/
theorem denied_served (c : AdminCall) (p : AgentProcess) :
    p.revocation.local_ ⊆ (served setting c p).revocation.local_ := by
  have hquiet : ∀ {p p' : AgentProcess}, Quietly p p' → p'.revocation = p.revocation := by
    intro p p' h
    induction h with
    | refl => rfl
    | tail _ hmove ih => cases hmove <;> exact ih
  have hadm : ∀ {p' : AgentProcess}, Administered p c p' →
      p.revocation.local_ ⊆ p'.revocation.local_ := by
    intro p' h
    cases h with
    | revoked body jti => exact Finset.subset_insert _ _
    | trusted body salt aids => exact Finset.Subset.refl _
    | rotated newAid manifest snapshot => exact Finset.Subset.refl _
    | minted manifest => exact Finset.Subset.refl _
  rcases adminStep_cases setting.sdk setting.py (c := c) rfl with hout | ⟨-, h⟩
  -- A request that stores a token changes what is held only.
  · cases hr : receipt setting.sdk setting.py p c with
    | none =>
      rw [hr] at hout
      rw [hquiet hout]
    | some r =>
      rw [hr] at hout
      obtain ⟨q, hq, hstored⟩ := hout
      have hrest := congrArg AgentProcess.revocation hstored.rest
      rw [← hquiet hq, hrest]
  · exact hadm h

/-- A request that hands out no token. -/
theorem undisturbed_served {c : AdminCall} {p : AgentProcess}
    (hr : receipt setting.sdk setting.py p c = none) : Undisturbed p (served setting c p) := by
  refine ⟨?_, denied_served c p⟩
  have hstep : adminStep setting.sdk setting.py p c = some (served setting c p) := rfl
  rcases held_step_cases hstep with ⟨-, h⟩ | ⟨r, q, hsome, -, -⟩
  · exact h
  · rw [hr] at hsome
    cases hsome

/-- The events that a revocation looks at. -/
def trustEvents (events : List Emission) : List Emission :=
  events.filter fun event => decide (event.type = "trust.established")

/-- Another event is no trust event. -/
theorem trustEvents_append_other (events : List Emission) {event : Emission}
    (h : event.type ≠ "trust.established") :
    trustEvents (events ++ [event]) = trustEvents events := by
  unfold trustEvents
  rw [List.filter_append, List.filter_cons_of_neg (by simpa using h)]
  exact List.append_nil _

/-- An event that trust was established comes last. -/
theorem trustEvents_append_established (events : List Emission) {event : Emission}
    (h : event.type = "trust.established") :
    trustEvents (events ++ [event]) = trustEvents events ++ [event] := by
  unfold trustEvents
  rw [List.filter_append, List.filter_cons_of_pos (by simpa using h)]
  rfl

/-- A part of a run in which no token is handed out. A step may record its output. -/
structure Frame (stepId : Option String) (s s' : Workflow) : Prop where
  ports : ∀ agentId, (s'.running.get? agentId).map RunningAgent.port =
    (s.running.get? agentId).map RunningAgent.port
  processes : ProcessesKept s.processes s'.processes
  ops : s'.ops = s.ops
  events : trustEvents s'.events = trustEvents s.events
  outputs : s'.outputs = s.outputs ∨
    ∃ id ∈ stepId, ∃ value, s'.outputs = s.outputs.set id value

instance (stepId : Option String) : Std.Refl (Frame stepId) :=
  ⟨fun _ => ⟨fun _ => rfl, .refl _, rfl, rfl, .inl rfl⟩⟩

instance (stepId : Option String) : IsTrans Workflow (Frame stepId) := by
  refine ⟨fun s₁ s₂ s₃ h h' => ⟨fun agentId => (h'.ports agentId).trans (h.ports agentId),
    h.processes.trans h'.processes, h'.ops.trans h.ops, h'.events.trans h.events, ?_⟩⟩
  rcases h'.outputs with hsame | ⟨id, hid, value, hset⟩
  · rw [hsame]
    exact h.outputs
  · refine .inr ⟨id, hid, value, ?_⟩
    rcases h.outputs with hsame | ⟨id', hid', value', hset'⟩
    · rw [hset, hsame]
    · obtain rfl := Option.mem_unique hid hid'
      rw [hset, hset', Dict.set_set]

/-- An agent that answers undisturbed is within the frame. -/
theorem frame_set {stepId : Option String} {agentId : String} {p p' : AgentProcess}
    (hp : s.processes.get? agentId = some p) (h : Undisturbed p p') :
    Frame stepId s { s with processes := s.processes.set agentId p' } :=
  ⟨fun _ => rfl, processesKept_set hp h, rfl, rfl, .inl rfl⟩

/-- A plain call has no receipt. -/
theorem receipt_plain {c : AdminCall} (hc : isPlain c = true) (p : AgentProcess) :
    receipt setting.sdk setting.py p c = none := by
  cases c <;> first | rfl | cases hc

/-- An event of another type than that of trust is within the frame. -/
theorem frame_emit {stepId : Option String} (event : Emission)
    (h : event.type ≠ "trust.established") :
    Frame stepId s { s with events := s.events ++ [event] } :=
  ⟨fun _ => rfl, .refl _, rfl, trustEvents_append_other _ h, .inl rfl⟩

/-- The moves of a step without a token request. -/
theorem stepRules_frame (setting : RunSetting) (stepId : String) :
    StepRules setting stepId (Frame (some stepId)) where
  emit _ event htype := frame_emit event htype
  output _ value := ⟨fun _ => rfl, .refl _, rfl, rfl, .inr ⟨stepId, rfl, value, rfl⟩⟩
  webhook _ _ _ := ⟨fun _ => rfl, .refl _, rfl, rfl, .inl rfl⟩
  call _ _ p _ hc hp := frame_set hp (undisturbed_served (receipt_plain hc p))
  refresh _ _ _ _ hp :=
    frame_set hp ⟨⟨rfl, rfl, rfl, rfl, Nat.le_refl _⟩, Finset.Subset.refl _⟩

/-! ### Rotations -/

/-- The push of the peers pins, and hands out no token; by induction on the agents. -/
theorem frame_pushTo {stepId : Option String} {links : Nat → Link} {salt : Nat}
    {running : Dict String RunningAgent} {agents : List (String × Nat)} :
    Within (Frame stepId) (pushTo setting links salt running agents) := by
  induction agents with
  | nil => exact within_pure ()
  | cons agent rest ih =>
    refine within_bind (within_callAgent_of _ _ _ fun s p hp => ?_) fun _ => ?_
    · exact frame_set hp (undisturbed_served rfl)
    · exact within_bind (within_raiseForStatus _) fun _ => ih

/-- The push of the peers is within the frame. -/
theorem frame_pushTrustedPeers {stepId : Option String} {links : Nat → Link} {salt : Nat} :
    Within (Frame stepId) (pushTrustedPeers setting links salt) := by
  refine within_bind within_get fun _ => within_bind frame_pushTo fun _ => ?_
  exact within_modify fun s => frame_emit _ (ne_of_beq_false rfl)

/-- A rotation that returns hands out no token: its requests neither, and the ports stay. -/
theorem frame_rotate {step : WorkflowStep} {world : StepWorld}
    (h : dispatchRotateKeys setting step world s = .ok () s') : Frame (some step.id) s s' := by
  have hR := stepRules_frame setting step.id
  unfold dispatchRotateKeys at h
  cases hagent : given step.agent with
  | none =>
    rw [hagent] at h
    cases h
  | some agent =>
    rw [hagent] at h
    obtain ⟨ra, s₁, hra, h⟩ := bind_eq_ok.mp h
    obtain ⟨hget, rfl⟩ := runningAgent_eq_ok hra
    obtain ⟨data, s₂, hdata, h⟩ := bind_eq_ok.mp h
    obtain ⟨p, hp, -, -, rfl⟩ := requestAgent_eq_ok hdata
    obtain ⟨newAid, s₃, haid, h⟩ := bind_eq_ok.mp h
    obtain ⟨-, rfl⟩ := ofExcept_eq_ok.mp haid
    -- The runner replaces the AID of the agent, and its port stays.
    obtain ⟨u, s₄, hset, hrest⟩ := bind_eq_ok.mp h
    obtain rfl := modify_eq_ok.mp hset
    have hkept : Undisturbed p (served setting
        (.rotateKeys world.newAid world.minted world.snapshot) p) := undisturbed_served rfl
    have hrotated : Frame (some step.id) s _ := frame_set hp hkept
    refine IsTrans.trans _ _ _ hrotated (IsTrans.trans _ _ _ ?_ (Within.of_ok ?_ hrest))
    · refine ⟨fun other => ?_, .refl _, rfl, rfl, .inl rfl⟩
      show ((s.running.set agent { ra with aid := newAid }).get? other).map _ = _
      rw [Dict.get?_set]
      split
      case isTrue heq =>
        show some ra.port = (s.running.get? other).map RunningAgent.port
        rw [← heq, hget]
        rfl
      case isFalse => rfl
    · refine within_bind frame_pushTrustedPeers fun _ => ?_
      refine within_bind (within_output hR _) fun _ => ?_
      exact within_bind (within_emit hR _ _ (by decide)) fun _ => within_stepComplete hR _

/-! ### Token requests -/

/-- The responses that tokens came in are responses so far. -/
def Bounded (d : Dict String AgentProcess) : Prop :=
  ∀ agentId p, d.get? agentId = some p →
    ∀ port n, p.tctFrom.get? port = some n → n ≤ p.responses

/-- What a request to `holder` made it hold, with the port whose token it replaced. -/
inductive Received (setting : RunSetting) (holder : String) (c : AdminCall)
    (d d' : Dict String AgentProcess) : Option Int → Prop
  | nothing (kept : ProcessesKept d d') : Received setting holder c d d' none
  | token {p p' q : AgentProcess} {r : Receipt} (hp : d.get? holder = some p)
      (hr : receipt setting.sdk setting.py p c = some r) (hq : SameHeld p q)
      (stored : Stored r.port r.token r.voucher q p') (hd' : d' = d.set holder p')
      (denied : p.revocation.local_ ⊆ p'.revocation.local_) :
      Received setting holder c d d' (some r.port)

/-- Without a change of the held tokens none is replaced. -/
theorem replacedPort_sameHeld {p p' : AgentProcess} (h : SameHeld p p') :
    replacedPort p p' = none := by
  unfold replacedPort
  rw [List.find?_eq_none]
  intro port _
  rw [h.tctFrom]
  simp

/-- A store replaces the token of its port and no other. -/
theorem replacedPort_stored {p q p' : AgentProcess} {r : Receipt} (h : SameHeld p q)
    (hstored : Stored r.port r.token r.voucher q p')
    (hbound : ∀ port n, p.tctFrom.get? port = some n → n ≤ p.responses) :
    replacedPort p p' = some r.port := by
  have hother : ∀ port, r.port ≠ port → p'.tctFrom.get? port = p.tctFrom.get? port := by
    intro port hne
    rw [hstored.tctFrom, if_neg hne, h.tctFrom]
  have hthis : p'.tctFrom.get? r.port ≠ p.tctFrom.get? r.port := by
    rw [hstored.tctFrom, if_pos rfl]
    intro heq
    -- The number of the response that brought the token is new.
    have hle := hbound r.port _ heq.symm
    have hlt := hstored.responses
    have hresponses := h.responses
    omega
  have hkey : r.port ∈ p'.tctFrom.keys := by
    rw [Dict.mem_keys_iff, hstored.tctFrom, if_pos rfl]
    rfl
  unfold replacedPort
  cases hfind : p'.tctFrom.keys.find? fun port =>
      decide (p'.tctFrom.get? port ≠ p.tctFrom.get? port) with
  | none =>
    have hnot := List.find?_eq_none.mp hfind r.port hkey
    simp [hthis] at hnot
  | some port =>
    have hdiffers := List.find?_some hfind
    by_contra hne
    exact of_decide_eq_true hdiffers (hother port fun heq => hne (congrArg some heq.symm))

/-- An agent that has served a request. -/
theorem received_served {d : Dict String AgentProcess} {holder : String} {p : AgentProcess}
    (c : AdminCall) (hp : d.get? holder = some p) (hbound : Bounded d) :
    Received setting holder c d (d.set holder (served setting c p))
        (replacedSince d (d.set holder (served setting c p)) holder) ∧
      replacedSince d (d.set holder (served setting c p)) holder =
        (receipt setting.sdk setting.py p c).map Receipt.port := by
  have hport : replacedSince d (d.set holder (served setting c p)) holder =
      replacedPort p (served setting c p) := by
    unfold replacedSince
    rw [hp, Dict.get?_set_self]
  have hstep : adminStep setting.sdk setting.py p c = some (served setting c p) := rfl
  rw [hport]
  -- A request stores nothing, or one token under one port.
  rcases held_step_cases hstep with ⟨hr, hsame⟩ | ⟨r, q, hr, hq, hstored⟩
  · rw [replacedPort_sameHeld hsame, hr]
    exact ⟨.nothing (processesKept_set hp ⟨hsame, denied_served c p⟩), rfl⟩
  · rw [replacedPort_stored hq hstored (hbound holder p hp), hr]
    exact ⟨.token hp hr hq hstored rfl (denied_served c p), rfl⟩

/-- A request that did not arrive. -/
theorem received_unserved {d : Dict String AgentProcess} (holder : String) (c : AdminCall) :
    Received setting holder c d d (replacedSince d d holder) := by
  have hnone : replacedSince d d holder = none := by
    unfold replacedSince
    cases d.get? holder with
    | none => rfl
    | some p => exact replacedPort_sameHeld (Undisturbed.refl p).held
  rw [hnone]
  exact .nothing (.refl d)

/-- The event that records a handshake. -/
def establishedEvent (initiator target : String) (grants jti : Json) : Emission where
  type := "trust.established"
  fields := .ofList
    [("initiator", .str initiator), ("target", .str target), ("grants", grants), ("jti", jti)]

/-- The events after an operation: a handshake with a good answer is recorded, and nothing
else. -/
inductive Recorded (setting : RunSetting) (op : TokenOp) (c : AdminCall) (s s' : Workflow) : Prop
  | silent (events : trustEvents s'.events = trustEvents s.events)
      (hop : op.kind = .handshake → op.accepted = false)
  | event {p : AgentProcess} {grants jti : Json} (kind : op.kind = .handshake)
      (accepted : op.accepted = true) (hp : s.processes.get? op.holder = some p)
      (answer : established setting (.ofRoute (c.route setting.sdk setting.py p)) =
        .ok (grants, jti))
      (events : trustEvents s'.events =
        trustEvents s.events ++ [establishedEvent op.holder op.issuer grants jti])

/-- What a token request of the runner does. -/
structure Handed (setting : RunSetting) (op : TokenOp) (c : AdminCall) (s s' : Workflow) :
    Prop where
  running : s'.running = s.running
  outputs : s'.outputs = s.outputs
  ops : s'.ops = op :: s.ops
  received : Received setting op.holder c s.processes s'.processes op.replaced
  recorded : Recorded setting op c s s'

/-- A token request, with the operation it notes. -/
theorem tokenCall_cases (holder issuer : String) (kind : TokenOpKind) (link : Link)
    (c : AdminCall) (accepts : Reply → Bool) (hbound : Bounded s.processes) :
    (∃ e d' replaced, Received setting holder c s.processes d' replaced ∧
      tokenCall setting holder issuer kind link c accepts s =
        .error e { s with
          processes := d', ops := ⟨holder, issuer, kind, false, replaced⟩ :: s.ops }) ∨
    ∃ p, s.processes.get? holder = some p ∧
      ∃ d' replaced, Received setting holder c s.processes d' replaced ∧
        replaced = (receipt setting.sdk setting.py p c).map Receipt.port ∧
        tokenCall setting holder issuer kind link c accepts s =
          .ok (.ofRoute (c.route setting.sdk setting.py p)) { s with
            processes := d'
            ops := ⟨holder, issuer, kind,
              accepts (.ofRoute (c.route setting.sdk setting.py p)), replaced⟩ :: s.ops } := by
  have herror : ∀ (e : RunExc) (d' : Dict String AgentProcess),
      callAgent setting holder link c s = .error e { s with processes := d' } →
      Received setting holder c s.processes d' (replacedSince s.processes d' holder) →
      ∃ e d' replaced, Received setting holder c s.processes d' replaced ∧
        tokenCall setting holder issuer kind link c accepts s =
          .error e { s with
            processes := d', ops := ⟨holder, issuer, kind, false, replaced⟩ :: s.ops } := by
    intro e d' hcall hreceived
    refine ⟨e, d', _, hreceived, ?_⟩
    unfold tokenCall
    refine (bind_of_ok _ _ rfl).trans (bind_of_error _ _ ?_)
    exact (tryCatch_of_error hcall).trans rfl
  -- The answer can be lost after the agent has served the request, so the second case
  -- has an error and a served request.
  rcases callAgent_cases setting holder link c s with ⟨e, hcall⟩ | ⟨p, hp, ⟨e, hcall⟩ | hcall⟩
  · exact .inl (herror e s.processes hcall (received_unserved holder c))
  · exact .inl (herror e _ hcall (received_served c hp hbound).1)
  · refine .inr ⟨p, hp, _, _, (received_served c hp hbound).1, (received_served c hp hbound).2, ?_⟩
    unfold tokenCall
    refine (bind_of_ok _ _ rfl).trans ?_
    exact (bind_of_ok _ _ (tryCatch_of_ok hcall)).trans rfl

/-- A request that is no handshake. -/
theorem handed_of_tokenCall {holder issuer : String} {kind : TokenOpKind} {link : Link}
    {c : AdminCall} {accepts : Reply → Bool} {r : Reply}
    (h : tokenCall setting holder issuer kind link c accepts s = .ok r s')
    (hkind : kind ≠ .handshake) (hbound : Bounded s.processes) :
    ∃ p replaced, s.processes.get? holder = some p ∧
      r = .ofRoute (c.route setting.sdk setting.py p) ∧
      replaced = (receipt setting.sdk setting.py p c).map Receipt.port ∧
      Handed setting ⟨holder, issuer, kind, accepts r, replaced⟩ c s s' := by
  rcases tokenCall_cases holder issuer kind link c accepts hbound with
    ⟨e, d', replaced, -, hrun⟩ | ⟨p, hp, d', replaced, hreceived, hreplaced, hrun⟩
  · rw [hrun] at h
    cases h
  · rw [hrun] at h
    cases h
    exact ⟨p, replaced, hp, rfl, hreplaced, rfl, rfl, rfl, hreceived,
      .silent rfl fun heq => absurd heq hkind⟩

/-- A handshake of the runner, also when it raised: its first event, and the request. -/
theorem ensureTrust_cases (setting : RunSetting) (initiator target : String) (url : Option String)
    (requestedGrants : Option (List String)) (world : StepWorld)
    (hbound : Bounded s.processes) :
    ∃ events op, trustEvents events = trustEvents s.events ∧ op.holder = initiator ∧
      op.issuer = target ∧ op.kind = .handshake ∧
      Handed setting op (handshakeCall url requestedGrants world) { s with events }
        ((ensureTrust setting initiator target url requestedGrants world).after s) := by
  let start : Emission :=
    { type := "trust.establishing"
      fields := .ofList [("initiator", .str initiator), ("target", .str target)] }
  have hstart : trustEvents (s.events ++ [start]) = trustEvents s.events :=
    trustEvents_append_other s.events (by decide : "trust.establishing" ≠ "trust.established")
  rcases tokenCall_cases (s := { s with events := s.events ++ [start] }) initiator target
      .handshake (world.link 0) (handshakeCall url requestedGrants world)
      (fun r => (established setting r).isOk) hbound with
    ⟨e, d', replaced, hreceived, hrun⟩ | ⟨p, hp, d', replaced, hreceived, -, hrun⟩
  -- The request raised: no event `trust.established`.
  · refine ⟨_, ⟨initiator, target, .handshake, false, replaced⟩, hstart, rfl, rfl, rfl, ?_⟩
    have hafter : (ensureTrust setting initiator target url requestedGrants world).after s = _ :=
      after_congr (y := throw e) (bind_of_error (recordTrust setting initiator target) _ hrun)
    rw [hafter]
    exact ⟨rfl, rfl, rfl, hreceived, .silent rfl fun _ => rfl⟩
  · have hafter : (ensureTrust setting initiator target url requestedGrants world).after s = _ :=
      after_congr (bind_of_ok (recordTrust setting initiator target) _ hrun)
    rw [hafter]
    unfold recordTrust
    cases hanswer : established setting (.ofRoute ((handshakeCall url requestedGrants world).route
        setting.sdk setting.py p)) with
    -- The reply is no success, or its body does not read, and `_ensure_trust` raises.
    | error e =>
      refine ⟨_, ⟨initiator, target, .handshake, false, replaced⟩, hstart, rfl, rfl, rfl, ?_⟩
      exact ⟨rfl, rfl, rfl, hreceived, .silent rfl fun _ => rfl⟩
    | ok answer =>
      obtain ⟨grants, jti⟩ := answer
      refine ⟨_, ⟨initiator, target, .handshake, true, replaced⟩, hstart, rfl, rfl, rfl, ?_⟩
      refine ⟨rfl, rfl, rfl, hreceived, .event rfl rfl hp hanswer ?_⟩
      exact trustEvents_append_established _ rfl

/-! ### Steps -/

/-- The id under which a label records its output. -/
def outputId : WorkLabel → Option String
  | .eager _ _ _ => none
  | .step step _ => some step.id

/-- The token request that a label makes: the operation it notes, and the request. -/
inductive Requests : WorkLabel → TokenOp → AdminCall → Prop
  | eager {a b : String} {world : StepWorld} {op : TokenOp} (url : Option String)
      (holder : op.holder = a) (issuer : op.issuer = b) (kind : op.kind = .handshake) :
      Requests (.eager a b world) op (handshakeCall url none world)
  | handshake {step : WorkflowStep} {world : StepWorld} {op : TokenOp} (url : Option String)
      (type : inferType step = some .handshake) (holder : step.initiator = some op.holder)
      (issuer : step.responder = some op.issuer) (kind : op.kind = .handshake) :
      Requests (.step step world) op (handshakeCall url step.requestedGrants world)
  | renewal {step : WorkflowStep} {world : StepWorld} {op : TokenOp} (port : Int)
      (type : inferType step = some .renewTct) (kind : op.kind = .renewal) :
      Requests (.step step world) op (renewCall port world)
  | redemption {step : WorkflowStep} {world : StepWorld} {op : TokenOp} {token urls : Json}
      (redeemUrl : String) (port : Int) (type : inferType step = some .redeemDelegation)
      (fault : step.fault = none) (holder : step.delegatee = some op.holder)
      (issuer : step.target = some op.issuer)
      (kind : op.kind = .redemption (itemsOf urls) step.expectStatus.isSome) :
      Requests (.step step world) op (redeemCall redeemUrl token urls port world)

/-- What a label does: no token request, or one, with frames around it. -/
def StepShape (setting : RunSetting) (s : Workflow) (l : WorkLabel) (s' : Workflow) : Prop :=
  Frame (outputId l) s s' ∨
    ∃ events op c s₂, trustEvents events = trustEvents s.events ∧ Requests l op c ∧
      Handed setting op c { s with events } s₂ ∧ Frame (outputId l) s₂ s'

/-- The URL that is found is the one of the table. -/
theorem peerUrl_eq_ok {agentId : String} {url : Option String}
    (h : peerUrl setting agentId s = .ok url s') :
    setting.peers.get? agentId = some url ∧ s = s' := orThrow_eq_ok.mp h

/-- A field that is given has its value. -/
theorem given_eq_some {field : Option String} {value : String} (h : given field = some value) :
    field = some value := (Option.filter_eq_some_iff.mp h).1

/-- A field with a value is given, or it is empty. -/
theorem given_cases {field : Option String} {value : String} (h : field = some value) :
    given field = none ∨ given field = some value := by
  subst h
  unfold given
  rw [Option.filter_some]
  split
  · exact .inr rfl
  · exact .inl rfl

/-- An eager handshake has the shape of its label. -/
theorem shape_eager {a b : String} {world : StepWorld} (hbound : Bounded s.processes)
    (h : eagerHandshake setting a b world s = .ok () s') :
    StepShape setting s (.eager a b world) s' := by
  obtain ⟨raA, s₁, hrun, h⟩ := bind_eq_ok.mp h
  obtain ⟨-, rfl⟩ := runningAgent_eq_ok hrun
  obtain ⟨raB, s₁, hrun, h⟩ := bind_eq_ok.mp h
  obtain ⟨-, rfl⟩ := runningAgent_eq_ok hrun
  obtain ⟨url, s₁, hrun, htrust⟩ := bind_eq_ok.mp h
  obtain ⟨-, rfl⟩ := peerUrl_eq_ok hrun
  obtain ⟨events, op, hevents, hholder, hissuer, hkind, hhanded⟩ :=
    ensureTrust_cases setting a b url none world hbound
  rw [after_of_ok htrust] at hhanded
  exact .inr ⟨events, op, _, s', hevents, .eager url hholder hissuer hkind, hhanded,
    Std.Refl.refl s'⟩

/-- A handshake step that returns. -/
theorem shape_handshake {step : WorkflowStep} {world : StepWorld} (hbound : Bounded s.processes)
    (htype : inferType step = some .handshake)
    (h : dispatchHandshake setting step world s = .ok () s') :
    StepShape setting s (.step step world) s' := by
  have hR := stepRules_frame setting step.id
  unfold dispatchHandshake at h
  cases hinitiator : given step.initiator with
  | none =>
    rw [hinitiator] at h
    cases h
  | some initiator =>
    cases hresponder : given step.responder with
    | none =>
      rw [hinitiator, hresponder] at h
      cases h
    | some responder =>
      rw [hinitiator, hresponder] at h
      obtain ⟨raA, s₁, hrun, h⟩ := bind_eq_ok.mp h
      obtain ⟨-, rfl⟩ := runningAgent_eq_ok hrun
      obtain ⟨raB, s₁, hrun, h⟩ := bind_eq_ok.mp h
      obtain ⟨-, rfl⟩ := runningAgent_eq_ok hrun
      obtain ⟨url, s₁, hrun, h⟩ := bind_eq_ok.mp h
      obtain ⟨-, rfl⟩ := peerUrl_eq_ok hrun
      -- The handshake is the one token request. The rest records an output and emits.
      obtain ⟨u, s₂, htrust, hrecord⟩ := bind_eq_ok.mp h
      obtain ⟨events, op, hevents, rfl, rfl, hkind, hhanded⟩ :=
        ensureTrust_cases setting initiator responder url step.requestedGrants world hbound
      rw [after_of_ok htrust] at hhanded
      refine .inr ⟨events, op, _, s₂, hevents, ?_, hhanded, Within.of_ok ?_ hrecord⟩
      · exact .handshake url htype (given_eq_some hinitiator) (given_eq_some hresponder) hkind
      · exact within_bind (within_output hR _) fun _ => within_emit hR _ _ (by decide)

/-- A swallowed action returns, and leaves what the action left. -/
theorem swallow_eq_ok {x : Steps Unit} {error : Json} (h : swallow x s = .ok error s') :
    s' = x.after s := by
  unfold swallow at h
  cases hx : x s with
  | ok u s₁ =>
    have hbody : (do x; pure .null : Steps Json) s = .ok .null s₁ := (bind_of_ok _ _ hx).trans rfl
    rw [tryCatch_of_ok hbody] at h
    cases h
    exact (after_of_ok hx).symm
  | error e s₁ =>
    have hbody : (do x; pure .null : Steps Json) s = .error e s₁ := bind_of_error _ _ hx
    rw [tryCatch_of_error hbody] at h
    cases h
    exact (after_congr (y := throw e) hx).symm

/-- The agent of a field is found, or the lookup raises. -/
theorem runningField_cases (field : Option String) (s : Workflow) :
    (∃ e, runningField field s = .error e s) ∨
    ∃ agentId, field = some agentId ∧ runningField field s = .ok agentId s := by
  cases field with
  | none => exact .inl ⟨_, rfl⟩
  | some agentId =>
    cases hra : s.running.get? agentId with
    | none =>
      refine .inl ⟨ofPyErr (.keyError agentId), bind_of_error _ _ ?_⟩
      refine (bind_of_ok _ _ rfl).trans ?_
      rw [hra]
      rfl
    | some ra =>
      refine .inr ⟨agentId, rfl, (bind_of_ok (a := ra) _ _ ?_).trans rfl⟩
      refine (bind_of_ok _ _ rfl).trans ?_
      rw [hra]
      rfl

/-- The action of a handshake with a fault: it raises before its request, or makes it. -/
theorem faultHandshake_cases (setting : RunSetting) (step : WorkflowStep) (target url : String)
    (port : Int) (world : StepWorld) (s : Workflow) :
    (faultAction setting step .handshake target url port world).after s = s ∨
    ∃ initiator responder, step.initiator = some initiator ∧ step.responder = some responder ∧
      (faultAction setting step .handshake target url port world).after s =
        (ensureTrust setting initiator responder (some url) step.requestedGrants world).after
          s := by
  unfold faultAction
  rcases runningField_cases step.initiator s with ⟨e, hrun⟩ | ⟨initiator, hinitiator, hrun⟩
  -- `step.initiator` is no running agent.
  · exact .inl (after_congr (y := throw e) (bind_of_error _ _ hrun))
  · rw [after_congr (bind_of_ok _ _ hrun)]
    rcases runningField_cases step.responder s with ⟨e, hrun⟩ | ⟨responder, hresponder, hrun⟩
    · exact .inl (after_congr (y := throw e) (bind_of_error _ _ hrun))
    · rw [after_congr (bind_of_ok _ _ hrun)]
      exact .inr ⟨initiator, responder, hinitiator, hresponder, rfl⟩

/-- A handshake with a fault. What it raised is swallowed, but its request may be served. -/
theorem shape_faultHandshake {step : WorkflowStep} {fault : StepFault} {world : StepWorld}
    (hbound : Bounded s.processes) (htype : inferType step = some .handshake)
    (h : dispatchFaultInjected setting step .handshake fault world s = .ok () s') :
    StepShape setting s (.step step world) s' := by
  have hR := stepRules_frame setting step.id
  obtain ⟨found, s₁, hrun, h⟩ := bind_eq_ok.mp h
  obtain ⟨-, rfl⟩ := ofExcept_eq_ok.mp hrun
  cases htarget : found.filter fun id => (setting.peers.get? id).isSome with
  | none =>
    rw [htarget] at h
    cases h
  | some target =>
    rw [htarget] at h
    obtain ⟨url, s₁, hrun, h⟩ := bind_eq_ok.mp h
    obtain ⟨-, rfl⟩ := peerUrl_eq_ok hrun
    obtain ⟨ra, s₁, hrun, h⟩ := bind_eq_ok.mp h
    obtain ⟨-, rfl⟩ := runningAgent_eq_ok hrun
    obtain ⟨⟨mutatedUrl, mutatedPort⟩, s₁, hrun, h⟩ := bind_eq_ok.mp h
    obtain ⟨-, rfl⟩ := ofExcept_eq_ok.mp hrun
    obtain ⟨u, s₁, hemit, h⟩ := bind_eq_ok.mp h
    obtain ⟨error, s₂, hswallow, hrecord⟩ := bind_eq_ok.mp h
    obtain rfl := swallow_eq_ok hswallow
    have hstarted := emit_eq_ok hemit
    -- The event `step.fault_injected` comes first and leaves the agents alone.
    have hbound₁ : Bounded s₁.processes := by
      rw [hstarted]
      exact hbound
    have hend : Frame (some step.id) _ s' := Within.of_ok
      (within_bind (within_output hR _) fun _ => within_emit hR _ _ (ne_of_beq_false rfl)) hrecord
    -- The state after the action, whether or not the action raised.
    rcases faultHandshake_cases setting step target mutatedUrl mutatedPort world s₁ with
      hnothing | ⟨initiator, responder, hinitiator, hresponder, hafter⟩
    · rw [hnothing, hstarted] at hend
      exact .inl (IsTrans.trans _ _ _ (frame_emit _ (ne_of_beq_false rfl)) hend)
    · rw [hafter] at hend
      obtain ⟨events, op, hevents, rfl, rfl, hkind, hhanded⟩ :=
        ensureTrust_cases setting initiator responder (some mutatedUrl) step.requestedGrants world
          hbound₁
      have hrequests : Requests (.step step world) op _ :=
        .handshake (some mutatedUrl) htype hinitiator hresponder hkind
      obtain rfl := hstarted
      refine .inr ⟨events, op, _, _, hevents.trans ?_, hrequests, hhanded, hend⟩
      exact trustEvents_append_other s.events (ne_of_beq_false rfl)

/-- A renewal that returns. -/
theorem shape_renew {step : WorkflowStep} {world : StepWorld} (hbound : Bounded s.processes)
    (htype : inferType step = some .renewTct)
    (h : dispatchRenewTct setting step world s = .ok () s') :
    StepShape setting s (.step step world) s' := by
  unfold dispatchRenewTct at h
  cases hagent : given step.agent with
  | none =>
    rw [hagent] at h
    cases h
  | some agent =>
    cases hvia : given step.viaPeer with
    | none =>
      rw [hagent, hvia] at h
      cases h
    | some viaPeer =>
      rw [hagent, hvia] at h
      obtain ⟨holderRa, s₁, hrun, h⟩ := bind_eq_ok.mp h
      obtain ⟨-, rfl⟩ := runningAgent_eq_ok hrun
      obtain ⟨issuerRa, s₁, hrun, h⟩ := bind_eq_ok.mp h
      obtain ⟨-, rfl⟩ := runningAgent_eq_ok hrun
      obtain ⟨r, s₂, hcall, hrecord⟩ := bind_eq_ok.mp h
      obtain ⟨p, replaced, -, -, -, hhanded⟩ := handed_of_tokenCall hcall nofun hbound
      refine .inr ⟨s.events, _, _, s₂, rfl, .renewal issuerRa.port htype rfl, hhanded, ?_⟩
      exact (within_recordRenewal (stepRules_frame setting step.id) _ _ r).of_ok hrecord

/-- The request of a redemption step that returns, and what was left to record. -/
theorem redemption_eq_ok {step : WorkflowStep} {world : StepWorld} (hbound : Bounded s.processes)
    (htype : inferType step = some .redeemDelegation) (hfault : step.fault = none)
    (h : dispatchRedeemDelegation setting step world s = .ok () s') :
    ∃ events op redeemUrl token urls ra p s₂, trustEvents events = trustEvents s.events ∧
      Requests (.step step world) op (redeemCall redeemUrl token urls ra.port world) ∧
      op.kind = .redemption (itemsOf urls) step.expectStatus.isSome ∧
      s.running.get? op.issuer = some ra ∧
      op.replaced = (receipt setting.sdk setting.py p
        (redeemCall redeemUrl token urls ra.port world)).map Receipt.port ∧
      Handed setting op (redeemCall redeemUrl token urls ra.port world) { s with events } s₂ ∧
      recordAnswer setting step op.holder op.issuer urls
        (.ofRoute ((redeemCall redeemUrl token urls ra.port world).route setting.sdk setting.py p))
        s₂ = .ok () s' := by
  unfold dispatchRedeemDelegation at h
  -- A step that returns has all its fields, and a delegation before it.
  cases hdelegatee : given step.delegatee with
  | none =>
    rw [hdelegatee] at h
    cases h
  | some delegatee =>
    cases htarget : given step.target with
    | none =>
      rw [hdelegatee, htarget] at h
      cases h
    | some target =>
      cases hvia : given step.viaDelegation with
      | none =>
        rw [hdelegatee, htarget, hvia] at h
        cases h
      | some via =>
        rw [hdelegatee, htarget, hvia] at h
        obtain ⟨t, s₁, hrun, h⟩ := bind_eq_ok.mp h
        obtain ⟨rfl, rfl⟩ := get_eq_ok.mp hrun
        cases hprior : priorDelegation s.outputs via with
        | none =>
          rw [hprior] at h
          cases h
        | some prior =>
          obtain ⟨token, urls⟩ := prior
          rw [hprior] at h
          obtain ⟨r, s₂, hredeem, hrecord⟩ := bind_eq_ok.mp h
          obtain ⟨delegateeRa, s₁, hrun, hredeem⟩ := bind_eq_ok.mp hredeem
          obtain ⟨-, rfl⟩ := runningAgent_eq_ok hrun
          obtain ⟨targetRa, s₁, hrun, hredeem⟩ := bind_eq_ok.mp hredeem
          obtain ⟨hra, rfl⟩ := runningAgent_eq_ok hrun
          obtain ⟨url, s₁, hrun, hredeem⟩ := bind_eq_ok.mp hredeem
          obtain ⟨-, rfl⟩ := peerUrl_eq_ok hrun
          obtain ⟨redeemUrl, s₁, hrun, hredeem⟩ := bind_eq_ok.mp hredeem
          obtain ⟨-, rfl⟩ := ofExcept_eq_ok.mp hrun
          obtain ⟨u, s₁, hemit, hcall⟩ := bind_eq_ok.mp hredeem
          obtain rfl := emit_eq_ok hemit
          -- All that comes before the request reads or emits.
          obtain ⟨p, replaced, -, rfl, hreplaced, hhanded⟩ :=
            handed_of_tokenCall hcall nofun hbound
          refine ⟨_, _, redeemUrl, token, urls, targetRa, p, s₂, ?_, ?_, rfl, hra, hreplaced,
            hhanded, hrecord⟩
          · exact trustEvents_append_other s.events (ne_of_beq_false rfl)
          · exact .redemption redeemUrl targetRa.port htype hfault (given_eq_some hdelegatee)
              (given_eq_some htarget) rfl

/-- A redemption has the shape of its label. -/
theorem shape_redeem {step : WorkflowStep} {world : StepWorld} (hbound : Bounded s.processes)
    (htype : inferType step = some .redeemDelegation) (hfault : step.fault = none)
    (h : dispatchRedeemDelegation setting step world s = .ok () s') :
    StepShape setting s (.step step world) s' := by
  obtain ⟨events, op, redeemUrl, token, urls, ra, p, s₂, hevents, hrequests, -, -, -, hhanded,
    hrecord⟩ := redemption_eq_ok hbound htype hfault h
  refine .inr ⟨events, op, _, s₂, hevents, hrequests, hhanded, ?_⟩
  exact (within_recordAnswer (stepRules_frame setting step.id) _ _ urls _).of_ok hrecord

/-! ### What requests and frames keep -/

/-- Processes that are kept stay bounded. -/
theorem bounded_kept {d d' : Dict String AgentProcess} (h : ProcessesKept d d')
    (hbound : Bounded d) : Bounded d' := by
  intro agentId p' hp' port n hn
  obtain ⟨p, hp, hkept⟩ := h.get?_before hp'
  rw [hkept.held.tctFrom] at hn
  exact (hbound agentId p hp port n hn).trans hkept.held.responses

/-- Processes stay bounded when one of them receives a token. -/
theorem bounded_received {holder : String} {c : AdminCall} {d d' : Dict String AgentProcess}
    {replaced : Option Int} (h : Received setting holder c d d' replaced)
    (hbound : Bounded d) : Bounded d' := by
  cases h with
  | nothing kept => exact bounded_kept kept hbound
  | @token p p' q r hp hr hq stored hd' denied =>
    subst hd'
    intro agentId p₁ hp₁ port n hn
    -- Only the holder has a new token, and it came in the newest response.
    rw [Dict.get?_set] at hp₁
    split at hp₁
    case isTrue =>
      cases hp₁
      rw [stored.tctFrom] at hn
      split at hn
      case isTrue =>
        cases hn
        exact Nat.le_refl _
      case isFalse =>
        rw [hq.tctFrom] at hn
        have hle := hbound holder p hp port n hn
        have hlater := hq.responses
        have hnext := stored.responses
        omega
    case isFalse => exact hbound agentId p₁ hp₁ port n hn

/-- A request leaves a token alone, unless it is that of its holder for the port it replaced. -/
theorem heldTcts_received {holder : String} {c : AdminCall} {d d' : Dict String AgentProcess}
    {replaced : Option Int} (h : Received setting holder c d d' replaced) {agentId : String}
    {port : Int} (hne : holder = agentId → replaced ≠ some port) {p : AgentProcess}
    (hp : d.get? agentId = some p) :
    ∃ p', d'.get? agentId = some p' ∧ p'.heldTcts.get? port = p.heldTcts.get? port := by
  cases h with
  | nothing kept =>
    obtain ⟨p', hp', hkept⟩ := kept.get? hp
    exact ⟨p', hp', by rw [hkept.held.heldTcts]⟩
  | @token p₁ p' q r hp₁ hr hq stored hd' denied =>
    subst hd'
    -- The request was made to another agent, or stored under another port.
    by_cases heq : holder = agentId
    · subst heq
      obtain rfl : p₁ = p := Option.some.inj (hp₁.symm.trans hp)
      refine ⟨p', Dict.get?_set_self _ _ _, ?_⟩
      have hport : r.port ≠ port := fun h => hne rfl (congrArg some h)
      rw [stored.heldTcts, if_neg hport, hq.heldTcts]
    · exact ⟨p, (Dict.get?_set_ne _ _ heq).trans hp, rfl⟩

/-- An eager handshake or a step that returns. -/
theorem workStep_cases {l : WorkLabel} (hbound : Bounded s.processes)
    (h : workStep setting s l = some s') : StepShape setting s l s' := by
  rw [workStep_eq_some] at h
  cases l with
  | eager a b world => exact shape_eager hbound h
  | step step world =>
    have hR := stepRules_frame setting step.id
    change dispatchStep setting step world s = .ok () s' at h
    unfold dispatchStep at h
    cases htype : inferType step with
    | none =>
      rw [htype] at h
      -- A `meta` step emits `step.skipped` only.
      exact .inl ((within_emit hR _ _ (by decide)).of_ok h)
    | some type =>
      cases hfault : step.fault with
      | some fault =>
        rw [htype, hfault] at h
        -- Of the actions with a fault, only a handshake reaches a token request.
        by_cases hhandshake : type = .handshake
        · subst hhandshake
          exact shape_faultHandshake hbound htype h
        · refine .inl ((within_dispatchFaultInjected hR type fault world fun _ _ _ => ?_).of_ok h)
          exact within_faultAction hR hhandshake _ _ _ _
      | none =>
        rw [htype, hfault] at h
        cases htokens : handsOut type with
        | false => exact .inl ((within_dispatchType hR htokens world).of_ok h)
        | true =>
          -- One case for each step type that hands out tokens.
          unfold handsOut at htokens
          split at htokens
          · exact shape_handshake hbound htype h
          · exact shape_redeem hbound htype hfault h
          · exact shape_renew hbound htype h
          · exact .inl (frame_rotate h)
          · cases htokens

/-- Every step keeps them bounded. -/
theorem bounded_workStep {l : WorkLabel} (hbound : Bounded s.processes)
    (h : workStep setting s l = some s') : Bounded s'.processes := by
  -- Frames keep the bound, and a request numbers its response anew.
  rcases workStep_cases hbound h with hframe | ⟨events, op, c, s₂, -, -, hhanded, hframe⟩
  · exact bounded_kept hframe.processes hbound
  · exact bounded_kept hframe.processes (bounded_received hhanded.received hbound)

/-! ### Runs -/

/-- A run before its first handshake. -/
structure Launched (s : Workflow) : Prop where
  ops : s.ops = []
  events : trustEvents s.events = []
  outputs : s.outputs.entries = []
  held : ∀ agentId p, s.processes.get? agentId = some p →
    p.heldTcts = Dict.empty ∧ p.tctFrom = Dict.empty

/-- What is within the frame keeps the workflow as launched. -/
theorem launched_frame (h : Frame none s s') (hs : Launched s) : Launched s' := by
  refine ⟨h.ops.trans hs.ops, h.events.trans hs.events, ?_, ?_⟩
  · rcases h.outputs with hsame | ⟨id, hid, -⟩
    · rw [hsame]
      exact hs.outputs
    · cases hid
  · intro agentId p' hp'
    obtain ⟨p, hp, hkept⟩ := h.processes.get?_before hp'
    rw [hkept.held.heldTcts, hkept.held.tctFrom]
    exact hs.held agentId p hp

/-- At the launch the processes are bounded, as they hold nothing. -/
theorem bounded_launched (h : Launched s) : Bounded s.processes := by
  intro agentId p hp port n hn
  rw [(h.held agentId p hp).2] at hn
  cases hn

/-- The handshakes and the steps of a run start after the first trust stores, in a state without
tokens. -/
theorem launched_runUpTo {worlds : RunWorld} {n : Nat} {s₀ : Workflow} (h : Launched s₀)
    (hrun : runUpTo setting worlds n s₀ = .ok () s) :
    ∃ s₁, Launched s₁ ∧ Reach (workStep setting) anyStep s₁ s := by
  obtain ⟨s₁, fields, hpush, hreach⟩ := reach_runUpTo hrun
  have hpushed : Frame none s₀ s₁ := frame_pushTrustedPeers.of_ok hpush
  refine ⟨_, launched_frame (IsTrans.trans _ _ _ hpushed ?_) h, hreach⟩
  exact frame_emit _ (ne_of_beq_false rfl)

end AitpPlayground.Proofs.Runner
