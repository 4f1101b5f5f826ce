import AitpPlayground.Proofs.Agents.Redemption
import AitpPlayground.Proofs.Runner.TokenOps
import AitpPlayground.Proofs.Runner.TrustStores

/-!
# `AitpPlayground.Proofs.Runner.Delegation`: the delegators behind a grant

A `delegate` step carries forward the delegators behind the grant that it delegates.
`_held_delegation_chain` reads them from the outputs: the last output of a `redeem_delegation`
step of the two agents has them. But a handshake replaces the grant and leaves no output with
delegators, and a redemption in probe mode leaves none either.

`recordedChain` is what the outputs say, as a function of the operations of the run, and
`grantChain` is who is behind the grant. `heldDelegationChain_run` says that the scan returns
the first. A redemption that returns outside probe mode gives the grant, so the two agree as
long as no other operation changes who is behind it (`Traced`), and then a `delegate` step
records the right delegators (`delegators_recorded`).

The scan goes by the outputs, and an output can be overwritten by a later step with the same
id, or be an answer of an agent that happens to have a member `delegation_chain`. `OwnOutputs`
excludes both.
-/

set_option autoImplicit false

namespace AitpPlayground.Proofs.Runner

open AitpPlayground.Lib
open AitpPlayground.Lib.Act
open AitpPlayground.Agents
open AitpPlayground.Hosting
open AitpPlayground.Registry
open AitpPlayground.Runner
open AitpPlayground.Proofs.Agents

variable {setting : RunSetting} {s s' : Workflow}

/-! ### Who is behind a grant -/

/-- The delegators of a grant that comes from an operation of this kind. -/
def delegators : TokenOpKind → List Json
  | .redemption chain _ => chain
  | .handshake | .renewal => []

/-- The operation gave `holder` the grant that it has from `issuer` under this port: it replaced
the token. A renewal renews the grant that is there. -/
def GivesGrant (holder issuer : String) (port : Int) (op : TokenOp) : Prop :=
  op.holder = holder ∧ op.issuer = issuer ∧ op.replaced = some port ∧ op.kind ≠ .renewal

instance (holder issuer : String) (port : Int) (op : TokenOp) :
    Decidable (GivesGrant holder issuer port op) :=
  inferInstanceAs (Decidable (_ ∧ _ ∧ _ ∧ _))

/-- The delegators behind the grant that `holder` has from `issuer` under this port. -/
def grantChain (ops : List TokenOp) (holder issuer : String) (port : Int) : List Json :=
  ((ops.find? fun op => decide (GivesGrant holder issuer port op)).map
    fun op => delegators op.kind).getD []

/-- The redemption of a delegation outside probe mode. -/
def IsRecorded (op : TokenOp) : Prop :=
  match op.kind with
  | .redemption _ false => True
  | _ => False

instance (op : TokenOp) : Decidable (IsRecorded op) := by
  unfold IsRecorded
  split <;> infer_instance

/-- The delegators of the last redemption of `holder` at `issuer` outside probe mode. -/
def recordedChain (ops : List TokenOp) (holder issuer : String) : List Json :=
  ((ops.find? fun op => decide (op.holder = holder ∧ op.issuer = issuer ∧ IsRecorded op)).map
    fun op => delegators op.kind).getD []

/-- The last operation that gave the grant was a redemption outside probe mode, or it left the
delegators as they were and the same holds of the operations before it. -/
def Traced (holder issuer : String) (port : Int) : List TokenOp → Prop
  | [] => True
  | op :: before =>
    if GivesGrant holder issuer port op then
      IsRecorded op ∨
        delegators op.kind = grantChain before holder issuer port ∧
          Traced holder issuer port before
    else Traced holder issuer port before

/-- Whether it holds can be computed. -/
def decidableTraced (holder issuer : String) (port : Int) :
    (ops : List TokenOp) → Decidable (Traced holder issuer port ops)
  | [] => inferInstanceAs (Decidable True)
  | op :: before =>
    have := decidableTraced holder issuer port before
    inferInstanceAs (Decidable (if GivesGrant holder issuer port op then
      IsRecorded op ∨ delegators op.kind = grantChain before holder issuer port ∧
        Traced holder issuer port before
      else Traced holder issuer port before))

instance (holder issuer : String) (port : Int) (ops : List TokenOp) :
    Decidable (Traced holder issuer port ops) := decidableTraced holder issuer port ops

/-! ### Outputs -/

/-- The output has delegators. -/
def chained (out : Json) : Bool := ((chainField out).filter Json.truthy).isSome

/-- The output of this step has delegators. -/
def chainedAt (outputs : Dict String Json) (stepId : String) : Bool :=
  ((outputs.get? stepId).map chained).getD false

/-- The step records the delegators of a redemption. -/
def RecordsChain (step : WorkflowStep) : Prop :=
  inferType step = some .redeemDelegation ∧ step.fault = none ∧ step.expectStatus = none

instance (step : WorkflowStep) : Decidable (RecordsChain step) :=
  inferInstanceAs (Decidable (_ ∧ _ ∧ _))

/-- A redemption records its delegators under a new id, and no other step replaces or records
any. -/
def OwnOutputs (setting : RunSetting) (s : Workflow) : WorkLabel → Prop
  | .eager _ _ _ => True
  | .step step world =>
    if RecordsChain step then step.id ∉ s.outputs.keys
    else chainedAt s.outputs step.id = false ∧
      ∀ s' ∈ workStep setting s (.step step world), chainedAt s'.outputs step.id = false

instance (setting : RunSetting) (s : Workflow) (l : WorkLabel) :
    Decidable (OwnOutputs setting s l) := by
  cases l with
  | eager a b world => exact inferInstanceAs (Decidable True)
  | step step world =>
    exact inferInstanceAs (Decidable (if RecordsChain step then _ else _ ∧ ∀ s' ∈ _, _))

/-- The outputs with delegators, in order. -/
def chainedOutputs (outputs : Dict String Json) : List Json :=
  (outputs.entries.map Prod.snd).filter chained

/-- The scan passes over the other outputs. -/
theorem scanChains_filter (holder issuer : String) (outs : List Json) :
    scanChains holder issuer (outs.filter chained) = scanChains holder issuer outs := by
  induction outs with
  | nil => rfl
  | cons out rest ih =>
    by_cases h : chained out = true
    · rw [List.filter_cons_of_pos h]
      unfold scanChains
      rw [ih]
    · rw [List.filter_cons_of_neg h, ih]
      have hnone : (chainField out).filter Json.truthy = none := by
        unfold chained at h
        simpa only [Bool.not_eq_true, Option.isSome_eq_false_iff, Option.isNone_iff_eq_none] using h
      simp only [scanChains, hnone]

/-- The search goes through the chained outputs, newest first. -/
theorem heldDelegationChain_eq (outputs : Dict String Json) (holder issuer : String) :
    heldDelegationChain outputs holder issuer =
      scanChains holder issuer (chainedOutputs outputs).reverse := by
  unfold heldDelegationChain chainedOutputs
  rw [← List.filter_reverse, scanChains_filter]

/-- An output without delegators in the place of another one. -/
theorem chainedOutputs_set {outputs : Dict String Json} {stepId : String} {value : Json}
    (hbefore : chainedAt outputs stepId = false) (hafter : chained value = false) :
    chainedOutputs (outputs.set stepId value) = chainedOutputs outputs := by
  have hoverwrite : ∀ l : List (String × Json), (∀ e ∈ l, e.1 = stepId → chained e.2 = false) →
      ((Dict.overwrite stepId value l).map Prod.snd).filter chained =
        (l.map Prod.snd).filter chained := by
    -- By induction on the entries, since `Dict.set` keeps the place of a key.
    intro l hl
    induction l with
    | nil => rfl
    | cons e rest ih =>
      have hrest := ih fun e' he' => hl e' (List.mem_cons_of_mem _ he')
      by_cases hkey : e.1 = stepId
      · have hold : chained e.2 = false := hl e (List.mem_cons_self ..) hkey
        simp only [Dict.overwrite, List.map_cons, if_pos hkey] at hrest ⊢
        rw [List.filter_cons_of_neg (by simp [hafter]), List.filter_cons_of_neg (by simp [hold]),
          hrest]
      · simp only [Dict.overwrite, List.map_cons, if_neg hkey] at hrest ⊢
        rw [List.filter_cons, List.filter_cons, hrest]
  unfold chainedOutputs
  by_cases hmem : stepId ∈ outputs.keys
  · rw [Dict.entries_set_of_mem value hmem]
    refine hoverwrite outputs.entries ?_
    intro e he hkey
    have hget : outputs.get? stepId = some e.2 := (Dict.get?_eq_some_iff _ _ _).mpr (hkey ▸ he)
    unfold chainedAt at hbefore
    rw [hget] at hbefore
    exact hbefore
  · rw [Dict.entries_set_of_notMem value hmem, List.map_append, List.filter_append]
    simp [hafter]

/-- A new output with delegators. -/
theorem chainedOutputs_set_new {outputs : Dict String Json} {stepId : String} {value : Json}
    (hnew : stepId ∉ outputs.keys) (hvalue : chained value = true) :
    chainedOutputs (outputs.set stepId value) = chainedOutputs outputs ++ [value] := by
  unfold chainedOutputs
  rw [Dict.entries_set_of_notMem value hnew, List.map_append, List.filter_append]
  simp [hvalue]

/-! ### Records -/

/-- The output of a redemption: its delegators are found for its two agents, and the scan goes
on for others. -/
theorem scanChains_record {out : Json} {delegatee target : String} {chain : List Json}
    (hout : chainField out = some (chainOf delegatee target chain)) (holder issuer : String)
    (rest : List Json) :
    scanChains holder issuer (out :: rest) =
      if delegatee = holder ∧ target = issuer then .ok chain
      else scanChains holder issuer rest := by
  have hnodup : ([("holder", Json.str delegatee), ("issuer", .str target),
      ("issuer_manifest_urls", .arr chain)].map Prod.fst).Nodup := by simp
  have hfield : ∀ key, (Dict.ofList [("holder", Json.str delegatee), ("issuer", .str target),
      ("issuer_manifest_urls", .arr chain)]).get? key = _ := Dict.get?_ofList hnodup
  -- The three members that the scan reads.
  have hholder : (chainOf delegatee target chain).member "holder" = .ok (.str delegatee) := by
    simp only [Json.member, chainOf, Json.dict?, hfield]
    rfl
  have hissuer : (chainOf delegatee target chain).member "issuer" = .ok (.str target) := by
    simp only [Json.member, chainOf, Json.dict?, hfield]
    rfl
  have hurls : (chainOf delegatee target chain).memberOr "issuer_manifest_urls" (.arr []) =
      .ok (.arr chain) := by
    simp only [Json.memberOr, chainOf, Json.dict?, hfield]
    rfl
  have htruthy : (some (chainOf delegatee target chain)).filter Json.truthy =
      some (chainOf delegatee target chain) := rfl
  rw [scanChains, hout, htruthy]
  simp only [hholder, hissuer, hurls]
  show (if Json.str delegatee = .str holder then
    (if Json.str target = .str issuer then _ else _) else _) = _
  -- The scan compares the two agents one after the other.
  by_cases hd : delegatee = holder
  · by_cases ht : target = issuer
    · rw [if_pos (congrArg Json.str hd), if_pos (congrArg Json.str ht), if_pos ⟨hd, ht⟩]
      rfl
    · rw [if_pos (congrArg Json.str hd), if_neg fun h => ht (Json.str.inj h),
        if_neg fun h => ht h.2]
  · rw [if_neg fun h => hd (Json.str.inj h), if_neg fun h => hd h.1]

/-- A member that was just assigned. -/
theorem chainField_setItem {data data' value : Json}
    (h : data.setItem "delegation_chain" value = .ok data') : chainField data' = some value := by
  unfold Json.setItem at h
  cases hdict : data.dict? with
  | none =>
    rw [hdict] at h
    cases h
  | some d =>
    rw [hdict] at h
    cases h
    show (Dict.ofList (d.set "delegation_chain" value).entries).get? "delegation_chain" = _
    rw [Dict.ofList_entries, Dict.get?_set_self]

/-- What a redemption outside probe mode leaves in the outputs. -/
theorem recordRedemption_eq_ok {step : WorkflowStep} {delegatee target : String} {urls : Json}
    {r : Reply} (h : recordRedemption setting step delegatee target urls r s = .ok () s') :
    ∃ data, r.isSuccess = true ∧
      chainField data = some (chainOf delegatee target (itemsOf urls)) ∧
      s'.outputs = s.outputs.set step.id data ∧ s'.ops = s.ops ∧ s'.running = s.running := by
  obtain ⟨u, s₁, hrun, h⟩ := bind_eq_ok.mp h
  obtain ⟨hsuccess, rfl⟩ := raiseForStatus_eq_ok hrun
  -- `data` is the answer of the target, and `data'` has the delegators too.
  obtain ⟨data, s₁, hrun, h⟩ := bind_eq_ok.mp h
  obtain ⟨-, rfl⟩ := ofExcept_eq_ok.mp hrun
  obtain ⟨chain, s₁, hrun, h⟩ := bind_eq_ok.mp h
  obtain ⟨hchain, rfl⟩ := ofExcept_eq_ok.mp hrun
  obtain ⟨data', s₁, hrun, h⟩ := bind_eq_ok.mp h
  obtain ⟨hset, rfl⟩ := ofExcept_eq_ok.mp hrun
  obtain ⟨u, s₁, hrun, h⟩ := bind_eq_ok.mp h
  obtain rfl := modify_eq_ok.mp hrun
  obtain rfl := emit_eq_ok h
  have hitems : itemsOf urls = chain := by
    unfold itemsOf
    rw [hchain]
    rfl
  exact ⟨data', hsuccess, hitems ▸ chainField_setItem hset, rfl, rfl, rfl⟩

/-! ### Runs -/

/-- What holds in every run: the scan of the outputs returns what the operations recorded, and a
redemption that was recorded has given its grant. -/
structure Chained (s : Workflow) : Prop where
  bounded : Bounded s.processes
  scan : ∀ holder issuer,
    scanChains holder issuer (chainedOutputs s.outputs).reverse =
      .ok (recordedChain s.ops holder issuer)
  gives : ∀ op ∈ s.ops, IsRecorded op →
    ∃ ra, s.running.get? op.issuer = some ra ∧ op.replaced = some ra.port

/-- At the launch there are no outputs. -/
theorem chained_launched (h : Launched s) : Chained s := by
  refine ⟨bounded_launched h, ?_, ?_⟩
  · intro holder issuer
    unfold chainedOutputs
    rw [h.outputs, h.ops]
    rfl
  · intro op hop
    rw [h.ops] at hop
    cases hop

/-- An operation of these two that is recorded counts, and any other does not. -/
theorem recordedChain_cons (op : TokenOp) (ops : List TokenOp) (holder issuer : String) :
    recordedChain (op :: ops) holder issuer =
      if op.holder = holder ∧ op.issuer = issuer ∧ IsRecorded op then delegators op.kind
      else recordedChain ops holder issuer := by
  unfold recordedChain
  rw [List.find?_cons]
  by_cases h : op.holder = holder ∧ op.issuer = issuer ∧ IsRecorded op
  · rw [decide_eq_true h, if_pos h]
    rfl
  · rw [decide_eq_false h, if_neg h]

/-- Operations that record nothing leave the recorded chain. -/
theorem recordedChain_append {new : List TokenOp} (hnew : ∀ op ∈ new, ¬IsRecorded op)
    (ops : List TokenOp) (holder issuer : String) :
    recordedChain (new ++ ops) holder issuer = recordedChain ops holder issuer := by
  induction new with
  | nil => rfl
  | cons op new ih =>
    rw [List.cons_append, recordedChain_cons, if_neg, ih]
    · exact fun op' hop' => hnew op' (List.mem_cons_of_mem _ hop')
    · exact fun h => hnew op (List.mem_cons_self ..) h.2.2

/-- What a label does that records no delegators. -/
structure RecordsNothing (l : WorkLabel) (s s' : Workflow) : Prop where
  ports : ∀ agentId, (s'.running.get? agentId).map RunningAgent.port =
    (s.running.get? agentId).map RunningAgent.port
  outputs : s'.outputs = s.outputs ∨
    ∃ id ∈ outputId l, ∃ value, s'.outputs = s.outputs.set id value
  ops : ∃ new, s'.ops = new ++ s.ops ∧ ∀ op ∈ new, ¬IsRecorded op

/-- The operation of a label that records no delegators. -/
theorem Requests.not_isRecorded {l : WorkLabel} {op : TokenOp} {c : AdminCall}
    (h : Requests l op c) (hl : ∀ step world, l = .step step world → ¬RecordsChain step) :
    ¬IsRecorded op := by
  unfold IsRecorded
  cases h with
  | eager url holder issuer kind =>
    rw [kind]
    exact not_false
  | handshake url type holder issuer kind =>
    rw [kind]
    exact not_false
  | renewal port type kind =>
    rw [kind]
    exact not_false
  | redemption redeemUrl port type fault holder issuer kind =>
    rw [kind]
    -- Outside probe mode the step would record its delegators.
    split
    case h_1 chain hkind =>
      obtain ⟨-, hprobe⟩ := TokenOpKind.redemption.inj hkind
      exact fun _ => hl _ _ rfl ⟨type, fault, by simpa using hprobe⟩
    case h_2 => exact not_false

/-- A step that records no chain adds such operations only. -/
theorem recordsNothing_workStep {l : WorkLabel} (hbound : Bounded s.processes)
    (hl : ∀ step world, l = .step step world → ¬RecordsChain step)
    (h : workStep setting s l = some s') : RecordsNothing l s s' := by
  rcases workStep_cases hbound h with
    hframe | ⟨events, op, c, s₂, -, hrequests, hhanded, hframe⟩
  · refine ⟨hframe.ports, hframe.outputs, [], hframe.ops, ?_⟩
    intro op hop
    cases hop
  · refine ⟨?_, ?_, [op], ?_, ?_⟩
    · intro agentId
      rw [hframe.ports, hhanded.running]
    · have houtputs := hframe.outputs
      rw [hhanded.outputs] at houtputs
      exact houtputs
    · rw [hframe.ops, hhanded.ops]
      rfl
    · intro op' hop'
      rw [List.mem_singleton.mp hop']
      exact hrequests.not_isRecorded hl

/-- Such a label, when the outputs with delegators stay. -/
theorem chained_recordsNothing {l : WorkLabel} (hs : Chained s) (hbound : Bounded s'.processes)
    (h : RecordsNothing l s s')
    (houtputs : chainedOutputs s'.outputs = chainedOutputs s.outputs) : Chained s' := by
  obtain ⟨new, hops, hnew⟩ := h.ops
  refine ⟨hbound, ?_, ?_⟩
  · intro holder issuer
    rw [houtputs, hops, recordedChain_append hnew]
    exact hs.scan holder issuer
  · intro op hop hrecorded
    rw [hops] at hop
    obtain ⟨ra, hra, hreplaced⟩ :=
      hs.gives op ((List.mem_append.mp hop).resolve_left fun h => hnew op h hrecorded) hrecorded
    have hport := h.ports op.issuer
    rw [hra, Option.map_some, Option.map_eq_some_iff] at hport
    obtain ⟨ra', hra', hsame⟩ := hport
    exact ⟨ra', hra', by rw [hreplaced, hsame]⟩

/-- A route that is answered with a success returned. -/
theorem isSuccess_ofRoute {result : EStateM.Result AdminExc AgentProcess Json}
    (h : (Reply.ofRoute result).isSuccess = true)
    (hrefuses : ∀ e q, result = .error e q → Refuses e) : ∃ value q, result = .ok value q := by
  cases result with
  | ok value q => exact ⟨value, q, rfl⟩
  | error e q =>
    have hstatus := of_decide_eq_true h
    cases e <;> exact absurd hstatus (hrefuses _ q rfl)

/-- A redemption that was a success has received a token for the port of its target. -/
theorem receipt_redeemCall {redeemUrl : String} {token urls : Json} {port : Int}
    {world : StepWorld} {p : AgentProcess}
    (hsuccess : (Reply.ofRoute ((redeemCall redeemUrl token urls port world).route setting.sdk
      setting.py p)).isSuccess = true) :
    (receipt setting.sdk setting.py p (redeemCall redeemUrl token urls port world)).map
      Receipt.port = some port := by
  obtain ⟨value, q, hroute⟩ := isSuccess_ofRoute hsuccess fun e q hraised =>
    refuses_redeemDelegation setting.sdk setting.py _ _ _ _ p e q hraised
  have hport : ((Json.obj [("redeem_url", .str redeemUrl), ("delegation_token", token),
      ("peer_port", .num (.int port)), ("issuer_manifest_urls", urls)]).item "peer_port").bind
        setting.py.int = .ok port := by
    unfold Json.item Json.dict?
    simp only
    rw [Dict.get?_ofList (by simp)]
    rfl
  obtain ⟨r, hr, hrport⟩ := receipt_redeemDelegation setting.sdk setting.py hport hroute
  unfold redeemCall
  rw [hr, Option.map_some, hrport]

/-- A redemption that records its delegators under a new id. -/
theorem chained_redemption {step : WorkflowStep} {world : StepWorld} (hs : Chained s)
    (hrecords : RecordsChain step) (hnew : step.id ∉ s.outputs.keys)
    (hbound : Bounded s'.processes) (h : dispatchStep setting step world s = .ok () s') :
    Chained s' := by
  obtain ⟨htype, hfault, hprobe⟩ := hrecords
  have hcode : dispatchRedeemDelegation setting step world s = .ok () s' := by
    unfold dispatchStep at h
    rw [htype, hfault] at h
    exact h
  obtain ⟨events, op, redeemUrl, token, urls, ra, p, s₂, -, -, hkind, hra, hreplaced, hhanded,
    hanswer⟩ := redemption_eq_ok hs.bounded htype hfault hcode
  -- Outside probe mode the operation has the kind that counts as recorded.
  rw [hprobe] at hkind
  unfold recordAnswer at hanswer
  rw [hprobe] at hanswer
  obtain ⟨data, hsuccess, hdata, houtputs, hops, hrunning⟩ := recordRedemption_eq_ok hanswer
  have hvalue : chained data = true := by
    unfold chained
    rw [hdata]
    rfl
  have hrecorded : IsRecorded op := by
    unfold IsRecorded
    rw [hkind]
    exact trivial
  have hdelegators : delegators op.kind = itemsOf urls := by
    rw [hkind]
    rfl
  refine ⟨hbound, ?_, ?_⟩
  · intro holder issuer
    -- The new output comes last, so the reversed scan meets it first.
    rw [houtputs, hhanded.outputs, hops, hhanded.ops, chainedOutputs_set_new hnew hvalue,
      List.reverse_append, List.reverse_singleton, List.singleton_append,
      scanChains_record hdata, recordedChain_cons, hdelegators, hs.scan holder issuer]
    by_cases hagents : op.holder = holder ∧ op.issuer = issuer
    · rw [if_pos hagents, if_pos ⟨hagents.1, hagents.2, hrecorded⟩]
    · rw [if_neg hagents, if_neg fun h => hagents ⟨h.1, h.2.1⟩]
  · intro op' hop' hrecorded'
    rw [hrunning, hhanded.running]
    rw [hops, hhanded.ops] at hop'
    -- The redemption was a success, so it replaced the token for the port of its target.
    rcases List.mem_cons.mp hop' with rfl | hearlier
    · rw [receipt_redeemCall hsuccess] at hreplaced
      exact ⟨ra, hra, hreplaced⟩
    · exact hs.gives op' hearlier hrecorded'

/-- One eager handshake or step. -/
theorem chained_workStep {l : WorkLabel} (hs : Chained s) (hown : OwnOutputs setting s l)
    (h : workStep setting s l = some s') : Chained s' := by
  have hbound := bounded_workStep hs.bounded h
  cases l with
  | eager a b world =>
    have hl : ∀ step world', WorkLabel.eager a b world = .step step world' →
        ¬RecordsChain step := by
      intro step world' heq
      cases heq
    have hnothing := recordsNothing_workStep hs.bounded hl h
    refine chained_recordsNothing hs hbound hnothing ?_
    rcases hnothing.outputs with hsame | ⟨id, hid, -⟩
    · rw [hsame]
    · cases hid
  | step step world =>
    change if RecordsChain step then step.id ∉ s.outputs.keys
      else chainedAt s.outputs step.id = false ∧
        ∀ s' ∈ workStep setting s (.step step world), chainedAt s'.outputs step.id = false at hown
    -- `OwnOutputs` asks for a new id of a redemption, and of others that they have no delegators.
    by_cases hrecords : RecordsChain step
    · rw [if_pos hrecords] at hown
      exact chained_redemption hs hrecords hown hbound (workStep_eq_some.mp h)
    · rw [if_neg hrecords] at hown
      obtain ⟨hbefore, hafter⟩ := hown
      have hl : ∀ step' world', WorkLabel.step step world = .step step' world' →
          ¬RecordsChain step' := by
        intro step' world' heq
        cases heq
        exact hrecords
      have hnothing := recordsNothing_workStep hs.bounded hl h
      refine chained_recordsNothing hs hbound hnothing ?_
      rcases hnothing.outputs with hsame | ⟨id, hid, value, hset⟩
      · rw [hsame]
      · cases hid
        have hvalue := hafter s' h
        unfold chainedAt at hvalue
        rw [hset, Dict.get?_set_self] at hvalue
        rw [hset]
        exact chainedOutputs_set hbefore hvalue

/-- The outputs tell the recorded chain in every run. -/
theorem chained_run {s₀ : Workflow} (hlaunched : Launched s₀)
    (hrun : Reach (workStep setting) (OwnOutputs setting) s₀ s) : Chained s :=
  hrun.invariant (fun _ _ _ hs hown h => chained_workStep hs hown h) (chained_launched hlaunched)

/-- The scan of the outputs, wherever a run has come to. -/
theorem heldDelegationChain_run (hs : Chained s) (holder issuer : String) :
    heldDelegationChain s.outputs holder issuer = .ok (recordedChain s.ops holder issuer) := by
  rw [heldDelegationChain_eq, hs.scan]

/-- What was recorded is who is behind the grant, as long as the grant can be traced. -/
theorem recordedChain_eq_grantChain {holder issuer : String} {port : Int} {ops : List TokenOp}
    (hgives : ∀ op ∈ ops, IsRecorded op → op.issuer = issuer → op.replaced = some port)
    (htraced : Traced holder issuer port ops) :
    recordedChain ops holder issuer = grantChain ops holder issuer port := by
  induction ops with
  | nil => rfl
  | cons op before ih =>
    have ih := ih fun op' hop' => hgives op' (List.mem_cons_of_mem _ hop')
    have hgrant : grantChain (op :: before) holder issuer port =
        if GivesGrant holder issuer port op then delegators op.kind
        else grantChain before holder issuer port := by
      unfold grantChain
      rw [List.find?_cons]
      by_cases h : GivesGrant holder issuer port op
      · rw [decide_eq_true h, if_pos h]
        rfl
      · rw [decide_eq_false h, if_neg h]
    change if GivesGrant holder issuer port op then _ else _ at htraced
    rw [recordedChain_cons, hgrant]
    by_cases h : GivesGrant holder issuer port op
    · rw [if_pos h] at htraced ⊢
      obtain ⟨hholder, hissuer, -, -⟩ := h
      -- Of the operations that gave the grant, those that were not recorded kept its delegators.
      by_cases hrecorded : IsRecorded op
      · rw [if_pos ⟨hholder, hissuer, hrecorded⟩]
      · obtain ⟨hsame, hbefore⟩ := htraced.resolve_left hrecorded
        rw [if_neg fun h => hrecorded h.2.2, hsame, ih hbefore]
    · rw [if_neg h] at htraced ⊢
      rw [if_neg, ih htraced]
      -- A redemption of these two that was recorded has given the grant.
      rintro ⟨hholder, hissuer, hrecorded⟩
      refine h ⟨hholder, hissuer, hgives op (List.mem_cons_self ..) hrecorded hissuer, ?_⟩
      intro hkind
      unfold IsRecorded at hrecorded
      rw [hkind] at hrecorded
      exact hrecorded

/-! ### Delegations -/

/-- The `issuer_manifest_urls` that a step recorded. -/
def recordedUrls (s : Workflow) (stepId : String) : Option Json := do
  let out ← s.outputs.get? stepId
  let d ← out.dict?
  d.get? "issuer_manifest_urls"

/-- A member that was just assigned, of an output that was just recorded. -/
theorem recordedUrls_set {stepId : String} {data data' urls : Json}
    (hset : data.setItem "issuer_manifest_urls" urls = .ok data')
    (houtputs : s'.outputs = s.outputs.set stepId data') :
    recordedUrls s' stepId = some urls := by
  unfold recordedUrls
  rw [houtputs, Dict.get?_set_self]
  unfold Json.setItem at hset
  cases hdict : data.dict? with
  | none =>
    rw [hdict] at hset
    cases hset
  | some d =>
    rw [hdict] at hset
    cases hset
    show (Dict.ofList (d.set "issuer_manifest_urls" urls).entries).get? _ = _
    rw [Dict.ofList_entries, Dict.get?_set_self]

/-- A delegation that returns has recorded what the scan returned, and one more URL. -/
theorem recordedUrls_delegate {step : WorkflowStep} {world : StepWorld} {delegator via : String}
    (hdelegator : step.delegator = some delegator) (hvia : step.viaPeer = some via)
    (h : dispatchDelegate setting step world s = .ok () s') :
    ∃ chain last, heldDelegationChain s.outputs delegator via = .ok chain ∧
      recordedUrls s' step.id = some (.arr (chain ++ [last])) := by
  unfold dispatchDelegate at h
  rcases given_cases hdelegator with hnone | hd
  · rw [hnone] at h
    cases h
  · rcases given_cases hvia with hnone | hv
    · rw [hd, hnone] at h
      cases hdelegatee : given step.delegatee <;> rw [hdelegatee] at h <;> cases h
    · cases hdelegatee : given step.delegatee with
      | none =>
        rw [hd, hdelegatee] at h
        cases h
      | some delegatee =>
        rw [hd, hv, hdelegatee] at h
        obtain ⟨delegatorRa, s₁, hrun, h⟩ := bind_eq_ok.mp h
        obtain ⟨-, rfl⟩ := runningAgent_eq_ok hrun
        obtain ⟨viaRa, s₁, hrun, h⟩ := bind_eq_ok.mp h
        obtain ⟨-, rfl⟩ := runningAgent_eq_ok hrun
        obtain ⟨url, s₁, hrun, h⟩ := bind_eq_ok.mp h
        obtain ⟨-, rfl⟩ := peerUrl_eq_ok hrun
        -- An empty `scope` raises.
        split at h
        case isTrue => cases h
        case isFalse =>
          obtain ⟨u, s₁, hrun, h⟩ := bind_eq_ok.mp h
          obtain rfl := emit_eq_ok hrun
          obtain ⟨data, s₁, hrun, h⟩ := bind_eq_ok.mp h
          obtain ⟨p, -, -, -, rfl⟩ := requestAgent_eq_ok hrun
          obtain ⟨t, s₁, hrun, h⟩ := bind_eq_ok.mp h
          obtain ⟨rfl, rfl⟩ := get_eq_ok.mp hrun
          obtain ⟨chain, s₁, hrun, h⟩ := bind_eq_ok.mp h
          obtain ⟨hchain, rfl⟩ := ofExcept_eq_ok.mp hrun
          obtain ⟨data', s₁, hrun, h⟩ := bind_eq_ok.mp h
          obtain ⟨hset, rfl⟩ := ofExcept_eq_ok.mp hrun
          obtain ⟨u, s₁, hrun, h⟩ := bind_eq_ok.mp h
          obtain rfl := modify_eq_ok.mp hrun
          obtain ⟨aid, s₁, hrun, h⟩ := bind_eq_ok.mp h
          obtain ⟨-, rfl⟩ := ofExcept_eq_ok.mp hrun
          obtain rfl := emit_eq_ok h
          exact ⟨chain, _, hchain, recordedUrls_set (s := s) hset rfl⟩

/-- In every run in which no output with delegators is replaced or forged, a `delegate` step
records, before its last URL, the delegators behind the grant that the delegator has from
`via`, as long as this grant can be traced. -/
theorem delegators_recorded (setting : RunSetting) {s₀ s s' : Workflow} {step : WorkflowStep}
    {world : StepWorld} {delegator via : String} {ra : RunningAgent} (hlaunched : Launched s₀)
    (hrun : Reach (workStep setting) (OwnOutputs setting) s₀ s)
    (htype : inferType step = some .delegate) (hfault : step.fault = none)
    (hdelegator : step.delegator = some delegator) (hvia : step.viaPeer = some via)
    (hra : s.running.get? via = some ra)
    (hstep : workStep setting s (.step step world) = some s')
    (htraced : Traced delegator via ra.port s.ops) :
    ∃ urls, recordedUrls s' step.id = some (.arr urls) ∧
      urls.dropLast = grantChain s.ops delegator via ra.port := by
  have hchained := chained_run hlaunched hrun
  have hcode : dispatchDelegate setting step world s = .ok () s' := by
    have hdispatch := workStep_eq_some.mp hstep
    change dispatchStep setting step world s = .ok () s' at hdispatch
    unfold dispatchStep at hdispatch
    rw [htype, hfault] at hdispatch
    exact hdispatch
  obtain ⟨chain, last, hchain, hurls⟩ := recordedUrls_delegate hdelegator hvia hcode
  rw [heldDelegationChain_run hchained] at hchain
  cases hchain
  refine ⟨_, hurls, ?_⟩
  rw [List.dropLast_concat]
  refine recordedChain_eq_grantChain ?_ htraced
  -- A recorded redemption replaced the token for the port that its target still has.
  rintro op hop hrecorded rfl
  obtain ⟨ra', hra', hreplaced⟩ := hchained.gives op hop hrecorded
  rw [hreplaced, Option.some.inj (hra'.symm.trans hra)]

/-- Three agents that were just launched. -/
def launchedTrio : Workflow where
  running := .ofList [("a", agentAt "a" 9001), ("b", agentAt "b" 9002), ("c", agentAt "c" 9003)]
  processes := .ofList
    [("a", .start "aid:a" "manifest of a" false true),
     ("b", .start "aid:b" "manifest of b" false true),
     ("c", .start "aid:c" "manifest of c" false true)]
  events := []
  outputs := .empty
  cpWebhook := .null
  webhookIds := []
  ops := []

/-- The manifests of the three, and what `b` commits to and redeems. -/
def trioManifest (name port : String) : String × Json :=
  peerManifest ("aid:" ++ name) ("https://localhost:" ++ port ++ "/aitp/handshake/hello")

def trioLib : PyLib :=
  { peersLib [trioManifest "a" "9001", trioManifest "b" "9002", trioManifest "c" "9003",
      vouchedCommit "t1", vouchedCommit "t2"] with
      intOfStr := fun s =>
        if s = "9002" then .ok 9002
        else .error (.valueError "invalid literal for int() with base 10" none) }

def trioSetting : RunSetting :=
  { pairSetting trioLib [] with
      peers := .ofList
        [("a", some "https://localhost:9001/.well-known/aitp-manifest"),
         ("b", some "https://localhost:9002/.well-known/aitp-manifest"),
         ("c", some "https://localhost:9003/.well-known/aitp-manifest")] }

/-- `b` completes a handshake and a redemption. The manifest that is fetched is that of this
agent. -/
def trioWorld (manifest : String × Json) : StepWorld :=
  { silentWorld with
      handshake := peerWith (trioManifest "b" "9002") (vouchedCommit "t1")
      issuer := answerOf (vouchedCommit "t2").1
      manifest := answerOf manifest.1
      manifests := fun _ => answerOf manifest.1 }

/-- `a` delegates to `c` what it holds from `b`, and `c` redeems it. -/
def trioSteps (expectStatus : Option Int) : List WorkLabel :=
  [.step { id := "handshake", type := some .handshake, initiator := some "a"
           responder := some "b" } (trioWorld (trioManifest "b" "9002")),
   .step { id := "delegate", type := some .delegate, delegator := some "a", delegatee := some "c"
           viaPeer := some "b", scope := some ["demo.echo"] }
     (trioWorld (trioManifest "c" "9003")),
   .step { id := "redeem", type := some .redeemDelegation, delegatee := some "c"
           target := some "b", viaDelegation := some "delegate", expectStatus }
     (trioWorld (trioManifest "a" "9001"))]

/-- `c` delegates it on to `a`. -/
def onward : WorkflowStep :=
  { id := "onward", type := some .delegate, delegator := some "c", delegatee := some "a"
    viaPeer := some "b", scope := some ["demo.echo"] }

/-- The three agents of the concrete run are as launched. -/
theorem launched_trio : Launched launchedTrio := by
  refine ⟨rfl, rfl, rfl, ?_⟩
  intro agentId p hp
  have hmem := (Dict.get?_eq_some_iff _ _ _).mp hp
  rcases List.mem_cons.mp hmem with heq | hmem
  · cases heq
    exact ⟨rfl, rfl⟩
  · rcases List.mem_cons.mp hmem with heq | hmem
    · cases heq
      exact ⟨rfl, rfl⟩
    · cases List.mem_singleton.mp hmem
      exact ⟨rfl, rfl⟩

/-- The manifest URL of `a`. -/
def urlOfA : Json := .str "https://localhost:9001/.well-known/aitp-manifest"

/-- The state before the onward delegation, the one after it, and what is read off them: the
port of `b`, the delegators of the grant of `c`, whether they can be traced, and the URLs that
are recorded, without the last one. -/
def onward? (expectStatus : Option Int) :
    Option ((Workflow × Workflow) × Option Int × List Json × Bool × Option (List Json)) := do
  let s ← exec (workStep trioSetting) (OwnOutputs trioSetting) launchedTrio (trioSteps expectStatus)
  let s' ← workStep trioSetting s (.step onward (trioWorld (trioManifest "a" "9001")))
  let urls := (recordedUrls s' "onward").bind fun urls => urls.iter.toOption
  pure ((s, s'), (s.running.get? "b").map RunningAgent.port, grantChain s.ops "c" "b" 9002,
    decide (Traced "c" "b" 9002 s.ops), urls.map List.dropLast)

/-- What an evaluation reads, as facts about a run. -/
theorem onward_of_eval {expectStatus : Option Int} {chain : List Json} {traced : Bool}
    {urls : Option (List Json)}
    (h : (onward? expectStatus).map Prod.snd = some (some 9002, chain, traced, urls)) :
    ∃ s s' ra, Reach (workStep trioSetting) (OwnOutputs trioSetting) launchedTrio s ∧
      workStep trioSetting s (.step onward (trioWorld (trioManifest "a" "9001"))) = some s' ∧
      s.running.get? "b" = some ra ∧ ra.port = 9002 ∧ grantChain s.ops "c" "b" 9002 = chain ∧
      decide (Traced "c" "b" 9002 s.ops) = traced ∧
      ((recordedUrls s' "onward").bind fun urls => urls.iter.toOption).map List.dropLast =
        urls := by
  obtain ⟨read, hread, heq⟩ := Option.map_eq_some_iff.mp h
  obtain ⟨s, hs, hread⟩ := Option.bind_eq_some_iff.mp hread
  obtain ⟨s', hs', hread⟩ := Option.bind_eq_some_iff.mp hread
  cases hread
  simp only [Prod.mk.injEq] at heq
  obtain ⟨hport, hchain, htraced, hurls⟩ := heq
  obtain ⟨ra, hra, hport⟩ := Option.map_eq_some_iff.mp hport
  exact ⟨s, s', ra, reach_of_exec _ hs, hs', hra, hport, hchain, htraced, hurls⟩

/-- After a redemption outside probe mode the onward delegation carries its delegator. -/
theorem delegators_recorded_after_redemption :
    ∃ s s', Reach (workStep trioSetting) (OwnOutputs trioSetting) launchedTrio s ∧
      workStep trioSetting s (.step onward (trioWorld (trioManifest "a" "9001"))) = some s' ∧
      ∃ urls, recordedUrls s' "onward" = some (.arr urls) ∧ urls.dropLast = [urlOfA] := by
  have heval : (onward? none).map Prod.snd = some (some 9002, [urlOfA], true, some [urlOfA]) := by
    decide +kernel
  obtain ⟨s, s', ra, hrun, hstep, hra, hport, hchain, htraced, -⟩ := onward_of_eval heval
  obtain ⟨urls, hurls, hdrop⟩ := delegators_recorded trioSetting launched_trio hrun rfl rfl rfl rfl
    hra hstep (hport ▸ of_decide_eq_true htraced)
  rw [hport, hchain] at hdrop
  exact ⟨s, s', hrun, hstep, urls, hurls, hdrop⟩

/-- After a redemption in probe mode that the target accepted it does not. -/
theorem delegators_lost_after_probe :
    ¬ ∀ setting s₀ s s' step world delegator via ra, Launched s₀ →
      Reach (workStep setting) anyStep s₀ s → inferType step = some .delegate →
      step.fault = none → step.delegator = some delegator → step.viaPeer = some via →
      s.running.get? via = some ra → workStep setting s (.step step world) = some s' →
      ∃ urls, recordedUrls s' step.id = some (.arr urls) ∧
        urls.dropLast = grantChain s.ops delegator via ra.port := by
  intro hall
  -- The redemption expects the status 200, and gets it.
  have heval : (onward? (some 200)).map Prod.snd =
      some (some 9002, [urlOfA], false, some []) := by
    decide +kernel
  obtain ⟨s, s', ra, hrun, hstep, hra, hport, hchain, -, hdrop⟩ := onward_of_eval heval
  obtain ⟨urls, hurls, hgrant⟩ := hall trioSetting launchedTrio s s' onward _ "c" "b" ra
    launched_trio (hrun.weaken fun _ _ _ => trivial) rfl rfl rfl rfl hra hstep
  change recordedUrls s' "onward" = some (.arr urls) at hurls
  rw [hurls] at hdrop
  rw [hport, hchain] at hgrant
  have hclash : some urls.dropLast = some [] := hdrop
  rw [hgrant] at hclash
  cases hclash

end AitpPlayground.Proofs.Runner
