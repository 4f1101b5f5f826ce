import AitpPlayground.Agents.RevocationPoll
import AitpPlayground.Lib.Watch
import AitpPlayground.Proofs.Agents.RevocationPull

/-!
# `AitpPlayground.Proofs.Agents.RevocationPoll`: what the poll events say of the pulls

The health of a tick is the `verified` of its refresh, and a refresh applies the list that is in
force where it looks (`applyList_applied`), whoever signed it and whenever. So a tick is healthy
when a list is in force at its look (`held`). Its pull is of one of four kinds (`outcomeOf`), and
the list of the tick is the one that was signed from its entries (`ownList`).

The loop is a watcher of `Lib.Watch` that shows the health and is read for the outcome. So the
events tell the pulls just when no list hides that a pull does not go well, or stands for the list
of the tick, and beside that a change between two sick ticks is on a heartbeat
(`poll_tells_pulls_iff`).

`answered_server` and `lookAtList_server` tie the steps of the loop to the coroutine of a refresh.
-/

set_option autoImplicit false

namespace AitpPlayground.Proofs.Agents

open AitpPlayground.Lib
open AitpPlayground.Agents

variable {sdk : Sdk} {py : PyLib}

/-! ### The statement -/

/-- What a pull can come to. -/
inductive PullOutcome where
  | answeredWell
  /-- Another status than 200. -/
  | refused
  | unreachable
  /-- A 200 whose body is not taken. -/
  | answeredBadly
deriving DecidableEq

/-- The outcome of a pull for this AID. -/
def outcomeOf (py : PyLib) (aid : String) : Answer → PullOutcome
  | .failed _ => .unreachable
  | .response status json =>
    if status ≠ 200 then .refused
    else
      match readBody py aid json with
      | .ok (.ok _) => .answeredWell
      | .ok (.error _) | .error _ => .answeredBadly

/-- The outcome of the pull of a tick. -/
def tickOutcome (py : PyLib) (t : PollTick) : PullOutcome :=
  outcomeOf py t.pulled.requestAid t.pulled.answer

/-- The list of a tick: the one that is signed from the entries of its pull. -/
def ownList (sdk : Sdk) (py : PyLib) (t : PollTick) : Option SignedList :=
  (pull py t.pulled.requestAid t.pulled.answer).toOption.bind fun entries =>
    (sign sdk py t.pulled.signerAid t.pulled.ttlSecs entries t.pulled.signSalt).toOption

/-- The list that the agent has in force where the tick looks at it. -/
def held (t : PollTick) : Option SignedList :=
  t.look.bind fun look => look.issued.inForce look.aid look.now

/-- The health of a tick. -/
def tickHealth (t : PollTick) : Bool := t.applied.isSome

/-- A tick is reported. -/
def tickReported (t : PollTick) : Bool := t.event.isSome

/-- A tick is on the heartbeat. -/
def onHeartbeat (pollSecs : Int) (t : PollTick) : Bool := t.number % heartbeatEvery pollSecs == 0

/-- The events of a log, newest first, tell the pulls. -/
structure PollsTell (sdk : Sdk) (py : PyLib) (log : List PollTick) : Prop where
  /-- An event that says healthy is of a tick whose pull succeeded, and whose list was verified
  and applied. -/
  healthy : ∀ t ∈ log, ∀ event, t.event = some event → event.healthy = true →
    tickOutcome py t = .answeredWell ∧ ∃ list, ownList sdk py t = some list ∧ t.applied = some list
  /-- A tick whose pull comes to something else than that of the tick before is reported. -/
  changes : log.IsChain fun newer older =>
    tickOutcome py newer ≠ tickOutcome py older → tickReported newer = true
  /-- The first tick of an outage is reported as failing. -/
  outage : log.IsChain fun newer older => tickOutcome py older = .answeredWell →
    tickOutcome py newer ≠ .answeredWell → ∃ event, newer.event = some event ∧
      event.healthy = false

/-- Another list than that of the tick is in force at its look. -/
def Displaced (sdk : Sdk) (py : PyLib) (t : PollTick) : Prop :=
  ∃ list, held t = some list ∧ ownList sdk py t ≠ some list

/-- When the events of a log tell the pulls. -/
structure PollsClear (sdk : Sdk) (py : PyLib) (pollSecs : Int) (log : List PollTick) : Prop where
  /-- A list is only in force at the look of a tick whose pull went well. -/
  unmasked : ∀ t ∈ log, (held t).isSome = true → tickOutcome py t = .answeredWell
  /-- Where it is not the list of the tick, one was in force at the tick before, and the tick is
  off the heartbeat. -/
  displaced : log.IsChain fun newer older =>
    Displaced sdk py newer → (held older).isSome = true ∧ onHeartbeat pollSecs newer = false
  /-- At the first tick it is the list of the tick. -/
  first : ∀ t ∈ log.getLast?, ¬Displaced sdk py t
  /-- Between two ticks without a list in force, another outcome is on the heartbeat. -/
  unheld : log.IsChain fun newer older => tickOutcome py newer ≠ tickOutcome py older →
    held newer = none → held older = none → onHeartbeat pollSecs newer = true

/-- The lists of the SDK are published at a time that is a float. -/
def TimesFit (sdk : Sdk) (py : PyLib) : Prop :=
  ∀ {aid ttlSecs entries salt list jtis publishedAt expiresAt},
    sign sdk py aid ttlSecs entries salt = .ok list →
    readEnvelope py list.envelopeJson = .ok (jtis, publishedAt, expiresAt) →
    ∃ seconds, (PyNum.int publishedAt).toFloat = .ok seconds

/-- The SDK keeps its promises about its own lists where a tick looks at one. -/
def OwnListsHold (sdk : Sdk) (py : PyLib) (s : PollSystem) : PollLabel → Prop
  | .answered _ _ salt | .published salt => OwnListsVerify sdk py s.agent.clock salt
  | .wake | .discarded | .other _ => True

/-! ### One tick -/

/-- A pull goes well just when it gives entries. -/
theorem outcomeOf_eq_answeredWell_iff {aid : String} {answer : Answer} :
    outcomeOf py aid answer = .answeredWell ↔ ∃ entries, pull py aid answer = .ok entries := by
  cases answer with
  | failed detail => simp [outcomeOf, pull]
  | response status json =>
    unfold outcomeOf pull
    dsimp only
    split
    case isTrue => split <;> simp
    case isFalse =>
      cases readBody py aid json with
      | ok result => cases result <;> simp
      | error exc => cases exc <;> simp

/-- Only a pull that goes well has a list. -/
theorem answeredWell_of_ownList {t : PollTick} {list : SignedList}
    (h : ownList sdk py t = some list) : tickOutcome py t = .answeredWell := by
  obtain ⟨entries, hentries, -⟩ := Option.bind_eq_some_iff.mp h
  refine outcomeOf_eq_answeredWell_iff.mpr ⟨entries, ?_⟩
  cases hpull : pull py t.pulled.requestAid t.pulled.answer with
  | error exc =>
    rw [hpull] at hentries
    cases hentries
  | ok entries' =>
    rw [hpull] at hentries
    cases hentries
    rfl

/-- What the log says of a tick: it applied the list in force at its look, and its event says so. -/
structure TickFacts (t : PollTick) : Prop where
  applied : t.applied = held t
  event : ∀ event, t.event = some event → event.healthy = tickHealth t

/-- The list of a tick was applied. -/
def AppliedOwn (sdk : Sdk) (py : PyLib) (t : PollTick) : Prop :=
  ∃ list, ownList sdk py t = some list ∧ t.applied = some list

/-- Only a pull that goes well has its own list applied. -/
theorem AppliedOwn.answeredWell {t : PollTick} (h : AppliedOwn sdk py t) :
    tickOutcome py t = .answeredWell := by
  obtain ⟨list, hown, -⟩ := h
  exact answeredWell_of_ownList hown

/-- A tick is healthy when a list is in force at its look. -/
theorem TickFacts.health {t : PollTick} (h : TickFacts t) : tickHealth t = (held t).isSome := by
  unfold tickHealth
  rw [h.applied]

/-- A tick is sick when no list is in force at its look. -/
theorem TickFacts.sick_iff {t : PollTick} (h : TickFacts t) :
    tickHealth t = false ↔ held t = none := by
  rw [h.health, Option.isSome_eq_false_iff, Option.isNone_iff_eq_none]

/-- A healthy tick that did not apply its own list is displaced. -/
theorem TickFacts.displaced_iff {t : PollTick} (h : TickFacts t) :
    Displaced sdk py t ↔ tickHealth t = true ∧ ¬AppliedOwn sdk py t := by
  unfold Displaced AppliedOwn
  rw [h.health, h.applied]
  cases held t with
  | none => simp
  | some list => simp

/-! ### The agent under the loop -/

/-- The list in force is applied. -/
theorem applyList_applied {l : IssuerRevocationList} (aid : String) {now : ℚ} {salt : Nat}
    (hcp : l.cpBaseUrl.isSome = true) (hsdk : OwnListsVerify sdk py now salt)
    (hsigned : ∀ list, l.current = some list → Signed sdk py list) (r : RevocationState) :
    (applyList sdk py l r aid now salt).2.2 = l.inForce aid now := by
  cases hforce : l.inForce aid now with
  | none => rw [applyList_of_none hcp hforce]
  | some list =>
    have hlist := hsigned list (inForce_eq_some.mp hforce).1
    obtain ⟨_, _, _, -, happly⟩ := applyList_of_inForce hcp hsdk hforce hlist
    rw [happly]

/-- The snapshot in force was published at a time that is a float. -/
def SnapshotFits (c : AgentCore) : Prop :=
  ∀ snap, c.snapshot = some snap → ∃ seconds, (PyNum.int snap.publishedAt).toFloat = .ok seconds

/-- What the loop needs of its agent. -/
structure CoreOk (sdk : Sdk) (py : PyLib) (c : AgentCore) : Prop where
  signed : CurrentSigned sdk py c
  fits : SnapshotFits c

/-- A list in force that is read out gives a snapshot that fits. -/
theorem CoreOk.times {c : AgentCore} (h : CoreOk sdk py c) (htimes : TimesFit sdk py) {now : ℚ}
    {list : SignedList} (hforce : c.issued.inForce c.aid now = some list) {jtis : List String}
    {publishedAt expiresAt : Int}
    (hread : readEnvelope py list.envelopeJson = .ok (jtis, publishedAt, expiresAt)) :
    ∃ seconds, (PyNum.int publishedAt).toFloat = .ok seconds := by
  obtain ⟨_, _, _, _, hsign⟩ := h.signed list (inForce_eq_some.mp hforce).1
  exact htimes hsign hread

/-- Every effect keeps the times of the list in bounds. -/
theorem CoreOk.effect {ok : AgentCore → Publication → Prop} {c c' : AgentCore}
    (htimes : TimesFit sdk py) (h : CoreOk sdk py c) (he : Effect sdk py ok c c') :
    CoreOk sdk py c' := by
  refine ⟨currentSigned_effect h.signed he, ?_⟩
  cases he with
  | apply list now jtis publishedAt expiresAt version hforce hread =>
    intro snap hsnap
    cases hsnap
    exact h.times htimes hforce hread
  | rotate | publish | challenge => exact h.fits

/-- A posture that fits does not raise. -/
theorem posture_of_fits {a : AgentSystem} (h : SnapshotFits (coreOfAgent a)) (canVerify : Bool)
    (maxStalenessSecs : Int) (now : ℚ) :
    ∃ posture, a.server.revocation.posture canVerify maxStalenessSecs now = .ok posture := by
  unfold RevocationState.posture
  cases canVerify with
  | false => exact ⟨_, rfl⟩
  | true =>
    cases hsnap : a.server.revocation.snapshot with
    | none => exact ⟨_, rfl⟩
    | some snap =>
      obtain ⟨seconds, hseconds⟩ := h snap hsnap
      cases hexpired : snap.isExpired now with
      | true => exact ⟨.degraded, by simp [hexpired]⟩
      | false => simp [hexpired, Snapshot.ageSecs, hseconds, Except.map]

/-! ### Runs -/

/-- What every step of the agent and its loop keeps. -/
structure PollInv (sdk : Sdk) (py : PyLib) (pollSecs : Int) (s : PollSystem) : Prop where
  agent : AgentInv s.agent
  core : CoreOk sdk py (coreOfAgent s.agent)
  running : s.stopped = false
  /-- The lists of the SDK are not discarded. -/
  kept : ∀ pulled look, s.pc ≠ .discarding pulled look
  shown : s.healthy = s.log.head?.map tickHealth
  watched : Watched tickHealth (onHeartbeat pollSecs) tickReported s.log
  facts : ∀ t ∈ s.log, TickFacts t

variable {pollSecs : Int}

/-- The invariant holds at the start. -/
theorem pollInv_start {s : PollSystem} (hstart : PollStart s)
    (hcp : s.agent.server.cpConfigured = true) : PollInv sdk py pollSecs s where
  agent := agentInv_start hstart.agent hcp
  core := by
    have hcurrent : (coreOfAgent s.agent).issued.current = none := hstart.agent.current
    have hsnapshot : (coreOfAgent s.agent).snapshot = none := hstart.agent.snapshot
    refine ⟨?_, ?_⟩
    · intro list hlist
      rw [hcurrent] at hlist
      cases hlist
    · intro snap hsnap
      rw [hsnapshot] at hsnap
      cases hsnap
  running := hstart.stopped
  kept := by simp [hstart.pc]
  shown := by rw [hstart.healthy, hstart.log]; rfl
  watched := by rw [hstart.log]; trivial
  facts := by rw [hstart.log]; exact fun t h => absurd h List.not_mem_nil

/-- A step that leaves what the loop has said keeps the invariant when it keeps the agent. -/
theorem PollInv.move {s s' : PollSystem} (hs : PollInv sdk py pollSecs s)
    (hagent : AgentInv s'.agent) (hcore : CoreOk sdk py (coreOfAgent s'.agent))
    (hkept : ∀ pulled look, s'.pc ≠ .discarding pulled look) (hstopped : s'.stopped = s.stopped)
    (hhealthy : s'.healthy = s.healthy) (hlog : s'.log = s.log) : PollInv sdk py pollSecs s' where
  agent := hagent
  core := hcore
  running := hstopped.trans hs.running
  kept := hkept
  shown := by rw [hhealthy, hlog]; exact hs.shown
  watched := by rw [hlog]; exact hs.watched
  facts := by rw [hlog]; exact hs.facts

variable {s : PollSystem} {pulled : PollPull} {look : Option PollLook}
  {applied : Option SignedList}

/-- A tick that ends adds an entry to the log, and reports it when it is due. -/
theorem finish_eq (pollSecs : Int) (pulled : PollPull) (look : Option PollLook)
    (applied : Option SignedList) (hposture : ∃ posture, s.agent.server.revocation.posture
      s.agent.server.cpConfigured s.agent.server.revocationMaxStalenessSecs s.agent.clock =
        .ok posture) :
    ∃ t, t.pulled = pulled ∧ t.look = look ∧ t.applied = applied ∧
      s.finish pollSecs pulled look applied =
        { s with pc := .sleeping, healthy := some (tickHealth t), log := t :: s.log } ∧
      (∀ event, t.event = some event → event.healthy = tickHealth t) ∧
      tickReported t =
        ((s.healthy.all fun healthy => tickHealth t != healthy) || onHeartbeat pollSecs t) := by
  obtain ⟨posture, hok⟩ := hposture
  unfold PollSystem.finish
  simp only [hok]
  split
  case isTrue hdue =>
    refine ⟨⟨s.ticks, pulled, look, applied, some _⟩, rfl, rfl, rfl, rfl, ?_, hdue.symm⟩
    rintro event ⟨⟩
    rfl
  case isFalse hquiet =>
    refine ⟨⟨s.ticks, pulled, look, applied, none⟩, rfl, rfl, rfl, rfl, ?_,
      (Bool.eq_false_iff.mpr hquiet).symm⟩
    rintro event ⟨⟩

/-- A tick that applied the list in force at its look keeps the invariant. -/
theorem pollInv_finish (hs : PollInv sdk py pollSecs s)
    (happlied : applied = look.bind fun look => look.issued.inForce look.aid look.now) :
    PollInv sdk py pollSecs (s.finish pollSecs pulled look applied) := by
  obtain ⟨t, -, hlook, htapplied, heq, hevent, hreported⟩ :=
    finish_eq pollSecs pulled look applied
      (posture_of_fits hs.core.fits s.agent.server.cpConfigured
        s.agent.server.revocationMaxStalenessSecs s.agent.clock)
  rw [heq]
  refine ⟨hs.agent, hs.core, hs.running, by simp, rfl, ?_, List.forall_mem_cons.mpr ⟨⟨?_, hevent⟩,
    hs.facts⟩⟩
  · have hwatched := hs.watched
    rw [hs.shown] at hreported
    cases hlog : s.log with
    | nil =>
      rw [hlog] at hreported
      exact hreported
    | cons t' rest =>
      rw [hlog] at hreported hwatched
      exact ⟨hreported, hwatched⟩
  · unfold held
    rw [htapplied, hlook]
    exact happlied

/-- The look of a tick keeps the invariant. -/
theorem pollInv_lookAtList (htimes : TimesFit sdk py) (hs : PollInv sdk py pollSecs s)
    {salt : Nat} (hsdk : OwnListsVerify sdk py s.agent.clock salt) :
    PollInv sdk py pollSecs (s.lookAtList sdk py pollSecs pulled salt) := by
  have happlied := applyList_applied s.agent.server.aid hs.agent.cp hsdk hs.core.signed
    s.agent.server.revocation
  unfold PollSystem.lookAtList
  rcases applyList_cases sdk py hs.agent.cp s.agent.server.revocation s.agent.server.aid
    s.agent.clock salt with happly | ⟨list, jtis, publishedAt, expiresAt, hforce, hread, happly⟩
  · rw [happly] at happlied
    simp only [happly, ← happlied, Option.isSome_none, Bool.and_false, Bool.false_eq_true, if_false]
    exact pollInv_finish (hs.move hs.agent hs.core hs.kept rfl rfl rfl) happlied
  · simp only [happly, Option.isNone_some, Bool.false_and, Bool.false_eq_true, if_false]
    refine pollInv_finish (hs.move ⟨hs.agent.cp, hs.agent.backed⟩ ⟨hs.core.signed, ?_⟩ hs.kept rfl
      rfl rfl) hforce.symm
    intro snap hsnap
    cases hsnap
    exact hs.core.times htimes hforce hread

/-- The answer of a pull keeps the invariant. -/
theorem pollInv_answered (htimes : TimesFit sdk py) (hs : PollInv sdk py pollSecs s)
    {signSalt salt : Nat} (hsdk : OwnListsVerify sdk py s.agent.clock salt) (aid : String)
    (answer : Answer) :
    PollInv sdk py pollSecs (s.answered sdk py pollSecs aid answer signSalt salt) := by
  unfold PollSystem.answered
  rcases finishRefresh_cases sdk py s.agent.server.issuedRevocations aid s.agent.server.aid true
    answer signSalt with ⟨out, heq, hout⟩ | ⟨entries, signed, emits, -, hsign, heq⟩
  · simp only [heq]
    rcases hout with rfl | ⟨emits, rfl⟩
    · exact pollInv_finish hs rfl
    · cases emits with
      | true => exact hs.move hs.agent hs.core (by simp) rfl rfl rfl
      | false =>
        exact pollInv_lookAtList htimes (hs.move hs.agent hs.core hs.kept rfl rfl rfl) hsdk
  · simp only [heq]
    have hcore : ∀ list, some signed = some list → Signed sdk py list := by
      rintro list ⟨⟩
      exact ⟨_, _, _, _, hsign⟩
    cases emits with
    | true =>
      rw [if_pos rfl]
      exact hs.move ⟨hs.agent.cp, hs.agent.backed⟩ ⟨hcore, hs.core.fits⟩ (by simp) rfl rfl rfl
    | false =>
      rw [if_neg Bool.false_ne_true]
      refine pollInv_lookAtList htimes ?_ hsdk
      exact hs.move ⟨hs.agent.cp, hs.agent.backed⟩ ⟨hcore, hs.core.fits⟩ hs.kept rfl rfl rfl

/-- Every step keeps the invariant. -/
theorem pollInv_step (htimes : TimesFit sdk py) {s' : PollSystem} {l : PollLabel}
    (hs : PollInv sdk py pollSecs s) (hsdk : OwnListsHold sdk py s l)
    (h : pollStep sdk py pollSecs s l = some s') : PollInv sdk py pollSecs s' := by
  cases l with
  | wake =>
    simp only [pollStep] at h
    split at h
    case h_1 hpc =>
      rw [hs.running] at h
      cases h
      exact hs.move hs.agent hs.core (by simp) hs.running.symm rfl rfl
    case h_2 => cases h
  | answered answer signSalt salt =>
    simp only [pollStep] at h
    split at h
    case h_1 aid hpc =>
      cases h
      exact pollInv_answered htimes hs hsdk aid answer
    case h_2 => cases h
  | published salt =>
    simp only [pollStep] at h
    split at h
    case h_1 pulled hpc =>
      cases h
      exact pollInv_lookAtList htimes hs hsdk
    case h_2 => cases h
  | discarded =>
    simp only [pollStep] at h
    split at h
    case h_1 pulled look hpc => exact absurd hpc (hs.kept pulled look)
    case h_2 => cases h
  | other label =>
    obtain ⟨agent, hstep, rfl⟩ := Option.map_eq_some_iff.mp h
    obtain ⟨heff, hinv⟩ := agentStep_spec hs.agent (resumeOk_trivial s.agent label) hstep
    exact hs.move hinv (heff.invariant (fun _ _ => CoreOk.effect htimes) hs.core) hs.kept rfl rfl
      rfl

/-! ### The loop and the coroutines -/

/-- The end of a tick leaves the agent. -/
theorem finish_agent (s : PollSystem) (pollSecs : Int) (pulled : PollPull)
    (look : Option PollLook) (applied : Option SignedList) :
    (s.finish pollSecs pulled look applied).agent = s.agent := by
  unfold PollSystem.finish
  dsimp only
  split
  · split <;> rfl
  · rfl

section
variable (sdk py) (s : PollSystem) (pollSecs : Int) (i : Nat)

/-- A look of the loop leaves the server that the end of a refresh leaves. -/
theorem lookAtList_server (pulled : PollPull) (pc : TaskPc) (version : Option Nat) (salt : Nat) :
    (s.lookAtList sdk py pollSecs pulled salt).agent.server =
      (s.agent.afterRefresh sdk py i ⟨false, true, pc⟩ version salt).server := by
  unfold PollSystem.lookAtList AgentSystem.afterRefresh AgentSystem.setTask
  dsimp only
  split
  · rfl
  · rw [finish_agent]
    rfl

/-- The answer of a pull of the loop leaves the server that it leaves in the coroutine of a quiet
refresh, when the SDK is asked alike. -/
theorem answered_server (aid : String) (answer : Answer) (version salt : Nat) :
    (s.answered sdk py pollSecs aid answer salt salt).agent.server =
      (s.agent.resume sdk py i ⟨false, true, .pulling aid⟩ aid answer version salt).server := by
  unfold PollSystem.answered AgentSystem.resume
  rcases hfinish : s.agent.server.issuedRevocations.finishRefresh sdk py aid s.agent.server.aid true
    answer salt with ⟨issued, out⟩
  cases out with
  | raised =>
    simp only [hfinish, finish_agent]
    rfl
  | returned emits pulled =>
    cases emits with
    | true =>
      simp only [hfinish, if_true]
      rfl
    | false =>
      simp only [hfinish, Bool.false_eq_true, if_false]
      exact lookAtList_server sdk py _ pollSecs i _ (.pulling aid) (pulled.map fun _ => version)
        salt

end

/-! ### The result -/

/-- The events tell the pulls just when the reports of the watcher do. -/
theorem pollsTell_iff {log : List PollTick} (hfacts : ∀ t ∈ log, TickFacts t) :
    PollsTell sdk py log ↔
      Tells tickHealth tickReported (tickOutcome py) (AppliedOwn sdk py) log := by
  constructor
  · intro h
    refine ⟨fun t ht hreported hhealth => ?_, h.changes⟩
    obtain ⟨event, hevent⟩ := Option.isSome_iff_exists.mp hreported
    have hsays : event.healthy = true := ((hfacts t ht).event event hevent).trans hhealth
    exact (h.healthy t ht event hevent hsays).2
  · intro h
    have hgood : ∀ t ∈ log, ∀ event, t.event = some event → event.healthy = true →
        AppliedOwn sdk py t := by
      intro t ht event hevent hsays
      refine h.good t ht (Option.isSome_iff_exists.mpr ⟨event, hevent⟩) ?_
      rw [← (hfacts t ht).event event hevent, hsays]
    refine ⟨fun t ht event hevent hsays => ?_, h.changes, ?_⟩
    · have hown := hgood t ht event hevent hsays
      exact ⟨hown.answeredWell, hown⟩
    · -- An outage is a change, and an event of it that said healthy would not be good.
      refine h.changes.imp_of_mem_imp fun newer older hnewer _ hreport hbefore hfails => ?_
      have hreported := hreport (by rw [hbefore]; exact hfails)
      obtain ⟨event, hevent⟩ := Option.isSome_iff_exists.mp hreported
      refine ⟨event, hevent, Bool.eq_false_iff.mpr fun hsays => hfails ?_⟩
      exact (hgood newer hnewer event hevent hsays).answeredWell

/-- The lists of a log leave it clear just when it is clear to the watcher. -/
theorem pollsClear_iff {log : List PollTick} (hfacts : ∀ t ∈ log, TickFacts t) :
    PollsClear sdk py pollSecs log ↔ Clear tickHealth (onHeartbeat pollSecs) (tickOutcome py)
      (AppliedOwn sdk py) .answeredWell log := by
  have hkinds : (∀ t ∈ log, (held t).isSome = true → tickOutcome py t = .answeredWell) ↔
      ∀ t ∈ log, tickHealth t = true → tickOutcome py t = .answeredWell := by
    refine forall₂_congr fun t ht => ?_
    rw [(hfacts t ht).health]
  have hhidden : (log.IsChain fun newer older => Displaced sdk py newer →
        (held older).isSome = true ∧ onHeartbeat pollSecs newer = false) ↔
      log.IsChain fun a b => tickHealth a = true → ¬AppliedOwn sdk py a →
        tickHealth b = true ∧ onHeartbeat pollSecs a = false := by
    refine List.IsChain.iff_of_mem_imp fun newer older hnewer holder => ?_
    rw [(hfacts newer hnewer).displaced_iff, (hfacts older holder).health, and_imp]
  have hfirst : (∀ t ∈ log.getLast?, ¬Displaced sdk py t) ↔
      ∀ t ∈ log.getLast?, tickHealth t = true → AppliedOwn sdk py t := by
    refine forall₂_congr fun t ht => ?_
    rw [(hfacts t (List.mem_of_getLast? ht)).displaced_iff, not_and_not_right]
  have hbeats : (log.IsChain fun newer older => tickOutcome py newer ≠ tickOutcome py older →
        held newer = none → held older = none → onHeartbeat pollSecs newer = true) ↔
      log.IsChain fun a b => tickOutcome py a ≠ tickOutcome py b → tickHealth a = false →
        tickHealth b = false → onHeartbeat pollSecs a = true := by
    refine List.IsChain.iff_of_mem_imp fun newer older hnewer holder => ?_
    rw [(hfacts newer hnewer).sick_iff, (hfacts older holder).sick_iff]
  constructor
  · rintro ⟨h₁, h₂, h₃, h₄⟩
    exact ⟨hkinds.mp h₁, hhidden.mp h₂, hfirst.mp h₃, hbeats.mp h₄⟩
  · rintro ⟨h₁, h₂, h₃, h₄⟩
    exact ⟨hkinds.mpr h₁, hhidden.mpr h₂, hfirst.mpr h₃, hbeats.mpr h₄⟩

/-- In every run of an agent with its poll loop, the events tell the pulls just when every list
that a tick finds in force is its own, or comes unseen after another one, and what is left of the
changes is on the heartbeat. -/
theorem poll_tells_pulls_iff {s₀ s : PollSystem} (hstart : PollStart s₀)
    (hcp : s₀.agent.server.cpConfigured = true) (htimes : TimesFit sdk py)
    (hrun : Reach (pollStep sdk py pollSecs) (OwnListsHold sdk py) s₀ s) :
    PollsTell sdk py s.log ↔ PollsClear sdk py pollSecs s.log := by
  have hinv : PollInv sdk py pollSecs s :=
    hrun.invariant (fun _ _ _ hs hok h => pollInv_step htimes hs hok h) (pollInv_start hstart hcp)
  rw [pollsTell_iff hinv.facts, pollsClear_iff hinv.facts]
  exact watched_tells_iff (fun _ hown => hown.answeredWell) hinv.watched

/-! ### Concrete runs -/

/-- The agent `a` with its loop, as it starts. -/
def newPoll : PollSystem := ⟨newAgent, .sleeping, none, 0, false, []⟩

/-- The system of the concrete runs is a start. -/
theorem newPoll_start : PollStart newPoll := ⟨newAgent_start, rfl, rfl, rfl, rfl, rfl⟩

/-- Its lists are published at times that fit. -/
theorem agentLib_timesFit : TimesFit agentSdk agentLib := by
  have hread : ∀ e ∈ agentLists, readEnvelope agentLib e.2 = .ok (e.1.2, 0, 3600) := by
    decide +kernel
  intro aid ttlSecs entries salt list jtis publishedAt expiresAt hsign h
  cases (hread _ (mem_agentLists hsign)).symm.trans h
  refine ⟨_, if_neg (not_le.mpr ?_)⟩
  decide +kernel

/-- Its SDK keeps its promises in every step. -/
theorem agentSdk_ownListsHold (s : PollSystem) (l : PollLabel) (_ : anyStep s l) :
    OwnListsHold agentSdk agentLib s l := by
  cases l with
  | answered answer signSalt salt => exact agentSdk_ownListsVerify s.agent.clock salt
  | published salt => exact agentSdk_ownListsVerify s.agent.clock salt
  | wake | discarded | other _ => trivial

/-- A tick of the concrete runs: the pull of an agent that keeps its AID until the answer, and what
it looks at. -/
def tickOf (number : Nat) (aid : String) (answer : Answer) (look : PollLook)
    (applied : Option SignedList) (event : Option PollEvent) : PollTick :=
  ⟨number, ⟨aid, answer, aid, 3600, 0⟩, some look, applied, event⟩

/-- The list of an agent of the concrete runs. -/
def heldList (current : Option SignedList) : IssuerRevocationList :=
  { newAgent.server.issuedRevocations with current }

def listOfA : SignedList := ⟨"list of a", "a", 1, 0, 3600⟩

def emptyListOfB : SignedList := ⟨"empty list of b", "b", 0, 0, 3600⟩

/-- The answer of a control plane that does not serve. -/
def unavailable : Answer := .response 503 (.error (.valueError "Expecting value" none))

/-- A key rotation while a list goes out: the tick is reported as failing. Then the control plane
answers the new agent, cannot be reached after the end of its list, and refuses. -/
def rotatedLog : List PollTick :=
  [tickOf 4 "b" unavailable ⟨"b", heldList (some emptyListOfB), 3900⟩ none
      (some ⟨false, false, .degraded⟩),
    tickOf 3 "b" (.failed "unreachable") ⟨"b", heldList (some emptyListOfB), 3600⟩ none
      (some ⟨false, true, .degraded⟩),
    tickOf 2 "b" (entriesAnswer "b" []) ⟨"b", heldList (some emptyListOfB), 600⟩
      (some emptyListOfB) (some ⟨true, true, .degraded⟩),
    tickOf 1 "a" (entriesAnswer "a" [jtiA]) ⟨"b", heldList (some listOfA), 301⟩ none
      (some ⟨false, true, .degraded⟩)]

/-- No other list than its own is in force at the look of a tick. -/
theorem not_displaced {t : PollTick} (h : held t = none ∨ held t = ownList sdk py t) :
    ¬Displaced sdk py t := by
  rintro ⟨list, hheld, hown⟩
  rcases h with hnone | hsame
  · rw [hnone] at hheld
    cases hheld
  · exact hown (hsame.symm.trans hheld)

/-- The events of the run with a rotation tell its pulls. -/
theorem poll_tells_after_rotation : PollsTell agentSdk agentLib rotatedLog := by
  have hexec : (exec (pollStep agentSdk agentLib 300) anyStep newPoll
      [.other (.tick 300), .wake, .answered (entriesAnswer "a" [jtiA]) 0 0,
        .other (.rotate "b" 0), .other (.tick 301), .published 0,
        .other (.tick 600), .wake, .answered (entriesAnswer "b" []) 0 0, .published 0,
        .other (.tick 3600), .wake, .answered (.failed "unreachable") 0 0,
        .other (.tick 3900), .wake, .answered unavailable 0 0]).map PollSystem.log =
      some rotatedLog := by
    decide +kernel
  obtain ⟨s, hrun, hlog⟩ := exists_reach_of_exec hexec
  have htell := poll_tells_pulls_iff newPoll_start rfl agentLib_timesFit
    (hrun.weaken agentSdk_ownListsHold)
  rw [hlog] at htell
  have hown : ∀ t ∈ rotatedLog, ¬Displaced agentSdk agentLib t := by
    have hall : ∀ t ∈ rotatedLog, held t = none ∨ held t = ownList agentSdk agentLib t := by
      decide +kernel
    exact fun t ht => not_displaced (hall t ht)
  refine htell.mpr ⟨by decide +kernel, ?_, fun t ht => hown t (List.mem_of_getLast? ht),
    by decide +kernel⟩
  exact (List.isChain_isInfix rotatedLog).imp_of_mem_imp fun newer _ hnewer _ _ hdisplaced =>
    absurd hdisplaced (hown newer hnewer)

/-- The control plane cannot be reached a minute after it answered, and the loop says nothing. -/
theorem outage_goes_unreported :
    ¬∀ (sdk : Sdk) (py : PyLib) (pollSecs : Int) {s₀ s : PollSystem}, PollStart s₀ →
      s₀.agent.server.cpConfigured = true → TimesFit sdk py →
      Reach (pollStep sdk py pollSecs) (OwnListsHold sdk py) s₀ s → PollsTell sdk py s.log := by
  intro h
  have hexec : (exec (pollStep agentSdk agentLib 60) anyStep newPoll
      [.other (.tick 60), .wake, .answered (entriesAnswer "a" [jtiA]) 0 0, .published 0,
        .other (.tick 120), .wake, .answered (.failed "unreachable") 0 0]).map PollSystem.log =
      some [tickOf 2 "a" (.failed "unreachable") ⟨"a", heldList (some listOfA), 120⟩ (some listOfA)
          none,
        tickOf 1 "a" (entriesAnswer "a" [jtiA]) ⟨"a", heldList (some listOfA), 60⟩ (some listOfA)
          (some ⟨true, true, .current⟩)] := by
    decide +kernel
  obtain ⟨s, hrun, hlog⟩ := exists_reach_of_exec hexec
  have htell := h agentSdk agentLib 60 newPoll_start rfl agentLib_timesFit
    (hrun.weaken agentSdk_ownListsHold)
  rw [hlog] at htell
  have hreported := (List.isChain_cons_cons.mp htell.changes).1 (by decide +kernel)
  cases hreported

end AitpPlayground.Proofs.Agents
