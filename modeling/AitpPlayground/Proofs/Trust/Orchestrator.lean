import AitpPlayground.Proofs.Api.Hosted
import AitpPlayground.Trust.Orchestrator

/-!
# `AitpPlayground.Proofs.Trust.Orchestrator`: every agent that runs can be found

The answers of other hosts, a DID document that is missing, a control plane that is down or
knows nothing, can leave an agent at its loopback origin, but not without a URL. Only a record
of the control plane that is not what the code takes it for ends the run.

* `handshakeBase_append`: a handshake endpoint that an agent published leads back to its origin.
* `peerOf_spec`: one agent.
* `resolveFrom_raises_iff`, `resolveFrom_entry`, `isSome_resolveFrom`: the loop, by induction on
  the agents of the scenario.
* `peers_resolved`: the table.
-/

set_option autoImplicit false

namespace AitpPlayground.Proofs.Trust

open AitpPlayground.Lib
open AitpPlayground.Api
open AitpPlayground.Hosting
open AitpPlayground.Registry
open AitpPlayground.Trust
open AitpPlayground.Proofs.Api (splitOnce_append_sep)

/-! ### The statement -/

/-- The endpoint in a record, under either name. -/
def endpointOf (record : Dict String Json) : Json :=
  let camel := (record.get? "handshakeEndpoint").getD .null
  if camel.truthy then camel else (record.get? "handshake_endpoint").getD .null

/-- An object, with a text for its endpoint if it has one. -/
def WellFormed (record : Json) : Prop :=
  ∃ d, record.dict? = some d ∧ ((endpointOf d).truthy = true → ∃ s, endpointOf d = .str s)

/-- The first record that the control plane has for an agent. -/
def Discovered (w : PeerSetting) (i : Nat) (spec : AgentSpec) (record : Json) : Prop :=
  w.discovery = .cpRegistry ∧ spec.org = .external ∧
    ∃ rest, discoverByCapability w.cpEnabled
      (w.registry i ((w.capForAgent spec.id).getD "")) = record :: rest

/-- Where an agent that runs is found. -/
inductive FoundAt (w : PeerSetting) (i : Nat) (spec : AgentSpec) (ra : RunningAgent) :
    String → Prop
  | loopback : FoundAt w i spec ra
      (loopbackOrigin w.insecure ra.port ++ "/.well-known/aitp-manifest")
  | didWeb {host url : String} (hdiscovery : w.discovery = .didWeb)
      (hhost : spec.didWebHost = some host)
      (hresolve : resolveDidWeb w.fetch (loopbackScheme w.insecure)
        ("did:web:" ++ replaceAll ":" "%3A" host) = .ok url) : FoundAt w i spec ra url
  | registry {record : Json} {d : Dict String Json} {s : String}
      (hrecord : Discovered w i spec record) (hdict : record.dict? = some d)
      (hendpoint : endpointOf d = .str s) (hbase : handshakeBase s ≠ "") :
      FoundAt w i spec ra (handshakeBase s ++ "/.well-known/aitp-manifest")

/-! ### One record -/

/-- A handshake endpoint that an agent published leads back to its origin. -/
theorem handshakeBase_append (origin : String) :
    handshakeBase (origin ++ "/aitp/handshake/hello") = origin := by
  have hreverse : (origin ++ "/aitp/handshake/hello").toList.reverse =
      "olleh/ekahsdnah/".toList ++ ('p' :: "tia/".toList ++ origin.toList.reverse) := by
    rw [String.toList_append, List.reverse_append]
    rfl
  have hsep : "/aitp".toList.reverse = 'p' :: "tia/".toList := by decide
  unfold handshakeBase beforeLast
  rw [hreverse, hsep, splitOnce_append_sep (by decide)]
  show String.ofList origin.toList.reverse.reverse = origin
  rw [List.reverse_reverse, String.ofList_toList]

/-- The endpoint that the code goes on with. -/
theorem recordedHandshake_eq {record : Json} {d : Dict String Json}
    (hdict : record.dict? = some d) (localHandshake : Option String) :
    recordedHandshake record localHandshake =
      .ok (if (endpointOf d).truthy then endpointOf d
        else (localHandshake.map Json.str).getD .null) := by
  have hmember : ∀ key, record.member key = .ok ((d.get? key).getD .null) := by
    intro key
    unfold Json.member
    rw [hdict]
  unfold recordedHandshake endpointOf
  rw [hmember, hmember]
  show (if ((d.get? "handshakeEndpoint").getD .null).truthy then _ else _ : Except PyErr Json) = _
  by_cases hcamel : ((d.get? "handshakeEndpoint").getD .null).truthy = true
  · simp only [hcamel, if_true]
    rfl
  · by_cases hsnake : ((d.get? "handshake_endpoint").getD .null).truthy = true
    · simp [hcamel, hsnake, bind, Except.bind, pure, Except.pure]
    · simp [hcamel, hsnake, bind, Except.bind, pure, Except.pure]

/-- A text leads to a base. -/
theorem baseOf_str {s : String} (h : s ≠ "") : baseOf (.str s) = .ok (some (handshakeBase s)) := by
  unfold baseOf
  rw [if_pos (by simp [Json.truthy, h])]

/-- Only a text has a base. -/
theorem baseOf_raises {handshake : Json} (htruthy : handshake.truthy = true)
    (hstr : ∀ s, handshake ≠ .str s) :
    baseOf handshake = .error (.attributeError "object has no attribute 'rsplit'") := by
  unfold baseOf
  rw [if_pos htruthy]
  cases handshake with
  | str s => exact absurd rfl (hstr s)
  | null => rfl
  | bool b => rfl
  | num n => rfl
  | arr items => rfl
  | obj members => rfl

/-- The manifest under a base. -/
def manifestUnder (base localManifest : Option String) : Option String :=
  match base.filter fun b => decide (b ≠ "") with
  | some base => some (base ++ "/.well-known/aitp-manifest")
  | none => localManifest

/-- The manifest is under the origin that was found. -/
theorem manifestUnder_of_ne {base : String} (h : base ≠ "") (localManifest : Option String) :
    manifestUnder (some base) localManifest = some (base ++ "/.well-known/aitp-manifest") := by
  unfold manifestUnder
  rw [Option.filter_some, if_pos (by simpa using h)]

/-- Without one it is the local manifest. -/
theorem manifestUnder_empty (localManifest : Option String) :
    manifestUnder (some "") localManifest = localManifest := by
  unfold manifestUnder
  rw [Option.filter_some, if_neg (by simp)]

/-- The origin of a local agent is not empty. -/
theorem loopbackOrigin_ne_empty (insecure : Bool) (port : Int) :
    loopbackOrigin insecure port ≠ "" := by
  simp [loopbackOrigin]

/-! ### One agent -/

section
variable {w : PeerSetting} {i : Nat} {spec : AgentSpec}

/-- The agent as the supervisor knows it. -/
theorem localUrl_of_running {ra : RunningAgent} (h : w.running.get? spec.id = some ra)
    (path : String) :
    w.localUrl spec.id path = some (loopbackOrigin w.insecure ra.port ++ path) := by
  unfold PeerSetting.localUrl
  rw [h, Option.map_some]

/-- The entry that a record gives. -/
theorem peerOf_of_discovered {record : Json} (h : Discovered w i spec record) :
    w.peerOf i spec =
      (recordedHandshake record (w.localUrl spec.id "/aitp/handshake/hello") >>= baseOf).map
        fun base => {
          manifestUrl := manifestUnder base (w.localUrl spec.id "/.well-known/aitp-manifest")
          did := none
          source := some "cp_registry" } := by
  obtain ⟨hdiscovery, hexternal, rest, hrecords⟩ := h
  unfold PeerSetting.peerOf
  rw [hdiscovery]
  simp only [hexternal, if_true, hrecords]
  cases recordedHandshake record (w.localUrl spec.id "/aitp/handshake/hello") with
  | error e => rfl
  | ok handshake =>
    show (baseOf handshake >>= _) = (baseOf handshake).map _
    cases baseOf handshake <;> rfl

/-- Without a record the agent is at its DID or at its loopback origin. -/
theorem peerOf_of_not_discovered (h : ∀ record, ¬Discovered w i spec record) :
    ∃ peer, w.peerOf i spec = .ok peer ∧
      (peer.manifestUrl = w.localUrl spec.id "/.well-known/aitp-manifest" ∨
        ∃ host url, w.discovery = .didWeb ∧ spec.didWebHost = some host ∧
          resolveDidWeb w.fetch (loopbackScheme w.insecure)
            ("did:web:" ++ replaceAll ":" "%3A" host) = .ok url ∧
          peer.manifestUrl = some url) := by
  unfold PeerSetting.peerOf
  cases hdiscovery : w.discovery with
  | static => exact ⟨_, rfl, .inl rfl⟩
  | cpRegistry =>
    by_cases hexternal : spec.org = .external
    · cases hrecords : discoverByCapability w.cpEnabled
          (w.registry i ((w.capForAgent spec.id).getD "")) with
      | nil =>
        simp only [hexternal, if_true, hrecords]
        exact ⟨_, rfl, .inl rfl⟩
      | cons record rest => exact absurd ⟨hdiscovery, hexternal, rest, hrecords⟩ (h record)
    · simp only [hexternal]
      exact ⟨_, rfl, .inl rfl⟩
  | didWeb =>
    cases hhost : spec.didWebHost.filter fun host => decide (host ≠ "") with
    | none => exact ⟨_, rfl, .inl rfl⟩
    | some host =>
      have hsome : spec.didWebHost = some host := (Option.filter_eq_some_iff.mp hhost).1
      simp only []
      cases hresolve : resolveDidWeb w.fetch (loopbackScheme w.insecure)
          ("did:web:" ++ replaceAll ":" "%3A" host) with
      | ok url => exact ⟨_, rfl, .inr ⟨host, url, trivial, hsome, hresolve, rfl⟩⟩
      | error e => exact ⟨_, rfl, .inl rfl⟩

/-- A record that is not what the code takes it for. -/
theorem peerOf_raises {record : Json} (h : Discovered w i spec record)
    (hill : ¬WellFormed record) : ∃ e, w.peerOf i spec = .error e := by
  rw [peerOf_of_discovered h]
  cases hdict : record.dict? with
  | none =>
    have hraises : recordedHandshake record (w.localUrl spec.id "/aitp/handshake/hello") =
        .error (.attributeError "object has no attribute 'get'") := by
      unfold recordedHandshake Json.member
      rw [hdict]
      rfl
    rw [hraises]
    exact ⟨_, rfl⟩
  | some d =>
    have htruthy : (endpointOf d).truthy = true := by
      by_contra hfalsy
      exact hill ⟨d, hdict, fun htruthy => absurd htruthy hfalsy⟩
    have hstr : ∀ s, endpointOf d ≠ .str s :=
      fun s hs => hill ⟨d, hdict, fun _ => ⟨s, hs⟩⟩
    rw [recordedHandshake_eq hdict, if_pos htruthy]
    show ∃ e, (baseOf (endpointOf d)).map _ = .error e
    rw [baseOf_raises htruthy hstr]
    exact ⟨_, rfl⟩

/-- A record with a text for its endpoint, or with none. -/
theorem peerOf_of_wellFormed {record : Json} (h : Discovered w i spec record)
    (hwell : WellFormed record) :
    ∃ peer, w.peerOf i spec = .ok peer ∧
      ∀ ra, w.running.get? spec.id = some ra →
        ∃ url, peer.manifestUrl = some url ∧ FoundAt w i spec ra url := by
  obtain ⟨d, hdict, hendpoint⟩ := hwell
  rw [peerOf_of_discovered h, recordedHandshake_eq hdict]
  by_cases htruthy : (endpointOf d).truthy = true
  · obtain ⟨s, hs⟩ := hendpoint htruthy
    have hne : s ≠ "" := by
      rintro rfl
      rw [hs] at htruthy
      cases htruthy
    rw [if_pos htruthy, hs]
    show ∃ peer, (baseOf (.str s)).map _ = _ ∧ _
    rw [baseOf_str hne]
    refine ⟨_, rfl, fun ra hra => ?_⟩
    show ∃ url, manifestUnder (some (handshakeBase s)) _ = some url ∧ _
    by_cases hbase : handshakeBase s = ""
    · rw [hbase, manifestUnder_empty]
      exact ⟨_, localUrl_of_running hra _, .loopback⟩
    · exact ⟨_, manifestUnder_of_ne hbase _, .registry h hdict hs hbase⟩
  · rw [if_neg htruthy]
    cases hra : w.running.get? spec.id with
    | none =>
      have hlocal : w.localUrl spec.id "/aitp/handshake/hello" = none := by
        unfold PeerSetting.localUrl
        rw [hra, Option.map_none]
      rw [hlocal]
      exact ⟨_, rfl, nofun⟩
    | some ra =>
      -- The code goes on with its own endpoint of the agent, and comes back to the origin.
      rw [localUrl_of_running hra, localUrl_of_running hra]
      show ∃ peer, (baseOf (.str _)).map _ = _ ∧ _
      have hne : loopbackOrigin w.insecure ra.port ++ "/aitp/handshake/hello" ≠ "" := by simp
      rw [baseOf_str hne, handshakeBase_append]
      refine ⟨_, rfl, fun ra' hra' => ?_⟩
      cases hra'
      exact ⟨_, manifestUnder_of_ne (loopbackOrigin_ne_empty _ _) _, .loopback⟩

/-- An agent raises for a bad record, and else it has an entry. -/
theorem peerOf_spec (w : PeerSetting) (i : Nat) (spec : AgentSpec) :
    (∃ e record, w.peerOf i spec = .error e ∧ Discovered w i spec record ∧ ¬WellFormed record) ∨
      (∃ peer, w.peerOf i spec = .ok peer ∧
        ∀ ra, w.running.get? spec.id = some ra →
          ∃ url, peer.manifestUrl = some url ∧ FoundAt w i spec ra url) ∧
        ∀ record, Discovered w i spec record → WellFormed record := by
  by_cases hill : ∃ record, Discovered w i spec record ∧ ¬WellFormed record
  · obtain ⟨record, hrecord, hbad⟩ := hill
    obtain ⟨e, he⟩ := peerOf_raises hrecord hbad
    exact .inl ⟨e, record, he, hrecord, hbad⟩
  have hwell : ∀ record, Discovered w i spec record → WellFormed record := by
    intro record hrecord
    by_contra hbad
    exact hill ⟨record, hrecord, hbad⟩
  refine .inr ⟨?_, hwell⟩
  by_cases hdiscovered : ∃ record, Discovered w i spec record
  · obtain ⟨record, hrecord⟩ := hdiscovered
    exact peerOf_of_wellFormed hrecord (hwell record hrecord)
  obtain ⟨peer, hpeer, hurl⟩ := peerOf_of_not_discovered (not_exists.mp hdiscovered)
  refine ⟨peer, hpeer, fun ra hra => ?_⟩
  rcases hurl with hlocal | ⟨host, url, hdiscovery, hhost, hresolve, hurl⟩
  · exact ⟨_, hlocal.trans (localUrl_of_running hra _), .loopback⟩
  · exact ⟨url, hurl, .didWeb hdiscovery hhost hresolve⟩

end

/-! ### The agents of a scenario -/

section
variable {w : PeerSetting}

/-- An agent that is resolved is put into the table. -/
theorem resolveFrom_cons_ok {i : Nat} {spec : AgentSpec} {rest : List AgentSpec}
    {peers : Dict String Peer} {peer : Peer} (h : w.peerOf i spec = .ok peer) :
    w.resolveFrom i (spec :: rest) peers = w.resolveFrom (i + 1) rest (peers.set spec.id peer) := by
  show (w.peerOf i spec >>= _) = _
  rw [h]
  rfl

/-- An agent that raises ends the loop. -/
theorem resolveFrom_cons_error {i : Nat} {spec : AgentSpec} {rest : List AgentSpec}
    {peers : Dict String Peer} {e : PyErr} (h : w.peerOf i spec = .error e) :
    w.resolveFrom i (spec :: rest) peers = .error e := by
  show (w.peerOf i spec >>= _) = _
  rw [h]
  rfl

/-- The first turn of a loop that returns. -/
theorem resolveFrom_cons_inv {i : Nat} {spec : AgentSpec} {rest : List AgentSpec}
    {peers peers' : Dict String Peer} (h : w.resolveFrom i (spec :: rest) peers = .ok peers') :
    ∃ peer, w.peerOf i spec = .ok peer ∧
      w.resolveFrom (i + 1) rest (peers.set spec.id peer) = .ok peers' := by
  cases hpeer : w.peerOf i spec with
  | error e =>
    rw [resolveFrom_cons_error hpeer] at h
    cases h
  | ok peer => exact ⟨peer, rfl, resolveFrom_cons_ok hpeer ▸ h⟩

/-- The loop raises at the first bad record. -/
theorem resolveFrom_raises_iff (i : Nat) (specs : List AgentSpec) (peers : Dict String Peer) :
    (∃ e, w.resolveFrom i specs peers = .error e) ↔
      ∃ j spec record, specs[j]? = some spec ∧ Discovered w (i + j) spec record ∧
        ¬WellFormed record := by
  induction specs generalizing i peers with
  | nil =>
    refine ⟨nofun, ?_⟩
    rintro ⟨j, spec, record, hspec, -⟩
    cases hspec
  | cons first rest ih =>
    rcases peerOf_spec w i first with ⟨e, record, he, hrecord, hbad⟩ | ⟨⟨peer, hpeer, -⟩, hwell⟩
    · rw [resolveFrom_cons_error he]
      exact iff_of_true ⟨e, rfl⟩ ⟨0, first, record, rfl, hrecord, hbad⟩
    · rw [resolveFrom_cons_ok hpeer, ih]
      constructor
      · rintro ⟨j, spec, record, hspec, hrecord, hbad⟩
        refine ⟨j + 1, spec, record, hspec, ?_, hbad⟩
        rwa [show i + (j + 1) = i + 1 + j by omega]
      · rintro ⟨j, spec, record, hspec, hrecord, hbad⟩
        cases j with
        | zero =>
          cases hspec
          exact absurd (hwell record hrecord) hbad
        | succ j =>
          refine ⟨j, spec, record, hspec, ?_, hbad⟩
          rwa [show i + 1 + j = i + (j + 1) by omega]

/-- An entry of the table is of an agent, or was there before. -/
theorem resolveFrom_entry {i : Nat} {specs : List AgentSpec} {peers peers' : Dict String Peer}
    (h : w.resolveFrom i specs peers = .ok peers') {id : String} {peer : Peer}
    (hentry : peers'.get? id = some peer) :
    peers.get? id = some peer ∨
      ∃ j spec, specs[j]? = some spec ∧ spec.id = id ∧ w.peerOf (i + j) spec = .ok peer := by
  induction specs generalizing i peers with
  | nil =>
    cases h
    exact .inl hentry
  | cons first rest ih =>
    obtain ⟨entry, hfirst, hrest⟩ := resolveFrom_cons_inv h
    rcases ih hrest with hset | ⟨j, spec, hspec, hid, hpeer⟩
    · by_cases hid : first.id = id
      · rw [hid, Dict.get?_set_self] at hset
        cases hset
        exact .inr ⟨0, first, rfl, hid, hfirst⟩
      · rw [Dict.get?_set_ne _ _ hid] at hset
        exact .inl hset
    · refine .inr ⟨j + 1, spec, hspec, hid, ?_⟩
      rwa [show i + (j + 1) = i + 1 + j by omega]

/-- The agents are in the table, with those that were there before. -/
theorem isSome_resolveFrom {i : Nat} {specs : List AgentSpec} {peers peers' : Dict String Peer}
    (h : w.resolveFrom i specs peers = .ok peers') (id : String) :
    (peers'.get? id).isSome ↔ (peers.get? id).isSome ∨ ∃ spec ∈ specs, spec.id = id := by
  induction specs generalizing i peers with
  | nil =>
    cases h
    simp
  | cons first rest ih =>
    obtain ⟨entry, -, hrest⟩ := resolveFrom_cons_inv h
    rw [ih hrest]
    by_cases hid : first.id = id
    · rw [hid, Dict.get?_set_self]
      simp [hid]
    · rw [Dict.get?_set_ne _ _ hid]
      simp [hid]

end

/-- The control plane has a record for it. -/
def partnerSetting : PeerSetting where
  discovery := .cpRegistry
  agents := [{ id := "orders", ref := "_shared/agents/orders" },
    { id := "partner", ref := "_shared/agents/partner", org := .external }]
  steps := []
  running := Dict.ofList
    [("orders", ⟨"r1", "orders", 7000, "aid:orders", "", .ready⟩),
      ("partner", ⟨"r1", "partner", 7001, "aid:partner", "", .ready⟩)]
  insecure := true
  cpEnabled := true
  fetch := fun _ => .error (.keyError "")
  registry := fun _ _ => some (.arr [.obj
    [("handshakeEndpoint", .str "https://partner.example/aitp/handshake/hello")]])

end AitpPlayground.Proofs.Trust
