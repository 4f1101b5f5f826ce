import AitpPlayground.Proofs.Agents.AgentAdmin

/-!
# `AitpPlayground.Proofs.Agents.Identity`: which key the admin routes use

The worker hands one key to the server and to the admin router. `rotate_keys` replaces the
key of the server, mints a manifest under it and returns its AID. The admin router has the
key of the start in its closures and keeps it.

So an admin route uses the key of the server exactly as long as no rotation has succeeded
(`admin_key_is_server_key_iff`). After the first one every route that takes the key is off:
a handshake is opened by a key that the manifest does not name, a challenge is answered by
it, and `held_tct` reports its AID.

A key that `AitpAgent.generate` makes is not one that exists already. `FreshKey` says of a
rotation what of that is needed.
-/

set_option autoImplicit false

namespace AitpPlayground.Proofs.Agents

open AitpPlayground.Lib
open AitpPlayground.Lib.Act
open AitpPlayground.Agents

/-- The key that a rotation generates is not the one the process was started with. -/
def FreshKey (p : AgentProcess) : AdminCall → Prop
  | .rotateKeys newAid _ _ => newAid ≠ p.adminAid
  | _ => True

instance (p : AgentProcess) (c : AdminCall) : Decidable (FreshKey p c) :=
  match c with
  | .rotateKeys newAid _ _ => inferInstanceAs (Decidable (newAid ≠ p.adminAid))
  | .initiateHandshake .. | .invoke .. | .heldTct .. | .renewTct .. | .processRenewal ..
  | .exportSessionBundle .. | .verifySessionBundle .. | .delegate .. | .redeemDelegation ..
  | .revokeTct .. | .trustPeers .. | .getManifest .. | .served => isTrue trivial

/-- What a request other than a rotation and a new manifest does about keys: it keeps them,
and each use it writes down is of the key of the admin router. -/
structure KeysKept (p p' : AgentProcess) : Prop where
  serverAid : p'.serverAid = p.serverAid
  manifestAid : p'.manifestAid = p.manifestAid
  adminAid : p'.adminAid = p.adminAid
  rotations : p'.rotations = p.rotations
  uses : ∀ u ∈ p'.uses, u ∈ p.uses ∨ (u.aid = p.adminAid ∧ u.serverAid = p.serverAid ∧
    u.manifestAid = p.manifestAid ∧ u.rotations = p.rotations)

/-- Two changes that keep the keys, in turn. -/
theorem KeysKept.trans {p q r : AgentProcess} (h : KeysKept p q) (h' : KeysKept q r) :
    KeysKept p r := by
  refine ⟨h'.serverAid.trans h.serverAid, h'.manifestAid.trans h.manifestAid,
    h'.adminAid.trans h.adminAid, h'.rotations.trans h.rotations, ?_⟩
  intro u hu
  rcases h'.uses u hu with hq | ⟨h₁, h₂, h₃, h₄⟩
  · exact h.uses u hq
  · exact .inr ⟨h₁.trans h.adminAid, h₂.trans h.serverAid, h₃.trans h.manifestAid,
      h₄.trans h.rotations⟩

/-- A quiet move keeps them. -/
theorem keysKept_quiet {p p' : AgentProcess} (h : QuietMove p p') : KeysKept p p' := by
  cases h with
  | use op =>
    refine ⟨rfl, rfl, rfl, rfl, ?_⟩
    intro u hu
    rcases List.mem_cons.mp hu with rfl | hu
    · exact .inr ⟨rfl, rfl, rfl, rfl⟩
    · exact .inl hu
  | send call => exact ⟨rfl, rfl, rfl, rfl, fun _ hu => .inl hu⟩
  | response => exact ⟨rfl, rfl, rfl, rfl, fun _ hu => .inl hu⟩

/-- What holds no token keeps the keys. -/
theorem keysKept_quietly {p p' : AgentProcess} (h : Quietly p p') : KeysKept p p' := by
  induction h with
  | refl => exact ⟨rfl, rfl, rfl, rfl, fun _ hu => .inl hu⟩
  | tail _ hquiet ih => exact ih.trans (keysKept_quiet hquiet)

/-- The storing of a token keeps the keys. -/
theorem keysKept_stored {port : Int} {token : Json} {voucher : Option Json}
    {p p' : AgentProcess} (h : Stored port token voucher p p') : KeysKept p p' := by
  have hrest := h.rest
  refine ⟨?_, ?_, ?_, ?_, ?_⟩
  · exact (congrArg AgentProcess.serverAid hrest).symm
  · exact (congrArg AgentProcess.manifestAid hrest).symm
  · exact (congrArg AgentProcess.adminAid hrest).symm
  · exact (congrArg AgentProcess.rotations hrest).symm
  · intro u hu
    exact .inl (congrArg AgentProcess.uses hrest ▸ hu)

/-- The outcome of a handshake, a renewal or a redemption keeps the keys. -/
theorem keysKept_outcome {p p' : AgentProcess} {r : Option Receipt} (h : Outcome p p' r) :
    KeysKept p p' := by
  cases r with
  | none => exact keysKept_quietly h
  | some r =>
    obtain ⟨q, hq, hstored⟩ := h
    exact (keysKept_quietly hq).trans (keysKept_stored hstored)

/-- The manifest is of the key of the server, and the key of the admin router is that key as
long as there was no rotation. Every use was of the one or of the other accordingly. -/
structure IdentityInv (p : AgentProcess) : Prop where
  manifest : p.manifestAid = p.serverAid
  admin : p.adminAid = p.serverAid ↔ p.rotations = 0
  uses : ∀ u ∈ p.uses, (u.aid = u.serverAid ∧ u.aid = u.manifestAid) ↔ u.rotations = 0

/-- A request that keeps the keys keeps the invariant. -/
theorem identityInv_keysKept {p p' : AgentProcess} (hp : IdentityInv p) (h : KeysKept p p') :
    IdentityInv p' := by
  refine ⟨?_, ?_, ?_⟩
  · rw [h.manifestAid, h.serverAid]
    exact hp.manifest
  · rw [h.adminAid, h.serverAid, h.rotations]
    exact hp.admin
  · intro u hu
    rcases h.uses u hu with hold | ⟨haid, hserver, hmanifest, hrotations⟩
    · exact hp.uses u hold
    · rw [haid, hserver, hmanifest, hrotations, hp.manifest, and_self]
      exact hp.admin

/-- A step with a fresh key keeps the invariant. -/
theorem identityInv_step {sdk : AdminSdk} {py : PyLib} {p p' : AgentProcess} {c : AdminCall}
    (hp : IdentityInv p) (hfresh : FreshKey p c) (h : adminStep sdk py p c = some p') :
    IdentityInv p' := by
  rcases adminStep_cases sdk py h with hout | ⟨-, hadm⟩
  · exact identityInv_keysKept hp (keysKept_outcome hout)
  · cases hadm with
    | revoked body jti => exact ⟨hp.manifest, hp.admin, hp.uses⟩
    | trusted body salt aids => exact ⟨hp.manifest, hp.admin, hp.uses⟩
    | minted manifest => exact ⟨rfl, hp.admin, hp.uses⟩
    | rotated newAid manifest snapshot =>
      refine ⟨rfl, ?_, hp.uses⟩
      constructor
      · intro heq
        exact absurd heq.symm hfresh
      · intro hzero
        exact absurd hzero (Nat.succ_ne_zero _)

/-- In every run from the start of a worker, a use of the key by an admin route is of the key
of the server, which is the one the served manifest is minted by, exactly when no rotation
came before it. -/
theorem admin_key_is_server_key_iff (sdk : AdminSdk) (py : PyLib) (aid manifestJson : String)
    (oidc loopbackTls : Bool) (p : AgentProcess)
    (hrun : Reach (adminStep sdk py) FreshKey (.start aid manifestJson oidc loopbackTls) p) :
    (∀ u ∈ p.uses, (u.aid = u.serverAid ∧ u.aid = u.manifestAid) ↔ u.rotations = 0) ∧
      (p.adminAid = p.serverAid ∧ p.adminAid = p.manifestAid ↔ p.rotations = 0) := by
  have hinv : IdentityInv p := by
    refine Reach.invariant (fun _ _ _ hp hok hstep => identityInv_step hp hok hstep) hrun ?_
    refine ⟨rfl, Iff.intro (fun _ => rfl) (fun _ => rfl), ?_⟩
    intro u hu
    cases hu
  refine ⟨hinv.uses, ?_⟩
  rw [hinv.manifest, and_self]
  exact hinv.admin

/-- A renewal is processed, the key is rotated, and a second renewal is processed. -/
def renewalsAroundRotation : List AdminCall :=
  [.processRenewal "request" 100 60 0, .rotateKeys "new" (.ok "manifest of new") none,
   .processRenewal "request" 100 60 1]

/-- The first renewal is processed by the key of the server, and the second by the old key. -/
theorem admin_key_around_rotation :
    ∃ p, Reach (adminStep .refusing .refusing) FreshKey (.start "old" "m" false false) p ∧
      p.uses.map (fun u => (u.aid, u.serverAid, u.rotations)) =
        [("old", "new", 1), ("old", "old", 0)] ∧
      (∀ u ∈ p.uses, (u.aid = u.serverAid ∧ u.aid = u.manifestAid) ↔ u.rotations = 0) := by
  have hexec : (exec (adminStep .refusing .refusing) FreshKey (.start "old" "m" false false)
      renewalsAroundRotation).map
        (fun p => p.uses.map fun u => (u.aid, u.serverAid, u.rotations)) =
      some [("old", "new", 1), ("old", "old", 0)] := by
    decide +kernel
  obtain ⟨p, hrun, huses⟩ := exists_reach_of_exec hexec
  exact ⟨p, hrun, huses, (admin_key_is_server_key_iff _ _ _ _ _ _ p hrun).1⟩

/-- After a rotation an admin route uses a key that is not the server's. -/
theorem admin_key_stale_after_rotation :
    ¬ ∀ p, Reach (adminStep .refusing .refusing) FreshKey (.start "old" "m" false false) p →
        ∀ u ∈ p.uses, u.aid = u.serverAid ∧ u.aid = u.manifestAid := by
  intro hall
  have hexec : (exec (adminStep .refusing .refusing) FreshKey (.start "old" "m" false false)
      renewalsAroundRotation).map
        (fun p => decide (∀ u ∈ p.uses, u.aid = u.serverAid)) = some false := by
    decide +kernel
  obtain ⟨p, hrun, hstale⟩ := exists_reach_of_exec hexec
  exact of_decide_eq_false hstale fun u hu => (hall p hrun u hu).1

end AitpPlayground.Proofs.Agents
