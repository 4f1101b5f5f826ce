import AitpPlayground.Agents.AdminAuth
import AitpPlayground.Proofs.Agents.AgentAdmin

/-!
# `AitpPlayground.Proofs.Agents.AdminAuth`: what a stranger can do to an agent

A stranger can send any request to the admin router in any order, but not the admin token. So only
the exempt route is open, and `GET /.well-known/aitp-manifest` beside it, and `OpenOnly` says what
the two do: the admin router renews tokens with its key, and the manifest is minted again.

* `openOnly_guardedStep`: a request without the token does no more than that.
* `strangers_change_nothing`: nor does any sequence of them. The key, the trust store, the
  revocations and the held tokens stay, and no capability call goes out.

Handshakes, redemptions and capability calls need no admin token either, and the server answers
them with its key. They are left out here: `AgentProcess` does not record these uses.
-/

set_option autoImplicit false

namespace AitpPlayground.Proofs.Agents

open AitpPlayground.Lib
open AitpPlayground.Lib.Act
open AitpPlayground.Agents

variable {sdk : AdminSdk} {py : PyLib}

/-! ### The statement -/

/-- The request does not carry the token of the agent. -/
def WithoutToken (m : AdminAuthMiddleware) (r : AgentRequest) : Prop :=
  ∀ token ∈ m.token, r.headers.lookup adminTokenHeader ≠ some token

/-- The request does not either, and is to the admin router or for the manifest. -/
def FromStranger (m : AdminAuthMiddleware) (_ : AgentProcess) (r : AgentRequest) : Prop :=
  r.call.path ≠ AdminCall.served.path ∧ WithoutToken m r

instance (m : AdminAuthMiddleware) (p : AgentProcess) (r : AgentRequest) :
    Decidable (FromStranger m p r) :=
  inferInstanceAs (Decidable (_ ∧ ∀ token ∈ m.token, _ ≠ some token))

/-- What the two open routes do to an agent: nothing, but that the admin router has processed
renewals with its key and that the served manifest is another one of the key of the server. -/
structure OpenOnly (p p' : AgentProcess) : Prop where
  rest : p' = { p with
    uses := p'.uses, manifestJson := p'.manifestJson, manifestAid := p'.manifestAid }
  uses : ∃ added, p'.uses = added ++ p.uses ∧ ∀ u ∈ added, u.op = .processRenewalRequest
  manifest : p'.manifestAid = p.manifestAid ∨ p'.manifestAid = p.serverAid

instance : Std.Refl OpenOnly := ⟨fun _ => ⟨rfl, ⟨[], rfl, nofun⟩, .inl rfl⟩⟩

/-- The identity of the server stays. -/
theorem OpenOnly.serverAid {p p' : AgentProcess} (h : OpenOnly p p') :
    p'.serverAid = p.serverAid := by
  rw [h.rest]

instance : IsTrans AgentProcess OpenOnly where
  trans p q r h h' := by
    constructor
    · rw [h'.rest, h.rest]
    · obtain ⟨added, hadded, hops⟩ := h.uses
      obtain ⟨added', hadded', hops'⟩ := h'.uses
      refine ⟨added' ++ added, by rw [hadded', hadded, List.append_assoc], ?_⟩
      intro u hu
      rcases List.mem_append.mp hu with hu | hu
      · exact hops' u hu
      · exact hops u hu
    · rcases h'.manifest with heq | heq
      · exact h.manifest.imp heq.trans heq.trans
      · exact .inr (heq.trans h.serverAid)

/-! ### Open routes -/

/-- A renewal uses the key, and changes nothing else. -/
theorem openOnly_processRenewal (payload : String) (manifestExp ttlSecs : Int) (salt : Nat) :
    Within OpenOnly (processRenewal sdk py payload manifestExp ttlSecs salt) := by
  have hkey {α : Type} (call : String → Except PyErr α) :
      Within OpenOnly (Route.useKey .processRenewalRequest call) := by
    refine within_bind within_get fun _ => within_bind (within_modify fun p => ?_) fun _ =>
      within_ofExcept _ _
    exact ⟨rfl, ⟨[_], rfl, fun u hu => by rw [List.mem_singleton.mp hu]⟩, .inl rfl⟩
  refine within_ite ?_ (within_throw _)
  refine within_bind within_get fun _ => ?_
  refine within_bind (within_tryCatch (hkey _) fun exc => ?_) fun _ => ?_
  · cases exc with
    | raised e =>
      exact within_ite (within_throw _) (within_ite (within_throw _) (within_throw _))
    | http refusal => exact within_throw _
    | transport detail => exact within_throw _
    | response status text => exact within_throw _
  · refine within_bind (within_ofExcept _ _) fun _ => ?_
    exact within_bind (within_ofExcept _ _) fun _ => within_pure _

/-- The manifest may be minted anew. -/
theorem openOnly_getManifest (minted : Except PyErr String) (p : AgentProcess) :
    OpenOnly p (((AdminCall.getManifest minted).route sdk py).after p) := by
  cases minted with
  | ok manifest => exact ⟨rfl, ⟨[], rfl, nofun⟩, .inr rfl⟩
  | error exc => exact Std.Refl.refl p

/-! ### The guard -/

/-- The admin routes are guarded. -/
theorem guarded_of_mem : ∀ path ∈ ["/admin/initiate-handshake", "/admin/invoke",
    "/admin/held-tct", "/admin/renew-tct", "/admin/export-session-bundle",
    "/admin/verify-session-bundle", "/admin/delegate", "/admin/redeem-delegation",
    "/admin/revoke-tct", "/admin/trust-peers", "/admin/rotate-keys"], guarded path = true := by
  decide

/-- A guarded request needs the token. -/
theorem not_passes {m : AdminAuthMiddleware} {r : AgentRequest}
    (hguarded : guarded r.call.path = true) (h : WithoutToken m r) :
    m.passes r.scope = false := by
  have hrefused : m.authorized r.scope = false := by
    unfold AdminAuthMiddleware.authorized
    split
    · rfl
    · rename_i token htoken
      split
      · rfl
      · rename_i value hvalue
        rw [beq_eq_false_iff_ne]
        intro heq
        exact h token htoken (heq ▸ hvalue)
  unfold AdminAuthMiddleware.passes
  rw [hrefused]
  show (false || !guarded r.call.path || false) = false
  rw [hguarded]
  rfl

/-- One request of a stranger. -/
theorem openOnly_guardedStep {m : AdminAuthMiddleware} {p p' : AgentProcess} {r : AgentRequest}
    (h : WithoutToken m r) (hs : guardedStep sdk py m p r = some p') : OpenOnly p p' := by
  obtain ⟨headers, call⟩ := r
  have hclosed (hguarded : guarded call.path = true) : OpenOnly p p' := by
    rw [guardedStep, not_passes hguarded h] at hs
    cases hs
    exact Std.Refl.refl p
  have hopen (hroute : OpenOnly p ((call.route sdk py).after p)) : OpenOnly p p' := by
    unfold guardedStep at hs
    split at hs
    · cases hs
      exact hroute
    · cases hs
      exact Std.Refl.refl p
  -- All but three of the routes are guarded.
  cases call with
  | processRenewal payload exp ttl salt =>
    exact hopen (openOnly_processRenewal payload exp ttl salt p)
  | getManifest minted => exact hopen (openOnly_getManifest minted p)
  | served => exact hopen (Std.Refl.refl p)
  | initiateHandshake | invoke | heldTct | renewTct | exportSessionBundle | verifySessionBundle
  | delegate | redeemDelegation | revokeTct | trustPeers | rotateKeys =>
    exact hclosed (guarded_of_mem _ (by simp [AdminCall.path]))

/-- For every token and every sequence of requests to the admin router and for the manifest that do
not carry it, on an agent in any state: the key, the trust store, the revocations, the held tokens
and vouchers are as before, no capability call has gone out, and the admin router has used its key
for renewals alone. -/
theorem strangers_change_nothing {m : AdminAuthMiddleware} {p p' : AgentProcess}
    (h : Reach (guardedStep sdk py m) (FromStranger m) p p') : OpenOnly p p' :=
  h.invariant
    (fun _ _ _ hp hr hs => Trans.trans hp (openOnly_guardedStep hr.2 hs)) (Std.Refl.refl p)

/-- A stranger tries to get into the trust store, with another token, and renews. -/
theorem strangers_change_nothing_wrong_token :
    ∃ p', Reach (guardedStep .accepting .refusing (.new (some "t1")))
        (FromStranger (.new (some "t1"))) (.start "aid:a" "manifest" false true) p' ∧
      p'.uses.length = 1 ∧ OpenOnly (.start "aid:a" "manifest" false true) p' := by
  have heval : (exec (guardedStep .accepting .refusing (.new (some "t1")))
      (FromStranger (.new (some "t1"))) (.start "aid:a" "manifest" false true)
      [⟨[("x-aitp-admin-token", utf8 "t2")],
          .trustPeers (.obj [("aids", .arr [.str "aid:mallory"])]) 0⟩,
        ⟨[], .processRenewal "renewal" 0 3600 1⟩]).map (fun p => p.uses.length) = some 1 := by
    decide +kernel
  obtain ⟨p', hrun, huses⟩ := exists_reach_of_exec heval
  exact ⟨p', hrun, huses, strangers_change_nothing hrun⟩

end AitpPlayground.Proofs.Agents
