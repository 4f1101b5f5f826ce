import AitpPlayground.Lib.Py
import Mathlib.Data.Finset.Basic

/-!
# `AitpPlayground.Agents.Sdk`: the functions of the SDK

The agents call a foreign package for everything that is signed or verified. `Sdk` is the
part of it they call. An `AitpAgent` is named by its AID, which is its public key.

Each function takes a `salt`, which stands for what a call sees beyond its arguments: the
clock, randomness, the state of a cache. So two calls with the same arguments may answer
differently, and a theorem over an arbitrary `Sdk` is a theorem over arbitrary answers.
-/

set_option autoImplicit false

namespace AitpPlayground.Agents

open AitpPlayground.Lib

/-- An entry of a revocation list, as `sign_revocation_list` takes it. -/
structure Entry where
  jti : String
  revokedAt : Int
  reason : Option String
deriving DecidableEq

/-- The view of a verified TCT. -/
structure TctIdentity where
  peerAid : String
  grants : List String
  expiresAt : Int
  jti : String
deriving DecidableEq

/-- The functions of the SDK. -/
structure Sdk where
  /-- `agent.sign_revocation_list(entries, expires_in_secs)`. -/
  signRevocationList (aid : String) (entries : List Entry) (expiresInSecs : Int) (salt : Nat) :
    Except PyErr String
  /-- `verify_revocation_list(envelope_json, expected_issuer)`. -/
  verifyRevocationList (envelopeJson expectedIssuer : String) (salt : Nat) : Except PyErr Unit
  /-- `agent.new_pop_challenge(tct_token, ttl)`. -/
  newPopChallenge (aid tctToken : String) (ttl : Int) (salt : Nat) : Except PyErr String
  /-- `agent.verify_tct` and `agent.verify_tct_cached`: the identity, and whether the call
  made the cache of tokens longer. -/
  verifyTct (aid tctToken requiredGrant : String) (revokedJtis : Finset String)
    (pop : String × String) (salt : Nat) : Except PyErr (TctIdentity × Bool)

/-- An SDK that refuses everything. Concrete runs are evaluated over copies of it. -/
def Sdk.refusing : Sdk where
  signRevocationList _ _ _ _ := .error (.runtimeError "refused" none)
  verifyRevocationList _ _ _ := .error (.runtimeError "refused" none)
  newPopChallenge _ _ _ _ := .error (.runtimeError "refused" none)
  verifyTct _ _ _ _ _ _ := .error (.runtimeError "refused" none)

/-- An SDK that signs the lists of a table: a signer and its jtis, to the text of the
envelope. It verifies the envelopes of the table under their signers. -/
def Sdk.signing (lists : List ((String × List String) × String)) : Sdk :=
  { Sdk.refusing with
      signRevocationList := fun aid entries _ _ =>
        match lists.lookup (aid, entries.map Entry.jti) with
        | some text => .ok text
        | none => .error (.runtimeError "refused" none)
      verifyRevocationList := fun envelopeJson expectedIssuer _ =>
        if lists.any fun l => l.1.1 = expectedIssuer ∧ l.2 = envelopeJson then .ok ()
        else .error (.runtimeError "signature invalid" none) }

end AitpPlayground.Agents
