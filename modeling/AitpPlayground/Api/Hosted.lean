import AitpPlayground.Trust.Resolver

/-!
# `AitpPlayground.Api.Hosted`: the did:web peers of a hosted agent

`_resolve_peer_did` (`src/aitp_playground/api/hosted.py`) resolves a peer, and refuses a URL on
the loopback or of another host than the DID names.
-/

set_option autoImplicit false

namespace AitpPlayground.Api

open AitpPlayground.Lib
open AitpPlayground.Trust

/-- An `HTTPException` with a text. -/
structure HttpException where
  status : Nat
  detail : String
deriving DecidableEq

/-- `s.split("://", 1)[-1]`. -/
def afterScheme (s : List Char) : List Char :=
  match splitOnce "://".toList s with
  | some (_, rest) => rest
  | none => s

/-- `s.rsplit(sep, 1)[0]`. -/
def beforeLast (sep s : List Char) : List Char :=
  match splitOnce sep.reverse s.reverse with
  | some (_, before) => before.reverse
  | none => s

/-- `_origin_of`. -/
def originOf (manifestUrl : List Char) : List Char :=
  rstripSlashes (beforeLast "/.well-known/".toList manifestUrl)

/-- `_is_loopback`. -/
def isLoopback (url : List Char) : Bool :=
  let host := ((afterScheme url).takeWhile fun c => c != '/').takeWhile fun c => c != ':'
  host == "localhost".toList || "127.".toList.isPrefixOf host

/-- `AITP_FEDERATION_ALLOW_LOOPBACK` opts in. -/
def allowsLoopback (env : Option String) : Bool :=
  ["1", "true", "yes"].contains (String.ofList ((env.getD "").toList.map Char.toLower))

/-- `_resolve_peer_did`: the URL of the manifest, and the origin of the peer. -/
def resolvePeerDid (py : PyLib) (fetch : String → Except PyErr Json) (loopbackScheme : String)
    (env : Option String) (peerDid : String) : Except HttpException (String × String) :=
  if didWebPrefix.toList.isPrefixOf peerDid.toList then
    match resolveDidWeb fetch loopbackScheme peerDid with
    | .error exc =>
      .error ⟨502, "did:web resolution failed for " ++ peerDid ++ ": " ++ exc.text⟩
    | .ok peerManifestUrl =>
      let peerOrigin := originOf peerManifestUrl.toList
      if isLoopback peerManifestUrl.toList && !allowsLoopback env then
        .error ⟨409, "refusing cross-domain handshake: " ++ peerDid ++
          " resolved to a loopback origin (" ++ String.ofList peerOrigin ++
          "); expected a real remote origin"⟩
      else
        let expectedHost := didHost peerDid
        let resolvedHost := afterScheme peerOrigin
        if resolvedHost ≠ expectedHost then
          .error ⟨409, "did:web origin mismatch: " ++ peerDid ++ " resolved to " ++
            py.reprOf (.str (String.ofList resolvedHost)) ++ ", expected " ++
            py.reprOf (.str (String.ofList expectedHost))⟩
        else .ok (peerManifestUrl, String.ofList peerOrigin)
  else .error ⟨400, "only did:web peers supported, got " ++ peerDid⟩

end AitpPlayground.Api
