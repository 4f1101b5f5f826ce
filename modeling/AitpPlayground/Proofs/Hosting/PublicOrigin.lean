import AitpPlayground.Hosting.PublicOrigin
import AitpPlayground.Lib.Subst
import AitpPlayground.Proofs.Api.Hosted

/-!
# `AitpPlayground.Proofs.Hosting.PublicOrigin`: from the DID of a hosted agent back to it

A peer has only the DID. `resolve_did_web` asks the host in it for the DID document, and
`_resolve_peer_did` checks what the document says.

* `asks_document_iff`: the URL that is asked is the one where the agent has its document, unless
  the scheme is another or the host ends with a slash.
* `hosted_did_resolves_iff`: then the peer gets the URL of the manifest and the origin that the
  agent is known by, and nothing else.
* `commit_follows_hello_iff`: the handshake goes on at that origin, unless the origin has
  `/hello` in it. The commit goes to another URL for a host that begins with `hello`.
-/

set_option autoImplicit false

namespace AitpPlayground.Proofs.Hosting

open AitpPlayground.Lib
open AitpPlayground.Trust
open AitpPlayground.Api
open AitpPlayground.Hosting
open AitpPlayground.Proofs.Api (splitOnce_append_sep rstripSlashes_idem rstripSlashes_ne_concat
  wellKnown originOf_append afterScheme_append resolvePeerDid_ok)

/-! ### The host in a DID -/

/-- The characters that `encode_did_web` keeps are no escape. -/
theorem didWebSafe : ∀ c ∈ ".".toList, c.toNat < 128 ∧ c ≠ '%' := by
  intro c hc
  obtain rfl := List.mem_singleton.mp hc
  decide

/-- What is decoded from a DID is the host. -/
theorem didHost_did (a : PublicAddress) : didHost a.did = a.host.toList := by
  have hdrop : a.did.toList.drop didWebPrefix.length = quote ".".toList a.host.toList := by
    unfold PublicAddress.did encodeDidWeb
    rw [String.toList_append, String.toList_ofList]
    rfl
  show unquote (a.did.toList.drop didWebPrefix.length) = a.host.toList
  rw [hdrop, unquote_quote didWebSafe]

/-- A DID begins with its method. -/
theorem did_begins (a : PublicAddress) : didWebPrefix.toList.isPrefixOf a.did.toList = true := by
  rw [List.isPrefixOf_iff_prefix]
  unfold PublicAddress.did encodeDidWeb
  rw [String.toList_append]
  exact List.prefix_append _ _

/-! ### Origins -/

/-- A text that does not end with a slash is left as it is. -/
theorem rstripSlashes_of_last {s : List Char} (h : s.getLast? ≠ some '/') :
    rstripSlashes s = s := by
  unfold rstripSlashes
  rw [List.rdropWhile_eq_self_iff]
  intro hne hslash
  rw [List.getLast?_eq_some_getLast hne, ne_eq, Option.some_inj] at h
  exact h (beq_iff_eq.mp hslash)

/-- What is stripped is empty only when there are slashes alone. -/
theorem rstripSlashes_ne_nil {s : List Char} {c : Char} (hc : c ∈ s) (hslash : c ≠ '/') :
    rstripSlashes s ≠ [] := by
  intro h
  have hall := List.rdropWhile_eq_nil_iff.mp h c hc
  exact hslash (beq_iff_eq.mp hall)

/-- The last character of an address is the one of its host. -/
theorem getLast?_append_host (s : List Char) {host : String} (h : host ≠ "") :
    (s ++ host.toList).getLast? = host.toList.getLast? := by
  rw [List.getLast?_append]
  cases hlast : host.toList.getLast? with
  | some c => rfl
  | none =>
    rw [List.getLast?_eq_none_iff] at hlast
    exact absurd (String.toList_eq_nil_iff.mp hlast) h

/-- The schemes of the resolver. -/
theorem resolverScheme_cases (insecure : Bool) (host : String) :
    resolverScheme insecure host = "http" ∨ resolverScheme insecure host = "https" := by
  unfold resolverScheme loopbackScheme
  cases insecure <;> split <;> simp

/-- A scheme has no colon. -/
theorem notMem_resolverScheme (insecure : Bool) (host : String) :
    ':' ∉ (resolverScheme insecure host).toList := by
  rcases resolverScheme_cases insecure host with h | h <;> rw [h] <;> decide

section
variable {a : PublicAddress}

/-- An origin is a scheme and a host, without slashes at the end. -/
theorem toList_origin :
    a.origin.toList = rstripSlashes (a.scheme.toList ++ "://".toList ++ a.host.toList) := by
  unfold PublicAddress.origin
  rw [String.toList_ofList, String.toList_append, String.toList_append]

/-- The manifest is under the origin. -/
theorem toList_manifestUrl : a.manifestUrl.toList = a.origin.toList ++ wellKnown := by
  unfold PublicAddress.manifestUrl
  rw [String.toList_append]
  rfl

/-- The origin of a host without a slash at its end. -/
theorem toList_origin_of_last (h : a.host.toList.getLast? ≠ some '/') :
    a.origin.toList = a.scheme.toList ++ "://".toList ++ a.host.toList := by
  rw [toList_origin, rstripSlashes_of_last]
  rw [getLast?_append_host _ a.host_ne]
  exact h

/-- An origin is not empty. -/
theorem origin_ne : a.origin ≠ "" := by
  intro h
  have hnil : rstripSlashes (a.scheme.toList ++ "://".toList ++ a.host.toList) = [] := by
    rw [← toList_origin, h]
    rfl
  have hcolon : ':' ∈ a.scheme.toList ++ "://".toList ++ a.host.toList := by simp
  exact rstripSlashes_ne_nil hcolon (by decide) hnil

/-- The bootstrap has the origin as it is. -/
theorem block_eq (insecure : Bool) (port : Int) :
    a.block insecure port =
      { handshakeEndpoint := a.handshakeUrl
        didWebHost := some a.host
        didWebScheme := String.ofList (beforeScheme a.origin.toList) } := by
  have horigin : String.ofList (rstripSlashes a.origin.toList) = a.origin := by
    rw [toList_origin, rstripSlashes_idem, ← toList_origin, String.ofList_toList]
  unfold PublicAddress.block addressBlock
  simp only [if_neg origin_ne, horigin]
  rfl

/-! ### What is asked, and what is answered -/

/-- The URL that `resolve_did_web` asks. -/
theorem didJsonUrl_did (insecure : Bool) :
    didJsonUrl (loopbackScheme insecure) a.did =
      resolverScheme insecure a.host ++ "://" ++ a.host ++ "/.well-known/did.json" := by
  unfold didJsonUrl resolverScheme
  rw [didHost_did]
  simp only [String.ofList_toList]

/-- It is the URL of the agent's document just when the agent has the scheme of the resolver and
its host does not end with a slash. -/
theorem asks_document_iff (insecure : Bool) :
    didJsonUrl (loopbackScheme insecure) a.did = a.didDocumentUrl ↔
      a.scheme = resolverScheme insecure a.host ∧ a.host.toList.getLast? ≠ some '/' := by
  have hurls : didJsonUrl (loopbackScheme insecure) a.did = a.didDocumentUrl ↔
      (resolverScheme insecure a.host).toList ++ "://".toList ++ a.host.toList =
        a.origin.toList := by
    rw [didJsonUrl_did]
    unfold PublicAddress.didDocumentUrl
    simp only [← String.toList_inj, String.toList_append, List.append_left_inj]
  rw [hurls]
  constructor
  · intro h
    have hlast : a.host.toList.getLast? ≠ some '/' := by
      intro hslash
      obtain ⟨before, hbefore⟩ := List.getLast?_eq_some_iff.mp hslash
      rw [toList_origin, hbefore, ← List.append_assoc] at h
      exact rstripSlashes_ne_concat h.symm
    rw [toList_origin_of_last hlast, List.append_left_inj, List.append_left_inj,
      String.toList_inj] at h
    exact ⟨h.symm, hlast⟩
  · rintro ⟨hscheme, hlast⟩
    rw [toList_origin_of_last hlast, hscheme]

/-- The endpoint in the document of an agent. -/
theorem manifestEndpoint_didDocument {b : AddressBlock} {doc : Json}
    (h : b.didDocument = some doc) (did : String) :
    ∃ host, b.didWebHost = some host ∧ manifestEndpoint did doc =
      .ok ((if b.didWebScheme = "" then "http" else b.didWebScheme) ++ "://" ++ host) := by
  unfold AddressBlock.didDocument at h
  split at h
  case h_1 => cases h
  case h_2 host hhost =>
    split at h
    case isTrue => cases h
    case isFalse =>
      cases h
      exact ⟨host, hhost, rfl⟩

/-! ### Resolution -/

/-- What a split leaves is the end of the text. -/
theorem splitOnce_suffix {sep s before rest : List Char}
    (h : splitOnce sep s = some (before, rest)) : rest <:+ s := by
  induction s generalizing before with
  | nil => cases h
  | cons c s ih =>
    rw [splitOnce] at h
    split at h
    case isTrue =>
      cases h
      exact List.drop_suffix _ _
    case isFalse =>
      obtain ⟨parts, hparts, heq⟩ := Option.map_eq_some_iff.mp h
      cases heq
      exact (ih hparts).trans (List.suffix_cons c s)

/-- What comes after the scheme is the end of the text. -/
theorem afterScheme_suffix (s : List Char) : afterScheme s <:+ s := by
  unfold afterScheme
  split
  case h_1 before rest hsplit => exact splitOnce_suffix hsplit
  case h_2 => exact List.suffix_refl s

variable {py : PyLib} {fetch : String → Except PyErr Json} {env : Option String}

/-- A host with a slash at its end is no host of an origin. -/
theorem last_of_resolved {loopbackScheme : String} {resolved : String × String}
    (h : resolvePeerDid py fetch loopbackScheme env a.did = .ok resolved) :
    a.host.toList.getLast? ≠ some '/' := by
  intro hslash
  obtain ⟨before, hbefore⟩ := List.getLast?_eq_some_iff.mp hslash
  obtain ⟨-, -, hhost⟩ := resolvePeerDid_ok h
  rw [didHost_did, hbefore] at hhost
  obtain ⟨scheme, hscheme⟩ := afterScheme_suffix (originOf resolved.1.toList)
  rw [hhost, ← List.append_assoc] at hscheme
  exact rstripSlashes_ne_concat hscheme.symm

/-- The origin of what is resolved is the one in its URL. -/
theorem resolved_origin {loopbackScheme : String} {resolved : String × String}
    (h : resolvePeerDid py fetch loopbackScheme env a.did = .ok resolved) :
    resolved.2 = String.ofList (originOf resolved.1.toList) := by
  unfold resolvePeerDid at h
  rw [if_pos (did_begins a)] at h
  split at h
  case h_1 => cases h
  case h_2 url _ =>
    simp only at h
    split at h
    case isTrue => cases h
    case isFalse =>
      split at h
      case isTrue => cases h
      case isFalse =>
        cases h
        rfl

/-- Where the document of the agent is found, its manifest is. -/
theorem resolveDidWeb_of_served {insecure insecurePeer : Bool} {port : Int} {doc : Json}
    (hscheme : a.scheme = resolverScheme insecurePeer a.host)
    (hlast : a.host.toList.getLast? ≠ some '/')
    (hdoc : (a.block insecure port).didDocument = some doc)
    (hserved : fetch a.didDocumentUrl = .ok doc) :
    resolveDidWeb fetch (loopbackScheme insecurePeer) a.did = .ok a.manifestUrl := by
  have horigin := toList_origin_of_last hlast
  have hcolon : ':' ∉ a.scheme.toList := hscheme ▸ notMem_resolverScheme insecurePeer a.host
  have hbefore : String.ofList (beforeScheme a.origin.toList) = a.scheme := by
    have hsep : "://".toList = ':' :: ['/', '/'] := by decide
    unfold beforeScheme
    rw [horigin, hsep, List.append_assoc, splitOnce_append_sep hcolon]
    exact String.ofList_toList
  have hne : a.scheme ≠ "" := by
    rcases resolverScheme_cases insecurePeer a.host with h | h <;>
      · rw [hscheme, h]
        decide
  have hendpoint : manifestEndpoint a.did doc = .ok a.origin := by
    obtain ⟨host, hhost, hendpoint⟩ := manifestEndpoint_didDocument hdoc a.did
    rw [block_eq] at hhost hendpoint
    cases hhost
    have horigin' : a.scheme ++ "://" ++ a.host = a.origin := by
      rw [← String.toList_inj, horigin, String.toList_append, String.toList_append]
    rw [hendpoint, hbefore, if_neg hne, horigin']
  have hstrip : rstripSlashes a.origin.toList = a.origin.toList := by
    rw [toList_origin, rstripSlashes_idem]
  unfold resolveDidWeb
  rw [if_pos (did_begins a), (asks_document_iff insecurePeer).mpr ⟨hscheme, hlast⟩, hserved]
  show (manifestEndpoint a.did doc).bind (fun endpoint =>
    .ok (String.ofList (rstripSlashes endpoint.toList) ++ "/.well-known/aitp-manifest")) = _
  rw [hendpoint]
  show Except.ok (String.ofList (rstripSlashes a.origin.toList) ++ _) = _
  rw [hstrip, String.ofList_toList]
  rfl

/-- For every address of a hosted agent that has the scheme of the resolver, and every network in
which its document is at its URL: a peer that resolves the DID gets the URL of the manifest and
the origin of the agent, or nothing. It gets them if and only if the host does not end with a
slash, and is no loopback host or the peer opts in. -/
theorem hosted_did_resolves_iff {insecure insecurePeer : Bool} {port : Int} {doc : Json}
    (hscheme : a.scheme = resolverScheme insecurePeer a.host)
    (hdoc : (a.block insecure port).didDocument = some doc)
    (hserved : fetch a.didDocumentUrl = .ok doc) (resolved : String × String) :
    resolvePeerDid py fetch (loopbackScheme insecurePeer) env a.did = .ok resolved ↔
      resolved = (a.manifestUrl, a.origin) ∧ a.host.toList.getLast? ≠ some '/' ∧
        (isLoopback a.manifestUrl.toList = true → allowsLoopback env = true) := by
  have horigin : originOf a.manifestUrl.toList = a.origin.toList := by
    rw [toList_manifestUrl, toList_origin, originOf_append]
  have hresolve (hlast : a.host.toList.getLast? ≠ some '/') :=
    resolveDidWeb_of_served hscheme hlast hdoc hserved
  constructor
  · intro h
    have hlast := last_of_resolved h
    obtain ⟨hurl, hremote, -⟩ := resolvePeerDid_ok h
    rw [hresolve hlast] at hurl
    have hmanifest : resolved.1 = a.manifestUrl := (Except.ok.inj hurl).symm
    have hpeer : resolved.2 = String.ofList (originOf resolved.1.toList) := resolved_origin h
    rw [hmanifest, horigin, String.ofList_toList] at hpeer
    rw [hmanifest] at hremote
    refine ⟨Prod.ext hmanifest hpeer, hlast, fun hloops => ?_⟩
    rw [hloops, Bool.true_and] at hremote
    simpa using hremote
  · rintro ⟨rfl, hlast, hloopback⟩
    have hcolon : ':' ∉ a.scheme.toList := hscheme ▸ notMem_resolverScheme insecurePeer a.host
    have hhost : afterScheme a.origin.toList = didHost a.did := by
      rw [toList_origin_of_last hlast, afterScheme_append hcolon, didHost_did]
    have hremote : (isLoopback a.manifestUrl.toList && !allowsLoopback env) = false := by
      cases hloops : isLoopback a.manifestUrl.toList with
      | false => rfl
      | true => rw [hloopback hloops]; rfl
    unfold resolvePeerDid
    rw [if_pos (did_begins a), hresolve hlast]
    simp only [horigin, hhost, hremote, Bool.false_eq_true, if_false, ne_eq, not_true_eq_false,
      String.ofList_toList]

/-- The analyzer at `org-b.aitp.test:9100`, resolved by a peer of another organisation. -/
theorem hosted_did_resolves_remote :
    let a : PublicAddress := ⟨"org-b.aitp.test:9100", "https", by decide⟩
    let doc := ((a.block false 9100).didDocument).getD .null
    resolvePeerDid .refusing (fun _ => .ok doc) "https" none
      "did:web:org-b.aitp.test%3A9100" = .ok
        ("https://org-b.aitp.test:9100/.well-known/aitp-manifest",
          "https://org-b.aitp.test:9100") := by
  intro a doc
  have hdid : a.did = "did:web:org-b.aitp.test%3A9100" := by decide +kernel
  have hdoc : (a.block false 9100).didDocument = some doc := rfl
  have hresolved (resolved : String × String) :
      resolvePeerDid .refusing (fun _ => .ok doc) (loopbackScheme false) none a.did =
        .ok resolved ↔ _ :=
    hosted_did_resolves_iff (by decide +kernel) hdoc rfl resolved
  rw [hdid] at hresolved
  refine (hresolved _).mpr ⟨by decide +kernel, by decide +kernel, ?_⟩
  intro hloops
  exact absurd hloops (by decide +kernel)

/-! ### The handshake after it -/

/-- `"/hello"` has no slash after its first character. -/
theorem hello_mark : '/' ∉ "hello".toList := by decide

/-- The commit goes to the origin of the hello if and only if the origin has no `/hello` in it. -/
theorem commitEndpoint_iff (origin : String) :
    commitEndpoint (origin ++ "/aitp/handshake/hello") = origin ++ "/aitp/handshake/commit" ↔
      ¬ "/hello".toList <:+: origin.toList := by
  have hcount : occurrences "/hello".toList (origin.toList ++ "/aitp/handshake/hello".toList) =
      occurrences "/hello".toList origin.toList + 1 :=
    occurrences_append_mark hello_mark origin.toList "aitp/handshake/hello".toList
  have hreplace : (commitEndpoint (origin ++ "/aitp/handshake/hello")).toList =
      substitute [("/hello".toList, "/commit".toList)]
        (origin.toList ++ "/aitp/handshake/hello".toList) := by
    unfold commitEndpoint replaceAll
    rw [String.toList_ofList, String.toList_append, replaceFrom_eq_substituteFrom]
    rfl
  rw [← occurrences_eq_zero_iff (by decide), ← String.toList_inj, hreplace, String.toList_append]
  constructor
  · intro h
    -- Each occurrence makes the URL longer by one character.
    have hlength := length_substitute_of_mark hello_mark "/commit".toList
      (origin.toList ++ "/aitp/handshake/hello".toList)
    have hcommit : ("/aitp/handshake/commit".toList.length : Int) =
        "/aitp/handshake/hello".toList.length + 1 := by decide
    have hlonger : ("/commit".toList.length : Int) - ('/' :: "hello".toList).length = 1 := by
      decide
    have hmark : '/' :: "hello".toList = "/hello".toList := by decide
    rw [hlonger, hmark, h, hcount, Int.mul_one, List.length_append, List.length_append] at hlength
    omega
  · intro hzero
    rw [hzero, Nat.zero_add] at hcount
    rw [substitute_append_of_none]
    · congr 1
    · intro n hn e he
      rw [List.mem_singleton.mp he]
      exact (occurrences_append_eq_iff origin.toList _).mp hcount n hn

/-- The decimals of a port. -/
theorem notMem_port (port : Int) : '/' ∉ (toString port).toList := by
  intro h
  have hdigits (n : Nat) : '/' ∉ (toString n).toList := by
    intro h
    rw [Nat.toString_eq_ofList_toDigits, String.toList_ofList] at h
    exact absurd (Nat.isDigit_of_mem_toDigits (by decide) (by decide) h) (by decide)
  cases port with
  | ofNat n => exact hdigits n h
  | negSucc n =>
    have hsign : toString (Int.negSucc n) = "-" ++ toString (n + 1) := rfl
    rw [hsign, String.toList_append] at h
    rcases List.mem_append.mp h with h | h
    · exact absurd h (by decide)
    · exact hdigits _ h

/-- An origin on the loopback has no `/hello` in it. -/
theorem hello_notIn_loopback (insecure : Bool) (port : Int) :
    ¬ "/hello".toList <:+: (loopbackOrigin insecure port).toList := by
  have hrest : '/' ∉ "localhost:".toList ++ (toString port).toList := by
    rw [List.mem_append]
    rintro (h | h)
    · exact absurd h (by decide)
    · exact notMem_port port h
  have hnone : occurrences "/hello".toList
      ('/' :: ("localhost:".toList ++ (toString port).toList)) = 0 := by
    rw [occurrences_cons_of_not, occurrences_eq_zero_iff (by decide)]
    · intro hoccurs
      exact hrest (hoccurs.subset (by decide))
    · intro h
      have hletter := (List.cons_prefix_cons.mp (List.cons_prefix_cons.mp h).2).1
      exact absurd hletter (by decide)
  have horigin : (loopbackOrigin insecure port).toList = ((loopbackScheme insecure).toList ++
      [':', '/']) ++ '/' :: ("localhost:".toList ++ (toString port).toList) := by
    unfold loopbackOrigin
    rw [String.toList_append, String.toList_append]
    simp
  have hsplit : occurrences "/hello".toList (loopbackOrigin insecure port).toList =
      occurrences "/hello".toList ((loopbackScheme insecure).toList ++ [':', '/']) + 0 := by
    rw [horigin, ← hnone]
    exact occurrences_append_mark hello_mark _ _
  rw [← occurrences_eq_zero_iff (by decide), hsplit]
  cases insecure <;> decide

/-- For every address of a hosted agent: the endpoint of the hello is its handshake URL, and the
commit goes to the same origin if and only if the origin has no `/hello` in it. The commit of an
agent on the loopback goes to its origin in any case. -/
theorem commit_follows_hello_iff (a : PublicAddress) (insecure : Bool) (port : Int) :
    ((a.block insecure port).handshakeEndpoint = a.handshakeUrl ∧
      (commitEndpoint a.handshakeUrl = a.origin ++ "/aitp/handshake/commit" ↔
        ¬ "/hello".toList <:+: a.origin.toList)) ∧
    ∀ didWebHost, commitEndpoint (addressBlock insecure port didWebHost none).handshakeEndpoint =
      loopbackOrigin insecure port ++ "/aitp/handshake/commit" := by
  constructor
  · rw [block_eq]
    exact ⟨rfl, commitEndpoint_iff a.origin⟩
  · intro didWebHost
    exact (commitEndpoint_iff (loopbackOrigin insecure port)).mpr
      (hello_notIn_loopback insecure port)

/-- The commit of `hello.aitp.test` goes to a host with another name. -/
example : commitEndpoint "https://hello.aitp.test/aitp/handshake/hello" =
    "https:/" ++ "/commit.aitp.test/aitp/handshake/commit" := by
  decide +kernel

end

end AitpPlayground.Proofs.Hosting
