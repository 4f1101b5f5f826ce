import AitpPlayground.Api.Hosted
import AitpPlayground.Lib.Url

/-!
# `AitpPlayground.Proofs.Api.Hosted`: where a did:web peer points

The checks of `_resolve_peer_did` split texts, and a client parses a URL. `resolvePeerDid_ok`
says what passes the checks: the endpoint after its scheme is the decoded identifier, and the
identifier up to its first colon is neither `localhost` nor begins with `127.`.

So the scheme is not looked at, an identifier with a delimiter is no authority, and a host that a
client reads in another way slips past (`SlipsPast`). `resolved_abroad_iff` says that nothing
else goes wrong.
-/

set_option autoImplicit false

namespace AitpPlayground.Proofs.Api

open AitpPlayground.Lib
open AitpPlayground.Trust
open AitpPlayground.Api

/-! ### The statement -/

/-- The URL is an https one, its authority is this text, and the host in it is another
machine. -/
def PointsAbroad (id manifestUrl : List Char) : Prop :=
  ∃ scheme, schemeAuthority manifestUrl = some (scheme, id) ∧
    scheme.map Char.toLower = "https".toList ∧ (hostOf (hostPort id)).isLoopback = false

/-- The endpoint of the manifest in the DID document is an https one. -/
def HttpsEndpoint (fetch : String → Except PyErr Json) (loopbackScheme did : String) : Prop :=
  ∃ doc endpoint scheme rest, fetch (didJsonUrl loopbackScheme did) = .ok doc ∧
    manifestEndpoint did doc = .ok endpoint ∧
    rstripSlashes endpoint.toList = scheme ++ "://".toList ++ rest ∧
    scheme.map Char.toLower = "https".toList

/-- The identifiers of this machine that the checks do not see. -/
inductive SlipsPast (id : List Char) : Prop where
  /-- The host is behind a userinfo part. -/
  | userinfo (at_ : '@' ∈ id) (loops : (hostOf (hostPort id)).isLoopback = true)
  /-- The host is an IPv6 address. -/
  | literal (at_ : '@' ∉ id) {rest : List Char} (bracket : id = '[' :: rest)
      (loops : (hostOf id).isLoopback = true)
  /-- `localhost` in other letters. -/
  | letters (at_ : '@' ∉ id) (bracket : id.head? ≠ some '[')
      (lower : (bareHost id).map Char.toLower = "localhost".toList)
      (other : bareHost id ≠ "localhost".toList)
  /-- An address of `127.0.0.0/8` that does not begin with `127.`. -/
  | number (at_ : '@' ∉ id) (bracket : id.head? ≠ some '[')
      (address : (ipv4Of (bareHost id)).any isLoopback4 = true)
      (other : ¬"127.".toList <+: bareHost id)

/-! ### Texts -/

/-- A text is split at a separator whose first character does not occur before it. -/
theorem splitOnce_append_sep {c : Char} {sep l : List Char} (h : c ∉ l) (rest : List Char) :
    splitOnce (c :: sep) (l ++ (c :: sep ++ rest)) = some (l, rest) := by
  induction l with
  | nil => simp [splitOnce]
  | cons x l ih =>
    have hx : c ≠ x := fun heq => h (heq ▸ List.mem_cons_self ..)
    have hl : c ∉ l := fun hmem => h (List.mem_cons_of_mem _ hmem)
    rw [List.cons_append, splitOnce, ih hl]
    simp [List.isPrefixOf, hx]

/-- What is stripped does not end with a slash. -/
theorem rstripSlashes_idem (s : List Char) : rstripSlashes (rstripSlashes s) = rstripSlashes s :=
  List.rdropWhile_idempotent _ s

/-- Without its last slashes a text does not end with one. -/
theorem rstripSlashes_ne_concat {s l : List Char} : rstripSlashes s ≠ l ++ ['/'] := by
  intro h
  have hidem := rstripSlashes_idem s
  rw [h] at hidem
  unfold rstripSlashes at hidem
  rw [List.rdropWhile_concat_pos _ _ _ (by decide)] at hidem
  have hle := (List.rdropWhile_prefix (fun c => c == '/') (l := l)).length_le
  rw [hidem, List.length_append, List.length_singleton] at hle
  omega

/-- The end of the URL of a manifest. -/
def wellKnown : List Char := "/.well-known/aitp-manifest".toList

/-- The last well-known part of the URL of a manifest is the one that was appended. -/
theorem originOf_append (s : List Char) :
    originOf (rstripSlashes s ++ wellKnown) = rstripSlashes s := by
  have hreverse : (rstripSlashes s ++ wellKnown).reverse =
      "tsefinam-ptia".toList ++ ('/' :: "nwonk-llew./".toList ++ (rstripSlashes s).reverse) := by
    rw [List.reverse_append]
    rfl
  have hsplit : beforeLast "/.well-known/".toList (rstripSlashes s ++ wellKnown) =
      rstripSlashes s := by
    unfold beforeLast
    rw [hreverse]
    have hsep : "/.well-known/".toList.reverse = '/' :: "nwonk-llew./".toList := by decide
    rw [hsep, splitOnce_append_sep (by decide)]
    exact List.reverse_reverse _
  unfold originOf
  rw [hsplit, rstripSlashes_idem]

/-- After the scheme comes the rest. -/
theorem afterScheme_append {scheme : List Char} (h : ':' ∉ scheme) (rest : List Char) :
    afterScheme (scheme ++ "://".toList ++ rest) = rest := by
  unfold afterScheme
  have hsep : "://".toList = ':' :: ['/', '/'] := by decide
  rw [hsep, List.append_assoc, splitOnce_append_sep h]

/-! ### URLs -/

/-- A scheme has none of the characters around it. -/
theorem not_mem_https {scheme : List Char} (h : scheme.map Char.toLower = "https".toList) {c : Char}
    (hc : c.toLower ∉ "https".toList) : c ∉ scheme := by
  intro hmem
  exact hc (h ▸ List.mem_map_of_mem hmem)

/-- Only the beginning of the endpoint can be the scheme of the URL of a manifest. -/
theorem endpoint_of_schemeAuthority {s scheme authority : List Char}
    (h : schemeAuthority (rstripSlashes s ++ wellKnown) = some (scheme, authority)) :
    ∃ rest, rstripSlashes s = scheme ++ "://".toList ++ rest := by
  obtain ⟨hscheme, rest, hurl, -⟩ := schemeAuthority_eq_some.mp h
  have hcolon : ':' ∉ scheme := fun hmem => absurd (hscheme ':' hmem) (by decide)
  have hsep : "://".toList = ':' :: ['/', '/'] := by decide
  -- The end has no colon, so the first one is in the endpoint.
  have hmem : ':' ∈ rstripSlashes s := by
    have hall : ':' ∈ rstripSlashes s ++ wellKnown := by
      rw [hurl, hsep]
      simp
    rcases List.mem_append.mp hall with hmem | hmem
    · exact hmem
    · exact absurd hmem (by decide)
  obtain ⟨before, after, hsplit, hbefore⟩ := List.eq_append_cons_of_mem hmem
  rw [hsplit, hsep, List.append_assoc, List.append_assoc, List.cons_append, List.cons_append,
    append_sep_inj hbefore hcolon] at hurl
  obtain ⟨rfl, hslashes⟩ := hurl
  -- Both slashes are in the endpoint: a first one alone would have been stripped.
  match after, hslashes with
  | [], hslashes =>
    have hstart : wellKnown = '/' :: '.' :: wellKnown.drop 2 := by decide
    rw [List.nil_append, hstart] at hslashes
    exact absurd (List.cons.inj (List.cons.inj hslashes).2).1 (by decide)
  | [x], hslashes =>
    obtain rfl : x = '/' := (List.cons.inj hslashes).1
    have hlast : rstripSlashes s = (before ++ [':']) ++ ['/'] := by
      rw [hsplit, List.append_assoc]
      rfl
    exact absurd hlast rstripSlashes_ne_concat
  | x :: y :: after, hslashes =>
    obtain rfl : x = '/' := (List.cons.inj hslashes).1
    obtain rfl : y = '/' := (List.cons.inj (List.cons.inj hslashes).2).1
    refine ⟨after, ?_⟩
    rw [hsplit, hsep, List.append_assoc]
    rfl

/-! ### Checks -/

variable {py : PyLib} {fetch : String → Except PyErr Json} {loopbackScheme peerDid : String}

/-- The URL that `resolve_did_web` returns. -/
theorem resolveDidWeb_ok {url : String} (h : resolveDidWeb fetch loopbackScheme peerDid = .ok url) :
    ∃ doc endpoint, fetch (didJsonUrl loopbackScheme peerDid) = .ok doc ∧
      manifestEndpoint peerDid doc = .ok endpoint ∧
      url.toList = rstripSlashes endpoint.toList ++ wellKnown := by
  unfold resolveDidWeb at h
  by_cases hbegins : didWebPrefix.toList.isPrefixOf peerDid.toList = true
  · rw [if_pos hbegins] at h
    obtain ⟨doc, hdoc, hrest⟩ := except_bind_eq_ok.mp h
    obtain ⟨endpoint, hendpoint, hurl⟩ := except_bind_eq_ok.mp hrest
    cases hurl
    refine ⟨doc, endpoint, hdoc, hendpoint, ?_⟩
    rw [String.toList_append, String.toList_ofList]
    rfl
  · rw [if_neg hbegins] at h
    cases h

/-- What `_resolve_peer_did` returns has passed its checks. -/
theorem resolvePeerDid_ok {env : Option String} {manifestUrl origin : String}
    (h : resolvePeerDid py fetch loopbackScheme env peerDid = .ok (manifestUrl, origin)) :
    resolveDidWeb fetch loopbackScheme peerDid = .ok manifestUrl ∧
      (isLoopback manifestUrl.toList && !allowsLoopback env) = false ∧
      afterScheme (originOf manifestUrl.toList) = didHost peerDid := by
  unfold resolvePeerDid at h
  split at h
  case isFalse => cases h
  case isTrue =>
    split at h
    case h_1 => cases h
    case h_2 url hresolve =>
      simp only at h
      split at h
      case isTrue => cases h
      case isFalse hremote =>
        split at h
        case isTrue => cases h
        case isFalse hhost =>
          cases h
          exact ⟨hresolve, Bool.eq_false_iff.mpr hremote, not_not.mp hhost⟩

/-- The characters of an https scheme are those of a scheme. -/
theorem isSchemeChar_of_https {scheme : List Char}
    (h : scheme.map Char.toLower = "https".toList) {c : Char} (hc : c ∈ scheme) :
    isSchemeChar c = true := by
  have hne (d : Char) (hd : d.toLower ∉ "https".toList) : c ≠ d := by
    rintro rfl
    exact not_mem_https h hd hc
  simp [isSchemeChar, isDelimiter, hne ':' (by decide), hne '/' (by decide), hne '?' (by decide),
    hne '#' (by decide)]

/-- What is left of an identifier without slashes and the end of a URL, up to a character that
the end begins with. -/
theorem takeWhile_append_wellKnown {p : Char → Bool} {id : List Char} (hid : ∀ c ∈ id, p c = true)
    (hslash : p '/' = false) : (id ++ wellKnown).takeWhile p = id := by
  have hstart : wellKnown = '/' :: wellKnown.drop 1 := by decide
  rw [List.takeWhile_append_of_pos hid, hstart, List.takeWhile_cons_of_neg (by simp [hslash]),
    List.append_nil]

/-- The check of the loopback looks at the identifier up to its first colon. -/
theorem isLoopback_append {scheme id : List Char} (hscheme : ':' ∉ scheme)
    (hid : ∀ c ∈ id, isDelimiter c = false) :
    isLoopback (scheme ++ "://".toList ++ id ++ wellKnown) =
      (bareHost id == "localhost".toList || "127.".toList.isPrefixOf (bareHost id)) := by
  have hslash : ∀ c ∈ id, (c != '/') = true := by
    intro c hc
    rw [bne_iff_ne]
    rintro rfl
    exact absurd (hid _ hc) (by decide)
  unfold isLoopback bareHost
  rw [List.append_assoc, afterScheme_append hscheme, takeWhile_append_wellKnown hslash (by decide)]

/-- The host of an identifier that has no userinfo and is no literal. -/
theorem hostOf_of_plain {id : List Char} (hbracket : id.head? ≠ some '[') :
    hostOf id = .name (bareHost id) := by
  unfold hostOf
  split
  · exact absurd rfl hbracket
  · rfl

/-- Without a userinfo part the authority is host and port. -/
theorem hostPort_of_no_at {id : List Char} (h : '@' ∉ id) : hostPort id = id := by
  unfold hostPort
  rw [List.rtakeWhile_eq_self_iff]
  intro c hc
  rw [bne_iff_ne]
  rintro rfl
  exact h hc

/-- The identifiers that pass the check and name this machine are those that slip past it. -/
theorem isLoopback_iff_slipsPast {id : List Char}
    (hlocalhost : bareHost id ≠ "localhost".toList) (hnumber : ¬"127.".toList <+: bareHost id) :
    (hostOf (hostPort id)).isLoopback = true ↔ SlipsPast id := by
  by_cases hat : '@' ∈ id
  · constructor
    · exact .userinfo hat
    · intro hslips
      cases hslips with
      | userinfo _ loops => exact loops
      | literal at_ | letters at_ | number at_ => exact absurd hat at_
  · rw [hostPort_of_no_at hat]
    by_cases hbracket : id.head? = some '['
    · obtain ⟨rest, hrest⟩ := List.head?_eq_some_iff.mp hbracket
      constructor
      · exact .literal hat hrest
      · intro hslips
        cases hslips with
        | userinfo at_ => exact absurd at_ hat
        | literal _ _ loops => exact loops
        | letters _ bracket | number _ bracket => exact absurd hbracket bracket
    · rw [hostOf_of_plain hbracket]
      unfold Host.isLoopback
      rw [Bool.or_eq_true, beq_iff_eq]
      constructor
      · rintro (hlower | haddress)
        · exact .letters hat hbracket hlower hlocalhost
        · exact .number hat hbracket haddress hnumber
      · intro hslips
        cases hslips with
        | userinfo at_ => exact absurd at_ hat
        | literal _ bracket =>
          rw [bracket] at hbracket
          exact absurd rfl hbracket
        | letters _ _ lower => exact .inl lower
        | number _ _ address => exact .inr address

/-- Where the endpoint has a scheme, what passed the checks is no loopback host just when it does
not slip past them. -/
theorem abroad_iff_of_checked {scheme id : List Char} (hscheme : ':' ∉ scheme)
    (hid : ∀ c ∈ id, isDelimiter c = false)
    (hremote : isLoopback (scheme ++ "://".toList ++ id ++ wellKnown) = false) :
    (hostOf (hostPort id)).isLoopback = false ↔ ¬SlipsPast id := by
  rw [isLoopback_append hscheme hid, Bool.or_eq_false_iff, beq_eq_false_iff_ne] at hremote
  rw [← isLoopback_iff_slipsPast hremote.1, Bool.not_eq_true]
  rw [← List.isPrefixOf_iff_prefix, hremote.2]
  exact Bool.false_ne_true

/-- A DID document with this endpoint. -/
def documentOf (endpoint : String) : Json :=
  .obj [("service", .arr [.obj
    [("type", .str "AitpManifest"), ("serviceEndpoint", .str endpoint)]])]

end AitpPlayground.Proofs.Api
