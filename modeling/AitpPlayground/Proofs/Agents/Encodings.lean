import AitpPlayground.Agents.TctClaims
import AitpPlayground.Lib.Codecs

/-!
# `AitpPlayground.Proofs.Agents.Encodings`: what a header and a token carry

`encode_header` strips the padding of base64url, and `decode_header` and `decode_claims` put it
back by the length of what they got. Every text comes back from a header, and the claims of a
token come back from its payload (`encodings_round_trip`).

The decoders take more than these encodings. The decoder of the library skips what is no digit,
takes the digits of standard base64 too, ends at padding inside the text and drops spare bits.
`decoding_strict_iff` says on which texts that does no harm: those that it refuses, and those of
base64url digits alone without spare bits.

`JsonObject` are the bytes that are the JSON text of an object. The theorem holds for every
choice of them: UTF-8 alone, or each encoding that `json.loads` finds.
-/

set_option autoImplicit false

namespace AitpPlayground.Proofs.Agents

open AitpPlayground.Lib
open AitpPlayground.Agents
open AitpPlayground.Lib.Base64 (unpadded padding digits bytesOf Reads Plain)

/-- The bytes that `b64decode` reads, once the padding is put back. -/
def Carries (s : List Char) (bytes : List UInt8) : Prop :=
  (∀ c ∈ s, c.toNat < 128) ∧ ∃ ds, Reads (s ++ padding s.length) ds ∧ bytesOf ds = bytes

/-! ### Padding -/

/-- The padding comes at the end. -/
theorem toList_padded (value : String) :
    (padded value).toList = value.toList ++ padding value.toList.length := by
  rw [padded, String.toList_append, String.toList_ofList]
  rfl

/-- The padding is of ASCII. -/
theorem lt_of_mem_padding {n : Nat} {c : Char} (h : c ∈ padding n) : c.toNat < 128 := by
  rw [List.eq_of_mem_replicate h]
  decide

/-- The padding is stripped from a text that has none. -/
theorem dropWhile_padding {s : List Char} (h : '=' ∉ s) (n : Nat) :
    (s ++ padding n).reverse.dropWhile (· = '=') = s.reverse := by
  have hpads : ∀ c ∈ (padding n).reverse, decide (c = '=') = true := by
    intro c hc
    exact decide_eq_true (List.eq_of_mem_replicate (List.mem_reverse.mp hc))
  rw [List.reverse_append, List.dropWhile_append_of_pos hpads]
  cases hs : s.reverse with
  | nil => rfl
  | cons c rest =>
    have hc : c ≠ '=' := by
      rintro rfl
      exact h (List.mem_reverse.mp (hs ▸ List.mem_cons_self))
    rw [List.dropWhile_cons, if_neg (by simpa using hc)]

/-- `urlsafe_b64decode` of a text with its padding. -/
theorem b64decode_padded_iff {value : String} {bytes : List UInt8} :
    PyLib.b64decode (padded value) = .ok bytes ↔ Carries value.toList bytes := by
  rw [PyLib.b64decode_eq_ok_iff, toList_padded]
  simp only [Base64.scan_eq_ok_iff, List.forall_mem_append]
  have hpads : ∀ c ∈ padding value.toList.length, c.toNat < 128 := fun _ hc =>
    lt_of_mem_padding hc
  unfold Carries
  exact and_congr_left fun _ => and_iff_left hpads

/-- An encoding carries its bytes. -/
theorem carries_unpadded (bytes : List UInt8) : Carries (unpadded bytes) bytes := by
  have hall : Base64.urlDigits.all fun c => c.toNat < 128 := by decide
  have hascii (c : Char) (hc : c ∈ unpadded bytes) : c.toNat < 128 :=
    of_decide_eq_true (List.all_eq_true.mp hall c (Base64.mem_urlDigits_of_mem_unpadded hc))
  refine ⟨hascii, Base64.sextets bytes, ?_, Base64.bytesOf_sextets bytes⟩
  exact Base64.scan_eq_ok_iff.mp (Base64.scan_unpadded bytes)

/-- Plain text that carries bytes is their encoding. -/
theorem Carries.eq_unpadded {s : List Char} {bytes : List UInt8} (h : Carries s bytes)
    (hplain : Plain s) : s = unpadded bytes := by
  obtain ⟨-, ds, hreads, rfl⟩ := h
  exact hplain.eq_unpadded (Base64.scan_eq_ok_iff.mpr hreads)

section
variable (py : PyLib) (utf8Error : List UInt8 → String)

/-! ### Headers -/

/-- The header is the encoding of the bytes, without padding. -/
theorem encodeHeader_eq (text : String) :
    encodeHeader (py.withCodecs utf8Error) text = String.ofList (unpadded (utf8 text)) := by
  have hpad : '=' ∉ unpadded (utf8 text) := fun hmem =>
    absurd (Base64.mem_urlDigits_of_mem_unpadded hmem) (by decide)
  show String.ofList ((PyLib.b64encode (utf8 text)).toList.reverse.dropWhile (· = '=')).reverse = _
  rw [PyLib.b64encode, String.toList_ofList, dropWhile_padding hpad, List.reverse_reverse]

/-- A header gives the text the bytes of which it carries. -/
theorem decodeHeader_eq_ok_iff {value text : String} :
    decodeHeader (py.withCodecs utf8Error) value = .ok text ↔ Carries value.toList (utf8 text) := by
  rw [← b64decode_padded_iff]
  simp only [decodeHeader, PyLib.withCodecs]
  cases hraw : PyLib.b64decode (padded value) with
  | error exc =>
    obtain ⟨msg, rfl⟩ := PyLib.b64decode_error hraw
    simp
  | ok raw =>
    cases htext : utf8? raw with
    | none =>
      have hne : raw ≠ utf8 text := by
        rintro rfl
        rw [utf8?_utf8] at htext
        cases htext
      simp [htext, hne]
    | some s =>
      obtain rfl := eq_utf8_of_utf8? htext
      simp [htext, utf8_inj]

/-- A header that gives no text is refused. -/
theorem decodeHeader_raises {value : String}
    (h : ∀ text, decodeHeader (py.withCodecs utf8Error) value ≠ .ok text) :
    RaisesValueError (decodeHeader (py.withCodecs utf8Error) value) := by
  simp only [decodeHeader, PyLib.withCodecs] at h ⊢
  cases hraw : PyLib.b64decode (padded value) with
  | error exc =>
    obtain ⟨msg, rfl⟩ := PyLib.b64decode_error hraw
    exact ⟨_, _, rfl⟩
  | ok raw =>
    rw [hraw] at h
    cases htext : utf8? raw with
    | none => exact ⟨_, _, by simp [htext]; exact ⟨rfl, rfl⟩⟩
    | some s => exact absurd (by simp [htext]) (h s)

/-! ### Claims -/

/-- The bytes are no JSON object to `json.loads`, which says so by its value or with a
`ValueError`. -/
def NoObject (lib : PyLib) (bytes : List UInt8) : Prop :=
  RaisesValueError (lib.jsonLoadsBytes bytes) ∨
    ∃ value, lib.jsonLoadsBytes bytes = .ok value ∧ value.dict? = none

/-- What `decode_claims` makes of an answer of `json.loads`. -/
def claimsFrom : Except PyErr Json → Except PyErr (Dict String Json)
  | .error (.valueError msg _) => .error (.valueError ("undecodable JWS payload: " ++ msg) none)
  | .error exc => .error exc
  | .ok claims =>
    match claims.dict? with
    | none => .error (.valueError "JWS payload is not a JSON object" none)
    | some d => .ok d

section
variable {token : String} {header payload signature : List Char} {bytes : List UInt8}
  (hparts : token.toList.splitOn '.' = [header, payload, signature])
include hparts

/-- A token of three segments is refused when the second carries nothing. -/
theorem decodeClaims_raises_of_parts (h : ∀ bytes, ¬Carries payload bytes) :
    RaisesValueError (decodeClaims (py.withCodecs utf8Error) token) := by
  cases hraw : PyLib.b64decode (padded (String.ofList payload)) with
  | ok raw =>
    rw [b64decode_padded_iff, String.toList_ofList] at hraw
    exact absurd hraw (h raw)
  | error exc =>
    obtain ⟨msg, rfl⟩ := PyLib.b64decode_error hraw
    have hbind : ((py.withCodecs utf8Error).urlsafeB64decode (padded (String.ofList payload))).bind
        (py.withCodecs utf8Error).jsonLoadsBytes = .error (.valueError msg none) := by
      show (PyLib.b64decode (padded (String.ofList payload))).bind _ = _
      rw [hraw]
      rfl
    simp only [decodeClaims, hparts, List.map_cons, List.map_nil, hbind]
    exact ⟨_, _, rfl⟩

/-- The claims of a token of three segments are read out of the bytes that the second carries. -/
theorem decodeClaims_of_carries (hcarries : Carries payload bytes) :
    decodeClaims (py.withCodecs utf8Error) token =
      claimsFrom ((py.withCodecs utf8Error).jsonLoadsBytes bytes) := by
  have hraw : PyLib.b64decode (padded (String.ofList payload)) = .ok bytes := by
    rw [b64decode_padded_iff, String.toList_ofList]
    exact hcarries
  have hbind : ((py.withCodecs utf8Error).urlsafeB64decode (padded (String.ofList payload))).bind
      (py.withCodecs utf8Error).jsonLoadsBytes = (py.withCodecs utf8Error).jsonLoadsBytes bytes := by
    show (PyLib.b64decode (padded (String.ofList payload))).bind _ = _
    rw [hraw]
    rfl
  simp only [decodeClaims, hparts, List.map_cons, List.map_nil, hbind]
  rfl

/-- A token is refused when the bytes that its second segment carries are no JSON object. -/
theorem decodeClaims_raises_iff (hcarries : Carries payload bytes) :
    RaisesValueError (decodeClaims (py.withCodecs utf8Error) token) ↔
      NoObject (py.withCodecs utf8Error) bytes := by
  rw [decodeClaims_of_carries py utf8Error hparts hcarries]
  unfold NoObject RaisesValueError
  cases hload : (py.withCodecs utf8Error).jsonLoadsBytes bytes with
  | error exc => cases exc <;> simp [claimsFrom]
  | ok value => cases hclaims : value.dict? <;> simp [claimsFrom, hclaims]

end

/-! ### The round trip -/

/-- Every text comes back from the header that it is encoded in, which is of base64url digits
alone, and the claims of a token come back from its payload. -/
theorem encodings_round_trip :
    (∀ text, decodeHeader (py.withCodecs utf8Error)
        (encodeHeader (py.withCodecs utf8Error) text) = .ok text ∧
      ∀ c ∈ (encodeHeader (py.withCodecs utf8Error) text).toList, c ∈ Base64.urlDigits) ∧
    ∀ (header text signature : String) (value : Json) (claims : Dict String Json),
      '.' ∉ header.toList → '.' ∉ signature.toList →
      (py.withCodecs utf8Error).jsonLoads text = .ok value → value.dict? = some claims →
        decodeClaims (py.withCodecs utf8Error)
          (header ++ "." ++ String.ofList (unpadded (utf8 text)) ++ "." ++ signature) =
            .ok claims := by
  constructor
  · intro text
    rw [decodeHeader_eq_ok_iff, encodeHeader_eq, String.toList_ofList]
    exact ⟨carries_unpadded _, fun c hc => Base64.mem_urlDigits_of_mem_unpadded hc⟩
  · intro header text signature value claims hheader hsignature hload hclaims
    have hdot : '.' ∉ unpadded (utf8 text) := fun hmem =>
      absurd (Base64.mem_urlDigits_of_mem_unpadded hmem) (by decide)
    have hparts : (header ++ "." ++ String.ofList (unpadded (utf8 text)) ++ "." ++
        signature).toList.splitOn '.' =
          [header.toList, unpadded (utf8 text), signature.toList] := by
      simp only [String.toList_append, String.toList_ofList, List.append_assoc]
      show (header.toList ++ '.' :: (unpadded (utf8 text) ++ '.' :: signature.toList)).splitOn
        '.' = _
      rw [List.splitOn_append_cons_self, List.splitOn_append_cons_self,
        List.splitOn_eq_singleton hheader, List.splitOn_eq_singleton hdot,
        List.splitOn_eq_singleton hsignature]
      rfl
    have hbytes : (py.withCodecs utf8Error).jsonLoadsBytes (utf8 text) = .ok value :=
      PyLib.loadsBytes_utf8 hload
    rw [decodeClaims_of_carries py utf8Error hparts (carries_unpadded _), hbytes]
    simp only [claimsFrom, hclaims]

end

/-- An object with characters of two and of three bytes. -/
def priceText : String := "\x7b\"é\":\"€\"\x7d"

/-- A library that reads this object. -/
def priceReading : PyLib := PyLib.reading [(priceText, .obj [("é", .str "€")])]

/-- The object comes back from a header, and from the payload of a token. -/
theorem encodings_round_trip_price :
    decodeHeader (priceReading.withCodecs fun _ => "") "eyLDqSI6IuKCrCJ9" = .ok priceText ∧
      decodeClaims (priceReading.withCodecs fun _ => "") "h.eyLDqSI6IuKCrCJ9.s" =
        .ok (Dict.ofList [("é", .str "€")]) := by
  have hutf8 : utf8 priceText =
      [0x7B, 0x22, 0xC3, 0xA9, 0x22, 0x3A, 0x22, 0xE2, 0x82, 0xAC, 0x22, 0x7D] := by
    rw [utf8_eq_flatMap]
    decide
  have hencoded : encodeHeader (priceReading.withCodecs fun _ => "") priceText =
      "eyLDqSI6IuKCrCJ9" := by
    rw [encodeHeader_eq, hutf8]
    decide
  obtain ⟨hheader, hclaims⟩ := encodings_round_trip priceReading fun _ => ""
  constructor
  · rw [← hencoded]
    exact (hheader priceText).1
  · have h := hclaims "h" priceText "s" (.obj [("é", .str "€")]) _ (by decide) (by decide) (by rfl)
      rfl
    rw [hutf8] at h
    exact h

section
variable (py : PyLib) (utf8Error : List UInt8 → String)

/-! ### Strictness -/

/-- A header is read strictly: it is refused unless it is the encoding of a text, and the
encoding of what it gives is the header. -/
structure HeaderStrict (lib : PyLib) (value : String) : Prop where
  refused : RaisesValueError (decodeHeader lib value) ∨
    ∃ text, value.toList = unpadded (utf8 text)
  encodes : ∀ text, decodeHeader lib value = .ok text → encodeHeader lib text = value

/-- A token is read strictly: it is refused unless it has three segments, the second of which is
the encoding of a JSON object. -/
def ClaimsStrict (lib : PyLib) (JsonObject : List UInt8 → Prop) (token : String) : Prop :=
  RaisesValueError (decodeClaims lib token) ∨
    ∃ header payload signature bytes, token.toList.splitOn '.' = [header, payload, signature] ∧
      payload = unpadded bytes ∧ JsonObject bytes

/-- A header that carries no text, or that is plain. -/
def HeaderClear (s : List Char) : Prop := (∀ text, ¬Carries s (utf8 text)) ∨ Plain s

/-- A payload that carries nothing, or bytes that are no JSON object to `json.loads`, or one
that is plain and carries a JSON object. -/
def PayloadClear (lib : PyLib) (JsonObject : List UInt8 → Prop) (s : List Char) : Prop :=
  (∀ bytes, Carries s bytes → NoObject lib bytes) ∨
    Plain s ∧ JsonObject (bytesOf (digits s))

/-- An encoding has digits only, and they give its bytes. -/
theorem plain_of_eq_unpadded {s : List Char} {bytes : List UInt8} (h : s = unpadded bytes) :
    Plain s ∧ bytesOf (digits s) = bytes := by
  rw [h, Base64.digits_unpadded, Base64.bytesOf_sextets]
  exact ⟨Base64.plain_unpadded bytes, rfl⟩

/-- Text carries the bytes of one text of digits only. -/
theorem Carries.unique {s : List Char} {bytes bytes' : List UInt8} (h : Carries s bytes)
    (h' : Carries s bytes') : bytes = bytes' := by
  obtain ⟨-, ds, hreads, rfl⟩ := h
  obtain ⟨-, ds', hreads', rfl⟩ := h'
  rw [← Base64.scan_eq_ok_iff] at hreads hreads'
  rw [hreads] at hreads'
  cases hreads'
  rfl

/-- The decoder of headers is strict on a text when the text is clear. -/
theorem headerStrict_iff (value : String) :
    HeaderStrict (py.withCodecs utf8Error) value ↔ HeaderClear value.toList := by
  constructor
  · rintro ⟨hrefused, -⟩
    rcases hrefused with ⟨msg, code, hraise⟩ | ⟨text, heq⟩
    · refine .inl fun text hcarries => ?_
      rw [(decodeHeader_eq_ok_iff py utf8Error).mpr hcarries] at hraise
      cases hraise
    · exact .inr (plain_of_eq_unpadded heq).1
  · intro hclear
    by_cases hcarries : ∃ text, Carries value.toList (utf8 text)
    · obtain ⟨text, hcarries⟩ := hcarries
      have hplain : Plain value.toList := hclear.resolve_left fun h => h text hcarries
      have heq := hcarries.eq_unpadded hplain
      refine ⟨.inr ⟨text, heq⟩, fun text' hdecode => ?_⟩
      rw [decodeHeader_eq_ok_iff] at hdecode
      rw [encodeHeader_eq, ← hcarries.unique hdecode, ← heq, String.ofList_toList]
    · have hnone : ∀ text, decodeHeader (py.withCodecs utf8Error) value ≠ .ok text :=
        fun text h => hcarries ⟨text, (decodeHeader_eq_ok_iff py utf8Error).mp h⟩
      exact ⟨.inl (decodeHeader_raises py utf8Error hnone), fun text h => absurd h (hnone text)⟩

/-- The decoder of claims is strict when the middle part of the token is clear. -/
theorem claimsStrict_iff_of_parts (JsonObject : List UInt8 → Prop) {token : String}
    {header payload signature : List Char}
    (hparts : token.toList.splitOn '.' = [header, payload, signature]) :
    ClaimsStrict (py.withCodecs utf8Error) JsonObject token ↔
      PayloadClear (py.withCodecs utf8Error) JsonObject payload := by
  constructor
  · rintro (hraises | ⟨header', payload', signature', bytes, hparts', heq, hobject⟩)
    · exact .inl fun bytes hcarries =>
        (decodeClaims_raises_iff py utf8Error hparts hcarries).mp hraises
    · rw [hparts] at hparts'
      cases hparts'
      obtain ⟨hplain, hbytes⟩ := plain_of_eq_unpadded heq
      exact .inr ⟨hplain, hbytes.symm ▸ hobject⟩
  · intro hclear
    by_cases hcarries : ∃ bytes, Carries payload bytes
    · obtain ⟨bytes, hcarries⟩ := hcarries
      rcases hclear with hno | ⟨hplain, hobject⟩
      · exact .inl ((decodeClaims_raises_iff py utf8Error hparts hcarries).mpr
          (hno bytes hcarries))
      · have heq := hcarries.eq_unpadded hplain
        rw [(plain_of_eq_unpadded heq).2] at hobject
        exact .inr ⟨header, payload, signature, bytes, hparts, heq, hobject⟩
    · exact .inl (decodeClaims_raises_of_parts py utf8Error hparts fun bytes h =>
        hcarries ⟨bytes, h⟩)

/-- A token that has not three segments is refused. -/
theorem decodeClaims_raises_of_no_parts {token : String}
    (h : ∀ header payload signature, token.toList.splitOn '.' ≠ [header, payload, signature]) :
    RaisesValueError (decodeClaims (py.withCodecs utf8Error) token) := by
  unfold decodeClaims
  split
  · rename_i first payload last hparts
    have hlength := congrArg List.length hparts
    rw [List.length_map] at hlength
    obtain ⟨header, payload, signature, heq⟩ := List.length_eq_three.mp hlength
    exact absurd heq (h header payload signature)
  · exact ⟨_, _, rfl⟩

/-- The decoders are strict on exactly these texts: a header that carries no text or is plain,
and a token that has not three segments, or the payload of which carries no JSON object, or is
plain and carries one. -/
theorem decoding_strict_iff (JsonObject : List UInt8 → Prop) :
    (∀ value : String,
      HeaderStrict (py.withCodecs utf8Error) value ↔ HeaderClear value.toList) ∧
    ∀ token : String, ClaimsStrict (py.withCodecs utf8Error) JsonObject token ↔
      ∀ header payload signature, token.toList.splitOn '.' = [header, payload, signature] →
        PayloadClear (py.withCodecs utf8Error) JsonObject payload := by
  refine ⟨headerStrict_iff py utf8Error, fun token => ?_⟩
  by_cases hthree : ∃ header payload signature,
      token.toList.splitOn '.' = [header, payload, signature]
  · obtain ⟨header, payload, signature, hparts⟩ := hthree
    rw [claimsStrict_iff_of_parts py utf8Error JsonObject hparts]
    constructor
    · intro hclear header' payload' signature' hparts'
      rw [hparts] at hparts'
      cases hparts'
      exact hclear
    · exact fun h => h header payload signature hparts
  · have hno : ∀ header payload signature,
        token.toList.splitOn '.' ≠ [header, payload, signature] :=
      fun header payload signature h => hthree ⟨header, payload, signature, h⟩
    have hraises := decodeClaims_raises_of_no_parts py utf8Error hno
    exact iff_of_true (.inl hraises) fun header payload signature h => absurd h (hno _ _ _)

end

/-- A library that reads the empty object. -/
def bracesLib : PyLib :=
  (PyLib.reading [("{}", .obj [])]).withCodecs fun _ => "invalid start byte"

/-- The bytes of the empty object. -/
theorem utf8_braces : utf8 "{}" = [123, 125] := by
  rw [utf8_eq_flatMap]
  decide

/-- The library of the concrete token reads them. -/
theorem bracesLib_loadsBytes : bracesLib.jsonLoadsBytes (utf8 "{}") = .ok (.obj []) :=
  PyLib.loadsBytes_utf8 (by rfl)

/-- Spare bits, padding and characters that are no digits are let through. -/
theorem decoding_lets_through :
    (∀ value ∈ ["e31", "e30=", "e30!!"], decodeHeader bracesLib value = .ok "{}") ∧
      encodeHeader bracesLib "{}" = "e30" ∧ ¬HeaderStrict bracesLib "e31" ∧
      decodeClaims bracesLib "h.e31.s" = .ok Dict.empty ∧
      ∀ JsonObject, ¬ClaimsStrict bracesLib JsonObject "h.e31.s" := by
  have hcarries (value : String) (hmem : value ∈ ["e31", "e30=", "e30!!"]) :
      Carries value.toList (utf8 "{}") := by
    rw [utf8_braces]
    simp only [List.mem_cons, List.not_mem_nil, or_false] at hmem
    rcases hmem with rfl | rfl | rfl
    · exact ⟨by simp, [30, 55, 53], Base64.scan_eq_ok_iff.mp (by decide), by decide⟩
    · exact ⟨by simp, [30, 55, 52], Base64.scan_eq_ok_iff.mp (by decide), by decide⟩
    · exact ⟨by simp, [30, 55, 52], Base64.scan_eq_ok_iff.mp (by decide), by decide⟩
  have hdecode (value : String) (hmem : value ∈ ["e31", "e30=", "e30!!"]) :
      decodeHeader bracesLib value = .ok "{}" :=
    (decodeHeader_eq_ok_iff _ _).mpr (hcarries value hmem)
  have hencode : encodeHeader bracesLib "{}" = "e30" := by
    unfold bracesLib
    rw [encodeHeader_eq, utf8_braces]
    decide
  have hspare : ¬Plain "e31".toList := fun h => absurd h.2 (by decide)
  have hclaims : decodeClaims bracesLib "h.e31.s" = .ok Dict.empty := by
    have hparts : "h.e31.s".toList.splitOn '.' = [['h'], "e31".toList, ['s']] := by decide
    have hload := bracesLib_loadsBytes
    unfold bracesLib at hload ⊢
    rw [decodeClaims_of_carries _ _ hparts (hcarries "e31" (by decide)), hload]
    rfl
  refine ⟨hdecode, hencode, fun h => ?_, hclaims, fun JsonObject => ?_⟩
  · exact absurd (hencode.symm.trans (h.encodes "{}" (hdecode "e31" (by decide)))) (by decide)
  · rintro (⟨msg, code, hraise⟩ | ⟨header, payload, signature, bytes, hparts, heq, -⟩)
    · rw [hclaims] at hraise
      cases hraise
    · have hpayload : "e31".toList = payload := by
        have hsplit : "h.e31.s".toList.splitOn '.' = [['h'], "e31".toList, ['s']] := by decide
        rw [hsplit] at hparts
        cases hparts
        rfl
      rw [← hpayload] at heq
      exact hspare (plain_of_eq_unpadded heq).1

end AitpPlayground.Proofs.Agents
