import AitpPlayground.Lib.Base64
import AitpPlayground.Lib.Py

/-!
# `AitpPlayground.Lib.Codecs`: the codecs of the standard library

`PyLib.withCodecs` puts the functions of the standard library that turn texts into bytes and
back in the place of those that a `PyLib` leaves open: `base64`, UTF-8, and what `json.loads`
does with bytes before it reads a text. What a JSON text means stays open.

`json.loads` on bytes finds the encoding out of the first four of them. Bytes that are in
another encoding than UTF-8, or are no UTF-8, are read by the function that stays open.
-/

set_option autoImplicit false

namespace AitpPlayground.Lib

/-! ### UTF-8 -/

/-- The loop of `ByteArray.toList` puts what is left behind the reversed accumulator. -/
theorem toList_loop {b : ByteArray} {n i : Nat} (h : i + n = b.size) (r : List UInt8) :
    ByteArray.toList.loop b i r = r.reverse ++ b.data.toList.drop i := by
  have hsize : b.size = b.data.toList.length := rfl
  induction n generalizing i r with
  | zero =>
    rw [ByteArray.toList.loop, if_neg (by omega), List.drop_eq_nil_of_le (by omega),
      List.append_nil]
  | succ n ih =>
    have hi : i < b.data.toList.length := by omega
    have hget : b.get! i = b.data.toList[i] := getElem!_pos b.data i hi
    rw [ByteArray.toList.loop, if_pos (by omega), ih (by omega), hget,
      List.drop_eq_getElem_cons hi, List.reverse_cons, List.append_assoc, List.singleton_append]

/-- `ByteArray.toList` gives the bytes. -/
theorem toList_eq_data (b : ByteArray) : b.toList = b.data.toList :=
  toList_loop (Nat.zero_add b.size) []

/-- The bytes make the same array. -/
theorem toByteArray_toList (b : ByteArray) : b.toList.toByteArray = b := by
  rw [toList_eq_data]
  exact ByteArray.ext (by simp)

/-- `s.encode("utf-8")`. -/
def utf8 (s : String) : List UInt8 := s.toUTF8.toList

/-- `b.decode("utf-8")`, where it returns. -/
def utf8? (b : List UInt8) : Option String := String.fromUTF8? b.toByteArray

/-- The bytes of a text are decoded to it. -/
theorem utf8?_utf8 (s : String) : utf8? (utf8 s) = some s := by
  show String.fromUTF8? s.toUTF8.toList.toByteArray = some s
  rw [toByteArray_toList]
  show (if h : s.toByteArray.IsValidUTF8 then some (String.fromUTF8 s.toByteArray h) else none) = _
  rw [dif_pos s.isValidUTF8]
  rfl

/-- Different texts have different bytes. -/
theorem utf8_inj {s t : String} : utf8 s = utf8 t ↔ s = t := by
  constructor
  · intro h
    have hs := utf8?_utf8 s
    rw [h, utf8?_utf8] at hs
    exact (Option.some.inj hs).symm
  · rintro rfl
    rfl

/-- Bytes that are decoded are those of the text. -/
theorem eq_utf8_of_utf8? {b : List UInt8} {s : String} (h : utf8? b = some s) : b = utf8 s := by
  unfold utf8? String.fromUTF8? at h
  split at h
  · cases h
    show b = b.toByteArray.toList
    rw [toList_eq_data, List.data_toByteArray]
  · cases h

/-- A text is encoded character by character. -/
theorem utf8_eq_flatMap (s : String) : utf8 s = s.toList.flatMap String.utf8EncodeChar := by
  show s.toByteArray.toList = _
  rw [toList_eq_data, ← String.utf8Encode_toList]
  exact List.toList_data_toByteArray

/-- Only the character 0 has a byte 0. -/
theorem ne_zero_of_mem_utf8EncodeChar {c : Char} {b : UInt8} (h : b ∈ String.utf8EncodeChar c)
    (hc : c ≠ Char.ofNat 0) : b.toNat ≠ 0 := by
  have hval : c.val.toNat ≠ 0 := fun hval => hc (Char.ext (UInt32.toNat_inj.mp hval))
  simp only [String.utf8EncodeChar] at h
  split_ifs at h
  all_goals
    simp only [List.mem_cons, List.not_mem_nil, or_false, ← UInt8.toNat_inj,
      UInt8.toNat_ofNat'] at h
    omega

/-- No text has a byte from 0xF8 on. -/
theorem lt_of_mem_utf8EncodeChar {c : Char} {b : UInt8} (h : b ∈ String.utf8EncodeChar c) :
    b.toNat < 0xF8 := by
  simp only [String.utf8EncodeChar] at h
  split_ifs at h
  all_goals
    simp only [List.mem_cons, List.not_mem_nil, or_false, ← UInt8.toNat_inj,
      UInt8.toNat_ofNat'] at h
    omega

/-! ### JSON on bytes -/

/-- What `json.detect_encoding` tells apart. -/
inductive JsonEncoding where
  | utf8 | utf8Sig | utf16 | utf16be | utf16le | utf32 | utf32be | utf32le
deriving DecidableEq

/-- `json.detect_encoding`. -/
def detectEncoding (b : List UInt8) : JsonEncoding :=
  if [0x00, 0x00, 0xFE, 0xFF].isPrefixOf b || [0xFF, 0xFE, 0x00, 0x00].isPrefixOf b then .utf32
  else if [0xFE, 0xFF].isPrefixOf b || [0xFF, 0xFE].isPrefixOf b then .utf16
  else if [0xEF, 0xBB, 0xBF].isPrefixOf b then .utf8Sig
  else
    match b with
    | b₀ :: b₁ :: b₂ :: b₃ :: _ =>
      if b₀ = 0 then (if b₁ = 0 then .utf32be else .utf16be)
      else if b₁ = 0 then (if b₂ = 0 ∧ b₃ = 0 then .utf32le else .utf16le)
      else .utf8
    | [b₀, b₁] => if b₀ = 0 then .utf16be else if b₁ = 0 then .utf16le else .utf8
    | _ => .utf8

/-- The byte order mark. -/
def byteOrderMark : Char := '\uFEFF'

/-- A mark with a byte that does not occur is no prefix. -/
theorem isPrefixOf_eq_false {l b : List UInt8} {x : UInt8} (hx : x ∈ l) (hb : x ∉ b) :
    l.isPrefixOf b = false := by
  rw [Bool.eq_false_iff]
  intro h
  exact hb ((List.isPrefixOf_iff_prefix.mp h).subset hx)

/-- Only the byte order mark has its bytes. -/
theorem head_of_isPrefixOf_utf8 {s : String} (h : [0xEF, 0xBB, 0xBF].isPrefixOf (utf8 s)) :
    s.toList.head? = some byteOrderMark := by
  rw [utf8_eq_flatMap] at h
  cases htext : s.toList with
  | nil =>
    rw [htext] at h
    cases h
  | cons c rest =>
    rw [htext, List.flatMap_cons, String.utf8EncodeChar] at h
    suffices hval : c.val.toNat = 0xFEFF by
      rw [List.head?_cons, Char.ext (UInt32.toNat_inj.mp hval : c.val = byteOrderMark.val)]
    split_ifs at h
    all_goals
      simp only [List.cons_append, List.isPrefixOf, Bool.and_eq_true, beq_iff_eq,
        ← UInt8.toNat_inj, UInt8.toNat_ofNat', UInt8.reduceToNat] at h
      omega

/-- UTF-8 of a text that has no character 0 and does not begin with the byte order mark is found
to be UTF-8. -/
theorem detectEncoding_utf8 {s : String} (hzero : Char.ofNat 0 ∉ s.toList)
    (hmark : s.toList.head? ≠ some byteOrderMark) : detectEncoding (utf8 s) = .utf8 := by
  have hbyte : ∀ b ∈ utf8 s, b.toNat ≠ 0 ∧ b.toNat < 0xF8 := by
    intro b hb
    rw [utf8_eq_flatMap] at hb
    obtain ⟨c, hc, hb⟩ := List.mem_flatMap.mp hb
    exact ⟨ne_zero_of_mem_utf8EncodeChar hb fun heq => hzero (heq ▸ hc),
      lt_of_mem_utf8EncodeChar hb⟩
  have hfirst : (0xFE : UInt8) ∉ utf8 s := fun hmem => absurd (hbyte _ hmem).2 (by decide)
  have hlast : (0xFF : UInt8) ∉ utf8 s := fun hmem => absurd (hbyte _ hmem).2 (by decide)
  have hbom : [0xEF, 0xBB, 0xBF].isPrefixOf (utf8 s) = false := by
    rw [Bool.eq_false_iff]
    exact fun h => hmark (head_of_isPrefixOf_utf8 h)
  have hne : ∀ b ∈ utf8 s, b ≠ 0 := fun b hb heq => (hbyte b hb).1 (by rw [heq]; rfl)
  unfold detectEncoding
  rw [isPrefixOf_eq_false (l := [0x00, 0x00, 0xFE, 0xFF]) (by decide) hlast,
    isPrefixOf_eq_false (l := [0xFF, 0xFE, 0x00, 0x00]) (by decide) hlast,
    isPrefixOf_eq_false (l := [0xFE, 0xFF]) (by decide) hlast,
    isPrefixOf_eq_false (l := [0xFF, 0xFE]) (by decide) hlast, hbom]
  simp only [Bool.or_self, Bool.false_eq_true, if_false]
  generalize utf8 s = b at hne
  match b with
  | [] => rfl
  | [_] => rfl
  | [b₀, b₁] => simp [hne b₀ (by simp), hne b₁ (by simp)]
  | [_, _, _] => rfl
  | b₀ :: b₁ :: _ :: _ :: _ => simp [hne b₀ (by simp), hne b₁ (by simp)]

/-! ### The library -/

namespace PyLib
variable (py : PyLib)

/-- `json.loads` on text. A byte order mark is refused before anything is parsed. The rest stays
open, but JSON has the character 0 nowhere: a text with one is not read. -/
def loadsText (s : String) : Except PyErr Json :=
  if s.toList.head? = some byteOrderMark then
    .error (.valueError
      "Unexpected UTF-8 BOM (decode using utf-8-sig): line 1 column 1 (char 0)" none)
  else do
    let value ← py.jsonLoads s
    if Char.ofNat 0 ∈ s.toList then .error (.valueError "Expecting value" none) else .ok value

/-- `json.loads` on bytes. -/
def loadsBytes (b : List UInt8) : Except PyErr Json :=
  match detectEncoding b, utf8? b with
  | .utf8, some s => py.loadsText s
  | _, _ => py.jsonLoadsBytes b

/-- `base64.urlsafe_b64encode`. -/
def b64encode (b : List UInt8) : String :=
  let s := Base64.unpadded b
  String.ofList (s ++ Base64.padding s.length)

/-- `base64.urlsafe_b64decode` on text. -/
def b64decode (s : String) : Except PyErr (List UInt8) :=
  if s.toList.all fun c => c.toNat < 128 then
    match Base64.scan 0 0 s.toList with
    | .ok ds => .ok (Base64.bytesOf ds)
    | .error n =>
      if n % 4 = 1 then
        .error (.valueError ("Invalid base64-encoded string: number of data characters (" ++
          toString n ++ ") cannot be 1 more than a multiple of 4") none)
      else .error (.valueError "Incorrect padding" none)
  else .error (.valueError "string argument should contain only ASCII characters" none)

/-- The library with its codecs. The text of a `UnicodeDecodeError` stays open. -/
def withCodecs (utf8Error : List UInt8 → String) : PyLib :=
  { py with
      jsonLoads := py.loadsText
      jsonLoadsBytes := py.loadsBytes
      urlsafeB64decode := b64decode
      urlsafeB64encode := b64encode
      utf8Decode := fun b =>
        match utf8? b with
        | some s => .ok s
        | none => .error (.valueError (utf8Error b) none) }

variable {py : PyLib}

/-- `json.loads` reads the UTF-8 of a text as it reads the text. -/
theorem loadsBytes_utf8 {s : String} {value : Json} (h : py.loadsText s = .ok value) :
    py.loadsBytes (utf8 s) = .ok value := by
  have hdetect : detectEncoding (utf8 s) = .utf8 := by
    unfold loadsText at h
    split at h
    case isTrue => cases h
    case isFalse hmark =>
      obtain ⟨read, -, hread⟩ := except_bind_eq_ok.mp h
      split at hread
      case isTrue => cases hread
      case isFalse hzero => exact detectEncoding_utf8 hzero hmark
  rw [loadsBytes, hdetect, utf8?_utf8]
  exact h

/-- `base64.urlsafe_b64decode` gives the bytes that are read, of a text of ASCII. -/
theorem b64decode_eq_ok_iff {s : String} {b : List UInt8} :
    b64decode s = .ok b ↔ (∀ c ∈ s.toList, c.toNat < 128) ∧
      ∃ ds, Base64.scan 0 0 s.toList = .ok ds ∧ Base64.bytesOf ds = b := by
  unfold b64decode
  by_cases hascii : ∀ c ∈ s.toList, c.toNat < 128
  · rw [if_pos (by simpa using hascii)]
    cases Base64.scan 0 0 s.toList with
    | ok ds =>
      constructor
      · intro h
        exact ⟨hascii, ds, rfl, Except.ok.inj h⟩
      · rintro ⟨-, _, hds, rfl⟩
        cases hds
        rfl
    | error n => by_cases hn : n % 4 = 1 <;> simp [hn]
  · rw [if_neg (by simpa using hascii)]
    simp only [reduceCtorEq, false_iff]
    exact fun h => hascii h.1

/-- `base64.urlsafe_b64decode` raises nothing but `ValueError`. -/
theorem b64decode_error {s : String} {exc : PyErr} (h : b64decode s = .error exc) :
    ∃ msg, exc = .valueError msg none := by
  unfold b64decode at h
  split at h
  · split at h
    · cases h
    · split at h <;> cases h <;> exact ⟨_, rfl⟩
  · cases h
    exact ⟨_, rfl⟩

end PyLib

end AitpPlayground.Lib
