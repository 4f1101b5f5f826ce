import Mathlib.Data.List.Basic

/-!
# `AitpPlayground.Lib.Base64`: base64url

Three bytes are four digits of six bits. One or two bytes at the end are two or three digits,
the last of which has bits that no byte fills. The encoding (`unpadded`) leaves them zero and
appends no padding.

`scan` is the loop of `binascii.a2b_base64` that is not strict. It goes through a text with the
number of digits so far and the number of `=` after the last one. It skips what is no digit, and
ends at the `=` that completes a group. What it reads is said without the loop by `Reads`
(`scan_eq_ok_iff`): the digits up to the first place where an `=` closes a group, or all of
them, if they are whole groups.

Decoding is the inverse of the encoding (`bytesOf_sextets`), and the encoding is that of
decoding on digits without spare bits (`sextets_bytesOf`).
-/

set_option autoImplicit false

namespace AitpPlayground.Lib.Base64

/-! ### Digits -/

/-- The digits of base64url. -/
def urlDigits : List Char :=
  ['A', 'B', 'C', 'D', 'E', 'F', 'G', 'H', 'I', 'J', 'K', 'L', 'M',
   'N', 'O', 'P', 'Q', 'R', 'S', 'T', 'U', 'V', 'W', 'X', 'Y', 'Z',
   'a', 'b', 'c', 'd', 'e', 'f', 'g', 'h', 'i', 'j', 'k', 'l', 'm',
   'n', 'o', 'p', 'q', 'r', 's', 't', 'u', 'v', 'w', 'x', 'y', 'z',
   '0', '1', '2', '3', '4', '5', '6', '7', '8', '9', '-', '_']

/-- The digit of a value. -/
def digitChar (d : Nat) : Char := urlDigits.getD d 'A'

/-- The value of a digit, of base64url or of standard base64. -/
def digit? (c : Char) : Option Nat :=
  if 'A' ≤ c ∧ c ≤ 'Z' then some (c.toNat - 'A'.toNat)
  else if 'a' ≤ c ∧ c ≤ 'z' then some (c.toNat - 'a'.toNat + 26)
  else if '0' ≤ c ∧ c ≤ '9' then some (c.toNat - '0'.toNat + 52)
  else if c = '+' ∨ c = '-' then some 62
  else if c = '/' ∨ c = '_' then some 63
  else none

/-- The digit of a value is read as that value. -/
theorem digit?_digitChar {d : Nat} (h : d < 64) : digit? (digitChar d) = some d := by
  have hall : ∀ d < 64, digit? (digitChar d) = some d := by decide
  exact hall d h

/-- The digit of a value is in the alphabet. -/
theorem mem_urlDigits_digitChar {d : Nat} (h : d < 64) : digitChar d ∈ urlDigits := by
  have hall : ∀ d < 64, digitChar d ∈ urlDigits := by decide
  exact hall d h

/-- Every character of the alphabet is a digit. -/
theorem exists_digit_of_mem {c : Char} (h : c ∈ urlDigits) : ∃ d < 64, digitChar d = c := by
  have hall : urlDigits.all fun c => (digit? c).any fun d => d < 64 ∧ digitChar d = c := by decide
  have hdigit := List.all_eq_true.mp hall c h
  rw [Option.any_eq_true] at hdigit
  obtain ⟨d, -, hd⟩ := hdigit
  exact ⟨d, of_decide_eq_true hd⟩

/-- The padding is none. -/
@[simp] theorem digit?_pad : digit? '=' = none := by decide

/-- So a digit is not the padding. -/
theorem ne_pad_of_digit {c : Char} {d : Nat} (h : digit? c = some d) : c ≠ '=' := by
  rintro rfl
  rw [digit?_pad] at h
  cases h

/-! ### Bytes and digits -/

/-- The digits of bytes. -/
def sextets : List UInt8 → List Nat
  | a :: b :: c :: rest =>
    a.toNat / 4 :: (a.toNat % 4 * 16 + b.toNat / 16) :: (b.toNat % 16 * 4 + c.toNat / 64) ::
      c.toNat % 64 :: sextets rest
  | [a, b] => [a.toNat / 4, a.toNat % 4 * 16 + b.toNat / 16, b.toNat % 16 * 4]
  | [a] => [a.toNat / 4, a.toNat % 4 * 16]
  | [] => []

/-- The bytes that digits fill. Bits that are left over are dropped. -/
def bytesOf : List Nat → List UInt8
  | a :: b :: c :: d :: rest =>
    UInt8.ofNat (a * 4 + b / 16) :: UInt8.ofNat (b % 16 * 16 + c / 4) ::
      UInt8.ofNat (c % 4 * 64 + d) :: bytesOf rest
  | [a, b, c] => [UInt8.ofNat (a * 4 + b / 16), UInt8.ofNat (b % 16 * 16 + c / 4)]
  | [a, b] => [UInt8.ofNat (a * 4 + b / 16)]
  | [_] => []
  | [] => []

/-- The bits of the last digit that no byte fills. -/
def spareBits (ds : List Nat) : Nat :=
  match ds.length % 4 with
  | 2 => (ds.getLast?.getD 0) % 16
  | 3 => (ds.getLast?.getD 0) % 4
  | _ => 0

/-- A byte from its value. -/
theorem ofNat_eq_of_toNat {a : UInt8} {n : Nat} (h : n = a.toNat) : UInt8.ofNat n = a := by
  rw [h, UInt8.ofNat_toNat]

/-- Decoding is the inverse of the encoding. -/
theorem bytesOf_sextets (bytes : List UInt8) : bytesOf (sextets bytes) = bytes := by
  induction bytes using sextets.induct with
  | case1 a b c rest ih =>
    have ha := a.toNat_lt
    have hb := b.toNat_lt
    have hc := c.toNat_lt
    rw [sextets, bytesOf, ih, ofNat_eq_of_toNat (a := a) (by omega),
      ofNat_eq_of_toNat (a := b) (by omega), ofNat_eq_of_toNat (a := c) (by omega)]
  | case2 a b =>
    have ha := a.toNat_lt
    have hb := b.toNat_lt
    rw [sextets, bytesOf, ofNat_eq_of_toNat (a := a) (by omega),
      ofNat_eq_of_toNat (a := b) (by omega)]
  | case3 a =>
    have ha := a.toNat_lt
    rw [sextets, bytesOf, ofNat_eq_of_toNat (a := a) (by omega)]
  | case4 => rfl

/-- The values are of six bits. -/
theorem lt_of_mem_sextets {bytes : List UInt8} : ∀ d ∈ sextets bytes, d < 64 := by
  induction bytes using sextets.induct with
  | case1 a b c rest ih =>
    have ha := a.toNat_lt
    have hb := b.toNat_lt
    have hc := c.toNat_lt
    simp only [sextets, List.forall_mem_cons]
    exact ⟨by omega, by omega, by omega, by omega, ih⟩
  | case2 a b =>
    have ha := a.toNat_lt
    have hb := b.toNat_lt
    simp only [sextets, List.forall_mem_cons]
    exact ⟨by omega, by omega, by omega, by simp⟩
  | case3 a =>
    have ha := a.toNat_lt
    simp only [sextets, List.forall_mem_cons]
    exact ⟨by omega, by omega, by simp⟩
  | case4 => simp [sextets]

/-- The digits of bytes are whole groups, or two or three more. -/
theorem length_sextets_mod (bytes : List UInt8) : (sextets bytes).length % 4 ≠ 1 := by
  induction bytes using sextets.induct with
  | case1 a b c rest ih =>
    simp only [sextets, List.length_cons]
    omega
  | case2 a b => exact (by decide : 3 % 4 ≠ 1)
  | case3 a => exact (by decide : 2 % 4 ≠ 1)
  | case4 => exact (by decide : 0 % 4 ≠ 1)

/-- A whole group has no spare bits. -/
theorem spareBits_cons_group (a b c d : Nat) (rest : List Nat) :
    spareBits (a :: b :: c :: d :: rest) = spareBits rest := by
  have hmod : (a :: b :: c :: d :: rest).length % 4 = rest.length % 4 := by
    simp only [List.length_cons]
    omega
  cases rest with
  | nil => simp [spareBits]
  | cons e rest =>
    unfold spareBits
    rw [hmod]
    simp only [List.getLast?_cons_cons]

/-- The encoding leaves the spare bits zero. -/
theorem spareBits_sextets (bytes : List UInt8) : spareBits (sextets bytes) = 0 := by
  induction bytes using sextets.induct with
  | case1 a b c rest ih => rw [sextets, spareBits_cons_group, ih]
  | case2 a b =>
    show b.toNat % 16 * 4 % 4 = 0
    omega
  | case3 a =>
    show a.toNat % 4 * 16 % 16 = 0
    omega
  | case4 => rfl

/-- Digits without spare bits are those of the bytes that they fill. -/
theorem sextets_bytesOf {ds : List Nat} (hlt : ∀ d ∈ ds, d < 64) (hlength : ds.length % 4 ≠ 1)
    (hspare : spareBits ds = 0) : sextets (bytesOf ds) = ds := by
  induction ds using bytesOf.induct with
  | case1 a b c d rest ih =>
    simp only [List.forall_mem_cons] at hlt
    obtain ⟨ha, hb, hc, hd, hrest⟩ := hlt
    rw [spareBits_cons_group] at hspare
    simp only [List.length_cons] at hlength
    have hih := ih hrest (by omega) hspare
    simp only [bytesOf, sextets, hih, UInt8.toNat_ofNat']
    congr 1
    · omega
    · congr 1
      · omega
      · congr 1
        · omega
        · congr 1
          omega
  | case2 a b c =>
    simp only [List.forall_mem_cons] at hlt
    obtain ⟨ha, hb, hc, -⟩ := hlt
    have hspare : c % 4 = 0 := hspare
    simp only [bytesOf, sextets, UInt8.toNat_ofNat', List.cons.injEq, and_true]
    omega
  | case3 a b =>
    simp only [List.forall_mem_cons] at hlt
    obtain ⟨ha, hb, -⟩ := hlt
    have hspare : b % 16 = 0 := hspare
    simp only [bytesOf, sextets, UInt8.toNat_ofNat', List.cons.injEq, and_true]
    omega
  | case4 a => exact absurd rfl hlength
  | case5 => rfl

/-- The encoding of bytes, without padding. -/
def unpadded (bytes : List UInt8) : List Char := (sextets bytes).map digitChar

/-- Without its padding an encoding has digits only. -/
theorem mem_urlDigits_of_mem_unpadded {bytes : List UInt8} {c : Char} (h : c ∈ unpadded bytes) :
    c ∈ urlDigits := by
  obtain ⟨d, hd, rfl⟩ := List.mem_map.mp h
  exact mem_urlDigits_digitChar (lt_of_mem_sextets d hd)

/-! ### Decoding -/

/-- The loop of the decoder, after `count` digits with `pads` times `=` behind them. It gives the
digits that follow, or the number of all digits when it ends in an open group. -/
def scan : (count pads : Nat) → List Char → Except Nat (List Nat)
  | count, _, [] => if count % 4 = 0 then .ok [] else .error count
  | count, pads, c :: rest =>
    if c = '=' then
      if 2 ≤ count % 4 then
        -- What comes after a complete group with padding is not looked at.
        if 4 ≤ count % 4 + (pads + 1) then .ok [] else scan count (pads + 1) rest
      else scan count pads rest
    else
      match digit? c with
      | none => scan count pads rest
      | some d => (scan (count + 1) 0 rest).map fun ds => d :: ds

/-- A character that is neither a digit nor the padding is passed over. -/
theorem scan_skip {c : Char} (hpad : c ≠ '=') (hd : digit? c = none) (count pads : Nat)
    (rest : List Char) : scan count pads (c :: rest) = scan count pads rest := by
  rw [scan, if_neg hpad, hd]

/-- A digit is counted, and the padding before it is forgotten. -/
theorem scan_digit {c : Char} {d : Nat} (hd : digit? c = some d) (count pads : Nat)
    (rest : List Char) :
    scan count pads (c :: rest) = (scan (count + 1) 0 rest).map fun ds => d :: ds := by
  rw [scan, if_neg (ne_pad_of_digit hd), hd]

/-- A text of digits and padding that complete each other is read as it stands. -/
theorem scan_digits {ds : List Nat} (hlt : ∀ d ∈ ds, d < 64) (count : Nat) (rest : List Char) :
    scan count 0 (ds.map digitChar ++ rest) =
      (scan (count + ds.length) 0 rest).map fun more => ds ++ more := by
  induction ds generalizing count with
  | nil => cases h : scan count 0 rest <;> simp [h, Except.map]
  | cons d ds ih =>
    obtain ⟨hd, hds⟩ := List.forall_mem_cons.mp hlt
    have hlength : count + (d :: ds).length = count + 1 + ds.length := by
      rw [List.length_cons]
      omega
    rw [List.map_cons, List.cons_append, scan_digit (digit?_digitChar hd), ih hds, hlength]
    cases scan (count + 1 + ds.length) 0 rest <;> rfl

/-- The padding that the length asks for. -/
def padding (n : Nat) : List Char := List.replicate ((4 - n % 4) % 4) '='

/-- Digits with the padding of their number are read, unless one of them is alone. -/
theorem scan_padding (n : Nat) :
    scan n 0 (padding n) = if n % 4 = 1 then .error n else .ok [] := by
  have hcases : n % 4 = 0 ∨ n % 4 = 1 ∨ n % 4 = 2 ∨ n % 4 = 3 := by omega
  rcases hcases with h | h | h | h <;> simp [padding, scan, h, List.replicate]

/-- What the decoder reads in digits with the padding of their number. -/
theorem scan_padded {ds : List Nat} (hlt : ∀ d ∈ ds, d < 64) :
    scan 0 0 (ds.map digitChar ++ padding ds.length) =
      if ds.length % 4 = 1 then .error ds.length else .ok ds := by
  rw [scan_digits hlt, Nat.zero_add, scan_padding]
  by_cases h : ds.length % 4 = 1
  · rw [if_pos h, if_pos h]
    rfl
  · rw [if_neg h, if_neg h]
    simp [Except.map]

/-! ### What is read -/

/-- The values of the digits of a text. -/
def digits (s : List Char) : List Nat := s.filterMap digit?

/-- The digits and the padding of a text. -/
def significant (s : List Char) : List Char := s.filter fun c => c = '=' || (digit? c).isSome

/-- The text ends with an `=` that closes a group of three digits, or with the second `=` behind
a group of two. -/
def Closes (s : List Char) : Prop :=
  (digits s).length % 4 = 3 ∧ ['='] <:+ significant s ∨
    (digits s).length % 4 = 2 ∧ ['=', '='] <:+ significant s

/-- The text is read as these digits: those up to the first place where a group is closed, or
all of them where none is and they are whole groups. -/
def Reads (s : List Char) (ds : List Nat) : Prop :=
  ∃ read rest, s = read ++ rest ∧ ds = digits read ∧
    (∀ before, before <+: read → before ≠ read → ¬Closes before) ∧
    (Closes read ∨ rest = [] ∧ (digits s).length % 4 = 0)

/-- The digits of two texts. -/
theorem digits_append (s t : List Char) : digits (s ++ t) = digits s ++ digits t :=
  List.filterMap_append

/-- What counts of two texts. -/
theorem significant_append (s t : List Char) :
    significant (s ++ t) = significant s ++ significant t := List.filter_append ..

/-- A character that is no digit adds none. -/
theorem digits_skip {c : Char} (h : digit? c = none) (s : List Char) :
    digits (s ++ [c]) = digits s := by
  rw [digits_append, digits, digits, List.filterMap_cons_none h, List.filterMap_nil,
    List.append_nil]

/-- A digit adds its value. -/
theorem digits_digit {c : Char} {d : Nat} (h : digit? c = some d) (s : List Char) :
    digits (s ++ [c]) = digits s ++ [d] := by
  rw [digits_append, digits, digits, List.filterMap_cons_some h, List.filterMap_nil]

/-- The padding counts. -/
theorem significant_pad (s : List Char) : significant (s ++ ['=']) = significant s ++ ['='] := by
  rw [significant_append]
  rfl

/-- A text ends with the padding when its last character is it. -/
theorem pad_suffix_concat_iff {c : Char} {s : List Char} : ['='] <:+ s ++ [c] ↔ c = '=' := by
  have h : [] ++ ['='] <:+ s ++ [c] ↔ [] <:+ s ∧ ['='] = [c] :=
    List.suffix_append_inj_of_length_eq rfl
  rw [List.nil_append] at h
  rw [h]
  simp [eq_comm]

/-- A text ends with two of it when the text before ends with one. -/
theorem pads_suffix_concat_iff {s : List Char} : ['=', '='] <:+ s ++ ['='] ↔ ['='] <:+ s :=
  (List.suffix_append_self_iff : ['='] ++ ['='] <:+ s ++ ['='] ↔ _)

/-- The state of the loop behind a part of the text where no group has been closed. -/
structure Scanned (s : List Char) (count pads : Nat) : Prop where
  count_eq : count = (digits s).length
  pads_eq : pads = if count % 4 = 2 ∧ ['='] <:+ significant s then 1 else 0
  opened : ∀ before, before <+: s → ¬Closes before

/-- Nothing is read yet. -/
theorem scanned_nil : Scanned [] 0 0 where
  count_eq := rfl
  pads_eq := rfl
  opened before hbefore := by
    rw [List.prefix_nil.mp hbefore]
    rintro (⟨h, -⟩ | ⟨h, -⟩) <;> cases h

section
variable {s : List Char} {count pads : Nat}

/-- An `=` closes a group exactly where the loop ends at it. -/
theorem Scanned.closes_pad_iff (h : Scanned s count pads) :
    Closes (s ++ ['=']) ↔ 2 ≤ count % 4 ∧ 4 ≤ count % 4 + (pads + 1) := by
  unfold Closes
  rw [digits_skip digit?_pad, significant_pad, pads_suffix_concat_iff, ← h.count_eq]
  simp only [pad_suffix_concat_iff, and_true]
  have hpads := h.pads_eq
  by_cases hpad : ['='] <:+ significant s
  · by_cases htwo : count % 4 = 2
    · rw [if_pos ⟨htwo, hpad⟩] at hpads
      simp only [hpad, and_true]
      omega
    · rw [if_neg fun hp => htwo hp.1] at hpads
      simp only [hpad, and_true]
      omega
  · rw [if_neg fun hp => hpad hp.2] at hpads
    simp only [hpad, and_false, or_false]
    omega

/-- The loop goes on behind a character that closes no group. -/
theorem Scanned.opened_concat (h : Scanned s count pads) {c : Char} (hc : ¬Closes (s ++ [c])) :
    ∀ before, before <+: s ++ [c] → ¬Closes before := by
  intro before hbefore
  rcases List.prefix_concat_iff.mp hbefore with rfl | hbefore
  · exact hc
  · exact h.opened before hbefore

/-- The padding is read, and counts after two or three digits of a group. -/
theorem Scanned.pad (h : Scanned s count pads) (hc : ¬Closes (s ++ ['='])) :
    Scanned (s ++ ['=']) count (if 2 ≤ count % 4 then pads + 1 else pads) where
  count_eq := by rw [digits_skip digit?_pad, h.count_eq]
  pads_eq := by
    have hpads := h.pads_eq
    rw [h.closes_pad_iff] at hc
    rw [significant_pad]
    simp only [pad_suffix_concat_iff, and_true]
    split at hpads <;> split <;> split <;> omega
  opened := h.opened_concat hc

/-- A digit is read. -/
theorem Scanned.digit (h : Scanned s count pads) {c : Char} {d : Nat} (hd : digit? c = some d) :
    Scanned (s ++ [c]) (count + 1) 0 := by
  have hsignificant : significant (s ++ [c]) = significant s ++ [c] := by
    rw [significant_append]
    simp [significant, hd]
  have hsuffix : ¬['='] <:+ significant (s ++ [c]) := by
    rw [hsignificant, pad_suffix_concat_iff]
    exact ne_pad_of_digit hd
  refine ⟨?_, ?_, h.opened_concat ?_⟩
  · rw [digits_digit hd, List.length_append, h.count_eq]
    rfl
  · rw [if_neg fun hp => hsuffix hp.2]
  · rintro (⟨-, hp⟩ | ⟨-, hp⟩)
    · exact hsuffix hp
    · exact hsuffix ((List.suffix_append ['='] ['=']).trans hp)

/-- Another character is passed over. -/
theorem Scanned.skip (h : Scanned s count pads) {c : Char} (hpad : c ≠ '=')
    (hd : digit? c = none) : Scanned (s ++ [c]) count pads := by
  have hsignificant : significant (s ++ [c]) = significant s := by
    rw [significant_append]
    simp [significant, hd, hpad]
  have hclose : ¬Closes (s ++ [c]) := by
    unfold Closes
    rw [digits_skip hd, hsignificant]
    exact h.opened s (List.prefix_refl s)
  refine ⟨?_, ?_, h.opened_concat hclose⟩
  · rw [digits_skip hd, h.count_eq]
  · rw [hsignificant]
    exact h.pads_eq

/-- Where no group has been closed, the next character is read. -/
theorem Scanned.read_concat (h : Scanned s count pads) {c : Char} {rest read after : List Char}
    (heq : s ++ c :: rest = read ++ after) (hend : Closes read ∨ after = []) :
    s ++ [c] <+: read := by
  have hs : s ++ [c] <+: s ++ c :: rest := (List.prefix_append_right_inj s).mpr ⟨rest, rfl⟩
  have hread : read <+: s ++ c :: rest := ⟨after, heq.symm⟩
  rcases List.prefix_or_prefix_of_prefix hread hs with hle | hle
  · rcases List.prefix_concat_iff.mp hle with heq' | hle
    · exact heq' ▸ List.prefix_refl _
    · rcases hend with hclose | rfl
      · exact absurd hclose (h.opened read hle)
      · rw [List.append_nil] at heq
        rw [← heq]
        exact hs
  · exact hle

/-- Behind a character that closes a group nothing is read. -/
theorem Scanned.reads_closed_iff (h : Scanned s count pads) (hclose : Closes (s ++ ['=']))
    {rest : List Char} {ds : List Nat} : Reads (s ++ '=' :: rest) (digits s ++ ds) ↔ ds = [] := by
  constructor
  · rintro ⟨read, after, heq, hds, hfirst, hend⟩
    have hread : s ++ ['='] = read := by
      by_contra hne
      exact hfirst _ (h.read_concat heq (hend.imp_right And.left)) hne hclose
    rw [← hread, digits_skip digit?_pad] at hds
    exact List.append_right_eq_self.mp hds
  · rintro rfl
    refine ⟨s ++ ['='], rest, by simp, by rw [digits_skip digit?_pad, List.append_nil], ?_,
      .inl hclose⟩
    intro before hbefore hne
    rcases List.prefix_concat_iff.mp hbefore with heq | hbefore
    · exact absurd heq hne
    · exact h.opened before hbefore

/-- At the end of the text, what is read is whole groups. -/
theorem Scanned.reads_end_iff (h : Scanned s count pads) {ds : List Nat} :
    Reads s (digits s ++ ds) ↔ count % 4 = 0 ∧ ds = [] := by
  constructor
  · rintro ⟨read, after, heq, hds, -, hend⟩
    rcases hend with hclose | ⟨rfl, hwhole⟩
    · exact absurd hclose (h.opened read ⟨after, heq.symm⟩)
    · rw [List.append_nil] at heq
      rw [← heq] at hds
      rw [h.count_eq]
      exact ⟨hwhole, List.append_right_eq_self.mp hds⟩
  · rintro ⟨hwhole, rfl⟩
    rw [h.count_eq] at hwhole
    exact ⟨s, [], (List.append_nil s).symm, List.append_nil _,
      fun before hbefore _ => h.opened before hbefore, .inr ⟨rfl, hwhole⟩⟩

/-- A digit is the next one of those that are read. -/
theorem Scanned.exists_of_reads (h : Scanned s count pads) {c : Char} {d : Nat}
    (hd : digit? c = some d) {rest : List Char} {ds : List Nat}
    (hreads : Reads (s ++ c :: rest) (digits s ++ ds)) : ∃ more, ds = d :: more := by
  obtain ⟨read, after, heq, hds, -, hend⟩ := hreads
  obtain ⟨tail, rfl⟩ := h.read_concat heq (hend.imp_right And.left)
  rw [digits_append, digits_digit hd, List.append_assoc] at hds
  exact ⟨digits tail, List.append_cancel_left hds⟩

/-- Where the loop reads on behind a digit, it reads the digit before that. -/
theorem Scanned.scan_digit_iff (h : Scanned s count pads) {c : Char} {d : Nat}
    (hd : digit? c = some d) {rest : List Char}
    (hrest : ∀ more, scan (count + 1) 0 rest = .ok more ↔
      Reads (s ++ c :: rest) (digits s ++ d :: more)) {ds : List Nat} :
    scan count pads (c :: rest) = .ok ds ↔ Reads (s ++ c :: rest) (digits s ++ ds) := by
  rw [scan_digit hd]
  constructor
  · intro hok
    cases hmore : scan (count + 1) 0 rest with
    | error n =>
      rw [hmore] at hok
      cases hok
    | ok more =>
      rw [hmore] at hok
      cases hok
      exact (hrest more).mp hmore
  · intro hreads
    obtain ⟨more, rfl⟩ := h.exists_of_reads hd hreads
    rw [(hrest more).mpr hreads]
    rfl

end

/-- What the loop gives behind a part of a text is what is read after it. -/
theorem Scanned.scan_eq_ok_iff {rest s : List Char} {count pads : Nat} {ds : List Nat}
    (h : Scanned s count pads) :
    scan count pads rest = .ok ds ↔ Reads (s ++ rest) (digits s ++ ds) := by
  induction rest generalizing s count pads ds with
  | nil =>
    rw [List.append_nil, h.reads_end_iff, scan]
    by_cases hwhole : count % 4 = 0
    · simp [hwhole, eq_comm]
    · simp [hwhole]
  | cons c rest ih =>
    have hnext : s ++ c :: rest = (s ++ [c]) ++ rest := by simp
    by_cases hpad : c = '='
    · subst hpad
      by_cases hclose : Closes (s ++ ['='])
      · obtain ⟨htwo, hfour⟩ := h.closes_pad_iff.mp hclose
        rw [h.reads_closed_iff hclose, scan, if_pos rfl, if_pos htwo, if_pos hfour]
        simp [eq_comm]
      · have hscan : scan count pads ('=' :: rest) =
            scan count (if 2 ≤ count % 4 then pads + 1 else pads) rest := by
          have hopen := mt h.closes_pad_iff.mpr hclose
          rw [scan, if_pos rfl]
          split
          · rw [if_neg fun hfour => hopen ⟨‹_›, hfour⟩]
          · rfl
        rw [hscan, ih (h.pad hclose), hnext, digits_skip digit?_pad]
    · cases hd : digit? c with
      | none => rw [scan_skip hpad hd, ih (h.skip hpad hd), hnext, digits_skip hd]
      | some d =>
        refine h.scan_digit_iff hd ?_
        intro more
        rw [ih (h.digit hd), hnext, digits_digit hd, List.append_assoc (digits s),
          List.singleton_append]

/-- The decoder reads a text as it is read. -/
theorem scan_eq_ok_iff {s : List Char} {ds : List Nat} : scan 0 0 s = .ok ds ↔ Reads s ds :=
  scanned_nil.scan_eq_ok_iff

/-! ### Encodings -/

/-- The digits of base64url alone, and no spare bits at the end. -/
def Plain (s : List Char) : Prop := (∀ c ∈ s, c ∈ urlDigits) ∧ spareBits (digits s) = 0

/-- The digits of values are these values. -/
theorem digits_map_digitChar {ds : List Nat} (hlt : ∀ d ∈ ds, d < 64) :
    digits (ds.map digitChar) = ds := by
  induction ds with
  | nil => rfl
  | cons d ds ih =>
    obtain ⟨hd, hds⟩ := List.forall_mem_cons.mp hlt
    show (digitChar d :: ds.map digitChar).filterMap digit? = _
    rw [List.filterMap_cons_some (digit?_digitChar hd)]
    show d :: digits (ds.map digitChar) = _
    rw [ih hds]

/-- A text of digits is that of their values. -/
theorem exists_map_digitChar {s : List Char} (h : ∀ c ∈ s, c ∈ urlDigits) :
    ∃ ds : List Nat, (∀ d ∈ ds, d < 64) ∧ s = ds.map digitChar := by
  induction s with
  | nil => exact ⟨[], List.forall_mem_nil _, rfl⟩
  | cons c s ih =>
    obtain ⟨hc, hs⟩ := List.forall_mem_cons.mp h
    obtain ⟨d, hd, rfl⟩ := exists_digit_of_mem hc
    obtain ⟨ds, hds, rfl⟩ := ih hs
    exact ⟨d :: ds, List.forall_mem_cons.mpr ⟨hd, hds⟩, rfl⟩

/-- The digits of an encoding are the groups of six bits. -/
theorem digits_unpadded (bytes : List UInt8) : digits (unpadded bytes) = sextets bytes :=
  digits_map_digitChar lt_of_mem_sextets

/-- Without its padding an encoding has nothing but digits. -/
theorem plain_unpadded (bytes : List UInt8) : Plain (unpadded bytes) :=
  ⟨fun _ hc => mem_urlDigits_of_mem_unpadded hc, by rw [digits_unpadded, spareBits_sextets]⟩

/-- An encoding with its padding is read as its bytes. -/
theorem scan_unpadded (bytes : List UInt8) :
    scan 0 0 (unpadded bytes ++ padding (unpadded bytes).length) = .ok (sextets bytes) := by
  have hlt : ∀ d ∈ sextets bytes, d < 64 := lt_of_mem_sextets
  have h := scan_padded hlt
  rw [if_neg (length_sextets_mod bytes)] at h
  rw [← h]
  simp [unpadded]

/-- What the decoder reads in plain text, it reads in an encoding. -/
theorem Plain.eq_unpadded {s : List Char} (h : Plain s) {ds : List Nat}
    (hscan : scan 0 0 (s ++ padding s.length) = .ok ds) : s = unpadded (bytesOf ds) := by
  obtain ⟨values, hlt, rfl⟩ := exists_map_digitChar h.1
  have hspare := h.2
  rw [digits_map_digitChar hlt] at hspare
  rw [List.length_map, scan_padded hlt] at hscan
  split at hscan
  · cases hscan
  · rename_i hlength
    cases hscan
    rw [unpadded, sextets_bytesOf hlt hlength hspare]

end AitpPlayground.Lib.Base64
