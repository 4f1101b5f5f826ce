import AitpPlayground.Api.Deps
import AitpPlayground.Lib.Admission
import AitpPlayground.Lib.Lts
import AitpPlayground.Proofs.Limits
import Mathlib.Data.List.TakeWhile

/-!
# `AitpPlayground.Proofs.Api.Deps`: the limits hold for every order of the requests

`gateStep` runs one step of one request. A run takes the requests in any order, and each request
has its four checks: the key, the bucket of its address, the bucket of its key, and the hourly
cap. At each of the last three it looks at the clock and then takes the lock.

* `clientIp_of_forwarded`: behind a proxy that appends the address, the address is what
  `client_ip` reads, whatever the header had before. So a caller does not pick its bucket.
* `spend_gate_bounds`: when the requests come to each lock in the order of their looks at the
  clock, then in every state that is reached, each request that has passed has shown a configured
  key, and no address, no key and no hour has more of them than its limit.
* `unauthorized_requests_leave_limits`: the requests without a configured key change nothing
  for the others. To leave them out gives a run with the same limits and the same answers.

A check keeps what each of the three limits has counted (`tracked_step`), by the rules of
`Lib.Admission`.
-/

set_option autoImplicit false

namespace AitpPlayground.Proofs.Api

open AitpPlayground.Lib
open AitpPlayground.Api

/-! ### Addresses -/

/-- The proxy has appended the address to what it was sent. -/
def ForwardedFrom (r : ApiRequest) (addr : String) : Prop :=
  r.header "x-forwarded-for" = addr ∨
    ∃ sent, r.header "x-forwarded-for" = sent ++ ", " ++ addr

/-- An address is not empty, and has neither a comma nor spaces around it. -/
structure IsAddress (addr : String) : Prop where
  no_comma : ',' ∉ addr.toList
  stripped : strip addr.toList = addr.toList
  nonempty : addr.toList ≠ []

/-- After the last comma stands the last entry. -/
theorem lastEntry_append (before : List Char) {after : List Char} (h : ',' ∉ after) :
    lastEntry (before ++ ',' :: after) = after := by
  have hsplit : (before ++ ',' :: after).splitOn ',' = before.splitOn ',' ++ [after] := by
    rw [List.splitOn_append_cons_self, List.splitOn_eq_singleton h]
  simp only [lastEntry, hsplit, List.getLast_concat]

/-- Without a comma the text is its entry. -/
theorem lastEntry_of_no_comma {s : List Char} (h : ',' ∉ s) : lastEntry s = s := by
  simp only [lastEntry, List.splitOn_eq_singleton h, List.getLast_singleton]

/-- A text with a character that is no space does not vanish. -/
theorem strip_ne_nil {s : List Char} {c : Char} (hc : c ∈ s)
    (hspace : pySpaces.contains c.toNat = false) : strip s ≠ [] := by
  intro h
  have hback := List.reverse_eq_nil_iff.mp h
  rw [List.dropWhile_eq_nil_iff] at hback
  -- Whatever the first pass leaves is spaces, so it leaves nothing.
  have hfront : s.dropWhile (fun c => pySpaces.contains c.toNat) = [] := by
    by_contra hne
    have hhead := List.head_dropWhile_not (fun c : Char => pySpaces.contains c.toNat) hne
    rw [hback _ (List.mem_reverse.mpr (List.head_mem hne))] at hhead
    cases hhead
  have hall := List.dropWhile_eq_nil_iff.mp hfront c hc
  rw [hspace] at hall
  cases hall

/-- A space before the text is stripped. -/
theorem strip_cons_space (s : List Char) : strip (' ' :: s) = strip s := rfl

/-- The address is read, and nothing that was sent before it. -/
theorem clientIp_of_forwarded {r : ApiRequest} {addr : String} (haddr : IsAddress addr)
    (h : ForwardedFrom r addr) : clientIp r = addr := by
  have hread : ∀ s : List Char, strip s ≠ [] → strip (lastEntry s) = addr.toList →
      (r.header "x-forwarded-for").toList = s → clientIp r = addr := by
    rintro s hkept hlast rfl
    unfold clientIp
    simp only [if_pos hkept, hlast, String.ofList_toList]
  rcases h with h | ⟨sent, h⟩
  · refine hread addr.toList ?_ ?_ (by rw [h])
    · rw [haddr.stripped]
      exact haddr.nonempty
    · rw [lastEntry_of_no_comma haddr.no_comma, haddr.stripped]
  · have hcomma : ',' ∉ ' ' :: addr.toList := by simpa using haddr.no_comma
    refine hread (sent.toList ++ ',' :: ' ' :: addr.toList) ?_ ?_ (by rw [h]; simp)
    · exact strip_ne_nil (c := ',') (by simp) (by decide)
    · rw [lastEntry_append _ hcomma, strip_cons_space, haddr.stripped]

/-! ### What a stage tells -/

variable {𝕜 : Type} [Field 𝕜] [LinearOrder 𝕜]

/-- The time of the granted call to the bucket of the address. -/
def ipAt? : GateStage 𝕜 → Option 𝕜
  | .atKey _ ipAt _ | .atHour _ ipAt _ _ | .passed _ ipAt _ _ => some ipAt
  | .arrived | .atIp .. | .refused _ => none

/-- The granted call to the bucket of the key. -/
def keyCall? : GateStage 𝕜 → Option (String × 𝕜)
  | .atHour keyId _ keyAt _ | .passed keyId _ keyAt _ => some (keyBucket keyId, keyAt)
  | .arrived | .atIp .. | .atKey .. | .refused _ => none

/-- The time of the acquisition of the hourly cap. -/
def hourAt? : GateStage 𝕜 → Option 𝕜
  | .passed _ _ _ hourAt => some hourAt
  | .arrived | .atIp .. | .atKey .. | .atHour .. | .refused _ => none

/-- How many of the three limits the request has still to ask. -/
def asksLeft : GateStage 𝕜 → Nat
  | .arrived | .atIp .. => 3
  | .atKey .. => 2
  | .atHour .. => 1
  | .passed .. | .refused _ => 0

/-! ### One check -/

/-- A call of a bucket as a guard. -/
abbrev askBucket (b : TokenBucket 𝕜) (c : String × 𝕜) : Bool × TokenBucket 𝕜 := b.allow c.1 c.2

/-- Each limit has counted the requests that are past it. -/
structure GateInv (s : ApiSettings) (requests : Nat → ApiRequest) (g : Gate 𝕜) : Prop where
  perIp : Tracked askBucket Prod.snd (spendLimits s).perIp
    (fun n st => (ipAt? st).map fun t => (ipBucket (requests n), t)) (fun st => asksLeft st = 3)
    g.ipTime g.limits.perIp g.stage
  perKey : Tracked askBucket Prod.snd (spendLimits s).perKey
    (fun _ st => keyCall? st) (fun st => 2 ≤ asksLeft st) g.keyTime g.limits.perKey g.stage
  hourly : Tracked RollingCap.tryAcquire id (spendLimits s).hourly
    (fun _ st => hourAt? st) (fun st => 1 ≤ asksLeft st) g.hourTime g.limits.hourly g.stage

section
variable {sha256Hex : List UInt8 → String} {s : ApiSettings} {requests : Nat → ApiRequest}

/-- The invariant holds at the start. -/
theorem gateInv_start (t₀ : 𝕜) : GateInv s requests (.start s t₀) where
  perIp := tracked_start fun _ => rfl
  perKey := tracked_start fun _ => rfl
  hourly := tracked_start fun _ => rfl

/-- A request looks at the clock for its next check. -/
def LooksAt (t : 𝕜) (stage stage' : GateStage 𝕜) : Prop :=
  (∃ keyId, stage = .atIp keyId none ∧ stage' = .atIp keyId (some t)) ∨
  (∃ keyId ipAt, stage = .atKey keyId ipAt none ∧ stage' = .atKey keyId ipAt (some t)) ∨
  ∃ keyId ipAt keyAt, stage = .atHour keyId ipAt keyAt none ∧
    stage' = .atHour keyId ipAt keyAt (some t)

/-- What one step does: the key, a look at the clock, one of the two buckets, or the cap. -/
theorem gateStep_cases {g g' : Gate 𝕜} {n : Nat} {t : 𝕜}
    (h : gateStep sha256Hex s requests g (n, t) = some g') :
    ∃ stage', g'.stage = Function.update g.stage n stage' ∧ g'.now = t ∧
      g'.ipTime = (g.stage n).ipRead?.getD g.ipTime ∧
      g'.keyTime = (g.stage n).keyRead?.getD g.keyTime ∧
      g'.hourTime = (g.stage n).hourRead?.getD g.hourTime ∧
      ((g.stage n = .arrived ∧ g'.limits = g.limits ∧
          ((∃ keyId, requireApiKey sha256Hex s (requests n) = .ok keyId ∧
              stage' = .atIp keyId none) ∨ ∃ refusal, stage' = .refused refusal)) ∨
        (LooksAt t (g.stage n) stage' ∧ g'.limits = g.limits) ∨
        (∃ keyId read, g.stage n = .atIp keyId (some read) ∧
          g'.limits = { g.limits with
            perIp := (askBucket g.limits.perIp (ipBucket (requests n), read)).2 } ∧
          ((askBucket g.limits.perIp (ipBucket (requests n), read)).1 = true ∧
              stage' = .atKey keyId read none ∨ ∃ refusal, stage' = .refused refusal)) ∨
        (∃ keyId ipAt read, g.stage n = .atKey keyId ipAt (some read) ∧
          g'.limits = { g.limits with
            perKey := (askBucket g.limits.perKey (keyBucket keyId, read)).2 } ∧
          ((askBucket g.limits.perKey (keyBucket keyId, read)).1 = true ∧
              stage' = .atHour keyId ipAt read none ∨ ∃ refusal, stage' = .refused refusal)) ∨
        (∃ keyId ipAt keyAt read, g.stage n = .atHour keyId ipAt keyAt (some read) ∧
          g'.limits = { g.limits with hourly := (g.limits.hourly.tryAcquire read).2 } ∧
          ((g.limits.hourly.tryAcquire read).1 = true ∧ stage' = .passed keyId ipAt keyAt read ∨
            ∃ refusal, stage' = .refused refusal))) := by
  obtain ⟨after, hafter, rfl⟩ := Option.map_eq_some_iff.mp h
  refine ⟨after.2, rfl, rfl, rfl, rfl, rfl, ?_⟩
  cases hstage : g.stage n with
  | arrived =>
    rw [hstage] at hafter
    left
    simp only [enforceSpendLimits] at hafter
    split at hafter
    case h_1 keyId hkey =>
      cases hafter
      exact ⟨rfl, rfl, .inl ⟨keyId, hkey, rfl⟩⟩
    case h_2 refusal hrefused =>
      cases hafter
      exact ⟨rfl, rfl, .inr ⟨refusal, rfl⟩⟩
  | atIp keyId read =>
    rw [hstage] at hafter
    cases read with
    | none =>
      obtain rfl := Option.some.inj hafter
      exact .inr (.inl ⟨.inl ⟨keyId, rfl, rfl⟩, rfl⟩)
    | some read =>
      obtain rfl := Option.some.inj hafter
      refine .inr (.inr (.inl ⟨keyId, read, rfl, rfl, ?_⟩))
      by_cases hyes : (g.limits.perIp.allow (ipBucket (requests n)) read).1 = true
      · exact .inl ⟨hyes, if_pos hyes⟩
      · exact .inr ⟨rateExceeded, if_neg hyes⟩
  | atKey keyId ipAt read =>
    rw [hstage] at hafter
    cases read with
    | none =>
      obtain rfl := Option.some.inj hafter
      exact .inr (.inl ⟨.inr (.inl ⟨keyId, ipAt, rfl, rfl⟩), rfl⟩)
    | some read =>
      obtain rfl := Option.some.inj hafter
      refine .inr (.inr (.inr (.inl ⟨keyId, ipAt, read, rfl, rfl, ?_⟩)))
      by_cases hyes : (g.limits.perKey.allow (keyBucket keyId) read).1 = true
      · exact .inl ⟨hyes, if_pos hyes⟩
      · exact .inr ⟨rateExceeded, if_neg hyes⟩
  | atHour keyId ipAt keyAt read =>
    rw [hstage] at hafter
    cases read with
    | none =>
      obtain rfl := Option.some.inj hafter
      exact .inr (.inl ⟨.inr (.inr ⟨keyId, ipAt, keyAt, rfl, rfl⟩), rfl⟩)
    | some read =>
      obtain rfl := Option.some.inj hafter
      refine .inr (.inr (.inr (.inr ⟨keyId, ipAt, keyAt, read, rfl, rfl, ?_⟩)))
      by_cases hyes : (g.limits.hourly.tryAcquire read).1 = true
      · exact .inl ⟨hyes, if_pos hyes⟩
      · exact .inr ⟨hourlyReached, if_neg hyes⟩
  | passed keyId ipAt keyAt hourAt =>
    rw [hstage] at hafter
    cases hafter
  | refused refusal =>
    rw [hstage] at hafter
    cases hafter

omit [Field 𝕜] [LinearOrder 𝕜] in
/-- A request asks at most three limits. -/
theorem asksLeft_le (stage : GateStage 𝕜) : asksLeft stage ≤ 3 := by
  cases stage <;> simp [asksLeft]

/-- A step of a request that asks no limit keeps the counts. -/
theorem GateInv.quiet {g g' : Gate 𝕜} {n : Nat} {stage' : GateStage 𝕜}
    (hinv : GateInv s requests g) (hstage : g'.stage = Function.update g.stage n stage')
    (hlimits : g'.limits = g.limits) (hip : g'.ipTime = g.ipTime) (hkey : g'.keyTime = g.keyTime)
    (hhour : g'.hourTime = g.hourTime) (hipAt : ipAt? stage' = ipAt? (g.stage n))
    (hkeyCall : keyCall? stage' = keyCall? (g.stage n))
    (hhourAt : hourAt? stage' = hourAt? (g.stage n))
    (hleft : asksLeft stage' ≤ asksLeft (g.stage n)) : GateInv s requests g' := by
  have hmost := asksLeft_le (g.stage n)
  refine ⟨?_, ?_, ?_⟩
  · rw [hstage, hlimits, hip]
    refine hinv.perIp.move (le_refl _) (fun c hc => ?_) fun hthree => by omega
    rwa [hipAt] at hc
  · rw [hstage, hlimits, hkey]
    refine hinv.perKey.move (le_refl _) (fun c hc => ?_) fun htwo => htwo.trans hleft
    rwa [hkeyCall] at hc
  · rw [hstage, hlimits, hhour]
    refine hinv.hourly.move (le_refl _) (fun c hc => ?_) fun hone => hone.trans hleft
    rwa [hhourAt] at hc

section
variable {g g' : Gate 𝕜} {n : Nat} {stage' : GateStage 𝕜} {keyId : String} {ipAt keyAt read : 𝕜}

/-- A request that asks the bucket of its address is past it, or refused. -/
theorem GateInv.askIp (hinv : GateInv s requests g) (hn : g.stage n = .atIp keyId (some read))
    (hle : g.ipTime ≤ read) (hstage : g'.stage = Function.update g.stage n stage')
    (hlimits : g'.limits = { g.limits with
      perIp := (askBucket g.limits.perIp (ipBucket (requests n), read)).2 })
    (hip : g'.ipTime = read) (hkey : g'.keyTime = g.keyTime) (hhour : g'.hourTime = g.hourTime)
    (hend : (askBucket g.limits.perIp (ipBucket (requests n), read)).1 = true ∧
      stage' = .atKey keyId read none ∨ ∃ refusal, stage' = .refused refusal) :
    GateInv s requests g' := by
  have hafter : (∀ t, ipAt? stage' = some t →
      (askBucket g.limits.perIp (ipBucket (requests n), read)).1 = true ∧ t = read) ∧
      keyCall? stage' = none ∧ hourAt? stage' = none ∧ asksLeft stage' ≤ 2 := by
    rcases hend with ⟨hyes, rfl⟩ | ⟨refusal, rfl⟩
    · exact ⟨fun t ht => ⟨hyes, (Option.some.inj ht).symm⟩, rfl, rfl, le_refl _⟩
    · exact ⟨nofun, rfl, rfl, Nat.zero_le _⟩
  obtain ⟨hcall, hnokey, hnohour, hfewer⟩ := hafter
  have hleft : asksLeft (g.stage n) = 3 := by rw [hn]; rfl
  refine ⟨?_, ?_, ?_⟩
  · rw [hstage, hlimits, hip]
    refine hinv.perIp.ask (c := (ipBucket (requests n), read)) hle hleft (by omega) ?_
    intro d hd
    obtain ⟨t, ht, rfl⟩ := Option.map_eq_some_iff.mp hd
    obtain ⟨hyes, rfl⟩ := hcall t ht
    exact ⟨hyes, rfl⟩
  · rw [hstage, hlimits, hkey]
    exact hinv.perKey.move (le_refl _) (by simp [hnokey]) fun _ => by omega
  · rw [hstage, hlimits, hhour]
    exact hinv.hourly.move (le_refl _) (by simp [hnohour]) fun _ => by omega

/-- A request that asks the bucket of its key keeps its call to the first one. -/
theorem GateInv.askKey (hinv : GateInv s requests g)
    (hn : g.stage n = .atKey keyId ipAt (some read)) (hle : g.keyTime ≤ read)
    (hstage : g'.stage = Function.update g.stage n stage')
    (hlimits : g'.limits = { g.limits with
      perKey := (askBucket g.limits.perKey (keyBucket keyId, read)).2 })
    (hip : g'.ipTime = g.ipTime) (hkey : g'.keyTime = read) (hhour : g'.hourTime = g.hourTime)
    (hend : (askBucket g.limits.perKey (keyBucket keyId, read)).1 = true ∧
      stage' = .atHour keyId ipAt read none ∨ ∃ refusal, stage' = .refused refusal) :
    GateInv s requests g' := by
  have hafter : (∀ t, ipAt? stage' = some t → t = ipAt) ∧ (∀ c, keyCall? stage' = some c →
      (askBucket g.limits.perKey (keyBucket keyId, read)).1 = true ∧
        c = (keyBucket keyId, read)) ∧
      hourAt? stage' = none ∧ asksLeft stage' ≤ 1 := by
    rcases hend with ⟨hyes, rfl⟩ | ⟨refusal, rfl⟩
    · exact ⟨fun t ht => (Option.some.inj ht).symm,
        fun c hc => ⟨hyes, (Option.some.inj hc).symm⟩, rfl, le_refl _⟩
    · exact ⟨nofun, nofun, rfl, Nat.zero_le _⟩
  obtain ⟨hsame, hcall, hnohour, hfewer⟩ := hafter
  have hleft : asksLeft (g.stage n) = 2 := by rw [hn]; rfl
  have hstill : ipAt? (g.stage n) = some ipAt := by rw [hn]; rfl
  refine ⟨?_, ?_, ?_⟩
  · rw [hstage, hlimits, hip]
    refine hinv.perIp.move (le_refl _) (fun d hd => ?_) fun hthree => by omega
    obtain ⟨t, ht, rfl⟩ := Option.map_eq_some_iff.mp hd
    rw [hstill, hsame t ht]
    rfl
  · rw [hstage, hlimits, hkey]
    exact hinv.perKey.ask (c := (keyBucket keyId, read)) hle hleft.ge (by omega) hcall
  · rw [hstage, hlimits, hhour]
    exact hinv.hourly.move (le_refl _) (by simp [hnohour]) fun _ => by omega

/-- A request that asks the hourly cap keeps its calls to both buckets. -/
theorem GateInv.askHour (hinv : GateInv s requests g)
    (hn : g.stage n = .atHour keyId ipAt keyAt (some read)) (hle : g.hourTime ≤ read)
    (hstage : g'.stage = Function.update g.stage n stage')
    (hlimits : g'.limits = { g.limits with hourly := (g.limits.hourly.tryAcquire read).2 })
    (hip : g'.ipTime = g.ipTime) (hkey : g'.keyTime = g.keyTime) (hhour : g'.hourTime = read)
    (hend : (g.limits.hourly.tryAcquire read).1 = true ∧ stage' = .passed keyId ipAt keyAt read ∨
      ∃ refusal, stage' = .refused refusal) : GateInv s requests g' := by
  have hafter : (∀ t, ipAt? stage' = some t → t = ipAt) ∧
      (∀ c, keyCall? stage' = some c → c = (keyBucket keyId, keyAt)) ∧
      (∀ t, hourAt? stage' = some t → (g.limits.hourly.tryAcquire read).1 = true ∧ t = read) ∧
      asksLeft stage' = 0 := by
    rcases hend with ⟨hyes, rfl⟩ | ⟨refusal, rfl⟩
    · exact ⟨fun t ht => (Option.some.inj ht).symm, fun c hc => (Option.some.inj hc).symm,
        fun t ht => ⟨hyes, (Option.some.inj ht).symm⟩, rfl⟩
    · exact ⟨nofun, nofun, nofun, rfl⟩
  obtain ⟨hsame, hsameKey, hcall, hfewer⟩ := hafter
  have hleft : asksLeft (g.stage n) = 1 := by rw [hn]; rfl
  have hstill : ipAt? (g.stage n) = some ipAt ∧
      keyCall? (g.stage n) = some (keyBucket keyId, keyAt) := by
    rw [hn]
    exact ⟨rfl, rfl⟩
  refine ⟨?_, ?_, ?_⟩
  · rw [hstage, hlimits, hip]
    refine hinv.perIp.move (le_refl _) (fun d hd => ?_) fun hthree => by omega
    obtain ⟨t, ht, rfl⟩ := Option.map_eq_some_iff.mp hd
    rw [hstill.1, hsame t ht]
    rfl
  · rw [hstage, hlimits, hkey]
    refine hinv.perKey.move (le_refl _) (fun c hc => ?_) fun htwo => by omega
    rw [hstill.2, hsameKey c hc]
  · rw [hstage, hlimits, hhour]
    exact hinv.hourly.ask (c := read) hle hleft.ge (by omega) hcall

/-- One step keeps the counts. -/
theorem gateInv_step {l : Nat × 𝕜} (hinv : GateInv s requests g) (horder : InOrder g l)
    (h : gateStep sha256Hex s requests g l = some g') : GateInv s requests g' := by
  obtain ⟨n, t⟩ := l
  obtain ⟨hip, hkey, hhour⟩ := horder
  obtain ⟨stage', hstage, -, hipTime, hkeyTime, hhourTime, hcases⟩ := gateStep_cases h
  rcases hcases with ⟨hn, hlimits, hend⟩ | ⟨hlooks, hlimits⟩ | ⟨keyId, read, hn, hlimits, hend⟩ |
    ⟨keyId, ipAt, read, hn, hlimits, hend⟩ | ⟨keyId, ipAt, keyAt, read, hn, hlimits, hend⟩
  · -- The key is no limit, and all three are still to be asked.
    rw [hn] at hipTime hkeyTime hhourTime
    have hquiet : ipAt? stage' = none ∧ keyCall? stage' = none ∧ hourAt? stage' = none := by
      rcases hend with ⟨keyId, -, rfl⟩ | ⟨refusal, rfl⟩ <;> exact ⟨rfl, rfl, rfl⟩
    refine hinv.quiet hstage hlimits hipTime hkeyTime hhourTime ?_ ?_ ?_ ?_
    · rw [hquiet.1, hn]
      rfl
    · rw [hquiet.2.1, hn]
      rfl
    · rw [hquiet.2.2, hn]
      rfl
    · rw [hn]
      exact asksLeft_le stage'
  · -- A look at the clock leaves the check that comes next.
    rcases hlooks with ⟨keyId, hn, rfl⟩ | ⟨keyId, ipAt, hn, rfl⟩ | ⟨keyId, ipAt, keyAt, hn, rfl⟩
    all_goals
      rw [hn] at hipTime hkeyTime hhourTime
      refine hinv.quiet hstage hlimits hipTime hkeyTime hhourTime ?_ ?_ ?_ ?_
      all_goals
        rw [hn]
        rfl
  · have hle : g.ipTime ≤ read := hip read (by rw [hn]; rfl)
    rw [hn] at hipTime hkeyTime hhourTime
    exact hinv.askIp hn hle hstage hlimits hipTime hkeyTime hhourTime hend
  · have hle : g.keyTime ≤ read := hkey read (by rw [hn]; rfl)
    rw [hn] at hipTime hkeyTime hhourTime
    exact hinv.askKey hn hle hstage hlimits hipTime hkeyTime hhourTime hend
  · have hle : g.hourTime ≤ read := hhour read (by rw [hn]; rfl)
    rw [hn] at hipTime hkeyTime hhourTime
    exact hinv.askHour hn hle hstage hlimits hipTime hkeyTime hhourTime hend

end

/-- The invariant holds in every run. -/
theorem gateInv_reach {t₀ : 𝕜} {g : Gate 𝕜}
    (h : Reach (gateStep sha256Hex s requests) InOrder (.start s t₀) g) : GateInv s requests g :=
  h.invariant (fun _ _ _ hinv horder hstep => gateInv_step hinv horder hstep) (gateInv_start t₀)

/-- A request that is past the key has shown a configured one. -/
def KeyShown (sha256Hex : List UInt8 → String) (s : ApiSettings) (r : ApiRequest) :
    GateStage 𝕜 → Prop
  | .atIp keyId _ | .atKey keyId _ _ | .atHour keyId _ _ _ | .passed keyId _ _ _ =>
    requireApiKey sha256Hex s r = .ok keyId
  | .arrived | .refused _ => True

/-- In every run, a request past the first check has shown its key. -/
theorem keyShown_reach {ok : Gate 𝕜 → Nat × 𝕜 → Prop} {t₀ : 𝕜} {g : Gate 𝕜}
    (h : Reach (gateStep sha256Hex s requests) ok (.start s t₀) g) (n : Nat) :
    KeyShown sha256Hex s (requests n) (g.stage n) := by
  have hstart : ∀ n, KeyShown sha256Hex s (requests n) ((Gate.start s t₀).stage n) :=
    fun _ => trivial
  refine h.invariant (P := fun g => ∀ n, KeyShown sha256Hex s (requests n) (g.stage n))
    ?_ hstart n
  intro g l g' hshown _ hstep id
  obtain ⟨n, t⟩ := l
  obtain ⟨stage', hstage, -, -, -, -, hcases⟩ := gateStep_cases hstep
  rw [hstage]
  by_cases hid : id = n
  · subst hid
    have hold := hshown id
    rw [Function.update_self]
    rcases hcases with ⟨-, -, hend⟩ | ⟨hlooks, -⟩ | ⟨keyId, read, hn, -, hend⟩ |
      ⟨keyId, ipAt, read, hn, -, hend⟩ | ⟨keyId, ipAt, keyAt, read, hn, -, hend⟩
    · rcases hend with ⟨keyId, hkey, rfl⟩ | ⟨refusal, rfl⟩
      · exact hkey
      · trivial
    · rcases hlooks with ⟨keyId, hn, rfl⟩ | ⟨keyId, ipAt, hn, rfl⟩ | ⟨keyId, ipAt, keyAt, hn, rfl⟩
      all_goals
        rw [hn] at hold
        exact hold
    all_goals
      rw [hn] at hold
      rcases hend with ⟨-, rfl⟩ | ⟨refusal, rfl⟩
      · exact hold
      · trivial
  · rw [Function.update_of_ne hid]
    exact hshown id

/-- The key that is returned is the hash of a configured one. -/
theorem requireApiKey_eq_ok {r : ApiRequest} {key : String}
    (h : requireApiKey sha256Hex s r = .ok key) :
    ∃ presented ∈ configuredKeys s, bearer r = some presented ∧
      key = keyId sha256Hex presented := by
  unfold requireApiKey at h
  split at h
  · cases h
  · split at h
    case h_1 => cases h
    case h_2 presented hbearer =>
      split at h
      case isTrue hmatch =>
        obtain ⟨configured, hmem, heq⟩ := List.any_eq_true.mp hmatch
        cases h
        exact ⟨presented, (eq_of_beq heq) ▸ hmem, hbearer, rfl⟩
      case isFalse => cases h

/-! ### Bounds -/

section
variable [IsStrictOrderedRing 𝕜]

/-- A bucket grants no more calls with one key in an interval than it holds and gets. -/
theorem granted_bucket_le {rate : 𝕜} (hrate : 0 ≤ rate) (burst : Int) (k : String) {a b : 𝕜}
    (hab : a ≤ b) {calls : List (String × 𝕜)} (hcalls : Timed Prod.snd calls) :
    (((granted calls (answers askBucket (.new rate burst) calls)).filter fun c =>
      decide (c.1 = k ∧ a ≤ c.2 ∧ c.2 ≤ b)).length : 𝕜) ≤
      ((max 1 burst : Int) : 𝕜) + rate * (b - a) := by
  have hcap : (0 : 𝕜) ≤ ((max 1 burst : Int) : 𝕜) := by
    exact_mod_cast zero_le_one.trans (le_max_left 1 burst)
  have hanswers : answers askBucket (TokenBucket.new rate burst) calls =
      answers (Levels.take ((max 1 burst : Int) : 𝕜) rate)
        (Levels.full ((max 1 burst : Int) : 𝕜)) calls :=
    answers_eq_levels hrate burst pruneAbove hcalls
  rw [hanswers]
  exact Levels.granted_le hrate hcap k hab hcalls fun c _ => Levels.flowing_full hrate hcap c.2

/-- The rate of the buckets, per second. -/
def ratePerSec (s : ApiSettings) : 𝕜 := (spendLimits s : SpendLimits 𝕜).perIp.rate

omit [LinearOrder 𝕜] [IsStrictOrderedRing 𝕜] in
/-- The rate of a second is a sixtieth of that of a minute. -/
theorem ratePerSec_eq (s : ApiSettings) :
    (ratePerSec s : 𝕜) = (s.rateLimitPerMinute : 𝕜) / 60 := rfl

/-- The rate of a second is not negative when that of a minute is not. -/
theorem ratePerSec_nonneg (hrate : 0 ≤ s.rateLimitPerMinute) : (0 : 𝕜) ≤ ratePerSec s := by
  rw [ratePerSec_eq]
  exact div_nonneg (by exact_mod_cast hrate) (by norm_num)

/-- However the steps of the requests interleave, when they come to each lock in the order in which
they have read the clock for it: a request that has passed has shown a configured key. Of the
requests that have passed, an address has no more in an interval, by the time that its check went
by, than its bucket holds and gets, and neither has a key. An hour has at most
`max_runs_per_hour`. -/
theorem spend_gate_bounds (hrate : 0 ≤ s.rateLimitPerMinute) {t₀ : 𝕜} {g : Gate 𝕜}
    (hrun : Reach (gateStep sha256Hex s requests) InOrder (.start s t₀) g) {ids : List Nat}
    (hids : ids.Nodup) {a b : 𝕜} (hab : a ≤ b) :
    (∀ n key ipAt keyAt hourAt, g.stage n = .passed key ipAt keyAt hourAt →
      ∃ presented ∈ configuredKeys s, bearer (requests n) = some presented ∧
        key = keyId sha256Hex presented) ∧
    (∀ addr, IsAddress addr →
      (∀ n ∈ ids, ForwardedFrom (requests n) addr ∧ ∃ key ipAt keyAt hourAt,
        g.stage n = .passed key ipAt keyAt hourAt ∧ a ≤ ipAt ∧ ipAt ≤ b) →
      (ids.length : 𝕜) ≤ ((max 1 s.rateLimitBurst : Int) : 𝕜) + ratePerSec s * (b - a)) ∧
    (∀ key, (∀ n ∈ ids, ∃ ipAt keyAt hourAt,
        g.stage n = .passed key ipAt keyAt hourAt ∧ a ≤ keyAt ∧ keyAt ≤ b) →
      (ids.length : 𝕜) ≤ ((max 1 s.rateLimitBurst : Int) : 𝕜) + ratePerSec s * (b - a)) ∧
    ((∀ n ∈ ids, ∃ key ipAt keyAt hourAt,
        g.stage n = .passed key ipAt keyAt hourAt ∧ b - 3600 < hourAt ∧ hourAt ≤ b) →
      (ids.length : Int) ≤ max 0 s.maxRunsPerHour) := by
  have hinv := gateInv_reach hrun
  have hnonneg : (0 : 𝕜) ≤ ratePerSec s := ratePerSec_nonneg hrate
  refine ⟨?_, ?_, ?_, ?_⟩
  · intro n key ipAt keyAt hourAt hstage
    have hshown := keyShown_reach hrun n
    rw [hstage] at hshown
    exact requireApiKey_eq_ok hshown
  · intro addr haddr hpassed
    obtain ⟨calls, htimed, hle⟩ := hinv.perIp.length_le hids
      (p := fun c => c.1 = "ip:" ++ addr ∧ a ≤ c.2 ∧ c.2 ≤ b) (by
        intro n hn
        obtain ⟨hfrom, key, ipAt, keyAt, hourAt, hstage, ha, hb⟩ := hpassed n hn
        refine ⟨(ipBucket (requests n), ipAt), ⟨?_, ha, hb⟩, by rw [hstage]; rfl⟩
        show "ip:" ++ clientIp (requests n) = _
        rw [clientIp_of_forwarded haddr hfrom])
    have hcast : (ids.length : 𝕜) ≤ _ := Nat.cast_le.mpr hle
    exact hcast.trans (granted_bucket_le hnonneg s.rateLimitBurst _ hab htimed)
  · intro key hpassed
    obtain ⟨calls, htimed, hle⟩ := hinv.perKey.length_le hids
      (p := fun c => c.1 = keyBucket key ∧ a ≤ c.2 ∧ c.2 ≤ b) (by
        intro n hn
        obtain ⟨ipAt, keyAt, hourAt, hstage, ha, hb⟩ := hpassed n hn
        exact ⟨(keyBucket key, keyAt), ⟨rfl, ha, hb⟩, by rw [hstage]; rfl⟩)
    have hcast : (ids.length : 𝕜) ≤ _ := Nat.cast_le.mpr hle
    exact hcast.trans (granted_bucket_le hnonneg s.rateLimitBurst _ hab htimed)
  · intro hpassed
    obtain ⟨calls, htimed, hle⟩ := hinv.hourly.length_le hids
      (p := fun t => b - 3600 < t ∧ t ≤ b) (by
        intro n hn
        obtain ⟨key, ipAt, keyAt, hourAt, hstage, hin⟩ := hpassed n hn
        exact ⟨hourAt, hin, by rw [hstage]; rfl⟩)
    have hcap := acquired_le s.maxRunsPerHour 3600 htimed (p := fun t => b - 3600 < t ∧ t ≤ b)
      fun t t' ht ht' => by linarith [ht.1, ht'.2]
    have hcast : (ids.length : Int) ≤ _ := Nat.cast_le.mpr hle
    exact hcast.trans hcap

end

/-- One request a second, after the first one. -/
def gateSettings : ApiSettings :=
  { playgroundApiKey := "k1, k2", rateLimitPerMinute := 60, rateLimitBurst := 1
    maxRunsPerHour := 2 }

/-- The requests of one address: the second one has a wrong key, and the first one has sent no
address of its own. -/
def gateRequests (n : Nat) : ApiRequest :=
  { headers :=
      [("authorization", if n = 1 then "Bearer k3" else "Bearer k1"),
       ("x-forwarded-for", if n = 0 then "198.51.100.7" else "203.0.113.9, 198.51.100.7")]
    client := none }

/-- The digest of the first key. -/
def gateHash (presented : List UInt8) : String :=
  if presented = utf8 "k1" then "6ab9f1eb8f7d3388f4f9d586f66e99fd54080df2c446f0e58668b09c08a16dd0"
  else ""

/-- The requests 0 and 2 pass. The latter has read the clock for its address a second after the
former, which takes the lock of its key meanwhile. -/
def gateLabels : List (Nat × ℚ) :=
  [(0, 0), (1, 0), (2, 0), (0, 0), (0, 0), (0, 0), (2, 1), (0, 1), (2, 1), (0, 1), (0, 1), (2, 1),
    (2, 1), (2, 1), (2, 1)]

/-- The proxy appends the address to all requests of the run. -/
theorem forwarded_gateRequests (n : Nat) : ForwardedFrom (gateRequests n) "198.51.100.7" := by
  have hheader : (gateRequests n).header "x-forwarded-for" =
      if n = 0 then "198.51.100.7" else "203.0.113.9, 198.51.100.7" := rfl
  by_cases hn : n = 0
  · exact .inl (by rw [hheader, if_pos hn])
  · exact .inr ⟨"203.0.113.9", by rw [hheader, if_neg hn]; rfl⟩

/-- The address is one. -/
theorem isAddress_gate : IsAddress "198.51.100.7" := ⟨by decide, by decide, by decide⟩

/-- The run ends with the first and the third request past the check, and the second one refused. -/
theorem reach_gateLabels :
    ∃ g : Gate ℚ, Reach (gateStep gateHash gateSettings gateRequests)
        (fun g l => OnTime g l ∧ InOrder g l)
        (.start gateSettings (0 : ℚ)) g ∧
      g.stage 0 = .passed "6ab9f1eb8f7d3388" 0 0 1 ∧ g.stage 2 = .passed "6ab9f1eb8f7d3388" 1 1 1 ∧
      g.stage 1 = .refused unauthorized := by
  have hexec : (exec (gateStep gateHash gateSettings gateRequests)
      (fun g l => OnTime g l ∧ InOrder g l) (.start gateSettings (0 : ℚ)) gateLabels).map
        (fun g => (g.stage 0, g.stage 2, g.stage 1)) =
      some (.passed "6ab9f1eb8f7d3388" 0 0 1, .passed "6ab9f1eb8f7d3388" 1 1 1,
        .refused unauthorized) := by
    decide +kernel
  obtain ⟨g, hrun, hread⟩ := exists_reach_of_exec hexec
  simp only [Prod.mk.injEq] at hread
  exact ⟨g, hrun, hread⟩

/-- In the second from the first check to the last one, the bound of the address is reached. -/
theorem spend_gate_bounds_reached :
    ∃ g : Gate ℚ, Reach (gateStep gateHash gateSettings gateRequests) InOrder
        (.start gateSettings 0) g ∧
      ([0, 2].length : ℚ) ≤ ((max 1 1 : Int) : ℚ) + ratePerSec gateSettings * (1 - 0) := by
  obtain ⟨g, hboth, hfirst, hlast, -⟩ := reach_gateLabels
  have hrun := hboth.weaken fun _ _ hok => hok.2
  refine ⟨g, hrun, ?_⟩
  have hids : [0, 2].Nodup := by decide
  obtain ⟨-, haddr, -, -⟩ := spend_gate_bounds (by decide) hrun hids
    (a := 0) (b := 1) (by norm_num)
  refine haddr "198.51.100.7" isAddress_gate fun n hn => ⟨forwarded_gateRequests n, ?_⟩
  rcases List.mem_cons.mp hn with rfl | hn
  · exact ⟨_, _, _, _, hfirst, by norm_num, by norm_num⟩
  · obtain rfl := List.mem_singleton.mp hn
    exact ⟨_, _, _, _, hlast, by norm_num, by norm_num⟩

/-! ### Requests without a key -/

/-- The request has shown a configured key. -/
def Authorized (sha256Hex : List UInt8 → String) (s : ApiSettings) (r : ApiRequest) : Prop :=
  ∃ key, requireApiKey sha256Hex s r = .ok key

/-- A request without a configured key is refused before it asks a limit. -/
theorem unauthorized_stage {t₀ : 𝕜} {g : Gate 𝕜}
    (hrun : Reach (gateStep sha256Hex s requests) OnTime (.start s t₀) g) {n : Nat}
    (hn : ¬Authorized sha256Hex s (requests n)) :
    g.stage n = .arrived ∨ ∃ refusal, g.stage n = .refused refusal := by
  have hshown := keyShown_reach hrun n
  cases hstage : g.stage n with
  | arrived => exact .inl rfl
  | refused refusal => exact .inr ⟨refusal, rfl⟩
  | atIp key read =>
    rw [hstage] at hshown
    exact absurd ⟨key, hshown⟩ hn
  | atKey key ipAt read =>
    rw [hstage] at hshown
    exact absurd ⟨key, hshown⟩ hn
  | atHour key ipAt keyAt read =>
    rw [hstage] at hshown
    exact absurd ⟨key, hshown⟩ hn
  | passed key ipAt keyAt hourAt =>
    rw [hstage] at hshown
    exact absurd ⟨key, hshown⟩ hn

/-- The check of such a request leaves the limits. -/
theorem unauthorized_step {t₀ : 𝕜} {g g' : Gate 𝕜} {n : Nat} {t : 𝕜}
    (hrun : Reach (gateStep sha256Hex s requests) OnTime (.start s t₀) g)
    (hn : ¬Authorized sha256Hex s (requests n))
    (hstep : gateStep sha256Hex s requests g (n, t) = some g') :
    g'.limits = g.limits ∧ ∀ id, id ≠ n → g'.stage id = g.stage id := by
  obtain ⟨stage', hstage, -, -, -, -, hcases⟩ := gateStep_cases hstep
  refine ⟨?_, fun id hid => by rw [hstage, Function.update_of_ne hid]⟩
  have hpast := unauthorized_stage hrun hn
  rcases hcases with ⟨-, hlimits, -⟩ | ⟨-, hlimits⟩ | ⟨keyId, read, hat, -⟩ |
    ⟨keyId, ipAt, read, hat, -⟩ | ⟨keyId, ipAt, keyAt, read, hat, -⟩
  · exact hlimits
  · exact hlimits
  all_goals
    rw [hat] at hpast
    rcases hpast with h | ⟨refusal, h⟩ <;> cases h

/-- A check depends on the limits and on the stage of its request. -/
theorem gateStep_congr {g₁ g₂ g₁' : Gate 𝕜} {n : Nat} {t : 𝕜} (hlimits : g₂.limits = g₁.limits)
    (hstage : g₂.stage n = g₁.stage n)
    (hstep : gateStep sha256Hex s requests g₁ (n, t) = some g₁') :
    ∃ g₂', gateStep sha256Hex s requests g₂ (n, t) = some g₂' ∧ g₂'.limits = g₁'.limits ∧
      g₂'.now = g₁'.now ∧ g₂'.stage n = g₁'.stage n ∧
      (∀ id, id ≠ n → g₂'.stage id = g₂.stage id) ∧
      ∀ id, id ≠ n → g₁'.stage id = g₁.stage id := by
  obtain ⟨after, hafter, rfl⟩ := Option.map_eq_some_iff.mp hstep
  refine ⟨{ limits := after.1, stage := Function.update g₂.stage n after.2, now := t
            ipTime := (g₂.stage n).ipRead?.getD g₂.ipTime
            keyTime := (g₂.stage n).keyRead?.getD g₂.keyTime
            hourTime := (g₂.stage n).hourRead?.getD g₂.hourTime }, ?_, rfl, rfl, ?_, ?_, ?_⟩
  · show (enforceSpendLimits sha256Hex s (requests n) g₂.limits t (g₂.stage n)).map _ = _
    rw [hlimits, hstage, hafter]
    rfl
  · show Function.update g₂.stage n after.2 n = Function.update g₁.stage n after.2 n
    rw [Function.update_self, Function.update_self]
  · exact fun id hid => Function.update_of_ne hid _ _
  · exact fun id hid => Function.update_of_ne hid _ _

/-- For every run there is one in which only the requests with a configured key take part. It
ends with the same limits, and every such request has got the same answers. -/
theorem unauthorized_requests_leave_limits {t₀ : 𝕜} {g : Gate 𝕜}
    (hrun : Reach (gateStep sha256Hex s requests) OnTime (.start s t₀) g) :
    ∃ g', Reach (gateStep sha256Hex s requests)
        (fun g l => OnTime g l ∧ Authorized sha256Hex s (requests l.1)) (.start s t₀) g' ∧
      g'.limits = g.limits ∧
      ∀ n, Authorized sha256Hex s (requests n) → g'.stage n = g.stage n := by
  suffices h : ∃ g', Reach (gateStep sha256Hex s requests)
      (fun g l => OnTime g l ∧ Authorized sha256Hex s (requests l.1)) (.start s t₀) g' ∧
      g'.limits = g.limits ∧ g'.now ≤ g.now ∧
      ∀ n, Authorized sha256Hex s (requests n) → g'.stage n = g.stage n by
    obtain ⟨g', hrun', hlimits, -, hstage⟩ := h
    exact ⟨g', hrun', hlimits, hstage⟩
  induction hrun with
  | refl => exact ⟨_, Reach.refl _, rfl, le_refl _, fun _ _ => rfl⟩
  | tail hprev hnext ih =>
    rename_i g₁ g₂
    obtain ⟨⟨n, t⟩, hclock, hstep⟩ := hnext
    obtain ⟨g₁', hrun', hlimits, hnow, hstage⟩ := ih
    have hlater : g₁.now ≤ t := hclock
    have hnow₂ : g₂.now = t := by
      obtain ⟨-, -, hnow₂, -⟩ := gateStep_cases hstep
      exact hnow₂
    by_cases hn : Authorized sha256Hex s (requests n)
    · -- The request makes the same check in both runs.
      obtain ⟨g₂', hstep', hlimits', hnow', hself, hother', hother⟩ :=
        gateStep_congr hlimits (hstage n hn) hstep
      have hok : OnTime g₁' (n, t) ∧ Authorized sha256Hex s (requests n) :=
        ⟨hnow.trans hlater, hn⟩
      have hmore := Reach.snoc (l := (n, t)) hrun' hok hstep'
      refine ⟨g₂', hmore, hlimits', hnow'.le, ?_⟩
      intro id hid
      by_cases heq : id = n
      · rw [heq, hself]
      · rw [hother' id heq, hother id heq]
        exact hstage id hid
    · -- The request is left out.
      obtain ⟨hsame, hother⟩ := unauthorized_step hprev hn hstep
      refine ⟨g₁', hrun', hlimits.trans hsame.symm, (hnow.trans hlater).trans hnow₂.ge, ?_⟩
      intro id hid
      have hne : id ≠ n := by
        rintro rfl
        exact hn hid
      rw [hother id hne]
      exact hstage id hid

/-- The request with the wrong key is left out. -/
theorem unauthorized_requests_leave_limits_two :
    ∃ g g' : Gate ℚ, g.stage 1 = .refused unauthorized ∧
      Reach (gateStep gateHash gateSettings gateRequests)
        (fun g l => OnTime g l ∧ Authorized gateHash gateSettings (gateRequests l.1))
        (.start gateSettings 0) g' ∧
      g'.limits = g.limits := by
  obtain ⟨g, hrun, -, -, hrefused⟩ := reach_gateLabels
  obtain ⟨g', hrun', hlimits, -⟩ :=
    unauthorized_requests_leave_limits (hrun.weaken fun _ _ hok => hok.1)
  exact ⟨g, g', hrefused, hrun', hlimits⟩

end

end AitpPlayground.Proofs.Api
