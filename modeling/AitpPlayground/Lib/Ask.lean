import Mathlib.Data.Finset.Card
import Mathlib.Data.Nat.Find
import Mathlib.Logic.Relation

/-!
# `AitpPlayground.Lib.Ask`: recursion that follows requests

The answer for a key may need the answers for other keys, and which ones can depend on the
answers so far: `Ask κ β` is a script that asks for them one after the other. `eval` answers a
key by running its script, down to a depth. It counts the requests on the way.

`halts_iff_acc` says that a key has an answer at some depth just when the requests below it
are well founded. When only finitely many keys ask for anything, this is so just when no key
below it asks for itself, directly or through others (`halts_iff_acyclic`).

`evalWithin` is the same on a machine with a stack, where a request is answered on top of what
the script has on the stack at that moment. It gives up when there is no room left. A key that
has an answer has it from some room on, and the answer does not depend on the room
(`exists_bound_of_halts`).
-/

set_option autoImplicit false

namespace AitpPlayground.Lib

/-- A script that ends with an answer, or takes so much of the stack for a moment, or asks for the
answer for a key, from so far up the stack, and goes on. -/
inductive Ask (κ β : Type) where
  | answer (value : β)
  | spend (cost : Nat) (rest : Ask κ β)
  | ask (cost : Nat) (key : κ) (rest : β → Ask κ β)

namespace Ask

variable {κ β : Type}

/-- The run of a script, and how many requests there were in all. -/
def run (load : κ → Option (Nat × β)) : Ask κ β → Option (Nat × β)
  | .answer value => some (0, value)
  | .spend _ rest => run load rest
  | .ask _ key rest =>
    match load key with
    | none => none
    | some (n, value) => (run load (rest value)).map fun (m, last) => (n + 1 + m, last)

/-- The run of a script with so much room on the stack. -/
def runWithin (room : Nat) (load : Nat → κ → Option (Nat × β)) : Ask κ β → Option (Nat × β)
  | .answer value => some (0, value)
  | .spend cost rest => if cost ≤ room then runWithin room load rest else none
  | .ask cost key rest =>
    if cost < room then
      match load (room - cost - 1) key with
      | none => none
      | some (n, value) => (runWithin room load (rest value)).map fun (m, last) =>
          (n + 1 + m, last)
    else none

section
variable (next : κ → Ask κ β)

/-- The answer for a key, when the scripts are nested no deeper than this. -/
def eval : Nat → κ → Option (Nat × β)
  | 0, _ => none
  | depth + 1, key => run (eval depth) (next key)

/-- The answer for a key on a machine with so much room on its stack. A script asks for answers
with less room than it has. -/
def evalWithin (room : Nat) (key : κ) : Option (Nat × β) :=
  runWithin room (fun less other => if less < room then evalWithin less other else none)
    (next key)
termination_by room

/-- A script asks for a key. -/
inductive AsksIn : Ask κ β → κ → Prop
  | here {cost : Nat} {key : κ} {rest : β → Ask κ β} : AsksIn (.ask cost key rest) key
  | spent {cost : Nat} {other : κ} {rest : Ask κ β} (hrest : AsksIn rest other) :
      AsksIn (.spend cost rest) other
  | later {cost : Nat} {key other : κ} {rest : β → Ask κ β} {depth n : Nat} {value : β}
      (heval : eval next depth key = some (n, value)) (hrest : AsksIn (rest value) other) :
      AsksIn (.ask cost key rest) other

/-- The script of a key asks for another key. -/
def Asks (key other : κ) : Prop := AsksIn next (next key) other

/-- The key has an answer at some depth. -/
def Halts (key : κ) : Prop := ∃ depth, (eval next depth key).isSome

/-- No key that is asked for below this one asks for itself, directly or through others. -/
def Acyclic (key : κ) : Prop :=
  ∀ other, Relation.ReflTransGen (Asks next) key other → ¬ Relation.TransGen (Asks next) other other

end

/-! ### Depth -/

/-- A loader that loads more runs a script no differently. -/
theorem run_mono {load load' : κ → Option (Nat × β)}
    (h : ∀ key r, load key = some r → load' key = some r) {script : Ask κ β} {r : Nat × β}
    (hrun : run load script = some r) : run load' script = some r := by
  induction script generalizing r with
  | answer value => exact hrun
  | spend cost rest ih => exact ih hrun
  | ask cost key rest ih =>
    unfold run at hrun ⊢
    cases hload : load key with
    | none =>
      rw [hload] at hrun
      cases hrun
    | some answer =>
      rw [hload] at hrun
      rw [h key answer hload]
      obtain ⟨last, hlast, rfl⟩ := Option.map_eq_some_iff.mp hrun
      exact Option.map_eq_some_iff.mpr ⟨last, ih _ hlast, rfl⟩

variable {next : κ → Ask κ β}

/-- More depth changes no answer. -/
theorem eval_mono {depth depth' : Nat} (hle : depth ≤ depth') {key : κ} {r : Nat × β}
    (h : eval next depth key = some r) : eval next depth' key = some r := by
  induction depth generalizing depth' key r with
  | zero => cases h
  | succ depth ih =>
    cases depth' with
    | zero => omega
    | succ depth' => exact run_mono (fun key r => ih (Nat.le_of_succ_le_succ hle)) h

/-- A key has one answer, at whatever depth it is found. -/
theorem eval_unique {depth depth' : Nat} {key : κ} {r r' : Nat × β}
    (h : eval next depth key = some r) (h' : eval next depth' key = some r') : r = r' := by
  have hmax := eval_mono (Nat.le_max_left depth depth') h
  have hmax' := eval_mono (Nat.le_max_right depth depth') h'
  exact Option.some.inj (hmax.symm.trans hmax')

/-! ### Requests -/

/-- Whatever a script asks for on a run that ends has an answer there. -/
theorem isSome_of_asksIn {depth : Nat} {script : Ask κ β} {r : Nat × β}
    (hrun : run (eval next depth) script = some r) {key : κ} (hasks : AsksIn next script key) :
    (eval next depth key).isSome := by
  induction hasks generalizing r with
  | spent _ ih => exact ih hrun
  | @here cost key rest =>
    unfold run at hrun
    cases hload : eval next depth key with
    | none =>
      rw [hload] at hrun
      cases hrun
    | some answer => rfl
  | @later cost key other rest depth' n value heval hrest ih =>
    unfold run at hrun
    cases hload : eval next depth key with
    | none =>
      rw [hload] at hrun
      cases hrun
    | some answer =>
      rw [hload] at hrun
      -- The script goes on with the only answer that there is.
      cases eval_unique hload heval
      obtain ⟨last, hlast, -⟩ := Option.map_eq_some_iff.mp hrun
      exact ih hlast

/-- A script ends when everything that it asks for has an answer. -/
theorem run_of_halts {script : Ask κ β} (h : ∀ key, AsksIn next script key → Halts next key) :
    ∃ depth r, run (eval next depth) script = some r := by
  induction script with
  | answer value => exact ⟨0, _, rfl⟩
  | spend cost rest ih => exact ih fun other hother => h other (.spent hother)
  | ask cost key rest ih =>
    obtain ⟨depth, hdepth⟩ := h key .here
    obtain ⟨⟨n, value⟩, heval⟩ := Option.isSome_iff_exists.mp hdepth
    obtain ⟨depth', last, hlast⟩ := ih value fun other hother => h other (.later heval hother)
    -- The deeper of the two is enough for both.
    refine ⟨max depth depth', (n + 1 + last.1, last.2), ?_⟩
    unfold run
    rw [eval_mono (Nat.le_max_left depth depth') heval]
    refine Option.map_eq_some_iff.mpr ⟨last, ?_, rfl⟩
    exact run_mono (fun key r => eval_mono (Nat.le_max_right depth depth')) hlast

/-- A key has an answer just when the requests below it are well founded. -/
theorem halts_iff_acc {key : κ} : Halts next key ↔ Acc (fun a b => Asks next b a) key := by
  constructor
  · rintro ⟨depth, hdepth⟩
    induction depth generalizing key with
    | zero => cases hdepth
    | succ depth ih =>
      obtain ⟨r, hr⟩ := Option.isSome_iff_exists.mp hdepth
      exact Acc.intro key fun other hasks => ih (isSome_of_asksIn hr hasks)
  · intro hacc
    induction hacc with
    | intro key _ ih =>
      obtain ⟨depth, r, hr⟩ := run_of_halts ih
      exact ⟨depth + 1, Option.isSome_of_eq_some hr⟩

/-! ### Cycles -/

/-- Where only finitely many have successors, what lies on no cycle and before none is
accessible. -/
theorem acc_of_acyclic {α : Type} {R : α → α → Prop} (sources : Finset α)
    (hsources : ∀ a b, R a b → a ∈ sources) {a : α}
    (h : ∀ b, Relation.ReflTransGen R a b → ¬ Relation.TransGen R b b) :
    Acc (fun x y => R y x) a := by
  classical
  -- By induction on how many sources can be reached.
  induction hn : (sources.filter (Relation.ReflTransGen R a)).card using Nat.strong_induction_on
    generalizing a with
  | _ n ih =>
    subst hn
    refine Acc.intro a fun b hab => ih _ (Finset.card_lt_card ?_) (fun c hbc => ?_) rfl
    · refine (Finset.ssubset_iff_of_subset fun c hc => ?_).mpr ⟨a, ?_, fun ha => ?_⟩
      · obtain ⟨hc, hbc⟩ := Finset.mem_filter.mp hc
        exact Finset.mem_filter.mpr ⟨hc, hbc.head hab⟩
      · exact Finset.mem_filter.mpr ⟨hsources a b hab, .refl⟩
      · exact h a .refl (.head' hab (Finset.mem_filter.mp ha).2)
    · exact h c (hbc.head hab)

/-- What is accessible is not below itself. -/
theorem not_self_of_acc {α : Type} {R : α → α → Prop} {a : α} (hacc : Acc R a) : ¬ R a a := by
  induction hacc with
  | intro a _ ih => exact fun h => ih a h h

/-- Nothing asks for itself, in any number of steps, below an accessible key. -/
theorem acyclic_of_acc {key : κ} (hacc : Acc (fun a b => Asks next b a) key) :
    Acyclic next key := by
  intro other hreach hcycle
  have hother : Acc (fun a b => Asks next b a) other := by
    clear hcycle
    induction hreach with
    | refl => exact hacc
    | tail _ hasks ih => exact ih.inv hasks
  exact not_self_of_acc hother.transGen (Relation.transGen_swap.mpr hcycle)

/-- Over finitely many keys that ask for anything, a key has an answer just when there is no
cycle below it. -/
theorem halts_iff_acyclic (sources : Finset κ) (hsources : ∀ a b, Asks next a b → a ∈ sources)
    {key : κ} : Halts next key ↔ Acyclic next key := by
  rw [halts_iff_acc]
  exact ⟨acyclic_of_acc, acc_of_acyclic sources hsources⟩

/-! ### Room -/

/-- More room runs a script no differently. -/
theorem runWithin_mono {room room' : Nat} {load load' : Nat → κ → Option (Nat × β)}
    (hroom : room ≤ room')
    (h : ∀ less less' key r, less < room → less ≤ less' → less' < room' → load less key = some r →
      load' less' key = some r) {script : Ask κ β} {r : Nat × β}
    (hrun : runWithin room load script = some r) : runWithin room' load' script = some r := by
  induction script generalizing r with
  | answer value => exact hrun
  | spend cost rest ih =>
    unfold runWithin at hrun ⊢
    split at hrun
    case isFalse => cases hrun
    case isTrue hcost =>
      rw [if_pos (hcost.trans hroom)]
      exact ih hrun
  | ask cost key rest ih =>
    unfold runWithin at hrun ⊢
    split at hrun
    case isFalse => cases hrun
    case isTrue hcost =>
      rw [if_pos (hcost.trans_le hroom)]
      cases hload : load (room - cost - 1) key with
      | none =>
        rw [hload] at hrun
        cases hrun
      | some answer =>
        rw [hload] at hrun
        rw [h _ (room' - cost - 1) key answer (by omega) (by omega) (by omega) hload]
        obtain ⟨last, hlast, rfl⟩ := Option.map_eq_some_iff.mp hrun
        exact Option.map_eq_some_iff.mpr ⟨last, ih _ hlast, rfl⟩

/-- More room changes no answer. -/
theorem evalWithin_mono {room room' : Nat} (hle : room ≤ room') {key : κ} {r : Nat × β}
    (h : evalWithin next room key = some r) : evalWithin next room' key = some r := by
  induction room using Nat.strong_induction_on generalizing room' key r with
  | h room ih =>
    rw [evalWithin] at h ⊢
    refine runWithin_mono hle (fun less less' other r hless hle' hless' hload => ?_) h
    rw [if_pos hless] at hload
    rw [if_pos hless']
    exact ih less hless hle' hload

/-- What a script gives with some room, it gives at some depth. -/
theorem run_of_runWithin {room : Nat} {load : Nat → κ → Option (Nat × β)}
    {load' : κ → Option (Nat × β)}
    (h : ∀ less key r, less < room → load less key = some r → load' key = some r)
    {script : Ask κ β} {r : Nat × β} (hrun : runWithin room load script = some r) :
    run load' script = some r := by
  induction script generalizing r with
  | answer value => exact hrun
  | spend cost rest ih =>
    unfold runWithin at hrun
    split at hrun
    case isFalse => cases hrun
    case isTrue => exact ih hrun
  | ask cost key rest ih =>
    unfold runWithin at hrun
    split at hrun
    case isFalse => cases hrun
    case isTrue hcost =>
      unfold run
      cases hload : load (room - cost - 1) key with
      | none =>
        rw [hload] at hrun
        cases hrun
      | some answer =>
        rw [hload] at hrun
        rw [h _ key answer (by omega) hload]
        obtain ⟨last, hlast, rfl⟩ := Option.map_eq_some_iff.mp hrun
        exact Option.map_eq_some_iff.mpr ⟨last, ih _ hlast, rfl⟩

/-- An answer that is found with some room is the answer of the key. -/
theorem eval_of_evalWithin {room : Nat} {key : κ} {r : Nat × β}
    (h : evalWithin next room key = some r) : eval next (room + 1) key = some r := by
  induction room using Nat.strong_induction_on generalizing key r with
  | h room ih =>
    rw [evalWithin] at h
    refine run_of_runWithin (fun less other r hless hload => ?_) h
    rw [if_pos hless] at hload
    exact eval_mono hless (ih less hless hload)

/-- What a script gives at some depth, it gives with some room, when the answers it gets come with
some room. -/
theorem exists_room_of_run {load : κ → Option (Nat × β)}
    (h : ∀ key r, load key = some r → ∃ room, evalWithin next room key = some r)
    {script : Ask κ β} {r : Nat × β} (hrun : run load script = some r) :
    ∃ room, ∀ room', room ≤ room' → runWithin room' (evalWithin next) script = some r := by
  induction script generalizing r with
  | answer value => exact ⟨0, fun room' _ => hrun⟩
  | spend cost rest ih =>
    obtain ⟨room, hroom⟩ := ih hrun
    refine ⟨max cost room, fun room' hle => ?_⟩
    unfold runWithin
    rw [if_pos (le_of_max_le_left hle)]
    exact hroom room' (le_of_max_le_right hle)
  | ask cost key rest ih =>
    unfold run at hrun
    cases hload : load key with
    | none =>
      rw [hload] at hrun
      cases hrun
    | some answer =>
      rw [hload] at hrun
      obtain ⟨last, hlast, rfl⟩ := Option.map_eq_some_iff.mp hrun
      obtain ⟨first, hfirst⟩ := h key answer hload
      obtain ⟨second, hsecond⟩ := ih _ hlast
      -- Room for the answer on top of the script, and for the rest of it.
      refine ⟨max (first + cost + 1) second, fun room' hle => ?_⟩
      have hroom := le_of_max_le_left hle
      unfold runWithin
      rw [if_pos (by omega), evalWithin_mono (by omega) hfirst]
      exact Option.map_eq_some_iff.mpr ⟨last, hsecond room' (le_of_max_le_right hle), rfl⟩

/-- An answer is found with enough room. -/
theorem exists_room_of_eval {depth : Nat} {key : κ} {r : Nat × β}
    (h : eval next depth key = some r) : ∃ room, evalWithin next room key = some r := by
  induction depth generalizing key r with
  | zero => cases h
  | succ depth ih =>
    obtain ⟨room, hroom⟩ := exists_room_of_run (fun other r => ih) h
    refine ⟨room, ?_⟩
    rw [evalWithin]
    refine runWithin_mono (Nat.le_refl room) (fun less less' other r _ hle hless' hload => ?_)
      (hroom room (Nat.le_refl room))
    rw [if_pos hless']
    exact evalWithin_mono hle hload

/-- A key that has an answer has it just when there is so much room. -/
theorem exists_bound_of_halts {key : κ} (h : Halts next key) :
    ∃ bound r, (∃ depth, eval next depth key = some r) ∧
      ∀ room, evalWithin next room key = if room < bound then none else some r := by
  classical
  obtain ⟨depth, hdepth⟩ := h
  obtain ⟨r, hr⟩ := Option.isSome_iff_exists.mp hdepth
  have hroom := exists_room_of_eval hr
  refine ⟨Nat.find hroom, r, ⟨depth, hr⟩, fun room => ?_⟩
  split
  case isTrue hless =>
    cases hwithin : evalWithin next room key with
    | none => rfl
    | some r' =>
      rw [eval_unique (eval_of_evalWithin hwithin) hr] at hwithin
      exact absurd hwithin (Nat.find_min hroom hless)
  case isFalse henough => exact evalWithin_mono (not_lt.mp henough) (Nat.find_spec hroom)

end Ask

end AitpPlayground.Lib
