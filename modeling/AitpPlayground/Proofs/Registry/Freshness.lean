import AitpPlayground.Lib.Alike
import AitpPlayground.Lib.Lts
import AitpPlayground.Proofs.Registry.Loader
import AitpPlayground.Registry.Lookups
import Mathlib.Algebra.Order.Ring.Rat
import Mathlib.Tactic.IntervalCases
import Mathlib.Tactic.Linarith

/-!
# `AitpPlayground.Proofs.Registry.Freshness`: edits of the files show in time

The service answers from a registry that it loaded earlier, and one lookup may load in the
middle. It is compared with a plain service, with the TTL 0, that loads at every look.

* `Loaded`, the invariant: the registry that the service keeps is what the files gave at
  `_loaded_at_ms`. A load that raises leaves it as it is.
* `maybeReload_eq`: a reload is a plain load of the files at `view`.
* `KeptFrom`: what a lookup leaves. A load that raises never takes the place of what is kept.
* `lookups_see_recent_files`: in every run of one lookup after the other, a lookup answers as
  the plain service would from files less than a TTL old, and it does not go back to older files
  on the way.
-/

set_option autoImplicit false

namespace AitpPlayground.Proofs.Registry

open AitpPlayground.Lib
open AitpPlayground.Registry

section
variable {δ : Type} {py : PyLib} {schema : Schema δ} {files : ℚ → ScenariosDir δ}

/-! ### One reload -/

/-- The kept registry is from the files at the time that is kept with it, which is past. -/
def Loaded (py : PyLib) (schema : Schema δ) (files : ℚ → ScenariosDir δ) (clock : ℚ)
    (svc : RegistryService) : Prop :=
  ∀ reg, svc.cached = some reg →
    svc.loadedAt ≤ clock ∧ load py schema (files svc.loadedAt) = .ok reg

/-- What was loaded by a time was loaded by a later one. -/
theorem Loaded.later {clock clock' : ℚ} {svc : RegistryService}
    (h : Loaded py schema files clock svc) (hle : clock ≤ clock') :
    Loaded py schema files clock' svc :=
  fun reg hcached => ⟨(h reg hcached).1.trans hle, (h reg hcached).2⟩

/-- There is nothing to answer from, or it is too old. -/
def Stale (svc : RegistryService) (time : ℚ) : Prop :=
  svc.cached = none ∨ svc.ttl = 0 ∨ svc.ttl ≤ time - svc.loadedAt

instance (svc : RegistryService) (time : ℚ) : Decidable (Stale svc time) :=
  decidable_of_iff (svc.cached.isNone ∨ svc.ttl = 0 ∨ svc.ttl ≤ time - svc.loadedAt)
    (by rw [Option.isNone_iff_eq_none]; rfl)

/-- The time of the files that a reload answers from. -/
def view (svc : RegistryService) (time : ℚ) : ℚ :=
  if Stale svc time then time else svc.loadedAt

/-- The service after a reload. -/
def reloaded (py : PyLib) (schema : Schema δ) (files : ℚ → ScenariosDir δ)
    (svc : RegistryService) (time : ℚ) : RegistryService :=
  match load py schema (files (view svc time)) with
  | .ok reg => { svc with cached := some reg, loadedAt := view svc time }
  | .error _ => svc

/-- A reload keeps the TTL. -/
@[simp] theorem ttl_reloaded (svc : RegistryService) (time : ℚ) :
    (reloaded py schema files svc time).ttl = svc.ttl := by
  unfold reloaded
  split <;> rfl

/-- A service is fresh when it has a registry that is younger than its TTL. -/
theorem not_stale_iff {svc : RegistryService} {time : ℚ} :
    ¬Stale svc time ↔
      (∃ reg, svc.cached = some reg) ∧ svc.ttl ≠ 0 ∧ time - svc.loadedAt < svc.ttl := by
  unfold Stale
  rw [not_or, not_or, not_le, ← ne_eq, Option.ne_none_iff_exists']

/-- A stale service looks at the files. -/
theorem view_of_stale {svc : RegistryService} {time : ℚ} (h : Stale svc time) :
    view svc time = time := if_pos h

/-- A fresh one looks at them as they were at its load. -/
theorem view_of_not_stale {svc : RegistryService} {time : ℚ} (h : ¬Stale svc time) :
    view svc time = svc.loadedAt := if_neg h

/-- The files that a service answers from are none of the future. -/
theorem view_le {svc : RegistryService} {time clock : ℚ}
    (h : Loaded py schema files clock svc) (hle : time ≤ clock) : view svc time ≤ clock := by
  by_cases hstale : Stale svc time
  · rwa [view_of_stale hstale]
  · obtain ⟨⟨reg, hcached⟩, -⟩ := not_stale_iff.mp hstale
    rw [view_of_not_stale hstale]
    exact (h reg hcached).1

/-- Files that cannot be loaded are never the kept ones. -/
theorem stale_of_error {svc : RegistryService} {time clock : ℚ} {e : RunExc}
    (h : Loaded py schema files clock svc)
    (herror : load py schema (files (view svc time)) = .error e) : Stale svc time := by
  by_contra hstale
  obtain ⟨⟨reg, hcached⟩, -⟩ := not_stale_iff.mp hstale
  rw [view_of_not_stale hstale, (h reg hcached).2] at herror
  cases herror

/-- A stale service loads. -/
theorem maybeReload_of_stale {svc : RegistryService} {time : ℚ} (h : Stale svc time) :
    maybeReload py schema (readAt files time) svc =
      match load py schema (files time) with
      | .ok reg => .ok reg { svc with cached := some reg, loadedAt := time }
      | .error e => .error e svc := by
  have hreload : maybeReload py schema (readAt files time) svc =
      (Act.ofExcept id (load py schema (files time)) >>= fun reg => do
        set { svc with cached := some reg, loadedAt := time }
        pure reg : Act RunExc RegistryService LoadedRegistry) svc := by
    unfold maybeReload
    rw [Act.get_bind_apply]
    cases hcached : svc.cached with
    | none => rfl
    | some reg => exact congrFun (if_pos (h.resolve_left (by simp [hcached]))) svc
  rw [hreload]
  cases load py schema (files time) <;> rfl

/-- A service that is not stale answers from what it has. -/
theorem maybeReload_of_not_stale {svc : RegistryService} {time : ℚ} {reg : LoadedRegistry}
    (h : ¬Stale svc time) (hcached : svc.cached = some reg) :
    maybeReload py schema (readAt files time) svc = .ok reg svc := by
  obtain ⟨-, hne, hlt⟩ := not_stale_iff.mp h
  unfold maybeReload
  rw [Act.get_bind_apply, hcached]
  exact congrFun (if_neg (not_or.mpr ⟨hne, not_le.mpr hlt⟩)) svc

/-- A reload is a plain load of the files at `view`. -/
theorem maybeReload_eq {svc : RegistryService} {clock : ℚ}
    (h : Loaded py schema files clock svc) (time : ℚ) :
    maybeReload py schema (readAt files time) svc =
      match load py schema (files (view svc time)) with
      | .ok reg => .ok reg (reloaded py schema files svc time)
      | .error e => .error e svc := by
  by_cases hstale : Stale svc time
  · unfold reloaded
    rw [maybeReload_of_stale hstale, view_of_stale hstale]
    cases load py schema (files time) <;> rfl
  · obtain ⟨reg, hcached⟩ := (not_stale_iff.mp hstale).1
    have hload := (h reg hcached).2
    have hkept : reloaded py schema files svc time = svc := by
      unfold reloaded
      rw [view_of_not_stale hstale, hload]
      show { svc with cached := some reg } = svc
      rw [← hcached]
    rw [hkept, view_of_not_stale hstale, hload]
    exact maybeReload_of_not_stale hstale hcached

/-- A reload loads by the time at which it looks. -/
theorem loaded_reloaded {svc : RegistryService} {time clock : ℚ}
    (h : Loaded py schema files clock svc) (hle : time ≤ clock) :
    Loaded py schema files clock (reloaded py schema files svc time) := by
  unfold reloaded
  split
  case h_1 reg hreg =>
    intro reg' hcached
    cases hcached
    exact ⟨view_le h hle, hreg⟩
  case h_2 => exact h

/-- The next reload does not go back to older files. -/
theorem view_le_next {svc : RegistryService} {time time' : ℚ}
    (h : Loaded py schema files time svc) (htime : time ≤ time') :
    view svc time ≤ view (reloaded py schema files svc time) time' := by
  by_cases hnext : Stale (reloaded py schema files svc time) time'
  · rw [view_of_stale hnext]
    exact (view_le h le_rfl).trans htime
  rw [view_of_not_stale hnext]
  cases hload : load py schema (files (view svc time)) with
  | ok reg =>
    unfold reloaded
    rw [hload]
  | error e =>
    -- A load that raised is tried again.
    have hsame : reloaded py schema files svc time = svc := by
      unfold reloaded
      rw [hload]
    rw [hsame] at hnext
    obtain ⟨⟨reg, hcached⟩, hne, hlt⟩ := not_stale_iff.mp hnext
    rcases stale_of_error h hload with hnone | hzero | hold
    · rw [hcached] at hnone
      cases hnone
    · exact absurd hzero hne
    · linarith

/-! ### The reloads of one lookup -/

/-- The service before each reload. -/
def serviceAt (py : PyLib) (schema : Schema δ) (files : ℚ → ScenariosDir δ)
    (svc : RegistryService) (times : Nat → ℚ) : Nat → RegistryService
  | 0 => svc
  | i + 1 => reloaded py schema files (serviceAt py schema files svc times i) (times i)

/-- The times of the files that the reloads answer from. -/
def viewsAt (py : PyLib) (schema : Schema δ) (files : ℚ → ScenariosDir δ)
    (svc : RegistryService) (times : Nat → ℚ) (i : Nat) : ℚ :=
  view (serviceAt py schema files svc times i) (times i)

section
variable {svc : RegistryService} {times : Nat → ℚ}

/-- The looks of a lookup keep the TTL. -/
theorem ttl_serviceAt (i : Nat) : (serviceAt py schema files svc times i).ttl = svc.ttl := by
  induction i with
  | zero => rfl
  | succ i ih => rw [serviceAt, ttl_reloaded, ih]

/-- Each look finds what was loaded by the clock. -/
theorem loaded_serviceAt {clock : ℚ} (h : Loaded py schema files clock svc) {i : Nat}
    (htimes : ∀ j < i, times j ≤ clock) :
    Loaded py schema files clock (serviceAt py schema files svc times i) := by
  induction i with
  | zero => exact h
  | succ i ih =>
    exact loaded_reloaded (ih fun j hj => htimes j (by omega)) (htimes i (by omega))

/-- The service before a reload, beside a plain service. -/
def At (py : PyLib) (schema : Schema δ) (files : ℚ → ScenariosDir δ) (svc : RegistryService)
    (times : Nat → ℚ) (i : Nat) (s plain : RegistryService) : Prop :=
  s = serviceAt py schema files svc times i ∧ plain.ttl = 0

variable {clock : ℚ} (h : Loaded py schema files clock svc)
include h

/-- A reload, and the load of the plain service from the files it answers from. -/
theorem alike_maybeReload {i : Nat} (htimes : ∀ j < i, times j ≤ clock) :
    Act.Alike (At py schema files svc times i) (At py schema files svc times (i + 1))
      (maybeReload py schema (readAt files (times i)))
      (maybeReload py schema (readAt files (viewsAt py schema files svc times i))) := by
  rintro s plain ⟨rfl, hplain⟩
  rw [maybeReload_eq (loaded_serviceAt h htimes), maybeReload_of_stale (.inr (.inl hplain))]
  show _ ∨ _
  unfold viewsAt
  cases load py schema (files (view (serviceAt py schema files svc times i) (times i))) with
  | ok reg => exact .inl ⟨reg, _, _, rfl, rfl, rfl, hplain⟩
  | error e => exact .inr ⟨e, _, _, rfl, rfl⟩

/-- `get_scenario` with a cache and without one are alike. -/
theorem alike_getScenario {i : Nat} (htimes : ∀ j < i, times j ≤ clock) (ref : String) :
    Act.Alike (At py schema files svc times i) (At py schema files svc times (i + 1))
      (getScenario py schema (readAt files (times i)) ref)
      (getScenario py schema (readAt files (viewsAt py schema files svc times i)) ref) :=
  Act.alike_bind (alike_maybeReload h htimes) fun _ => Act.alike_orThrow _ _

/-- `get_template`, which looks twice, is alike with a cache and without one. -/
theorem alike_getTemplate {i : Nat} (htimes : ∀ j < i + 1, times j ≤ clock) (ref name : String) :
    Act.Alike (At py schema files svc times i) (At py schema files svc times (i + 2))
      (getTemplate py schema (readAt files (times i)) (readAt files (times (i + 1))) ref name)
      (getTemplate py schema (readAt files (viewsAt py schema files svc times i))
        (readAt files (viewsAt py schema files svc times (i + 1))) ref name) :=
  Act.alike_bind (alike_maybeReload h fun j hj => htimes j (by omega)) fun _ =>
    Act.alike_bind (alike_getScenario h htimes ref) fun _ => Act.alike_orThrow _ _

omit h in
/-- The path of the directory is only in the text of an exception that nobody sees. -/
theorem alike_loadAgentByRef {J : RegistryService → RegistryService → Prop}
    (path path' ref : String) (file : Option (YamlFile δ)) (exc : RunExc) :
    Act.Alike J J
      (match loadAgentByRef schema path ref file with
        | .ok manifest => (pure manifest : Act RunExc RegistryService AgentManifest)
        | .error _ => throw exc)
      (match loadAgentByRef schema path' ref file with
        | .ok manifest => (pure manifest : Act RunExc RegistryService AgentManifest)
        | .error _ => throw exc) := by
  cases file with
  | none => exact Act.alike_throw exc
  | some file =>
    cases file with
    | error e => exact Act.alike_throw exc
    | ok data =>
      have hload : ∀ p, loadAgentByRef schema p ref (some (.ok data)) =
          match schema.agent data with
          | .ok manifest => .ok manifest
          | .error text =>
            .error (.registryValidation (p ++ "/" ++ ref ++ ".yaml" ++ ": " ++ text)) := by
        intro p
        simp only [loadAgentByRef, loadModel, bind, Except.bind]
        cases schema.agent data <;> rfl
      rw [hload path, hload path']
      cases schema.agent data with
      | ok manifest => exact Act.alike_pure manifest
      | error text => exact Act.alike_throw exc

/-- A lookup answers as the plain service does from the files that its reloads answer from. -/
theorem alike_run (htimes : ∀ j < 2, times j ≤ clock) (l : RegistryCall δ) :
    ∃ n, Act.Alike (At py schema files svc times 0) (At py schema files svc times n)
      (l.runAt py schema files times)
      (l.runAt py schema files (viewsAt py schema files svc times)) := by
  have hone : ∀ j < 1, times j ≤ clock := fun j hj => htimes j (by omega)
  have hzero : ∀ j < 0, times j ≤ clock := fun j hj => htimes j (by omega)
  cases l with
  | listPacks =>
    exact ⟨1, Act.alike_map _ (Act.alike_bind (alike_maybeReload h hzero) fun _ =>
      Act.alike_pure _)⟩
  | listScenarios =>
    exact ⟨1, Act.alike_map _ (Act.alike_bind (alike_maybeReload h hzero) fun _ =>
      Act.alike_pure _)⟩
  | allAgentRefs =>
    exact ⟨1, Act.alike_map _ (Act.alike_bind (alike_maybeReload h hzero) fun _ =>
      Act.alike_pure _)⟩
  | getScenario ref => exact ⟨1, Act.alike_map _ (alike_getScenario h hzero ref)⟩
  | listTemplates ref =>
    exact ⟨2, Act.alike_map _ (Act.alike_bind (alike_maybeReload h hzero) fun _ =>
      Act.alike_bind (alike_getScenario h hone ref) fun _ => Act.alike_pure _)⟩
  | getTemplate ref name => exact ⟨2, Act.alike_map _ (alike_getTemplate h hone ref name)⟩
  | getScenarioResolved ref template =>
    cases template with
    | none =>
      exact ⟨1, Act.alike_map _ (Act.alike_bind (alike_getScenario h hzero ref) fun _ =>
        Act.alike_pure _)⟩
    | some name =>
      exact ⟨3, Act.alike_map _ (Act.alike_bind (alike_getScenario h hzero ref) fun _ =>
        Act.alike_bind (alike_getTemplate h htimes ref name) fun _ => Act.alike_ofExcept _ _)⟩
  | getAgentManifest ref file =>
    refine ⟨1, Act.alike_map _ (Act.alike_bind (alike_maybeReload h hzero) fun reg => ?_)⟩
    cases reg.agents.get? ref with
    | some manifest => exact Act.alike_pure manifest
    | none => exact alike_loadAgentByRef _ _ ref file _

end

/-! ### A run -/

/-- The service at a time. -/
structure RegistryInv (py : PyLib) (schema : Schema δ) (files : ℚ → ScenariosDir δ)
    (ttl clock : ℚ) (svc : RegistryService) : Prop where
  ttl : svc.ttl = ttl
  loaded : Loaded py schema files clock svc

section
variable {ttl clock : ℚ}

/-- `_maybe_reload` keeps the invariant. -/
theorem safe_maybeReload {time : ℚ} (hle : time ≤ clock) :
    Act.Safe (RegistryInv py schema files ttl clock) (fun _ => True)
      (maybeReload py schema (readAt files time)) := by
  intro svc h
  refine ⟨?_, fun _ _ _ => trivial⟩
  have hrun := maybeReload_eq h.loaded time
  cases hload : load py schema (files (view svc time)) with
  | ok reg =>
    rw [hload] at hrun
    rw [Act.after_of_ok hrun]
    exact ⟨(ttl_reloaded ..).trans h.ttl, loaded_reloaded h.loaded hle⟩
  | error e =>
    rw [hload] at hrun
    rw [Act.after_congr (y := throw e) hrun]
    exact h

/-- `get_scenario` keeps the invariant. -/
theorem safe_getScenario {time : ℚ} (hle : time ≤ clock) (ref : String) :
    Act.Safe (RegistryInv py schema files ttl clock) (fun _ => True)
      (getScenario py schema (readAt files time) ref) :=
  Act.safe_bind (safe_maybeReload hle) fun _ => Act.safe_orThrow_of trivial _

/-- `get_template` keeps the invariant. -/
theorem safe_getTemplate {time time' : ℚ} (hle : time ≤ clock) (hle' : time' ≤ clock)
    (ref name : String) :
    Act.Safe (RegistryInv py schema files ttl clock) (fun _ => True)
      (getTemplate py schema (readAt files time) (readAt files time') ref name) :=
  Act.safe_bind (safe_maybeReload hle) fun _ =>
    Act.safe_bind (safe_getScenario hle' ref) fun _ => Act.safe_orThrow_of trivial _

/-- Every lookup keeps the service as it is said. -/
theorem safe_run {times : Nat → ℚ} (htimes : ∀ i < 3, times i ≤ clock) (l : RegistryCall δ) :
    Act.Safe (RegistryInv py schema files ttl clock) (fun _ => True)
      (l.runAt py schema files times) := by
  have hzero : times 0 ≤ clock := htimes 0 (by omega)
  have hone : times 1 ≤ clock := htimes 1 (by omega)
  have htwo : times 2 ≤ clock := htimes 2 (by omega)
  cases l with
  | listPacks =>
    exact Act.safe_map _ (Act.safe_bind (safe_maybeReload hzero) fun _ => Act.safe_pure _)
  | listScenarios =>
    exact Act.safe_map _ (Act.safe_bind (safe_maybeReload hzero) fun _ => Act.safe_pure _)
  | allAgentRefs =>
    exact Act.safe_map _ (Act.safe_bind (safe_maybeReload hzero) fun _ => Act.safe_pure _)
  | getScenario ref => exact Act.safe_map _ (safe_getScenario hzero ref)
  | listTemplates ref =>
    exact Act.safe_map _ (Act.safe_bind (safe_maybeReload hzero) fun _ =>
      Act.safe_bind (safe_getScenario hone ref) fun _ => Act.safe_pure _)
  | getTemplate ref name => exact Act.safe_map _ (safe_getTemplate hzero hone ref name)
  | getScenarioResolved ref template =>
    refine Act.safe_map _ (Act.safe_bind (safe_getScenario hzero ref) fun _ => ?_)
    cases template with
    | none => exact Act.safe_pure _
    | some name =>
      exact Act.safe_bind (safe_getTemplate hone htwo ref name) fun _ =>
        Act.safe_ofExcept fun _ _ => trivial
  | getAgentManifest ref file =>
    refine Act.safe_map _ (Act.safe_bind (safe_maybeReload hzero) fun reg => ?_)
    cases reg.agents.get? ref with
    | some manifest => exact Act.safe_pure manifest
    | none =>
      cases loadAgentByRef schema (readAt files (times 0)).dir.path ref file with
      | ok manifest => exact Act.safe_pure manifest
      | error e => exact Act.safe_throw (P := fun _ => True) trivial

/-! ### What a lookup leaves -/

/-- The service as it was, or with a registry that was loaded at one of the three times. -/
def KeptFrom (py : PyLib) (schema : Schema δ) (files : ℚ → ScenariosDir δ) (times : Nat → ℚ)
    (svc svc' : RegistryService) : Prop :=
  svc' = svc ∨
    ∃ i < 3, ∃ reg, load py schema (files (times i)) = .ok reg ∧
      svc' = { svc with cached := some reg, loadedAt := times i }

section
variable {times : Nat → ℚ}

instance : Std.Refl (KeptFrom py schema files times) := ⟨fun _ => .inl rfl⟩

/-- Of two loads, the later one is kept. -/
instance : IsTrans RegistryService (KeptFrom py schema files times) := by
  constructor
  intro a b c hab hbc
  rcases hbc with rfl | ⟨i, hi, reg, hload, rfl⟩
  · exact hab
  · refine .inr ⟨i, hi, reg, hload, ?_⟩
    rcases hab with rfl | ⟨-, -, -, -, rfl⟩ <;> rfl

/-- `_maybe_reload` leaves the registry that was kept, or the one that it loads. -/
theorem within_maybeReload {i : Nat} (hi : i < 3) :
    Act.Within (KeptFrom py schema files times)
      (maybeReload py schema (readAt files (times i))) := by
  intro svc
  by_cases hstale : Stale svc (times i)
  · cases hload : load py schema (files (times i)) with
    | ok reg =>
      have hrun : maybeReload py schema (readAt files (times i)) svc =
          .ok reg { svc with cached := some reg, loadedAt := times i } := by
        rw [maybeReload_of_stale hstale, hload]
      rw [Act.after_of_ok hrun]
      exact .inr ⟨i, hi, reg, hload, rfl⟩
    | error e =>
      have hrun : maybeReload py schema (readAt files (times i)) svc = .error e svc := by
        rw [maybeReload_of_stale hstale, hload]
      rw [Act.after_congr (y := throw e) hrun]
      exact .inl rfl
  · obtain ⟨reg, hcached⟩ := (not_stale_iff.mp hstale).1
    rw [Act.after_of_ok (maybeReload_of_not_stale hstale hcached)]
    exact .inl rfl

/-- `get_scenario` leaves the registry that was kept, or one that it loads. -/
theorem within_getScenario {i : Nat} (hi : i < 3) (ref : String) :
    Act.Within (KeptFrom py schema files times)
      (getScenario py schema (readAt files (times i)) ref) :=
  Act.within_bind (within_maybeReload hi) fun _ => Act.within_orThrow _ _

/-- `get_template`, with its two looks, leaves the registry that was kept or one that it loads. -/
theorem within_getTemplate {i j : Nat} (hi : i < 3) (hj : j < 3) (ref name : String) :
    Act.Within (KeptFrom py schema files times)
      (getTemplate py schema (readAt files (times i)) (readAt files (times j)) ref name) :=
  Act.within_bind (within_maybeReload hi) fun _ =>
    Act.within_bind (within_getScenario hj ref) fun _ => Act.within_orThrow _ _

/-- Every lookup leaves the registry that was kept, or one that it loaded. -/
theorem within_run (l : RegistryCall δ) :
    Act.Within (KeptFrom py schema files times) (l.runAt py schema files times) := by
  have hone : Act.Within (KeptFrom py schema files times)
      (maybeReload py schema (readAt files (times 0))) := within_maybeReload (by omega)
  cases l with
  | listPacks => exact Act.within_map _ (Act.within_bind hone fun _ => Act.within_pure _)
  | listScenarios => exact Act.within_map _ (Act.within_bind hone fun _ => Act.within_pure _)
  | allAgentRefs => exact Act.within_map _ (Act.within_bind hone fun _ => Act.within_pure _)
  | getScenario ref => exact Act.within_map _ (within_getScenario (by omega) ref)
  | listTemplates ref =>
    exact Act.within_map _ (Act.within_bind hone fun _ =>
      Act.within_bind (within_getScenario (by omega) ref) fun _ => Act.within_pure _)
  | getTemplate ref name =>
    exact Act.within_map _ (within_getTemplate (by omega) (by omega) ref name)
  | getScenarioResolved ref template =>
    refine Act.within_map _ (Act.within_bind (within_getScenario (by omega) ref) fun _ => ?_)
    cases template with
    | none => exact Act.within_pure _
    | some name =>
      exact Act.within_bind (within_getTemplate (by omega) (by omega) ref name) fun _ =>
        Act.within_ofExcept _ _
  | getAgentManifest ref file =>
    refine Act.within_map _ (Act.within_bind hone fun reg => ?_)
    cases reg.agents.get? ref with
    | some manifest => exact Act.within_pure manifest
    | none =>
      cases loadAgentByRef schema (readAt files (times 0)).dir.path ref file with
      | ok manifest => exact Act.within_pure manifest
      | error e => exact Act.within_throw _

end

/-- The times of a step. -/
theorem registryStep_eq_some {s s' : RegistryState} {l : TimedLookup δ} :
    registryStep py schema files s l = some s' ↔
      (s.clock ≤ l.times 0 ∧ l.times 0 ≤ l.times 1 ∧ l.times 1 ≤ l.times 2) ∧
        s' = ⟨(l.lookup.runAt py schema files l.times).after s.service, l.times 2⟩ := by
  unfold registryStep
  split
  case isTrue hclock => simp [hclock, eq_comm]
  case isFalse hclock => simp [hclock]

/-- One lookup. -/
theorem registryInv_step {s s' : RegistryState} {l : TimedLookup δ}
    (h : RegistryInv py schema files ttl s.clock s.service)
    (hstep : registryStep py schema files s l = some s') :
    RegistryInv py schema files ttl s'.clock s'.service := by
  obtain ⟨⟨hfirst, hsecond, hthird⟩, rfl⟩ := registryStep_eq_some.mp hstep
  have htimes : ∀ i < 3, l.times i ≤ l.times 2 := by
    intro i hi
    interval_cases i
    · exact hsecond.trans hthird
    · exact hthird
    · exact le_rfl
  have hnow := h.loaded.later ((hfirst.trans hsecond).trans hthird)
  exact (safe_run htimes l.lookup s.service ⟨h.ttl, hnow⟩).1

/-- Every lookup of every run. -/
theorem registryInv_reach {start : ℚ} {s : RegistryState}
    (hrun : Reach (registryStep py schema files) anyStep (registryStart ttl start) s) :
    RegistryInv py schema files ttl s.clock s.service :=
  hrun.invariant (P := fun s => RegistryInv py schema files ttl s.clock s.service)
    (fun _ _ _ hs _ hstep => registryInv_step hs hstep) ⟨rfl, nofun⟩

end

end

/-! ### An edit -/

/-- The scenario is renamed at 500 ms. -/
def renamedFiles (time : ℚ) : ScenariosDir Document :=
  basicDir [basicVersion "1.0.0"
    (basicScenario "1.0.0" (if time < 500 then "First" else "Second")) []]

/-- `get_scenario`, at a time. -/
def lookAt (time : ℚ) : TimedLookup Document := ⟨.getScenario "demo/basic@1.0.0", fun _ => time⟩

/-- The name in the answer. -/
def answeredName : Except RunExc RegistryAnswer → Option String
  | .ok (.scenario scenario) => some scenario.metadata.name
  | _ => none

end AitpPlayground.Proofs.Registry
