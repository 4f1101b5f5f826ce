import AitpPlayground.Runner.Helpers
import AitpPlayground.Lib.Subst

/-!
# `AitpPlayground.Proofs.Runner.Templates`: the inputs in a template

`_resolve_step_input` replaces the placeholders of the inputs one after the other. A later
replacement also finds its placeholder in the value of an earlier input, or where such a value
completes it. So the text that an agent gets is not always the template with the values in
place, and depends on the order of the inputs. `template_substituted_iff` says when it is, after
every round of the loop.

"In place" means `substitute`, which is about occurrences in the template. It speaks of keys
whose placeholders cannot overlap. Keys without braces are such keys
(`separateKeys_of_plain`).
-/

set_option autoImplicit false

namespace AitpPlayground.Proofs.Runner

open AitpPlayground.Lib
open AitpPlayground.Registry
open AitpPlayground.Runner

/-! ### The substitution that is meant -/

/-- The placeholder of an input. -/
def placeholder (key : String) : String := "\x7b\x7b inputs." ++ key ++ " \x7d\x7d"

/-- The placeholders of the inputs, each with the text of the value. -/
def bindings (py : PyLib) (entries : List (String × Json)) : List (List Char × List Char) :=
  entries.map fun e => ((placeholder e.1).toList, (py.strOf e.2).toList)

/-- The template with the inputs in place, all at once. -/
def substituteInputs (py : PyLib) (template : String) (inputs : Dict String Json) : String :=
  String.ofList (substitute (bindings py inputs.entries) template.toList)

/-- The placeholders of these keys do not overlap in any text. -/
def SeparateKeys (keys : List String) : Prop :=
  ∀ k ∈ keys, ∀ l ∈ keys, Apart (placeholder k).toList (placeholder l).toList

/-- No round of the loop finds more than the template has: putting in the earlier inputs, all at
once, brings in no further occurrence of the placeholder of an input. An input whose text is its
own placeholder may find more, as it changes nothing. -/
def NothingBroughtIn (py : PyLib) (template : String) (inputs : Dict String Json) : Prop :=
  ∀ i (hi : i < inputs.entries.length),
    py.strOf inputs.entries[i].2 = placeholder inputs.entries[i].1 ∨
      occurrences (placeholder inputs.entries[i].1).toList
          (substituteInputs py template (inputs.take i)).toList =
        occurrences (placeholder inputs.entries[i].1).toList template.toList

instance (py : PyLib) (template : String) (inputs : Dict String Json) :
    Decidable (NothingBroughtIn py template inputs) :=
  inferInstanceAs (Decidable (∀ i (_ : i < inputs.entries.length), _))

/-! ### Keys without braces -/

/-- A placeholder begins with two braces and ends with two. -/
theorem toList_placeholder (key : String) :
    (placeholder key).toList = '\x7b' :: '\x7b' ::
      (" inputs.".toList ++ (key.toList ++ [' ']) ++ '\x7d' :: ['\x7d']) := by
  simp [placeholder]

/-- Different keys have different placeholders. -/
theorem placeholder_inj {k l : String} (h : (placeholder k).toList = (placeholder l).toList) :
    k = l := by
  rw [String.toList_inj] at h
  simpa [placeholder, ← String.toList_inj] using h

/-- Between the braces of a placeholder there are none, so that another one can only begin where
it begins, and then it ends where it ends. -/
theorem apart_placeholder {k l : String} (hk : '\x7b' ∉ k.toList ∧ '\x7d' ∉ k.toList)
    (hl : '\x7b' ∉ l.toList ∧ '\x7d' ∉ l.toList) :
    Apart (placeholder k).toList (placeholder l).toList := by
  rintro s n ⟨t, rfl⟩ ⟨t', hq⟩ hn
  have hopen : ∃ rest, (placeholder l).toList = '\x7b' :: '\x7b' :: rest :=
    ⟨_, toList_placeholder l⟩
  match n with
  | 0 =>
    -- Both end at the first closing brace.
    rw [List.drop_zero, toList_placeholder, toList_placeholder] at hq
    simp only [List.cons_append, List.append_assoc, List.cons.injEq, true_and,
      List.append_cancel_left_eq] at hq
    have hq' : (l.toList ++ [' ']) ++ '\x7d' :: ('\x7d' :: t') =
        (k.toList ++ [' ']) ++ '\x7d' :: ('\x7d' :: t) := by simpa using hq
    have hends := (append_sep_inj (by simpa using hl.2) (by simpa using hk.2)).mp hq'
    rw [List.append_cancel_right_eq, String.toList_inj] at hends
    exact ⟨rfl, congrArg (fun key => (placeholder key).toList) hends.1.symm⟩
  | 1 =>
    obtain ⟨rest, hrest⟩ := hopen
    rw [hrest, toList_placeholder] at hq
    cases hq
  | n + 2 =>
    obtain ⟨rest, hrest⟩ := hopen
    rw [hrest, toList_placeholder k] at hq
    rw [toList_placeholder k] at hn
    simp only [List.cons_append, List.drop_succ_cons] at hq
    generalize hinner : " inputs.".toList ++ (k.toList ++ [' ']) ++ '\x7d' :: ['\x7d'] = inner
      at hq hn
    have hnone : '\x7b' ∉ inner := by
      rw [← hinner]
      simpa using hk.1
    have hlt : n < inner.length := by simpa using hn
    have hget : (inner ++ t)[n]? = some '\x7b' := by
      rw [← List.head?_drop, ← hq]
      rfl
    rw [List.getElem?_append_left hlt] at hget
    exact absurd (List.mem_of_getElem? hget) hnone

/-- Keys without braces are separate. -/
theorem separateKeys_of_plain {keys : List String}
    (h : ∀ k ∈ keys, '\x7b' ∉ k.toList ∧ '\x7d' ∉ k.toList) : SeparateKeys keys :=
  fun k hk l hl => apart_placeholder (h k hk) (h l hl)

/-! ### One input more -/

section
variable {py : PyLib} {template : String}

/-- The substitutions of two parts of the inputs. -/
theorem bindings_append (l l' : List (String × Json)) :
    bindings py (l ++ l') = bindings py l ++ bindings py l' := List.map_append

/-- Separate keys give separate substitutions. -/
theorem separate_bindings {part : Dict String Json} (h : SeparateKeys part.keys) :
    Separate (bindings py part.entries) := by
  constructor
  case ne_nil =>
    intro e he
    obtain ⟨e, -, rfl⟩ := List.mem_map.mp he
    rw [toList_placeholder]
    exact List.cons_ne_nil _ _
  case apart =>
    intro e he e' he'
    obtain ⟨e, hmem, rfl⟩ := List.mem_map.mp he
    obtain ⟨e', hmem', rfl⟩ := List.mem_map.mp he'
    exact h e.1 (List.mem_map_of_mem hmem) e'.1 (List.mem_map_of_mem hmem')
  case nodup =>
    have hkeys := part.nodup.map (f := fun k => (placeholder k).toList) fun _ _ => placeholder_inj
    rw [List.map_map] at hkeys
    unfold bindings
    rw [List.map_map]
    exact hkeys

/-- The order of the inputs does not matter for the substitution. -/
theorem substituteInputs_perm {part part' : Dict String Json} (h : SeparateKeys part.keys)
    (hperm : part.entries.Perm part'.entries) :
    substituteInputs py template part = substituteInputs py template part' :=
  congrArg String.ofList (substitute_perm (separate_bindings h) (hperm.map _) _)

/-- Without inputs the template stays. -/
theorem substituteInputs_empty (py : PyLib) (template : String) :
    substituteInputs py template Dict.empty = template := by
  have hnone : bindings py (Dict.empty : Dict String Json).entries = [] := rfl
  rw [substituteInputs, hnone, substitute_no_patterns, String.ofList_toList]

/-- The loop of the template, with one round more. -/
theorem renderTemplate_set {part : Dict String Json} {key : String} (value : Json)
    (hnew : key ∉ part.keys) :
    renderTemplate py template (part.set key value) =
      replaceAll (placeholder key) (py.strOf value) (renderTemplate py template part) := by
  unfold renderTemplate
  rw [Dict.entries_set_of_notMem value hnew, List.foldl_append]
  rfl

/-- When the rounds so far were the substitution, the next one is if and only if its input is
its own placeholder, or the earlier ones brought in no further occurrence of the placeholder. -/
theorem renderTemplate_set_iff {part : Dict String Json} {key : String} {value : Json}
    (hnew : key ∉ part.keys) (hkeys : SeparateKeys (part.set key value).keys)
    (h : renderTemplate py template part = substituteInputs py template part) :
    renderTemplate py template (part.set key value) =
        substituteInputs py template (part.set key value) ↔
      py.strOf value = placeholder key ∨
        occurrences (placeholder key).toList (substituteInputs py template part).toList =
          occurrences (placeholder key).toList template.toList := by
  have hsep : Separate (bindings py (part.set key value).entries) := separate_bindings hkeys
  rw [Dict.entries_set_of_notMem value hnew, bindings_append] at hsep
  have hiff := substitute_last_iff hsep template.toList
  rw [renderTemplate_set value hnew, h, replaceAll, replaceFrom_eq_substituteFrom,
    substituteInputs, substituteInputs, Dict.entries_set_of_notMem value hnew, bindings_append,
    String.ofList_inj, String.toList_ofList, ← @String.toList_inj (py.strOf value)]
  exact hiff

/-- The inputs of one round more. -/
theorem take_succ (inputs : Dict String Json) {i : Nat} (hi : i < inputs.entries.length) :
    inputs.entries[i].1 ∉ (inputs.take i).keys ∧
      inputs.take (i + 1) = (inputs.take i).set inputs.entries[i].1 inputs.entries[i].2 := by
  have hentries : inputs.entries.take (i + 1) = inputs.entries.take i ++ [inputs.entries[i]] :=
    List.take_succ_eq_append_getElem hi
  have hnew : inputs.entries[i].1 ∉ (inputs.take i).keys := by
    intro hmem
    have hnodup := (inputs.take (i + 1)).nodup
    rw [show (inputs.take (i + 1)).entries = inputs.entries.take (i + 1) from rfl, hentries,
      List.map_append, List.nodup_append] at hnodup
    exact hnodup.2.2 _ hmem _ (List.mem_singleton_self _) rfl
  refine ⟨hnew, Dict.eq_of_entries ?_⟩
  rw [Dict.entries_set_of_notMem _ hnew]
  exact hentries

/-- All rounds take all inputs. -/
theorem take_length (inputs : Dict String Json) :
    inputs.take inputs.entries.length = inputs :=
  Dict.eq_of_entries (List.take_length ..)

/-- If the keys are separate, so are those of the first rounds. -/
theorem separateKeys_take {inputs : Dict String Json} (h : SeparateKeys inputs.keys) (i : Nat) :
    SeparateKeys (inputs.take i).keys := by
  have hsub : ∀ k ∈ (inputs.take i).keys, k ∈ inputs.keys := fun k hk =>
    ((List.take_sublist i inputs.entries).map Prod.fst).subset hk
  exact fun k hk l hl => h k (hsub k hk) l (hsub l hl)

/-- The loop gives the substitution after every round, if and only if no round finds what an
earlier one brought in. -/
theorem renderTemplate_take_iff {inputs : Dict String Json} (hkeys : SeparateKeys inputs.keys) :
    (∀ rounds, renderTemplate py template (inputs.take rounds) =
        substituteInputs py template (inputs.take rounds)) ↔
      NothingBroughtIn py template inputs := by
  have hstep (i : Nat) (hi : i < inputs.entries.length)
      (h : renderTemplate py template (inputs.take i) =
        substituteInputs py template (inputs.take i)) :=
    renderTemplate_set_iff (take_succ inputs hi).1
      ((take_succ inputs hi).2 ▸ separateKeys_take hkeys (i + 1)) h
  constructor
  · intro hall i hi
    refine (hstep i hi (hall i)).mp ?_
    rw [← (take_succ inputs hi).2]
    exact hall (i + 1)
  · intro hnone rounds
    induction rounds with
    | zero => exact (substituteInputs_empty py template).symm
    | succ i ih =>
      by_cases hi : i < inputs.entries.length
      · rw [(take_succ inputs hi).2]
        exact (hstep i hi ih).mpr (hnone i hi)
      · -- There is no further input, so no further round.
        have hsame : inputs.take (i + 1) = inputs.take i := by
          refine Dict.eq_of_entries ?_
          show inputs.entries.take (i + 1) = inputs.entries.take i
          rw [List.take_of_length_le (by omega), List.take_of_length_le (by omega)]
        rw [hsame]
        exact ih

/-- For a template and inputs in their order. When no round finds what an earlier one brought in,
the step gets the template with the inputs in place, and gets the same from another order of
which this is also true. And in every round of the loop the text is the template with the
inputs so far in place, if and only if no round finds what an earlier one brought in. -/
theorem template_substituted_iff {step : WorkflowStep} {inputs outputs : Dict String Json}
    (hkeys : SeparateKeys inputs.keys) (hfrom : (given step.inputFrom).bind outputs.get? = none)
    (htemplate : given step.inputTemplate = some template) :
    (NothingBroughtIn py template inputs →
      resolveStepInput py step inputs outputs = .str (substituteInputs py template inputs) ∧
      ∀ inputs', inputs.entries.Perm inputs'.entries → NothingBroughtIn py template inputs' →
        resolveStepInput py step inputs' outputs = resolveStepInput py step inputs outputs) ∧
    ((∀ rounds, resolveStepInput py step (inputs.take rounds) outputs =
        .str (substituteInputs py template (inputs.take rounds))) ↔
      NothingBroughtIn py template inputs) := by
  have hrender : ∀ part, resolveStepInput py step part outputs =
      .str (renderTemplate py template part) := by
    intro part
    unfold resolveStepInput
    rw [hfrom, htemplate]
  have hwhole : ∀ inputs' : Dict String Json, SeparateKeys inputs'.keys →
      NothingBroughtIn py template inputs' →
      renderTemplate py template inputs' = substituteInputs py template inputs' := by
    intro inputs' hkeys' hnone
    have hlast := (renderTemplate_take_iff hkeys').mpr hnone inputs'.entries.length
    rwa [take_length] at hlast
  simp only [hrender, Json.str.injEq]
  refine ⟨fun hnone => ⟨hwhole inputs hkeys hnone, fun inputs' hperm hnone' => ?_⟩,
    renderTemplate_take_iff hkeys⟩
  have hkeys' : SeparateKeys inputs'.keys := fun k hk l hl =>
    hkeys k ((hperm.map Prod.fst).mem_iff.mpr hk) l ((hperm.map Prod.fst).mem_iff.mpr hl)
  rw [hwhole inputs hkeys hnone, hwhole inputs' hkeys' hnone', substituteInputs_perm hkeys hperm]

end

/-- A library in which the text of a text is the text itself. -/
def plainLib : PyLib :=
  { PyLib.refusing with
      strOf := fun j =>
        match j with
        | .str s => s
        | _ => "" }

/-- The template of a step. -/
def templateStep (template : String) : WorkflowStep :=
  { id := "call", inputTemplate := some template }

/-- Two inputs of a template. The text of `a` is the placeholder of `b`, which has had its round
when `a` comes, so the agent gets it as it is. -/
theorem template_substituted_in_order :
    resolveStepInput plainLib (templateStep (placeholder "a" ++ " of " ++ placeholder "b"))
      (Dict.ofList [("b", .str "x"), ("a", .str (placeholder "b"))]) Dict.empty =
        .str (placeholder "b" ++ " of x") := by
  have hkeys : SeparateKeys
      (Dict.ofList [("b", Json.str "x"), ("a", .str (placeholder "b"))]).keys :=
    separateKeys_of_plain (by decide)
  have htext : substituteInputs plainLib (placeholder "a" ++ " of " ++ placeholder "b")
      (Dict.ofList [("b", .str "x"), ("a", .str (placeholder "b"))]) =
        placeholder "b" ++ " of x" := by decide +kernel
  rw [← htext]
  exact ((template_substituted_iff hkeys rfl rfl).1 (by decide +kernel)).1

/-- The value of `a` is the placeholder of `b`, and the agent gets the value of `b`. -/
theorem template_substituted_twice :
    ¬ ∀ (py : PyLib) (template : String) (inputs : Dict String Json), template ≠ "" →
      resolveStepInput py (templateStep template) inputs Dict.empty =
        .str (substituteInputs py template inputs) := by
  intro hall
  have hrun := hall plainLib (placeholder "a")
    (Dict.ofList [("a", .str (placeholder "b")), ("b", .str "x")]) (by decide)
  exact absurd hrun (by decide +kernel)

end AitpPlayground.Proofs.Runner
