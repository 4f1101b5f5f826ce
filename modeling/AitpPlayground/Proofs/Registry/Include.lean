import AitpPlayground.Registry.Include

/-!
# `AitpPlayground.Proofs.Registry.Include`: when the expansion of includes ends

`load_yaml` ends in three ways: with a value, with the exception of one file, or with the
`RecursionError` of the interpreter, which is about no file.

When no file that the expansion comes to includes itself, directly or through others, the third
way takes an expansion that is nested too deeply for the stack, and with enough frames there is
one outcome. A file that is included twice from different places is no cycle. When one does
include itself, it is the `RecursionError`, however many frames there are.
-/

set_option autoImplicit false

namespace AitpPlayground.Proofs.Registry

open AitpPlayground.Lib
open AitpPlayground.Lib.Ask
open AitpPlayground.Registry

section
variable {δ : Type} (tree : YamlTree δ)

/-- The expansion of a file comes to an `!include` of another file. -/
def Includes (path other : String) : Prop := Asks (loadFile tree) path other

/-- A document can end with this exception of its own. -/
inductive RaisesOwn : YamlDoc δ → RunExc → Prop
  | here {exc : RunExc} : RaisesOwn (.raises exc) exc
  | deeper {frames : Nat} {rest : YamlDoc δ} {exc : RunExc} (h : RaisesOwn rest exc) :
      RaisesOwn (.deepens frames rest) exc
  | later {frames : Nat} {rel : String} {rest : δ → YamlDoc δ} {exc : RunExc} (value : δ)
      (h : RaisesOwn (rest value) exc) : RaisesOwn (.includes frames rel rest) exc

/-- A file is not there, or it can end with this exception of its own. -/
def FailsWith (path : String) (exc : RunExc) : Prop :=
  match tree.files.get? path with
  | some doc => RaisesOwn doc exc
  | none => exc = fileNotFound path

/-- An exception of a file that the expansion comes to. -/
def Named (path : String) (exc : RunExc) : Prop :=
  ∃ other, Relation.ReflTransGen (Includes tree) path other ∧ FailsWith tree other exc

end

section
variable {δ : Type} {tree : YamlTree δ}

/-- Only the files of the tree include others. -/
theorem mem_keys_of_includes {path other : String} (h : Includes tree path other) :
    path ∈ tree.files.keys.toFinset := by
  unfold Includes Asks loadFile at h
  rw [List.mem_toFinset, Dict.mem_keys_iff]
  cases hdoc : tree.files.get? path with
  | some doc => rfl
  | none =>
    rw [hdoc] at h
    cases h

/-- A document asks for its first include. -/
theorem asksIn_first {frames : Nat} {path rel : String} {rest : δ → YamlDoc δ} :
    AsksIn (loadFile tree) (construct tree path (.includes frames rel rest))
      (includeTarget tree path rel) := by
  rw [construct]
  exact .here

/-- With the value of the first one it asks for the others. -/
theorem asksIn_rest {frames depth n : Nat} {path rel other : String} {rest : δ → YamlDoc δ}
    {value : δ}
    (hload : eval (loadFile tree) depth (includeTarget tree path rel) = some (n, .ok value))
    (h : AsksIn (loadFile tree) (construct tree path (rest value)) other) :
    AsksIn (loadFile tree) (construct tree path (.includes frames rel rest)) other := by
  rw [construct]
  exact .later hload h

/-- A document that ends with an exception: it is its own, or that of a file it includes. -/
theorem construct_error {depth n : Nat} {path : String} {exc : RunExc} {doc : YamlDoc δ}
    (h : run (eval (loadFile tree) depth) (construct tree path doc) = some (n, .error exc)) :
    RaisesOwn doc exc ∨
      ∃ other m, AsksIn (loadFile tree) (construct tree path doc) other ∧
        eval (loadFile tree) depth other = some (m, .error exc) := by
  induction doc generalizing n with
  | data value => cases h
  | raises exc' =>
    cases h
    exact .inl .here
  | deepens frames rest ih =>
    rcases ih h with hown | ⟨other, m, hasks, heval⟩
    · exact .inl (.deeper hown)
    · exact .inr ⟨other, m, .spent hasks, heval⟩
  | includes frames rel rest ih =>
    unfold construct run at h
    cases hload : eval (loadFile tree) depth (includeTarget tree path rel) with
    | none =>
      rw [hload] at h
      cases h
    | some answer =>
      obtain ⟨m, outcome⟩ := answer
      rw [hload] at h
      obtain ⟨⟨k, last⟩, hlast, heq⟩ := Option.map_eq_some_iff.mp h
      cases outcome with
      | error exc' =>
        cases hlast
        cases heq
        exact .inr ⟨_, m, asksIn_first, hload⟩
      | ok value =>
        cases heq
        rcases ih value hlast with hown | ⟨other, m', hasks, heval⟩
        · exact .inl (.later value hown)
        · exact .inr ⟨other, m', asksIn_rest hload hasks, heval⟩

/-- The exception of an expansion is that of one of its files. -/
theorem named_of_eval {depth n : Nat} {path : String} {exc : RunExc}
    (h : eval (loadFile tree) depth path = some (n, .error exc)) : Named tree path exc := by
  induction depth generalizing path n with
  | zero => cases h
  | succ depth ih =>
    unfold eval at h
    cases hdoc : tree.files.get? path with
    | none =>
      rw [loadFile, hdoc] at h
      cases h
      refine ⟨path, .refl, ?_⟩
      unfold FailsWith
      rw [hdoc]
    | some doc =>
      rw [loadFile, hdoc] at h
      rcases construct_error h with hown | ⟨other, m, hasks, heval⟩
      · refine ⟨path, .refl, ?_⟩
        unfold FailsWith
        rw [hdoc]
        exact hown
      · obtain ⟨last, hreach, hfails⟩ := ih heval
        refine ⟨last, hreach.head ?_, hfails⟩
        unfold Includes Asks loadFile
        rw [hdoc]
        exact hasks

/-- The files that include nothing that includes itself. -/
def NoCycle (tree : YamlTree δ) (path : String) : Prop :=
  ∀ other, Relation.ReflTransGen (Includes tree) path other →
    ¬ Relation.TransGen (Includes tree) other other

/-- The expansion ends at some depth just when it comes to no cycle. -/
theorem halts_iff_noCycle {path : String} : Halts (loadFile tree) path ↔ NoCycle tree path :=
  halts_iff_acyclic tree.files.keys.toFinset fun _ _ => mem_keys_of_includes

/-- Without a cycle there is one outcome, for which there must be so many frames. -/
theorem loadYaml_of_noCycle {path : String} (h : NoCycle tree path) :
    ∃ bound outcome, (∀ exc, outcome = .error exc → Named tree path exc) ∧
      ∀ frames, loadYaml tree frames path =
        if frames < bound then .error recursionError else outcome := by
  obtain ⟨bound, ⟨n, outcome⟩, ⟨depth, heval⟩, hbound⟩ :=
    exists_bound_of_halts (halts_iff_noCycle.mpr h)
  refine ⟨bound, outcome, ?_, fun frames => ?_⟩
  · rintro exc rfl
    exact named_of_eval heval
  · unfold loadYaml
    rw [hbound]
    by_cases hless : frames < bound
    · rw [if_pos hless, if_pos hless]
    · rw [if_neg hless, if_neg hless]

/-- With a cycle no number of frames is enough. -/
theorem loadYaml_of_cycle {path : String} (h : ¬NoCycle tree path) (frames : Nat) :
    loadYaml tree frames path = .error recursionError := by
  unfold loadYaml
  cases hwithin : evalWithin (loadFile tree) frames path with
  | none => rfl
  | some r =>
    have hhalts : Halts (loadFile tree) path :=
      ⟨frames + 1, Option.isSome_of_eq_some (eval_of_evalWithin hwithin)⟩
    exact absurd (halts_iff_noCycle.mp hhalts) h

end

/-- A file that includes itself. -/
def selfInclude : YamlTree Unit where
  files := .ofList [("dir/a.yaml", .includes 10 "a.yaml" fun _ => .data ())]
  resolve path := path

/-- The file includes itself. -/
theorem includes_selfInclude : Includes selfInclude "dir/a.yaml" "dir/a.yaml" := by
  have htarget : includeTarget selfInclude "dir/a.yaml" "a.yaml" = "dir/a.yaml" := by
    decide +kernel
  have hasks : Includes selfInclude "dir/a.yaml"
      (includeTarget selfInclude "dir/a.yaml" "a.yaml") := asksIn_first
  rwa [htarget] at hasks

/-- The `RecursionError` is about neither of its two problems: a file that is not there, and a
text that is wrong. -/
theorem not_failsWith_selfInclude (other : String) :
    ¬FailsWith selfInclude other recursionError := by
  unfold FailsWith
  have hfiles : selfInclude.files.entries =
      [("dir/a.yaml", .includes 10 "a.yaml" fun _ => .data ())] := rfl
  cases hdoc : selfInclude.files.get? other with
  | none => exact fun h => absurd h (by simp [recursionError, fileNotFound])
  | some doc =>
    have hmem := (Dict.get?_eq_some_iff _ _ _).mp hdoc
    rw [hfiles, List.mem_singleton] at hmem
    cases hmem
    rintro (_ | _ | ⟨_, hown⟩)
    cases hown

end AitpPlayground.Proofs.Registry
