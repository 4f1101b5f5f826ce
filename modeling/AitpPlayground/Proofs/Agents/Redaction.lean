import AitpPlayground.Agents.Redaction

/-!
# `AitpPlayground.Proofs.Agents.Redaction`: no configured secret is left

A secret without brackets is gone after its own round of `redact_secrets`. No later round and
no match of the pattern brings it back: what they put in is in brackets, so that the text
before it and the text behind it do not join, and `redacted` is too short to have a secret
within it.
-/

set_option autoImplicit false

namespace AitpPlayground.Proofs.Agents

open AitpPlayground.Lib
open AitpPlayground.Agents

section
variable {secret : List Char}

/-- A text that could be left in a cover is the cover's own word. -/
theorem not_infix_redacted (hlen : 8 ≤ secret.length) (hne : secret ≠ "redacted".toList) :
    ¬ secret <:+: "redacted".toList := by
  intro hinside
  exact hne (hinside.eq_of_length_le hlen)

/-- A round of the loop leaves a text that is not there. -/
theorem not_infix_round (hopen : '[' ∉ secret) (hclose : ']' ∉ secret)
    (hword : ¬ secret <:+: "redacted".toList) (value : List Char) {text : List Char}
    (h : ¬ secret <:+: text) : ¬ secret <:+: replaceFrom value redacted 0 text := by
  rw [replaceFrom_eq_maskFrom]
  exact not_infix_mask hopen hclose hword h

/-- The round of a text takes it out. -/
theorem not_infix_own_round (hopen : '[' ∉ secret) (hclose : ']' ∉ secret)
    (hword : ¬ secret <:+: "redacted".toList) (text : List Char) :
    ¬ secret <:+: replaceFrom secret redacted 0 text := by
  rw [replaceFrom_eq_maskFrom]
  refine not_infix_mask_of_hit hopen hclose hword (fun s hs => ?_) text
  rw [if_pos hs]
  exact Option.some_ne_none _

/-- No round puts a secret together that an earlier one took out. -/
theorem not_infix_rounds (hopen : '[' ∉ secret) (hclose : ']' ∉ secret)
    (hword : ¬ secret <:+: "redacted".toList) {values : List (List Char)} (text : List Char)
    (h : secret ∈ values ∨ ¬ secret <:+: text) :
    ¬ secret <:+: values.foldl (fun text value => replaceFrom value redacted 0 text) text := by
  induction values generalizing text with
  | nil => exact h.resolve_left List.not_mem_nil
  | cons value values ih =>
    refine ih _ ?_
    rcases h with hmem | hnot
    · rcases List.mem_cons.mp hmem with rfl | hmem
      · exact .inr (not_infix_own_round hopen hclose hword text)
      · exact .inl hmem
    · exact .inr (not_infix_round hopen hclose hword value hnot)

/-- A configured secret of 8 characters or more, without brackets and not the word `redacted`,
is nowhere in a redacted text, nor in its first 300 characters. So it is not in the detail
either that `call_llm_or_502` puts into its response and its event. -/
theorem redacted_has_no_secret {environ : String → Option String} (text : String)
    (hsecret : ∃ name ∈ secretEnvVars, secret ∈ listedValues environ name)
    (hlen : 8 ≤ secret.length) (hopen : '[' ∉ secret) (hclose : ']' ∉ secret)
    (hne : secret ≠ "redacted".toList) :
    ¬ secret <:+: (redactSecrets environ text).toList ∧
      ¬ secret <:+: (redactSecrets environ text).toList.take 300 ∧
      ∀ block provider llmCalls b detail b',
        callLlmOr502 (redactSecrets environ) block provider llmCalls (.error text) b =
          (.failed detail, b') →
        ∃ shown, detail = "LLM provider call failed: " ++ shown ∧ ¬ secret <:+: shown.toList := by
  have hword := not_infix_redacted hlen hne
  have hmem : secret ∈ secretValues environ := by
    obtain ⟨name, hname, hlisted⟩ := hsecret
    exact List.mem_filter.mpr
      ⟨List.mem_flatMap.mpr ⟨name, hname, hlisted⟩, decide_eq_true hlen⟩
  have hwhole : ¬ secret <:+: (redactSecrets environ text).toList := by
    unfold redactSecrets
    rw [String.toList_ofList]
    exact not_infix_mask hopen hclose hword
      (not_infix_rounds hopen hclose hword text.toList (.inl hmem))
  have hshort : ¬ secret <:+: (redactSecrets environ text).toList.take 300 :=
    fun h => hwhole (h.trans (List.take_prefix ..).isInfix)
  refine ⟨hwhole, hshort, fun block provider llmCalls b detail b' hcall => ?_⟩
  refine ⟨String.ofList ((redactSecrets environ text).toList.take 300), ?_, ?_⟩
  · unfold callLlmOr502 at hcall
    cases provider with
    | none =>
      cases hcall
      rfl
    | some provider =>
      simp only at hcall
      split at hcall
      · cases hcall
      · cases hcall
        rfl
  · rw [String.toList_ofList]
    exact hshort

end

/-- A password in the error text of a provider. -/
theorem redacted_has_no_secret_password :
    ¬ "swordfish".toList <:+:
      (redactSecrets (fun name => if name = "CP_API_KEY" then some "a, swordfish" else none)
        "bad key: swordfish").toList :=
  (redacted_has_no_secret "bad key: swordfish"
    ⟨"CP_API_KEY", by decide, by decide⟩ (by decide) (by decide) (by decide) (by decide)).1

end AitpPlayground.Proofs.Agents
