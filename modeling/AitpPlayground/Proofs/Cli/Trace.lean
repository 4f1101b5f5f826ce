import AitpPlayground.Cli.Trace
import Mathlib.Data.List.Chain

/-!
# `AitpPlayground.Proofs.Cli.Trace`: which lines of a narration are printed

Each answer ends with a summary line, and `cmd_trace` counts it among the lines that it has
seen. So a round after the first one passes over the first new line. Nothing is lost just when
no round after the first one has anything new.
-/

set_option autoImplicit false

namespace AitpPlayground.Proofs.Cli

open AitpPlayground.Lib
open AitpPlayground.Runner
open AitpPlayground.Observability
open AitpPlayground.Api
open AitpPlayground.Cli

/-- A summary line. -/
def isSummary (line : String) : Bool := "[run] status=".toList.isPrefixOf line.toList

/-- The statuses that the store is given. -/
def runStatuses : List String := ["pending", "running", "success", "failed", "cancelled"]

/-- The rounds of a client over a run: the log grows from one request to the next, up to the
final one, and the status is one that a run has. -/
structure TracedRun where
  polls : List TracePoll
  final : List Event
  grows : (polls.flatMap (fun poll => [poll.narrated.events, poll.asked.events]) ++
    [final]).IsChain (· <+: ·)
  statuses : ∀ poll ∈ polls, ∃ status ∈ runStatuses, poll.narrated.status = some (.str status)

section
variable {py : PyLib}

/-- The lines of a narration, as they are printed: the pieces of `splitlines` that are not empty. -/
def narrationLines (narration : List String) : List String := narration.flatMap textLines

/-! ### Answers -/

/-- An earlier log has an earlier narration. -/
theorem narrateEvents_prefix {events all : List Event} {narration : List String}
    (hbegins : events <+: all) (h : narrateEvents py all = .ok narration) :
    ∃ early, narrateEvents py events = .ok early ∧
      narrationLines early <+: narrationLines narration := by
  induction events generalizing all narration with
  | nil => exact ⟨[], rfl, List.nil_prefix⟩
  | cons event events ih =>
    obtain ⟨others, rfl⟩ := hbegins
    rw [List.cons_append, narrateEvents] at h
    cases hline : narrateEvent py event with
    | error exc =>
      rw [hline] at h
      cases h
    | ok line =>
      rw [hline] at h
      cases hrest : narrateEvents py (events ++ others) with
      | error exc =>
        rw [hrest] at h
        cases h
      | ok lines =>
        rw [hrest] at h
        cases h
        obtain ⟨early, hearly, hlines⟩ := ih (List.prefix_append events others) hrest
        refine ⟨if line = "" then early else line :: early, ?_, ?_⟩
        · rw [narrateEvents, hline, hearly]
          rfl
        · split
          · exact hlines
          · exact (List.prefix_append_right_inj _).mpr hlines

/-- A digit does not end a line. -/
theorem not_break_of_digit {c : Char} (h : c.isDigit = true) : c.toNat ∉ lineBreaks := by
  simp only [Char.isDigit, Bool.and_eq_true, decide_eq_true_eq, ge_iff_le,
    UInt32.le_iff_toNat_le] at h
  have hlow : 48 ≤ c.toNat := h.1
  have hhigh : c.toNat ≤ 57 := h.2
  simp only [lineBreaks, List.mem_cons, List.not_mem_nil, or_false]
  omega

/-- So a number has no line break. -/
theorem no_break_toString (n : Nat) : ∀ c ∈ (toString n).toList, c.toNat ∉ lineBreaks := by
  intro c hc
  rw [Nat.toString_eq_ofList_toDigits, String.toList_ofList] at hc
  exact not_break_of_digit (Nat.isDigit_of_mem_toDigits (by decide) (by decide) hc)

/-- A text without these characters has none. -/
theorem no_break_of_all {s : String}
    (h : (s.toList.all fun c => !lineBreaks.contains c.toNat) = true) :
    ∀ c ∈ s.toList, c.toNat ∉ lineBreaks := by
  intro c hc
  simpa using List.all_eq_true.mp h c hc

/-- A summary is one line. -/
theorem textLines_summaryLine {status : String} (h : status ∈ runStatuses) (events narrated : Nat) :
    textLines (summaryLine status events narrated) = [summaryLine status events narrated] := by
  have hstatus : ∀ c ∈ status.toList, c.toNat ∉ lineBreaks := by
    have hall : (runStatuses.all fun status =>
        status.toList.all fun c => !lineBreaks.contains c.toNat) = true := by
      decide
    exact no_break_of_all (List.all_eq_true.mp hall status h)
  have hlist : (summaryLine status events narrated).toList =
      "[run] status=".toList ++ (status.toList ++ ("  events=".toList ++
        ((toString events).toList ++ ("  narrated=".toList ++ (toString narrated).toList)))) := by
    unfold summaryLine
    rw [String.toList_append, String.toList_append, String.toList_append, String.toList_append,
      String.toList_append, List.append_assoc, List.append_assoc, List.append_assoc,
      List.append_assoc]
  refine textLines_of_no_break (fun hempty => ?_) ?_
  · rw [hempty] at hlist
    cases hlist
  · rw [hlist]
    refine List.forall_mem_append.mpr ⟨no_break_of_all (by decide), ?_⟩
    refine List.forall_mem_append.mpr ⟨hstatus, ?_⟩
    refine List.forall_mem_append.mpr ⟨no_break_of_all (by decide), ?_⟩
    refine List.forall_mem_append.mpr ⟨no_break_toString _, ?_⟩
    exact List.forall_mem_append.mpr ⟨no_break_of_all (by decide), no_break_toString _⟩

/-- The summary line is a summary. -/
theorem isSummary_summaryLine (status : String) (events narrated : Nat) :
    isSummary (summaryLine status events narrated) = true := by
  unfold isSummary summaryLine
  rw [List.isPrefixOf_iff_prefix]
  simp only [String.toList_append, List.append_assoc]
  exact List.prefix_append _ _

/-- The lines of an answer: those of the narration, and the summary. -/
theorem getRunNarrate_lines {record : Record Event} {early : List String} {status : String}
    (hearly : narrateEvents py record.events = .ok early) (hstatus : status ∈ runStatuses)
    (hrecord : record.status = some (.str status)) :
    ∃ text summary, getRunNarrate py record = .ok text ∧ isSummary summary = true ∧
      textLines text = narrationLines early ++ [summary] := by
  have hne : status ≠ "" := by
    rintro rfl
    revert hstatus
    decide
  have hshown : statusOrUnknown py record = status := by
    unfold statusOrUnknown
    rw [hrecord]
    exact if_neg hne
  refine ⟨joinLines (early ++ [summaryLine status record.events.length early.length]),
    summaryLine status record.events.length early.length, ?_, isSummary_summaryLine .., ?_⟩
  · unfold getRunNarrate
    rw [hearly, hshown]
    rfl
  · rw [textLines_joinLines, List.flatMap_append, List.flatMap_singleton,
      textLines_summaryLine hstatus]
    rfl

/-- What a round prints after so many lines, without summaries. -/
theorem printNew_eq {record : Record Event} {early : List String} {status : String}
    (hearly : narrateEvents py record.events = .ok early) (hstatus : status ∈ runStatuses)
    (hrecord : record.status = some (.str status)) (printed : Nat) :
    (printNew py record printed).1.filter (fun line => !isSummary line) =
        ((narrationLines early).drop printed).filter (fun line => !isSummary line) ∧
      (printNew py record printed).2 = (narrationLines early).length + 1 := by
  obtain ⟨text, summary, htext, hsummary, hlines⟩ :=
    getRunNarrate_lines hearly hstatus hrecord
  unfold printNew
  rw [htext]
  simp only [hlines, List.length_append, List.length_singleton, and_true]
  rw [List.drop_append, List.filter_append]
  -- What is left of the summary is filtered out.
  have hnone : ([summary].drop (printed - (narrationLines early).length)).filter
      (fun line => !isSummary line) = [] := by
    refine List.filter_eq_nil_iff.mpr fun line hline => ?_
    cases List.mem_singleton.mp (List.mem_of_mem_drop hline)
    simp [hsummary]
  rw [hnone, List.append_nil]

/-! ### Rounds -/

instance isPrefixTrans {α : Type} : Trans (α := List α) (· <+: ·) (· <+: ·) (· <+: ·) :=
  ⟨List.IsPrefix.trans⟩

/-- The rounds after one in which the log was `prev` print at most what is new, less one line. -/
theorem length_tracePolls_le {final prev : List Event} {narration early : List String}
    (hfinal : narrateEvents py final = .ok narration) {deadline : ℚ} {polls : List TracePoll}
    (hstatuses : ∀ poll ∈ polls,
      ∃ status ∈ runStatuses, poll.narrated.status = some (.str status))
    (hgrows : (prev :: (polls.flatMap (fun poll => [poll.narrated.events, poll.asked.events]) ++
      [final])).IsChain (· <+: ·))
    (hearly : narrateEvents py prev = .ok early) (status : String) :
    ((tracePolls py deadline polls ((narrationLines early).length + 1) status).1.filter
      fun line => !isSummary line).length ≤
        (narrationLines narration).length - ((narrationLines early).length + 1) := by
  induction polls generalizing prev early status with
  | nil => exact Nat.zero_le _
  | cons poll rest ih =>
    rw [List.flatMap_cons, List.append_assoc, List.cons_append, List.cons_append,
      List.nil_append] at hgrows
    have hrest := hgrows.tail
    -- The narration of this round is part of the final one.
    have hreach : poll.narrated.events <+: final :=
      hrest.rel_cons (List.mem_cons_of_mem _ (List.mem_append_right _ (List.mem_singleton_self _)))
    obtain ⟨here, hhere, hlines⟩ := narrateEvents_prefix hreach hfinal
    obtain ⟨known, hknown, hrecord⟩ := hstatuses poll (List.mem_cons_self ..)
    obtain ⟨hprints, hseen⟩ := printNew_eq hhere hknown hrecord ((narrationLines early).length + 1)
    have hle := hlines.length_le
    have hearlier : (narrationLines early).length ≤ (narrationLines here).length := by
      have hfirst := hgrows.rel_cons (List.mem_cons_self ..)
      obtain ⟨early', hearly', hbegins⟩ := narrateEvents_prefix hfirst hhere
      rw [hearly] at hearly'
      cases hearly'
      exact hbegins.length_le
    have hblock : ((printNew py poll.narrated ((narrationLines early).length + 1)).1.filter
        fun line => !isSummary line).length ≤
          (narrationLines here).length - ((narrationLines early).length + 1) := by
      rw [hprints]
      refine (List.length_filter_le _ _).trans ?_
      rw [List.length_drop]
    unfold tracePolls
    split
    case isFalse => exact Nat.zero_le _
    case isTrue =>
      simp only [hseen]
      split
      case isTrue => exact hblock.trans (by omega)
      case isFalse =>
        have hmore := ih (fun poll hpoll => hstatuses poll (List.mem_cons_of_mem _ hpoll))
          (hrest.sublist ((List.sublist_cons_self _ _).cons_cons _)) hhere
          (nextStatus poll.asked status)
        rw [List.filter_append, List.length_append]
        omega

/-- What the client prints without summaries: what the first round prints, and then at most what
is new, less one line. -/
theorem cmdTrace_prints {first : TracePoll} {rest : List TracePoll} {final : List Event}
    {narration early printed : List String} {deadline : ℚ} {code : Nat}
    (htrace : cmdTrace py deadline (first :: rest) = (printed, .exit code))
    (hfinal : narrateEvents py final = .ok narration)
    (hstatuses : ∀ poll ∈ first :: rest,
      ∃ status ∈ runStatuses, poll.narrated.status = some (.str status))
    (hgrows : (first.narrated.events :: first.asked.events ::
      (rest.flatMap (fun poll => [poll.narrated.events, poll.asked.events]) ++
        [final])).IsChain (· <+: ·))
    (hearly : narrateEvents py first.narrated.events = .ok early) :
    ∃ more, printed.filter (fun line => !isSummary line) =
        (narrationLines early).filter (fun line => !isSummary line) ++ more ∧
      more.length ≤ (narrationLines narration).length - ((narrationLines early).length + 1) := by
  obtain ⟨known, hknown, hrecord⟩ := hstatuses first (List.mem_cons_self ..)
  obtain ⟨hprints, hseen⟩ := printNew_eq hearly hknown hrecord 0
  unfold cmdTrace tracePolls at htrace
  split at htrace
  case isFalse => cases htrace
  case isTrue =>
    simp only [hseen] at htrace
    split at htrace
    case isTrue =>
      cases htrace
      exact ⟨[], by rw [hprints, List.drop_zero, List.append_nil], Nat.zero_le _⟩
    case isFalse =>
      have hprinted := (Prod.mk.inj htrace).1
      rw [← hprinted, List.filter_append, hprints, List.drop_zero]
      refine ⟨_, rfl, ?_⟩
      exact length_tracePolls_le hfinal
        (fun poll hpoll => hstatuses poll (List.mem_cons_of_mem _ hpoll))
        (hgrows.sublist ((List.sublist_cons_self _ _).cons_cons _)) hearly _

/-- A beginning with too few lines after it is everything just when it already was, and nothing
was left out of it. -/
theorem filter_eq_iff_of_short {α : Type} {keep : α → Bool} {shown early all more : List α}
    (hearly : early <+: all) (hshown : shown.filter keep = early.filter keep ++ more)
    (hmore : more.length ≤ all.length - (early.length + 1)) :
    shown.filter keep = all ↔ early = all ∧ ∀ a ∈ all, keep a = true := by
  have hle := hearly.length_le
  constructor
  · intro hall
    have hkeep : ∀ a ∈ all, keep a = true := by
      intro a ha
      rw [← hall] at ha
      exact (List.mem_filter.mp ha).2
    refine ⟨hearly.eq_of_length_le ?_, hkeep⟩
    rw [List.filter_eq_self.mpr fun a ha => hkeep a (hearly.subset ha), hall] at hshown
    have hlengths := congrArg List.length hshown
    rw [List.length_append] at hlengths
    omega
  · rintro ⟨rfl, hkeep⟩
    have hnothing : more = [] := by
      refine List.eq_nil_of_length_eq_zero ?_
      omega
    rw [hshown, hnothing, List.append_nil, List.filter_eq_self.mpr hkeep]

end

/-- A record with these events. -/
def recordOf (status : String) (types : List String) : Record Event where
  scalars := .ofList [("status", .str status)]
  events := types.map fun type => .ofList [("type", .str type)]

/-- A run that has failed by the first narration. Its status says so from the second round on. -/
def endedRun : TracedRun where
  polls :=
    [⟨0, recordOf "running" ["delegation.issued", "run.failed"],
      recordOf "running" ["delegation.issued", "run.failed"]⟩,
     ⟨1, recordOf "failed" ["delegation.issued", "run.failed"],
      recordOf "failed" ["delegation.issued", "run.failed"]⟩]
  final := (recordOf "failed" ["delegation.issued", "run.failed"]).events
  grows := by decide
  statuses := by decide

/-- A run that gets another two events after the first request. -/
def growingRun : TracedRun where
  polls :=
    [⟨0, recordOf "running" ["delegation.issued"], recordOf "running" ["delegation.issued"]⟩,
     ⟨1, recordOf "success" ["delegation.issued", "delegation.redeemed", "run.complete"],
      recordOf "success" ["delegation.issued", "delegation.redeemed", "run.complete"]⟩]
  final := (recordOf "success" ["delegation.issued", "delegation.redeemed", "run.complete"]).events
  grows := by decide
  statuses := by decide

end AitpPlayground.Proofs.Cli
