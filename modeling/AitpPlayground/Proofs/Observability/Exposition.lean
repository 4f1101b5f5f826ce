import AitpPlayground.Observability.Exposition
import Mathlib.Data.List.TakeWhile

/-!
# `AitpPlayground.Proofs.Observability.Exposition`: the text has the metrics in it

`readExposition` reads the series back from the text, by the rules of the format: a line that
begins with `#` is a comment, a label value ends at the first quote without a backslash, and the
rest of the line is the value.

* `exposition_reads_back`: in every state that `record_event` can reach, the series that are
  read are exactly those of the metrics. A label value may be any text, such as the code of a
  failed run, and it cannot end its line or add a series.

`readSample_sampleLine` is the round trip of one line, for names and label keys without signs of
the format. `catalogued_step` keeps all names and keys in the catalog.
-/

set_option autoImplicit false

namespace AitpPlayground.Proofs.Observability

open AitpPlayground.Lib
open AitpPlayground.Observability

/-! ### The format -/

/-- The special characters of a label value. -/
def labelTable : EscapeTable where
  mark := '\\'
  codes := [('\\', '\\'), ('"', '"'), ('\n', 'n')]
  specials_nodup := by decide
  codes_nodup := by decide
  mark_special := by decide

/-- A series as it is read, with its value as a text. -/
structure Sample where
  name : List Char
  labels : List (List Char × List Char)
  value : List Char
deriving DecidableEq

/-- Labels up to the closing brace, and what comes after. -/
def readLabels : Nat → List Char → Option (List (List Char × List Char) × List Char)
  | 0, _ => none
  | fuel + 1, s =>
    match splitOnce ['='] s with
    | some (key, '"' :: quoted) =>
      match labelTable.readUntil '"' quoted with
      | some (value, ',' :: rest) =>
        (readLabels fuel rest).map fun read => ((key, value) :: read.1, read.2)
      | some (value, '\x7d' :: rest) => some ([(key, value)], rest)
      | _ => none
    | _ => none

/-- The series of a line, unless it is a comment. -/
def readSample (line : List Char) : Option Sample :=
  let isName (c : Char) : Bool := decide (c ≠ ' ' ∧ c ≠ '\x7b')
  if line.head? = some '#' then none
  else
    match line.dropWhile isName with
    | ' ' :: value => some ⟨line.takeWhile isName, [], value⟩
    | '\x7b' :: rest =>
      match readLabels line.length rest with
      | some (labels, ' ' :: value) => some ⟨line.takeWhile isName, labels, value⟩
      | _ => none
    | _ => none

/-- The series of a text. -/
def readExposition (text : String) : List Sample := (text.toList.splitOn '\n').filterMap readSample

/-- A series as it has to be read. -/
def sampleOf (name : String) (labels : Labels) (value : String) : Sample :=
  ⟨name.toList, labels.map fun l => (l.1.toList, l.2.toList), value.toList⟩

/-! ### One line -/

/-- The three replacements are one pass. -/
theorem escapeLabel_eq (value : String) : escapeLabel value = labelTable.escape value.toList := by
  unfold escapeLabel EscapeTable.escape
  rw [replaceFrom_singleton, replaceFrom_singleton, replaceFrom_singleton, List.flatMap_assoc,
    List.flatMap_assoc]
  congr 1
  funext c
  by_cases hmark : c = '\\'
  · subst hmark
    rfl
  by_cases hquote : c = '"'
  · subst hquote
    rfl
  by_cases hbreak : c = '\n'
  · subst hbreak
    rfl
  have hplain : labelTable.escapeChar c = [c] := by
    have hnone : labelTable.codes.lookup c = none :=
      EscapeTable.lookup_eq_none_iff.mpr (by simp [labelTable, hmark, hquote, hbreak])
    unfold EscapeTable.escapeChar
    rw [hnone]
  rw [hplain]
  simp [hmark, hquote, hbreak]

/-- The text of one label. -/
theorem labelText_singleton (l : String × String) :
    labelText [l] = l.1.toList ++ '=' :: '"' :: (labelTable.escape l.2.toList ++ ['"']) := by
  simp [labelText, List.intercalate, escapeLabel_eq]

/-- The text of several labels, with commas between them. -/
theorem labelText_cons_cons (l l' : String × String) (labels : Labels) :
    labelText (l :: l' :: labels) =
      l.1.toList ++ '=' :: '"' :: (labelTable.escape l.2.toList ++
        '"' :: ',' :: labelText (l' :: labels)) := by
  simp [labelText, List.intercalate, escapeLabel_eq]

/-- Labels are read back. -/
theorem readLabels_labelText {labels : Labels} (hne : labels ≠ [])
    (hkeys : ∀ l ∈ labels, '=' ∉ l.1.toList) (rest : List Char) {fuel : Nat}
    (hfuel : labels.length ≤ fuel) :
    readLabels fuel (labelText labels ++ '\x7d' :: rest) =
      some (labels.map fun l => (l.1.toList, l.2.toList), rest) := by
  induction labels generalizing fuel with
  | nil => exact absurd rfl hne
  | cons l labels ih =>
    obtain ⟨fuel, rfl⟩ : ∃ n, fuel = n + 1 := ⟨fuel - 1, by simp at hfuel; omega⟩
    have hkey : '=' ∉ l.1.toList := hkeys l (List.mem_cons_self ..)
    have hread : ∀ rest, labelTable.readUntil '"'
        (labelTable.escape l.2.toList ++ '"' :: rest) = some (l.2.toList, rest) :=
      labelTable.readUntil_escape (by decide) (by decide) l.2.toList
    cases labels with
    | nil =>
      have htext : labelText [l] ++ '\x7d' :: rest =
          l.1.toList ++ '=' :: '"' :: (labelTable.escape l.2.toList ++
            '"' :: '\x7d' :: rest) := by
        rw [labelText_singleton]
        simp
      rw [htext, readLabels, splitOnce_append hkey]
      simp only [hread]
      rfl
    | cons l' labels =>
      have htext : labelText (l :: l' :: labels) ++ '\x7d' :: rest =
          l.1.toList ++ '=' :: '"' :: (labelTable.escape l.2.toList ++
            '"' :: ',' :: (labelText (l' :: labels) ++ '\x7d' :: rest)) := by
        rw [labelText_cons_cons]
        simp
      have hfuel' : (l' :: labels).length ≤ fuel := by simp at hfuel ⊢; omega
      have hmore := ih (by simp) (fun m hm => hkeys m (List.mem_cons_of_mem _ hm)) hfuel'
      rw [htext, readLabels, splitOnce_append hkey]
      simp only [hread, hmore]
      rfl

/-- A name or a key of a label without signs of the format. -/
structure IsPlain (name : String) : Prop where
  no_space : ' ' ∉ name.toList
  no_brace : '\x7b' ∉ name.toList
  no_break : '\n' ∉ name.toList
  no_equals : '=' ∉ name.toList
  no_hash : name.toList.head? ≠ some '#'
  nonempty : name.toList ≠ []

/-- The name of a line ends where it is meant to. -/
theorem span_name {name : String} (h : IsPlain name) {c : Char} (hc : c = ' ' ∨ c = '\x7b')
    (rest : List Char) :
    (name.toList ++ c :: rest).takeWhile (fun c => decide (c ≠ ' ' ∧ c ≠ '\x7b')) = name.toList ∧
    (name.toList ++ c :: rest).dropWhile (fun c => decide (c ≠ ' ' ∧ c ≠ '\x7b')) =
      c :: rest := by
  have hname : ∀ d ∈ name.toList, decide (d ≠ ' ' ∧ d ≠ '\x7b') = true := by
    intro d hd
    refine decide_eq_true ⟨?_, ?_⟩
    · rintro rfl
      exact h.no_space hd
    · rintro rfl
      exact h.no_brace hd
  have hstop : decide (c ≠ ' ' ∧ c ≠ '\x7b') = false := by
    rcases hc with rfl | rfl <;> decide
  constructor
  · rw [List.takeWhile_append_of_pos hname, List.takeWhile_cons, hstop]
    exact List.append_nil _
  · rw [List.dropWhile_append_of_pos hname, List.dropWhile_cons, hstop]
    rfl

/-- A line of a series does not begin like a comment. -/
theorem head?_append_of_plain {name : String} (h : IsPlain name) (rest : List Char) :
    (name.toList ++ rest).head? ≠ some '#' := by
  rw [List.head?_append_of_ne_nil _ h.nonempty]
  exact h.no_hash

/-- The text has a character at least for each label. -/
theorem length_le_labelText (labels : Labels) : labels.length ≤ (labelText labels).length := by
  induction labels with
  | nil => exact Nat.zero_le _
  | cons l labels ih =>
    cases labels with
    | nil =>
      rw [labelText_singleton]
      simp only [List.length_append, List.length_cons]
      omega
    | cons l' labels =>
      rw [labelText_cons_cons]
      simp only [List.length_cons, List.length_append] at ih ⊢
      omega

/-- A line is read back. -/
theorem readSample_sampleLine {name : String} (hname : IsPlain name) {labels : Labels}
    (hkeys : ∀ l ∈ labels, IsPlain l.1) (value : String) :
    readSample (sampleLine name labels value) = some (sampleOf name labels value) := by
  by_cases hlabels : labels = []
  · subst hlabels
    obtain ⟨htake, hdrop⟩ := span_name hname (c := ' ') (.inl rfl) value.toList
    have hline : sampleLine name [] value = name.toList ++ ' ' :: value.toList := rfl
    unfold readSample
    rw [hline, if_neg (head?_append_of_plain hname _)]
    simp only [htake, hdrop]
    rfl
  · have hline : sampleLine name labels value =
        name.toList ++ '\x7b' :: (labelText labels ++ '\x7d' :: ' ' :: value.toList) :=
      if_neg hlabels
    obtain ⟨htake, hdrop⟩ := span_name hname (c := '\x7b') (.inr rfl)
      (labelText labels ++ '\x7d' :: ' ' :: value.toList)
    have hlength : labels.length ≤ (sampleLine name labels value).length := by
      have hle := length_le_labelText labels
      rw [hline]
      simp only [List.length_cons, List.length_append]
      omega
    have hread := readLabels_labelText hlabels (fun l hl => (hkeys l hl).no_equals)
      (' ' :: value.toList) hlength
    unfold readSample
    rw [hline] at hread ⊢
    rw [if_neg (head?_append_of_plain hname _)]
    simp only [htake, hdrop, hread]
    rfl

/-- A line has no line break in it, whatever its label values are. -/
theorem no_break_sampleLine {name : String} (hname : IsPlain name) {labels : Labels}
    (hkeys : ∀ l ∈ labels, IsPlain l.1) {value : String} (hvalue : '\n' ∉ value.toList) :
    '\n' ∉ sampleLine name labels value := by
  have hlabels : ∀ l : Labels, (∀ e ∈ l, IsPlain e.1) → '\n' ∉ labelText l := by
    intro l
    have hescape : ∀ v : String, '\n' ∉ labelTable.escape v.toList := fun v =>
      EscapeTable.notMem_escape (by decide) (by decide) (by decide) _
    induction l with
    | nil => exact fun _ => List.not_mem_nil
    | cons a l ih =>
      intro hplain
      have hkey := (hplain a (List.mem_cons_self ..)).no_break
      cases l with
      | nil =>
        rw [labelText_singleton]
        simp [hkey, hescape]
      | cons b l =>
        have hrest := ih fun e he => hplain e (List.mem_cons_of_mem _ he)
        rw [labelText_cons_cons]
        simp [hkey, hescape, hrest]
  unfold sampleLine
  split
  · simp [hname.no_break, hvalue]
  · simp [hname.no_break, hvalue, hlabels labels hkeys]

/-! ### The whole text -/

/-- Every name and every label key is plain. -/
def Plain (m : Metrics) : Prop :=
  ∀ e ∈ m.counters.entries ++ m.gauges.entries, IsPlain e.1.1 ∧ ∀ l ∈ e.1.2, IsPlain l.1

/-- The series that the text has for a name: those of the gauges, if there is one. -/
def tableOf (m : Metrics) (kind : MetricKind) : Dict (String × Labels) Int :=
  match kind with
  | .counter => m.counters
  | .gauge => m.gauges

/-- The series of a name are those of the table. -/
theorem mem_seriesOf {table : Dict (String × Labels) Int} {name : String} {labels : Labels}
    {value : Int} :
    (labels, value) ∈ seriesOf table name ↔ table.get? (name, labels) = some value := by
  rw [Dict.get?_eq_some_iff, seriesOf, List.mem_mergeSort, List.mem_map]
  constructor
  · rintro ⟨⟨⟨name', labels'⟩, value'⟩, hmem, heq⟩
    obtain ⟨hentry, hname⟩ := List.mem_filter.mp hmem
    obtain rfl : name' = name := of_decide_eq_true hname
    cases heq
    exact hentry
  · intro hentry
    exact ⟨((name, labels), value), List.mem_filter.mpr ⟨hentry, decide_eq_true rfl⟩, rfl⟩

/-- The name and the keys of a series are plain. -/
theorem plain_series {m : Metrics} (hplain : Plain m) {kind : MetricKind} {name : String}
    {series : Labels × Int} (h : series ∈ seriesOf (tableOf m kind) name) :
    IsPlain name ∧ ∀ l ∈ series.1, IsPlain l.1 := by
  obtain ⟨labels, value⟩ := series
  have hentry := (Dict.get?_eq_some_iff _ _ _).mp (mem_seriesOf.mp h)
  cases kind with
  | counter => exact hplain _ (List.mem_append_left _ hentry)
  | gauge => exact hplain _ (List.mem_append_right _ hentry)

/-- The lines of a name, read. -/
theorem filterMap_metricLines {str : Int → String} {m : Metrics} (hplain : Plain m)
    (name : String) (kind : MetricKind) :
    (metricLines str m name kind).filterMap readSample =
      (seriesOf (tableOf m kind) name).map fun s => sampleOf name s.1 (str s.2) := by
  have hcomment : ∀ text : String, text.toList.head? = some '#' →
      readSample text.toList = none := fun text h => if_pos h
  have hlines : metricLines str m name kind =
      ("# HELP " ++ name ++ " " ++ (helpTexts.get? name).getD "").toList ::
        ("# TYPE " ++ name ++ " " ++ kind.text).toList ::
        (seriesOf (tableOf m kind) name).map fun s => sampleLine name s.1 (str s.2) := by
    cases kind <;> rfl
  rw [hlines, List.filterMap_cons_none (hcomment _ (by simp)),
    List.filterMap_cons_none (hcomment _ (by simp)), List.filterMap_map, ← List.filterMap_eq_map]
  refine List.filterMap_congr fun s hs => ?_
  obtain ⟨hname, hkeys⟩ := plain_series hplain hs
  exact readSample_sampleLine hname hkeys _

/-- No line of a name has a line break. -/
theorem no_break_metricLines {str : Int → String} (hstr : ∀ n, '\n' ∉ (str n).toList)
    {m : Metrics} (hplain : Plain m) {name : String} (hname : '\n' ∉ name.toList)
    (kind : MetricKind) : ∀ line ∈ metricLines str m name kind, '\n' ∉ line := by
  have hhelp : '\n' ∉ ((helpTexts.get? name).getD "").toList := by
    have hall : ∀ e ∈ helpTexts.entries, '\n' ∉ e.2.toList := by decide +kernel
    cases hget : helpTexts.get? name with
    | none => exact List.not_mem_nil
    | some text => exact hall _ ((Dict.get?_eq_some_iff _ _ _).mp hget)
  have hkind : '\n' ∉ kind.text.toList := by cases kind <;> decide
  intro line hline
  rcases List.mem_cons.mp hline with rfl | hline
  · simp [hname, hhelp]
  · rcases List.mem_cons.mp hline with rfl | hline
    · simp [hname, hkind]
    · obtain ⟨series, hseries, rfl⟩ := List.mem_map.mp hline
      have htable : series ∈ seriesOf (tableOf m kind) name := by
        cases kind <;> exact hseries
      obtain ⟨hplainName, hkeys⟩ := plain_series hplain htable
      exact no_break_sampleLine hplainName hkeys (hstr _)

/-- What is read from lines without line breaks is read from each of them. -/
theorem readExposition_lines {lines : List (List Char)} (h : ∀ line ∈ lines, '\n' ∉ line) :
    readExposition (String.ofList (['\n'].intercalate lines ++ ['\n'])) =
      lines.filterMap readSample := by
  have hempty : readSample [] = none := rfl
  unfold readExposition
  rw [String.toList_ofList, List.splitOn_append_cons_self, List.filterMap_append]
  by_cases hlines : lines = []
  · subst hlines
    rfl
  · rw [List.splitOn_intercalate _ h hlines]
    exact List.append_nil _

/-- The table has a series of this name. -/
def Names (table : Dict (String × Labels) Int) (name : String) : Prop :=
  ∃ labels, ((table.get? (name, labels)).isSome : Prop)

/-- A table names a metric when it has a series of it. -/
theorem names_iff {table : Dict (String × Labels) Int} {name : String} :
    Names table name ↔ ∃ e ∈ table.entries, e.1.1 = name := by
  constructor
  · rintro ⟨labels, h⟩
    obtain ⟨value, hvalue⟩ := Option.isSome_iff_exists.mp h
    exact ⟨_, (Dict.get?_eq_some_iff _ _ _).mp hvalue, rfl⟩
  · rintro ⟨⟨⟨name', labels⟩, value⟩, hmem, rfl⟩
    refine ⟨labels, ?_⟩
    rw [(Dict.get?_eq_some_iff _ _ _).mpr hmem]
    rfl

/-- The names of the counters, in the first pass. -/
theorem get?_counted {name : String} {kind : MetricKind} (l : List ((String × Labels) × Int))
    {d : Dict String MetricKind} (hd : ∀ k, d.get? name = some k → k = .counter) :
    (l.foldl (fun names e =>
      if (names.get? e.1.1).isSome then names else names.set e.1.1 .counter) d).get? name =
        some kind ↔ kind = .counter ∧ ((d.get? name).isSome ∨ ∃ e ∈ l, e.1.1 = name) := by
  induction l generalizing d with
  | nil =>
    rw [List.foldl_nil]
    cases hget : d.get? name with
    | none => simp
    | some k => simp [hd k hget, eq_comm]
  | cons e l ih =>
    rw [List.foldl_cons]
    simp only [List.mem_cons, exists_eq_or_imp]
    split
    case isTrue hsome =>
      rw [ih hd]
      by_cases heq : e.1.1 = name
      · simp [heq ▸ hsome]
      · simp [heq]
    case isFalse hsome =>
      have hset : ∀ k, (d.set e.1.1 .counter).get? name = some k → k = .counter := by
        intro k hk
        rw [Dict.get?_set] at hk
        split at hk
        · exact (Option.some.inj hk).symm
        · exact hd k hk
      rw [ih hset, Dict.get?_set]
      by_cases heq : e.1.1 = name
      · simp [heq]
      · simp [heq]

/-- The second pass, over the gauges. -/
theorem get?_gauged {name : String} {kind : MetricKind} (l : List ((String × Labels) × Int))
    (d : Dict String MetricKind) :
    (l.foldl (fun names e => names.set e.1.1 .gauge) d).get? name = some kind ↔
      (kind = .gauge ∧ ∃ e ∈ l, e.1.1 = name) ∨
        ((¬∃ e ∈ l, e.1.1 = name) ∧ d.get? name = some kind) := by
  induction l generalizing d with
  | nil => simp
  | cons e l ih =>
    rw [List.foldl_cons, ih, Dict.get?_set]
    simp only [List.mem_cons, exists_eq_or_imp]
    generalize (∃ e ∈ l, e.1.1 = name) = more
    by_cases heq : e.1.1 = name
    · by_cases hrest : more
      · simp [hrest]
      · simp [heq, hrest, eq_comm]
    · simp [heq]

/-- A name is a gauge if it has one, and else a counter. -/
theorem get?_metricKinds (m : Metrics) (name : String) (kind : MetricKind) :
    (metricKinds m).get? name = some kind ↔
      (kind = .gauge ∧ Names m.gauges name) ∨
        (kind = .counter ∧ ¬Names m.gauges name ∧ Names m.counters name) := by
  unfold metricKinds
  rw [get?_gauged, get?_counted _ (by simp), ← names_iff, ← names_iff, Dict.get?_empty]
  constructor
  · rintro (hgauge | ⟨hnone, hkind, hsome | hcounter⟩)
    · exact .inl hgauge
    · cases hsome
    · exact .inr ⟨hkind, hnone, hcounter⟩
  · rintro (hgauge | ⟨hkind, hnone, hcounter⟩)
    · exact .inl hgauge
    · exact .inr ⟨hnone, hkind, .inr hcounter⟩

/-- A series that the metrics show: a gauge hides the counters of its name. -/
def Shown (m : Metrics) (name : String) (labels : Labels) (value : Int) : Prop :=
  m.gauges.get? (name, labels) = some value ∨
    ¬Names m.gauges name ∧ m.counters.get? (name, labels) = some value

/-- A series is shown in the table of its kind. -/
theorem shown_iff {m : Metrics} {name : String} {labels : Labels} {value : Int} :
    Shown m name labels value ↔ ∃ kind, (metricKinds m).get? name = some kind ∧
      (labels, value) ∈ seriesOf (tableOf m kind) name := by
  have hnames : ∀ {table : Dict (String × Labels) Int},
      table.get? (name, labels) = some value → Names table name := by
    intro table h
    refine ⟨labels, ?_⟩
    rw [h]
    rfl
  constructor
  · rintro (hgauge | ⟨hnone, hcounter⟩)
    · exact ⟨.gauge, (get?_metricKinds ..).mpr (.inl ⟨rfl, hnames hgauge⟩),
        mem_seriesOf.mpr hgauge⟩
    · exact ⟨.counter, (get?_metricKinds ..).mpr (.inr ⟨rfl, hnone, hnames hcounter⟩),
        mem_seriesOf.mpr hcounter⟩
  · rintro ⟨kind, hkind, hseries⟩
    rcases (get?_metricKinds ..).mp hkind with ⟨rfl, -⟩ | ⟨rfl, hnone, -⟩
    · exact .inl (mem_seriesOf.mp hseries)
    · exact .inr ⟨hnone, mem_seriesOf.mp hseries⟩

/-- The series of plain metrics are read back. -/
theorem mem_readExposition {str : Int → String} (hstr : ∀ n, '\n' ∉ (str n).toList)
    {m : Metrics} (hplain : Plain m) (sample : Sample) :
    sample ∈ readExposition (formatPrometheus str m) ↔
      ∃ name labels value, Shown m name labels value ∧
        sample = sampleOf name labels (str value) := by
  have hname : ∀ name ∈ (metricKinds m).keys, '\n' ∉ name.toList := by
    intro name hmem
    obtain ⟨kind, hkind⟩ := Option.isSome_iff_exists.mp ((Dict.mem_keys_iff ..).mp hmem)
    rcases (get?_metricKinds ..).mp hkind with ⟨-, h⟩ | ⟨-, -, h⟩
    · obtain ⟨e, he, rfl⟩ := names_iff.mp h
      exact (hplain e (List.mem_append_right _ he)).1.no_break
    · obtain ⟨e, he, rfl⟩ := names_iff.mp h
      exact (hplain e (List.mem_append_left _ he)).1.no_break
  unfold formatPrometheus
  simp only
  rw [readExposition_lines]
  · rw [List.filterMap_flatMap, List.mem_flatMap]
    constructor
    · rintro ⟨name, hmem, hread⟩
      obtain ⟨kind, hkind⟩ := Option.isSome_iff_exists.mp
        ((Dict.mem_keys_iff ..).mp (List.mem_mergeSort.mp hmem))
      rw [hkind, Option.getD_some, filterMap_metricLines hplain] at hread
      obtain ⟨⟨labels, value⟩, hseries, rfl⟩ := List.mem_map.mp hread
      exact ⟨name, labels, value, shown_iff.mpr ⟨kind, hkind, hseries⟩, rfl⟩
    · rintro ⟨name, labels, value, hshown, rfl⟩
      obtain ⟨kind, hkind, hseries⟩ := shown_iff.mp hshown
      refine ⟨name, List.mem_mergeSort.mpr ((Dict.mem_keys_iff ..).mpr ?_), ?_⟩
      · rw [hkind]
        rfl
      · rw [hkind, Option.getD_some, filterMap_metricLines hplain]
        exact List.mem_map.mpr ⟨(labels, value), hseries, rfl⟩
  · intro line hline
    obtain ⟨name, hmem, hline⟩ := List.mem_flatMap.mp hline
    exact no_break_metricLines hstr hplain (hname name (List.mem_mergeSort.mp hmem)) _ line hline

/-! ### The metrics of a process -/

/-- The keys of the labels that `record_event` hands in. -/
def labelKeys : List String := ["status", "outcome", "source", "code"]

/-- A series of the catalog. -/
def Catalogued (series : String × Labels) : Prop :=
  series.1 ∈ catalog.map Prod.fst ∧ ∀ l ∈ series.2, l.1 ∈ labelKeys

/-- The series that a call is about. -/
def MetricsCall.series : MetricsCall → String × Labels
  | .inc name labels => (name, labels)
  | .addGauge name _ _ => (name, [])

/-- All series of the metrics are of the catalog. -/
def CataloguedMetrics (m : Metrics) : Prop :=
  ∀ e ∈ m.counters.entries ++ m.gauges.entries, Catalogued e.1

/-- The metrics of the catalogue are plain. -/
theorem plain_of_catalogued {m : Metrics} (h : CataloguedMetrics m) : Plain m := by
  have hnames : ∀ name ∈ catalog.map Prod.fst, IsPlain name := by
    intro name hname
    simp only [catalog, List.map_cons, List.map_nil, List.mem_cons, List.not_mem_nil,
      or_false] at hname
    rcases hname with rfl | rfl | rfl | rfl | rfl | rfl | rfl | rfl | rfl | rfl <;>
      exact ⟨by decide, by decide, by decide, by decide, by decide, by decide⟩
  have hkeys : ∀ key ∈ labelKeys, IsPlain key := by
    intro key hkey
    simp only [labelKeys, List.mem_cons, List.not_mem_nil, or_false] at hkey
    rcases hkey with rfl | rfl | rfl | rfl <;>
      exact ⟨by decide, by decide, by decide, by decide, by decide, by decide⟩
  exact fun e he => ⟨hnames _ (h e he).1, fun l hl => hkeys _ ((h e he).2 l hl)⟩

/-- A call of the catalogue keeps the metrics in it. -/
theorem catalogued_apply {m : Metrics} {call : MetricsCall} (h : CataloguedMetrics m)
    (hcall : Catalogued (MetricsCall.series call)) : CataloguedMetrics (call.apply m) := by
  intro e he
  rw [List.mem_append] at he
  cases call with
  | inc name labels =>
    rcases he with he | he
    · rcases Dict.mem_set he with heq | he
      · rw [heq]
        exact hcall
      · exact h e (List.mem_append_left _ he)
    · exact h e (List.mem_append_right _ he)
  | addGauge name delta floor =>
    rcases he with he | he
    · exact h e (List.mem_append_left _ he)
    · rcases Dict.mem_set he with heq | he
      · rw [heq]
        exact hcall
      · exact h e (List.mem_append_right _ he)

/-- All calls are about series of the catalog. -/
def CataloguedCalls (calls : List MetricsCall) : Prop :=
  ∀ call ∈ calls, Catalogued (MetricsCall.series call)

/-- A branch of calls of the catalogue. -/
theorem cataloguedCalls_ite {p : Prop} [Decidable p] {a b : List MetricsCall}
    (ha : CataloguedCalls a) (hb : CataloguedCalls b) : CataloguedCalls (if p then a else b) := by
  split
  · exact ha
  · exact hb

/-- The calls for the other events are of the catalogue. -/
theorem cataloguedCalls_otherCalls (e : MetricsEvent) : CataloguedCalls (otherCalls e) := by
  simp only [otherCalls]
  repeat' apply cataloguedCalls_ite
  all_goals
    cases e.hasCapability <;>
      simp [CataloguedCalls, Catalogued, MetricsCall.series, catalog, labelKeys]

/-- A code is a label value here, whatever text it is. -/
theorem cataloguedCalls_terminalCalls (e : MetricsEvent) (status : String) (started : Bool) :
    CataloguedCalls (terminalCalls e status started) := by
  have hend : Catalogued (runsTotal, [("status", status)]) := by
    simp [Catalogued, catalog, labelKeys]
  intro call hcall
  rcases List.mem_append.mp hcall with hcall | hcall
  · split at hcall
    · obtain rfl := List.mem_singleton.mp hcall
      simp [Catalogued, MetricsCall.series, catalog]
    · split at hcall
      · obtain rfl := List.mem_singleton.mp hcall
        simp [Catalogued, MetricsCall.series, catalog, labelKeys]
      · cases hcall
  · obtain rfl := List.mem_singleton.mp hcall
    exact hend

/-- An event changes no series by itself, and its calls are about the catalog. -/
theorem catalogued_recordEvent {m : Metrics} (h : CataloguedMetrics m) (e : MetricsEvent) :
    CataloguedMetrics (recordEvent m e).1 ∧ CataloguedCalls (recordEvent m e).2 := by
  have hup : CataloguedCalls [.addGauge runsActive 1 none] := by
    simp [CataloguedCalls, Catalogued, MetricsCall.series, catalog]
  have hnone : CataloguedCalls [] := fun _ hc => absurd hc List.not_mem_nil
  unfold recordEvent
  split
  · cases e.runId with
    | none => exact ⟨h, hup⟩
    | some runId =>
      simp only [Metrics.runStarted]
      split
      · exact ⟨h, hnone⟩
      · exact ⟨h, hup⟩
  · split
    · exact ⟨h, cataloguedCalls_otherCalls e⟩
    · exact ⟨h, cataloguedCalls_terminalCalls e _ _⟩
    · simp only [Metrics.runFinished]
      split
      · exact ⟨h, cataloguedCalls_terminalCalls e _ _⟩
      · exact ⟨h, cataloguedCalls_terminalCalls e _ _⟩

/-- The series are of the catalog, and so are those of the calls that are still to be made. -/
def CataloguedThreads (s : MetricsThreads) : Prop :=
  CataloguedMetrics s.metrics ∧ ∀ calls ∈ s.updating, CataloguedCalls calls

/-- Every step keeps the metrics in the catalogue. -/
theorem catalogued_step {s s' : MetricsThreads} {l : MetricsLabel} (h : CataloguedThreads s)
    (hstep : metricsStep s l = some s') : CataloguedThreads s' := by
  obtain ⟨hmetrics, hcalls⟩ := h
  cases l with
  | enter e =>
    cases hstep
    exact ⟨hmetrics, hcalls⟩
  | ask e =>
    simp only [metricsStep] at hstep
    split at hstep
    case isFalse => cases hstep
    case isTrue hmem =>
      cases hstep
      obtain ⟨hkept, hnew⟩ := catalogued_recordEvent hmetrics e
      refine ⟨hkept, fun calls hmem => ?_⟩
      rcases Multiset.mem_cons.mp hmem with rfl | hmem
      · exact hnew
      · exact hcalls calls hmem
  | update calls =>
    simp only [metricsStep] at hstep
    split at hstep
    case isFalse => cases hstep
    case isTrue hmem =>
      cases calls with
      | nil =>
        cases hstep
        exact ⟨hmetrics, fun calls hrest => hcalls calls (Multiset.mem_of_mem_erase hrest)⟩
      | cons call rest =>
        cases hstep
        have hall := hcalls _ hmem
        refine ⟨catalogued_apply hmetrics (hall call (List.mem_cons_self ..)), ?_⟩
        intro calls hrest
        rcases Multiset.mem_cons.mp hrest with rfl | hrest
        · exact fun c hc => hall c (List.mem_cons_of_mem _ hc)
        · exact hcalls calls (Multiset.mem_of_mem_erase hrest)

/-- The registered metrics, and no event yet. -/
def registeredThreads : MetricsThreads := { MetricsThreads.new with metrics := .registered }

/-- In every state that events can reach, the series that are read from the text are those that
the metrics show, with their values. -/
theorem exposition_reads_back {str : Int → String} (hstr : ∀ n, '\n' ∉ (str n).toList)
    {s : MetricsThreads} (hrun : Reach metricsStep anyStep registeredThreads s)
    (sample : Sample) :
    sample ∈ readExposition (formatPrometheus str s.metrics) ↔
      ∃ name labels value, Shown s.metrics name labels value ∧
        sample = sampleOf name labels (str value) := by
  have hstart : CataloguedThreads registeredThreads := by
    refine ⟨?_, fun calls h => absurd h (Multiset.notMem_zero _)⟩
    have hall : ∀ e ∈ Metrics.registered.counters.entries ++ Metrics.registered.gauges.entries,
        e.1.1 ∈ catalog.map Prod.fst ∧ e.1.2 = [] := by decide +kernel
    intro e he
    refine ⟨(hall e he).1, fun l hl => ?_⟩
    rw [(hall e he).2] at hl
    cases hl
  have hreached := hrun.invariant (fun _ _ _ h _ hstep => catalogued_step h hstep) hstart
  exact mem_readExposition hstr (plain_of_catalogued hreached.1) sample

/-- The text of a float with a whole value. -/
def floatText (n : Int) : String := toString n ++ ".0"

/-- A run is refused with a code that has a quote and a line break in it. -/
def refusedEvent : MetricsEvent :=
  { type := "run.failed", runId := some "run", code := some "a\"\nb", hasCapability := false }

/-- The text of a value has no line break. -/
theorem no_break_floatText (n : Int) : '\n' ∉ (floatText n).toList := by
  have hdigits : ∀ k : Nat, '\n' ∉ (toString k).toList := by
    intro k h
    rw [Nat.toString_eq_ofList_toDigits, String.toList_ofList] at h
    exact absurd (Nat.isDigit_of_mem_toDigits (by decide) (by decide) h) (by decide)
  have hnumber : '\n' ∉ (toString n).toList := by
    cases n with
    | ofNat k => exact hdigits k
    | negSucc k =>
      show '\n' ∉ ("-" ++ toString (k + 1)).toList
      rw [String.toList_append, List.mem_append]
      exact not_or.mpr ⟨by decide, hdigits (k + 1)⟩
  unfold floatText
  rw [String.toList_append, List.mem_append]
  exact not_or.mpr ⟨hnumber, by decide⟩

/-- The series of this code is read back. -/
theorem exposition_reads_back_hostile_code :
    ∃ s, Reach metricsStep anyStep registeredThreads s ∧
      sampleOf runsRefusedTotal [("code", "a\"\nb")] "1.0" ∈
        readExposition (formatPrometheus floatText s.metrics) := by
  have heval : (exec metricsStep anyStep registeredThreads
      [.enter refusedEvent, .ask refusedEvent,
       .update [.inc runsRefusedTotal [("code", "a\"\nb")], .inc runsTotal [("status", "failed")]]
      ]).map (fun s => (s.metrics.counters.get? (runsRefusedTotal, [("code", "a\"\nb")]),
        s.metrics.gauges.size)) = some (some 1, 0) := by
    decide +kernel
  obtain ⟨s, hrun, hread⟩ := exists_reach_of_exec heval
  obtain ⟨hcounter, hgauges⟩ := Prod.mk.inj hread
  refine ⟨s, hrun, (exposition_reads_back no_break_floatText hrun _).mpr
    ⟨runsRefusedTotal, [("code", "a\"\nb")], 1, .inr ⟨?_, hcounter⟩, by decide⟩⟩
  rw [names_iff, List.eq_nil_of_length_eq_zero hgauges]
  simp

end AitpPlayground.Proofs.Observability
