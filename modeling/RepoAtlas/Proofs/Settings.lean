import RepoAtlas.Proofs.Data.Entries
import RepoAtlas.Proofs.Data.Except
import RepoAtlas.Proofs.Data.Writable
import RepoAtlas.Run.Plan

/-!
# What settings are accepted

Settings are accepted or refused.  **What is accepted makes sense** (`Accepts`): there is a worker,
each number is one that was given, and a run does not object to the budget or to the workers.  Each
of the settings is looked at on its own, and the results are put together as the settings are.

Two things slip through.  A budget that is not a number is neither zero nor less than zero, so it is
accepted (`budgets_need_not_be_numbers`).  And a value may be of the right kind and still not be
converted: an integer beyond the range of the format, an integer that is too long to be written, and
a log file for which there is no place end the reading of the settings in an error that is not a
refusal.  `Breaks` lists these: there are no others (`failsOnly_ofNode`), and with one of them
nothing is accepted (`IsReadFrom.not_breaks`).

What a text says in YAML and which place a name has is up to others, and nothing is assumed of them.
-/

namespace RepoAtlas

open List Yaml
open Text (RawText)

namespace Settings

variable {data value : Node} {given : Option Node} {settings : Settings} {e : SettingsError}
  {placeOf : RawText → Except PlaceFault String}

/-! ## What is given -/

def budgetGiven (data : Node) : Option Node := given? (sectionOf data "analysis") "time_budget"

/-- The entries of a section. -/
def entriesOf : Node → List (Scalar × Node)
  | .dict entries => entries
  | _ => []

def weightsGiven (data : Node) : List (Scalar × Node) :=
  entriesOf (sectionOf (sectionOf data "entrypoints") "weights")

def itemsOf : Node → List Node
  | .list items => items
  | _ => []

def logFileGiven (data : Node) : Option Node := given? (sectionOf data "logging") "file"

/-- Everything that stands where a text is expected. -/
def textsGiven (data : Node) : List Node :=
  itemsOf (((sectionOf data "analysis").get? "exclude_paths").getD (.scalar .null)) ++
    itemsOf (((sectionOf data "rules").get? "enabled").getD (.scalar .null)) ++
    (given? (sectionOf data "output") "format").toList ++
    (given? (sectionOf data "logging") "level").toList ++ (logFileGiven data).toList

/-- Why reading settings ends in an error that is not a refusal. -/
inductive Breaks (placeOf : RawText → Except PlaceFault String) (data : Node) :
    SettingsError → Prop
  /-- An integer stands for a number, and `2 ^ 1024` is as near to its size as any number in
  range. -/
  | tooLarge (n : ℤ) (hgiven : budgetGiven data = some (.scalar (.int n)) ∨
      ∃ name, (name, .scalar (.int n)) ∈ weightsGiven data)
      (hrange : 2 ^ 1024 ≤ n.natAbs + 2 ^ 970) : Breaks placeOf data (.tooLarge n)
  /-- An integer stands for a text or names a weight, and has more digits than are written. -/
  | tooLong (n : ℤ) (hgiven : .scalar (.int n) ∈ textsGiven data ∨
      ∃ weight, (.int n, weight) ∈ weightsGiven data)
      (hlong : 10 ^ Numeral.maxDigits ≤ n.natAbs) : Breaks placeOf data (.tooLong n)
  /-- There is no place for a file with the name that is given for the log file. -/
  | badLogFile (name : RawText) (fault : PlaceFault)
      (hgiven : textGiven? (logFileGiven data) = .ok (some name)) (hname : name.points ≠ [])
      (hplace : placeOf name = .error fault) : Breaks placeOf data (.badLogFile fault)

/-- An error that is a refusal, or has one of the causes that are not. -/
def Explained (placeOf : RawText → Except PlaceFault String) (data : Node) (e : SettingsError) :
    Prop :=
  e.isRefusal = true ∨ Breaks placeOf data e

/-- Settings that make sense, and what they were read from. -/
structure Accepts (placeOf : RawText → Except PlaceFault String) (data : Node)
    (settings : Settings) : Prop where
  unbroken : ∀ e, ¬ Breaks placeOf data e
  budget_none_iff : settings.timeBudget = none ↔ budgetGiven data = none
  budget : ∀ budget ∈ settings.timeBudget,
    (∃ value ∈ budgetGiven data, numberOf? value = .ok (some budget)) ∧
      ((0 : Binary64).less budget = true ∨ budget = .nan)
  workers : 1 ≤ settings.workers
  weights : ∀ entry ∈ settings.weights, ∃ given ∈ weightsGiven data,
    given.1.text = entry.1 ∧ numberOf? given.2 = .ok (some entry.2)
  format : settings.format.label ∈ ["json", "yaml"]
  logLevel : ∀ level ∈ settings.logLevel, level.label ∈ ["DEBUG", "INFO", "WARNING", "ERROR"]
  plan : ∀ plugins, FailsOnly (fun e => e ≠ .negativeBudget ∧ e ≠ .noWorkers)
    (Plan.ofOptions plugins settings.options)

/-! ## Values -/

lemma failsOnly_numberOf? (h : ∀ n, value = .scalar (.int n) →
      2 ^ 1024 ≤ n.natAbs + 2 ^ 970 → Explained placeOf data (.tooLarge n)) :
    FailsOnly (Explained placeOf data) (numberOf? value) := by
  unfold numberOf?
  split
  · exact .ok _
  · rename_i n
    split_ifs with hfinite
    · exact .ok _
    · rw [Binary64.isFinite_ofInt_iff, not_lt] at hfinite
      exact .error (h n rfl hfinite)
  · exact .ok _
  · exact .ok _

lemma lt_of_numberOf?_int {n : ℤ} {number : Option Binary64}
    (h : numberOf? (.scalar (.int n)) = .ok number) : n.natAbs + 2 ^ 970 < 2 ^ 1024 := by
  simp only [numberOf?] at h
  split_ifs at h with hfinite
  exact (Binary64.isFinite_ofInt_iff n).1 hfinite

lemma failsOnly_written {s : Scalar} (h : ∀ n, s = .int n → 10 ^ Numeral.maxDigits ≤ n.natAbs →
    Explained placeOf data (.tooLong n)) : FailsOnly (Explained placeOf data) (written s) := by
  unfold written
  split
  · exact .ok _
  · rename_i n
    split_ifs with hwritable
    · exact .ok _
    · rw [Numeral.isWritable_iff, not_lt] at hwritable
      exact .error (h n rfl hwritable)
  · exact .ok _

lemma lt_of_written_int {n : ℤ} {t : RawText} (h : written (.int n) = .ok t) :
    n.natAbs < 10 ^ Numeral.maxDigits := by
  simp only [written] at h
  split_ifs at h with hwritable
  exact Numeral.isWritable_iff.1 hwritable

lemma failsOnly_textOf? (h : value ∈ textsGiven data) :
    FailsOnly (Explained placeOf data) (textOf? value) := by
  unfold textOf?
  split
  · exact .ok _
  · exact .ok _
  · refine FailsOnly.map_iff.2 (failsOnly_written ?_)
    rintro n rfl hlong
    exact Or.inr (.tooLong n (Or.inl h) hlong)
  · exact .ok _

lemma lt_of_textOf?_int {n : ℤ} {text : Option RawText}
    (h : textOf? (.scalar (.int n)) = .ok text) :
    n.natAbs < 10 ^ Numeral.maxDigits := by
  simp only [textOf?] at h
  obtain ⟨t, ht, -⟩ := map_eq_ok.1 h
  exact lt_of_written_int ht

lemma failsOnly_textGiven? (h : ∀ value ∈ given, value ∈ textsGiven data) :
    FailsOnly (Explained placeOf data) (textGiven? given) := by
  cases given with
  | none => exact .ok none
  | some value => exact failsOnly_textOf? (h value rfl)

lemma failsOnly_textsOf (h : ∀ item ∈ itemsOf value, item ∈ textsGiven data) :
    FailsOnly (Explained placeOf data) (textsOf value) := by
  unfold textsOf
  split
  · exact .ok _
  · exact FailsOnly.map_iff.2 (.mapM fun item hitem => failsOnly_textOf? (h item hitem))
  · exact .ok _

lemma exists_textOf?_of_textsOf {texts : List String} (h : textsOf value = .ok texts) :
    ∀ item ∈ itemsOf value, ∃ text, textOf? item = .ok text := by
  cases value with
  | list items =>
      obtain ⟨results, hresults, -⟩ := map_eq_ok.1 h
      exact exists_eq_ok_of_mapM hresults
  | _ => simp [itemsOf]

/-! ## The settings one by one -/

lemma failsOnly_timeBudgetOf (data : Node) :
    FailsOnly (Explained placeOf data) (timeBudgetOf (budgetGiven data)) := by
  cases hgiven : budgetGiven data with
  | none => exact .ok none
  | some value =>
      have hnumber : FailsOnly (Explained placeOf data) (numberOf? value) := by
        refine failsOnly_numberOf? ?_
        rintro n rfl hrange
        exact Or.inr (.tooLarge n (Or.inl hgiven) hrange)
      refine hnumber.bind fun number _ => ?_
      cases number with
      | none => exact .error (Or.inl rfl)
      | some budget =>
          dsimp only
          split_ifs
          · exact .error (Or.inl rfl)
          · exact .ok _

lemma of_timeBudgetOf {budget : Option Binary64} (h : timeBudgetOf given = .ok budget) :
    (budget = none ↔ given = none) ∧ ∀ x ∈ budget,
      (∃ value ∈ given, numberOf? value = .ok (some x)) ∧ x.less 0 = false ∧
        ((0 : Binary64).less x = true ∨ x = .nan) := by
  cases given with
  | none =>
      cases h
      simp
  | some value =>
      obtain ⟨number, hnumber, h⟩ := bind_eq_ok.1 h
      cases number with
      | none => cases h
      | some x =>
          dsimp only at h
          split_ifs at h with hpositive
          cases h
          rw [Bool.or_eq_true, not_or, Bool.not_eq_true, Bool.not_eq_true] at hpositive
          simp [hnumber, hpositive.1, Binary64.zero_less_or_eq_nan hpositive.1 hpositive.2]

lemma failsOnly_workersOf (data : Node) (given : Option Node) :
    FailsOnly (Explained placeOf data) (workersOf given) := by
  unfold workersOf
  split
  · exact .ok _
  · split
    · split_ifs
      · exact .error (Or.inl rfl)
      · exact .ok _
    · exact .error (Or.inl rfl)

lemma one_le_workersOf {workers : ℕ} (h : workersOf given = .ok workers) : 1 ≤ workers := by
  unfold workersOf at h
  split at h
  · cases h
    decide
  · split at h
    · split_ifs at h with hpositive
      cases h
      omega
    · cases h

lemma failsOnly_weightOf {entry : Scalar × Node} (h : entry ∈ weightsGiven data) :
    FailsOnly (Explained placeOf data) (weightOf entry) := by
  obtain ⟨key, value⟩ := entry
  refine FailsOnly.bind (failsOnly_numberOf? ?large) fun number _ =>
    FailsOnly.bind (failsOnly_written ?long) fun name _ => ?_
  case large =>
    rintro n rfl hrange
    exact Or.inr (.tooLarge n (Or.inr ⟨key, h⟩) hrange)
  case long =>
    rintro n rfl hlong
    exact Or.inr (.tooLong n (Or.inr ⟨value, h⟩) hlong)
  cases number with
  | none => exact .error (Or.inl rfl)
  | some weight => exact .ok _

lemma failsOnly_weightsOf (data : Node) : FailsOnly (Explained placeOf data)
    (weightsOf (sectionOf (sectionOf data "entrypoints") "weights")) := by
  have hgiven : ∀ entry ∈ weightsGiven data, FailsOnly (Explained placeOf data) (weightOf entry) :=
    fun entry hentry => failsOnly_weightOf hentry
  unfold weightsOf
  split
  · rename_i entries hentries
    rw [weightsGiven, hentries] at hgiven
    exact FailsOnly.map_iff.2 (.mapM hgiven)
  · exact .ok _

lemma shown_of_written {s : Scalar} {t : RawText} (h : written s = .ok t) : t.shown = s.text := by
  unfold written at h
  split at h
  · cases h
    rfl
  · split_ifs at h
    cases h
    exact RawText.shown_ofString _
  · cases h
    exact RawText.shown_ofString _

/-- A weight that is accepted is a number, and its name could be written. -/
lemma of_weightOf {entry : Scalar × Node} {weight : String × Binary64}
    (h : weightOf entry = .ok weight) : (∃ name, written entry.1 = .ok name) ∧
      entry.1.text = weight.1 ∧ numberOf? entry.2 = .ok (some weight.2) := by
  obtain ⟨number, hnumber, h⟩ := bind_eq_ok.1 h
  obtain ⟨name, hname, h⟩ := bind_eq_ok.1 h
  cases number with
  | none => cases h
  | some x =>
      cases h
      exact ⟨⟨name, hname⟩, (shown_of_written hname).symm, hnumber⟩

lemma of_weightsOf {weights : List (String × Binary64)} (h : weightsOf value = .ok weights) :
    (∀ entry ∈ entriesOf value, ∃ weight, weightOf entry = .ok weight) ∧
      ∀ weight ∈ weights, ∃ entry ∈ entriesOf value, weightOf entry = .ok weight := by
  cases value with
  | dict entries =>
      obtain ⟨pairs, hpairs, rfl⟩ := map_eq_ok.1 h
      refine ⟨exists_eq_ok_of_mapM hpairs, fun weight hweight => ?_⟩
      exact exists_of_mem_mapM hpairs weight (Entries.ofPairs_subset pairs hweight)
  | _ =>
      cases h
      simp [entriesOf]

lemma failsOnly_choiceOf {α : Type} {ofName? : String → Option α} {refusal : SettingsError}
    (hrefusal : refusal.isRefusal = true) (h : ∀ value ∈ given, value ∈ textsGiven data) :
    FailsOnly (Explained placeOf data) (choiceOf ofName? refusal given) := by
  refine (failsOnly_textGiven? h).bind fun name _ => ?_
  split
  · exact .ok _
  · split
    · exact .ok _
    · exact .error (Or.inl hrefusal)

lemma exists_textGiven?_of_choiceOf {α : Type} {ofName? : String → Option α}
    {refusal : SettingsError} {choice : Option α}
    (h : choiceOf ofName? refusal given = .ok choice) :
    ∃ text, textGiven? given = .ok text := by
  obtain ⟨text, htext, -⟩ := bind_eq_ok.1 h
  exact ⟨text, htext⟩

lemma failsOnly_formatOf (h : ∀ value ∈ given, value ∈ textsGiven data) :
    FailsOnly (Explained placeOf data) (formatOf given) :=
  FailsOnly.map_iff.2 (failsOnly_choiceOf rfl h)

lemma failsOnly_logFileOf (data : Node) :
    FailsOnly (Explained placeOf data) (logFileOf placeOf (logFileGiven data)) := by
  have htext : ∀ value ∈ logFileGiven data, value ∈ textsGiven data := by
    intro value hvalue
    simp [textsGiven, Option.mem_toList.2 hvalue]
  refine (failsOnly_textGiven? htext).bind fun name hname => ?_
  split
  · exact .ok _
  · rename_i text
    split_ifs with hempty
    · exact .ok _
    · split
      · exact .ok _
      · rename_i fault hfault
        exact .error (Or.inr (.badLogFile text fault hname hempty hfault))

/-- There is a place for the log file of settings that are accepted. -/
lemma placeOf_ne_error_of_logFileOf {logFile : Option String} {name : RawText} {fault : PlaceFault}
    (h : logFileOf placeOf given = .ok logFile) (hgiven : textGiven? given = .ok (some name))
    (hname : name.points ≠ []) : placeOf name ≠ .error fault := by
  obtain ⟨text, htext, h⟩ := bind_eq_ok.1 h
  rw [hgiven] at htext
  cases htext
  intro hfault
  simp only [hname, if_false, hfault] at h
  cases h

/-! ## All settings -/

/-- What each of the settings was read from. -/
structure IsReadFrom (placeOf : RawText → Except PlaceFault String) (data : Node)
    (settings : Settings) : Prop where
  timeBudget : timeBudgetOf (budgetGiven data) = .ok settings.timeBudget
  workers : workersOf (given? (sectionOf data "analysis") "max_workers") = .ok settings.workers
  excludePaths : textsOf (((sectionOf data "analysis").get? "exclude_paths").getD (.scalar .null)) =
    .ok settings.excludePaths
  rules : textsOf (((sectionOf data "rules").get? "enabled").getD (.scalar .null)) =
    .ok settings.rules
  weights : weightsOf (sectionOf (sectionOf data "entrypoints") "weights") = .ok settings.weights
  format : formatOf (given? (sectionOf data "output") "format") = .ok settings.format
  logLevel : logLevelOf (given? (sectionOf data "logging") "level") = .ok settings.logLevel
  logFile : logFileOf placeOf (logFileGiven data) = .ok settings.logFile

lemma isReadFrom_of_ofNode (h : ofNode placeOf data = .ok settings) :
    IsReadFrom placeOf data settings := by
  unfold ofNode at h
  obtain ⟨timeBudget, htimeBudget, h⟩ := bind_eq_ok.1 h
  obtain ⟨workers, hworkers, h⟩ := bind_eq_ok.1 h
  obtain ⟨excludePaths, hexcludePaths, h⟩ := bind_eq_ok.1 h
  obtain ⟨rules, hrules, h⟩ := bind_eq_ok.1 h
  obtain ⟨weights, hweights, h⟩ := bind_eq_ok.1 h
  obtain ⟨format, hformat, h⟩ := bind_eq_ok.1 h
  obtain ⟨logLevel, hlogLevel, h⟩ := bind_eq_ok.1 h
  obtain ⟨logFile, hlogFile, h⟩ := bind_eq_ok.1 h
  cases h
  exact ⟨htimeBudget, hworkers, hexcludePaths, hrules, hweights, hformat, hlogLevel, hlogFile⟩

/-- Whatever was given as a text could be written. -/
lemma IsReadFrom.exists_text (h : IsReadFrom placeOf data settings) :
    ∀ value ∈ textsGiven data, ∃ text, textOf? value = .ok text := by
  intro value hvalue
  simp only [textsGiven, mem_append, Option.mem_toList] at hvalue
  rcases hvalue with (((hpath | hrule) | hformat) | hlevel) | hfile
  · exact exists_textOf?_of_textsOf h.excludePaths value hpath
  · exact exists_textOf?_of_textsOf h.rules value hrule
  · obtain ⟨choice, hchoice, -⟩ := map_eq_ok.1 h.format
    rw [hformat] at hchoice
    exact exists_textGiven?_of_choiceOf hchoice
  · have hchoice := h.logLevel
    rw [hlevel] at hchoice
    exact exists_textGiven?_of_choiceOf hchoice
  · obtain ⟨text, htext, -⟩ := bind_eq_ok.1 h.logFile
    rw [hfile] at htext
    exact ⟨text, htext⟩

/-- **What breaks the reading is nowhere accepted.** -/
lemma IsReadFrom.not_breaks (h : IsReadFrom placeOf data settings) (e : SettingsError) :
    ¬ Breaks placeOf data e := by
  intro hbreaks
  have hweights := (of_weightsOf h.weights).1
  cases hbreaks with
  | tooLarge n hgiven hrange =>
      rcases hgiven with hbudget | ⟨name, hentry⟩
      · have htimeBudget := h.timeBudget
        rw [hbudget] at htimeBudget
        obtain ⟨number, hnumber, -⟩ := bind_eq_ok.1 htimeBudget
        exact absurd (lt_of_numberOf?_int hnumber) (not_lt.2 hrange)
      · obtain ⟨weight, hweight⟩ := hweights _ hentry
        exact absurd (lt_of_numberOf?_int (of_weightOf hweight).2.2) (not_lt.2 hrange)
  | tooLong n hgiven hlong =>
      rcases hgiven with htext | ⟨value, hentry⟩
      · obtain ⟨text, htext⟩ := h.exists_text _ htext
        exact absurd (lt_of_textOf?_int htext) (not_lt.2 hlong)
      · obtain ⟨weight, hweight⟩ := hweights _ hentry
        obtain ⟨name, hname⟩ := (of_weightOf hweight).1
        exact absurd (lt_of_written_int hname) (not_lt.2 hlong)
  | badLogFile name fault hgiven hname hplace =>
      exact placeOf_ne_error_of_logFileOf h.logFile hgiven hname hplace

/-- **Every error is explained.** -/
lemma failsOnly_ofNode (data : Node) :
    FailsOnly (Explained placeOf data) (ofNode placeOf data) := by
  unfold ofNode
  refine (failsOnly_timeBudgetOf data).bind fun _ _ => ?_
  refine (failsOnly_workersOf data _).bind fun _ _ => ?_
  refine (failsOnly_textsOf fun item hitem => ?_).bind fun _ _ => ?_
  · simp [textsGiven, hitem]
  refine (failsOnly_textsOf fun item hitem => ?_).bind fun _ _ => ?_
  · simp [textsGiven, hitem]
  refine (failsOnly_weightsOf data).bind fun _ _ => ?_
  refine (failsOnly_formatOf fun value hvalue => ?_).bind fun _ _ => ?_
  · simp [textsGiven, Option.mem_toList.2 hvalue]
  refine (failsOnly_choiceOf rfl fun value hvalue => ?_).bind fun _ _ => ?_
  · simp [textsGiven, Option.mem_toList.2 hvalue]
  exact (failsOnly_logFileOf data).bind fun _ _ => .ok _

lemma label_mem_formats (format : Format) : format.label ∈ ["json", "yaml"] := by
  cases format <;> decide

lemma label_mem_levels (level : LogLevel) :
    level.label ∈ ["DEBUG", "INFO", "WARNING", "ERROR"] := by
  cases level <;> decide

/-- A run objects to nothing but the weights and the rules. -/
lemma failsOnly_ofOptions (hbudget : ¬ settings.timeBudget.any (·.less 0) = true)
    (hworkers : 1 ≤ settings.workers) (plugins : List Plugin) :
    FailsOnly (fun e => e ≠ .negativeBudget ∧ e ≠ .noWorkers)
      (Plan.ofOptions plugins settings.options) := by
  have hnonnegative : ¬ settings.options.timeBudget.any (·.less 0) = true := hbudget
  have hsome : ¬ settings.options.workers < 1 := by
    show ¬ (settings.workers : ℤ) < 1
    omega
  have hweights : FailsOnly (fun e => e ≠ .negativeBudget ∧ e ≠ .noWorkers)
      (Plan.weightsOf settings.options) := by
    unfold Plan.weightsOf
    split
    · exact .ok _
    · exact .error (by simp)
  have hrules : FailsOnly (fun e => e ≠ .negativeBudget ∧ e ≠ .noWorkers)
      (Plan.rulesOf plugins settings.options) := by
    unfold Plan.rulesOf
    split
    · exact .ok _
    · exact .error (by simp)
  unfold Plan.ofOptions
  rw [if_neg hnonnegative, if_neg hsome]
  exact hweights.bind fun _ _ => hrules.bind fun _ _ => .ok _

/-- **What is accepted makes sense**, and a run agrees. -/
lemma IsReadFrom.accepts (h : IsReadFrom placeOf data settings) :
    Accepts placeOf data settings := by
  obtain ⟨hnone, hbudget⟩ := of_timeBudgetOf h.timeBudget
  have hone := one_le_workersOf h.workers
  have hnonnegative : ¬ settings.timeBudget.any (·.less 0) = true := by
    rw [Option.any_eq_true]
    rintro ⟨x, hx, hless⟩
    rw [(hbudget x hx).2.1] at hless
    cases hless
  exact {
    unbroken := h.not_breaks
    budget_none_iff := hnone
    budget := fun x hx => ⟨(hbudget x hx).1, (hbudget x hx).2.2⟩
    workers := hone
    weights := fun weight hweight => by
      obtain ⟨entry, hentry, hread⟩ := (of_weightsOf h.weights).2 weight hweight
      exact ⟨entry, hentry, (of_weightOf hread).2⟩
    format := label_mem_formats settings.format
    logLevel := fun level _ => label_mem_levels level
    plan := failsOnly_ofOptions hnonnegative hone }

/-- The mapping that a text is read as; it is without entries if there is none. -/
def mappingIn (readYaml : Reader) (text : String) : Node :=
  if Text.isBlankText text then .dict []
  else match readYaml text with
    | some (.dict entries) => .dict entries
    | _ => .dict []

/-- What is read as a mapping is looked at, and what is not is refused. -/
lemma ofText_cases (readYaml : Reader) (placeOf : RawText → Except PlaceFault String)
    (name text : String) :
    ofText readYaml placeOf name text = ofNode placeOf (mappingIn readYaml text) ∨
      ∃ e, e.isRefusal = true ∧ ofText readYaml placeOf name text = .error e := by
  have hdefault : ofNode placeOf (.dict []) = .ok default := rfl
  unfold ofText mappingIn
  split_ifs
  · exact Or.inl hdefault.symm
  · rcases readYaml text with - | node
    · exact Or.inr ⟨_, rfl, rfl⟩
    · cases node with
      | scalar s =>
          cases s with
          | null => exact Or.inl hdefault.symm
          | _ => exact Or.inr ⟨_, rfl, rfl⟩
      | list items => exact Or.inr ⟨_, rfl, rfl⟩
      | dict entries => exact Or.inl rfl

/-- **Settings make sense or are refused**, unless a budget is not a number or a value cannot be
converted.  This holds of whatever a text may be read as, and of wherever names may lead. -/
theorem settings_make_sense_or_are_refused (readYaml : Reader)
    (placeOf : RawText → Except PlaceFault String) (name text : String) :
    (∀ settings, ofText readYaml placeOf name text = .ok settings →
      Accepts placeOf (mappingIn readYaml text) settings) ∧
    ∀ e, ofText readYaml placeOf name text = .error e →
      e.isRefusal = true ∨ Breaks placeOf (mappingIn readYaml text) e := by
  rcases ofText_cases readYaml placeOf name text with hvalue | ⟨refusal, hrefusal, herror⟩
  · rw [hvalue]
    exact ⟨fun settings h => (isReadFrom_of_ofNode h).accepts, failsOnly_ofNode _⟩
  · rw [herror]
    refine ⟨fun settings h => (by cases h), fun e h => ?_⟩
    cases h
    exact Or.inl hrefusal

/-- A text that gives nothing but a time budget. -/
def onlyBudget (budget : String) : String :=
  "\x7b\"analysis\": \x7b\"time_budget\": " ++ budget ++ "\x7d\x7d"

/-- A text that gives a log file whose name has NUL in it. -/
def onlyNul : String := "\x7b\"logging\": \x7b\"file\": \"a\\u0000.log\"\x7d\x7d"

/-- Half a minute is accepted, and a name with NUL in it ends the reading. -/
theorem half_minutes_and_nul_are_explained :
    let placeOf := Disk.placeNamed ⟨.directory [], []⟩ []
    (∃ settings, ofText readFlow placeOf fileName (onlyBudget "30") = .ok settings ∧
      Accepts placeOf (mappingIn readFlow (onlyBudget "30")) settings) ∧
    ofText readFlow placeOf fileName onlyNul = .error (.badLogFile .nul) ∧
      Breaks placeOf (mappingIn readFlow onlyNul) (.badLogFile .nul) := by
  intro placeOf
  have hbudget : ofText readFlow placeOf fileName (onlyBudget "30") =
      .ok { default with timeBudget := some 30 } := by decide +kernel
  have hnul : ofText readFlow placeOf fileName onlyNul = .error (.badLogFile .nul) := by
    decide +kernel
  refine ⟨⟨_, hbudget, ?_⟩, hnul, ?_⟩
  · exact (settings_make_sense_or_are_refused readFlow placeOf fileName _).1 _ hbudget
  · exact ((settings_make_sense_or_are_refused readFlow placeOf fileName onlyNul).2 _
      hnul).resolve_left Bool.false_ne_true

/-- **A budget need not be a number**, and then it is not more than nothing either. -/
theorem budgets_need_not_be_numbers :
    let placeOf := Disk.placeNamed ⟨.directory [], []⟩ []
    ¬ ∀ text, (∃ e, e.isRefusal = true ∧ ofText readFlow placeOf fileName text = .error e) ∨
      ∃ settings, ofText readFlow placeOf fileName text = .ok settings ∧
        ∀ budget ∈ settings.timeBudget, (0 : Binary64).less budget = true := by
  intro placeOf h
  have hread : ofText readFlow placeOf fileName (onlyBudget "\"nan\"") =
      .ok { default with timeBudget := some .nan } := by decide +kernel
  obtain ⟨e, -, hrefused⟩ | ⟨settings, haccepted, hpositive⟩ := h (onlyBudget "\"nan\"")
  · rw [hread] at hrefused
    cases hrefused
  · rw [hread] at haccepted
    cases haccepted
    exact absurd (hpositive .nan rfl) (by decide)

end Settings

end RepoAtlas
