import FormLetter.Proofs.CommandLine.Inlet
import FormLetter.Proofs.Csv.Rows

/-!
Which flags make a configuration. Flags are checked in a fixed order and refused over the first
check they do not meet; a configuration that comes out of it has a separator the loader can split
on and at most one source on standard input, which is therefore read at most once.
-/
namespace FormLetter

open CommandLine (Flags)

namespace Config

/-- What is asked of flags. -/
inductive Check where
  | input
  | counter
  | separator
  | csv
  | template
  | streams
  deriving DecidableEq

/-- The order in which it is asked. -/
def Check.order : List Check :=
  [.input, .counter, .separator, .csv, .template, .streams]

/-- A source is given, and not by an empty text. -/
def Given (value : Option String) : Prop :=
  ∃ text, value = some text ∧ text ≠ ""

/-- The ways to name standard input. -/
def NamesStdin (value : Option String) : Prop :=
  value = none ∨ value = some "" ∨ value = some stdioName

variable {files : FileTree} {flags : Flags} {config : Config} {check : Check} {cause : RunError}

def Check.Met (files : FileTree) (flags : Flags) : Check → Prop
  | .input => Given flags.csv ∨ Given flags.template
  | .counter => flags.counter ≠ ""
  | .separator => ∃ c, flags.csvSep = String.singleton c ∧ Csv.Splits c
  | .csv => ∃ source, Source.classify files (flags.csv.getD "") = .ok source
  | .template => ∃ source, Source.classify files (flags.template.getD "") = .ok source
  | .streams => ¬ (NamesStdin flags.csv ∧ NamesStdin flags.template)

/-- How flags are refused that do not meet a check. -/
inductive Check.Raises (files : FileTree) (flags : Flags) : Check → RunError → Prop where
  | input : Raises files flags .input (.config .missingInput)
  | counter : Raises files flags .counter (.config .emptyCounter)
  /-- The separator is no single character. -/
  | invalid (several : ∀ c, flags.csvSep ≠ String.singleton c) :
      Raises files flags .separator (.config (.invalidSeparator flags.csvSep))
  | unsupported {c : Char} (single : flags.csvSep = String.singleton c)
      (reserved : c = '"' ∨ c = '\r' ∨ c = '\n') :
      Raises files flags .separator (.config (.unsupportedSeparator c))
  | csv {err : InputError} (failed : Source.classify files (flags.csv.getD "") = .error err) :
      Raises files flags .csv (.readCsv err)
  | template {err : InputError}
      (failed : Source.classify files (flags.template.getD "") = .error err) :
      Raises files flags .template (.readTemplate err)
  | streams : Raises files flags .streams (.config .stdinConflict)

/-- Every earlier check is met. -/
def Check.FirstUnmet (files : FileTree) (flags : Flags) (check : Check) : Prop :=
  ¬ check.Met files flags ∧
    ∃ before after, order = before ++ check :: after ∧ ∀ earlier ∈ before, earlier.Met files flags

/-- A configuration says what the flags say. -/
structure Describes (files : FileTree) (flags : Flags) (config : Config) : Prop where
  csv : Source.classify files (flags.csv.getD "") = .ok config.csv
  template : Source.classify files (flags.template.getD "") = .ok config.template
  out : config.out = flags.out.getD ""
  separator : flags.csvSep = String.singleton config.table.separator
  hasHeader : config.table.hasHeader = !flags.noheader
  counter : config.table.counter = flags.counter
  force : config.force = flags.force

/-- What validation comes to. -/
inductive Settled (files : FileTree) (flags : Flags) : Except RunError Config → Prop where
  | ok {config : Config} (met : ∀ check : Check, check.Met files flags)
      (describes : Describes files flags config) : Settled files flags (.ok config)
  | error {check : Check} {cause : RunError} (first : check.FirstUnmet files flags)
      (raises : check.Raises files flags cause) : Settled files flags (.error cause)

/-! ### Validation comes to one end -/

/-- Only one member can be the first without a property. -/
theorem eq_of_append_cons_eq {α : Type} {P : α → Prop} {before before' after after' : List α}
    {x y : α} (same : before ++ x :: after = before' ++ y :: after')
    (holds : ∀ z ∈ before, P z) (fails : ¬ P x) (holds' : ∀ z ∈ before', P z) (fails' : ¬ P y) :
    x = y := by
  induction before generalizing before' with
  | nil =>
    cases before' with
    | nil => exact (List.cons.inj same).1
    | cons z before' =>
      obtain ⟨rfl, -⟩ := List.cons.inj same
      exact absurd (holds' _ List.mem_cons_self) fails
  | cons z before ih =>
    cases before' with
    | nil =>
      obtain ⟨rfl, -⟩ := List.cons.inj same
      exact absurd (holds _ List.mem_cons_self) fails'
    | cons z' before' =>
      obtain ⟨-, same⟩ := List.cons.inj same
      exact ih same (fun w mem => holds w (List.mem_cons_of_mem _ mem))
        fun w mem => holds' w (List.mem_cons_of_mem _ mem)

theorem Check.FirstUnmet.unique {other : Check} (first : check.FirstUnmet files flags)
    (first' : other.FirstUnmet files flags) : check = other := by
  obtain ⟨fails, before, after, ordered, holds⟩ := first
  obtain ⟨fails', before', after', ordered', holds'⟩ := first'
  exact eq_of_append_cons_eq (ordered.symm.trans ordered') holds fails holds' fails'

theorem Check.Raises.unique {cause' : RunError} (raises : check.Raises files flags cause)
    (raises' : check.Raises files flags cause') : cause = cause' := by
  cases raises with
  | input =>
    cases raises'
    rfl
  | counter =>
    cases raises'
    rfl
  | invalid several =>
    cases raises' with
    | invalid => rfl
    | unsupported single reserved => exact absurd single (several _)
  | unsupported single reserved =>
    cases raises' with
    | invalid several => exact absurd single (several _)
    | unsupported single' reserved' =>
      rw [single, String.singleton_inj] at single'
      rw [single']
  | csv failed =>
    cases raises' with
    | csv failed' =>
      cases failed.symm.trans failed'
      rfl
  | template failed =>
    cases raises' with
    | template failed' =>
      cases failed.symm.trans failed'
      rfl
  | streams =>
    cases raises'
    rfl

theorem Describes.unique {config' : Config} (describes : Describes files flags config)
    (describes' : Describes files flags config') : config = config' := by
  obtain ⟨csv, template, out, separator, hasHeader, counter, force⟩ := describes
  obtain ⟨csv', template', out', separator', hasHeader', counter', force'⟩ := describes'
  rw [csv, Except.ok.injEq] at csv'
  rw [template, Except.ok.injEq] at template'
  rw [separator, String.singleton_inj] at separator'
  obtain ⟨_, _, _, ⟨_, _, _⟩, _⟩ := config
  obtain ⟨_, _, _, ⟨_, _, _⟩, _⟩ := config'
  simp_all

theorem Settled.unique {result result' : Except RunError Config}
    (settled : Settled files flags result) (settled' : Settled files flags result') :
    result = result' := by
  cases settled with
  | ok met describes =>
    cases settled' with
    | ok met' describes' => rw [describes.unique describes']
    | error first raises => exact absurd (met _) first.1
  | error first raises =>
    cases settled' with
    | ok met describes => exact absurd (met _) first.1
    | error first' raises' =>
      cases first.unique first'
      rw [raises.unique raises']

/-! ### Single checks -/

theorem given_iff {value : Option String} : Given value ↔ value.getD "" ≠ "" := by
  cases value <;> simp [Given]

theorem namesStdin_iff {value : Option String} :
    NamesStdin value ↔ value.getD "" = "" ∨ value.getD "" = stdioName := by
  cases value <;> simp [NamesStdin]

theorem isStdin_iff_of_classify {raw : String} {source : Source}
    (classified : Source.classify files raw = .ok source) :
    source.isStdin ↔ raw = "" ∨ raw = stdioName := by
  unfold Source.classify at classified
  split at classified
  next named =>
    cases classified
    exact iff_of_true rfl named
  next unnamed =>
    split at classified
    next =>
      cases classified
      exact iff_of_false nofun unnamed
    next =>
      split at classified
      next =>
        cases classified
        exact iff_of_false nofun unnamed
      next => cases classified

theorem separator_eq_ok_iff {raw : String} {c : Char} :
    separator raw = .ok c ↔ raw = String.singleton c ∧ Csv.Splits c := by
  constructor
  · intro accepted
    unfold separator at accepted
    split at accepted
    next d single =>
      split at accepted
      next => cases accepted
      next free =>
        cases accepted
        simp only [not_or] at free
        exact ⟨String.toList_injective (by simpa using single), free.1, free.2.1, free.2.2⟩
    next => cases accepted
  · rintro ⟨rfl, noQuote, noReturn, noFeed⟩
    simp [separator, noQuote, noReturn, noFeed]

theorem raises_of_separator {cause : ConfigError} (refused : separator flags.csvSep = .error cause) :
    Check.separator.Raises files flags (.config cause) := by
  unfold separator at refused
  split at refused
  next c single =>
    split at refused
    next reserved =>
      cases refused
      exact .unsupported (String.toList_injective (by simpa using single)) reserved
    next => cases refused
  next several =>
    cases refused
    refine .invalid fun c single => several c ?_
    simp [single]

/-! ### All checks -/

theorem input_met_iff : Check.input.Met files flags ↔
    ((flags.csv.getD "").isEmpty && (flags.template.getD "").isEmpty) = false := by
  rw [Check.Met, given_iff, given_iff, ← Decidable.not_and_iff_not_or_not, ← Bool.not_eq_true, Bool.and_eq_true,
    String.isEmpty_iff, String.isEmpty_iff]

theorem counter_met_iff : Check.counter.Met files flags ↔ flags.counter.isEmpty = false := by
  rw [Check.Met, ← Bool.not_eq_true, String.isEmpty_iff]

/-- The sources are looked at once the flags themselves are in order. -/
theorem settled_of_accepted {c : Char} (input : Check.input.Met files flags)
    (counter : Check.counter.Met files flags) (accepted : separator flags.csvSep = .ok c) :
    Settled files flags (ofFlags files flags) := by
  have separator : Check.separator.Met files flags := ⟨c, separator_eq_ok_iff.mp accepted⟩
  simp only [ofFlags, input_met_iff.mp input, counter_met_iff.mp counter, accepted, classified,
    bind, Except.bind, Bool.false_eq_true, if_false]
  cases csv : Source.classify files (flags.csv.getD "") with
  | error err =>
    have first : Check.csv.FirstUnmet files flags := by
      refine ⟨?_, [.input, .counter, .separator], _, rfl, ?_⟩
      · rintro ⟨source, found⟩
        cases csv.symm.trans found
      · simp [input, counter, separator]
    exact .error first (.csv csv)
  | ok csvSource =>
    have csvMet : Check.csv.Met files flags := ⟨_, csv⟩
    cases template : Source.classify files (flags.template.getD "") with
    | error err =>
      have first : Check.template.FirstUnmet files flags := by
        refine ⟨?_, [.input, .counter, .separator, .csv], _, rfl, ?_⟩
        · rintro ⟨source, found⟩
          cases template.symm.trans found
        · simp [input, counter, separator, csvMet]
      exact .error first (.template template)
    | ok templateSource =>
      have templateMet : Check.template.Met files flags := ⟨_, template⟩
      -- What the probes found tells how standard input was spelled.
      have streams : (csvSource.isStdin && templateSource.isStdin) = true ↔
          NamesStdin flags.csv ∧ NamesStdin flags.template := by
        rw [Bool.and_eq_true, isStdin_iff_of_classify csv, isStdin_iff_of_classify template,
          namesStdin_iff, namesStdin_iff]
      dsimp only
      split
      next both =>
        have first : Check.streams.FirstUnmet files flags := by
          refine ⟨not_not_intro (streams.mp both),
            [.input, .counter, .separator, .csv, .template], _, rfl, ?_⟩
          simp [input, counter, separator, csvMet, templateMet]
        exact .error first .streams
      next apart =>
        have met : ∀ check : Check, check.Met files flags := by
          intro check
          cases check with
          | input => exact input
          | counter => exact counter
          | separator => exact separator
          | csv => exact csvMet
          | template => exact templateMet
          | streams => exact fun both => apart (streams.mpr both)
        exact .ok met ⟨csv, template, rfl, (separator_eq_ok_iff.mp accepted).1, rfl, rfl, rfl⟩

/-- Flags are refused over the first check that they do not meet. -/
theorem settled_ofFlags (files : FileTree) (flags : Flags) :
    Settled files flags (ofFlags files flags) := by
  by_cases input : Check.input.Met files flags
  · by_cases counter : Check.counter.Met files flags
    · cases accepted : separator flags.csvSep with
      | ok c => exact settled_of_accepted input counter accepted
      | error cause =>
        have first : Check.separator.FirstUnmet files flags := by
          refine ⟨?_, [.input, .counter], _, rfl, ?_⟩
          · rintro ⟨c, usable⟩
            cases accepted.symm.trans (separator_eq_ok_iff.mpr usable)
          · simp [input, counter]
        simp only [ofFlags, input_met_iff.mp input, counter_met_iff.mp counter, accepted,
          Bool.false_eq_true, if_false]
        exact .error first (raises_of_separator accepted)
    · have first : Check.counter.FirstUnmet files flags := by
        refine ⟨counter, [.input], _, rfl, ?_⟩
        simp [input]
      rw [counter_met_iff, Bool.not_eq_false] at counter
      simp only [ofFlags, input_met_iff.mp input, counter, Bool.false_eq_true, if_false, if_true]
      exact .error first .counter
  · have first : Check.input.FirstUnmet files flags := ⟨input, [], _, rfl, nofun⟩
    rw [input_met_iff, Bool.not_eq_false] at input
    simp only [ofFlags, input, if_true]
    exact .error first .input

theorem not_both_isStdin_of_ofFlags (accepted : ofFlags files flags = .ok config) :
    ¬ (config.csv.isStdin ∧ config.template.isStdin) := by
  have settled := settled_ofFlags files flags
  rw [accepted] at settled
  cases settled with
  | ok met describes =>
    rw [isStdin_iff_of_classify describes.csv, isStdin_iff_of_classify describes.template,
      ← namesStdin_iff, ← namesStdin_iff]
    exact met .streams

end Config

/-! ### One reading -/

namespace CommandLine

theorem runFlagsFrom_spec (flags : Flags) (w : World) (inlet : Inlet) :
    (runFlagsFrom flags w inlet).1 = runFlags flags inlet.next w ∧
      (runFlagsFrom flags w inlet).2.readings ≤ inlet.readings + 1 := by
  unfold runFlagsFrom runFlags
  cases accepted : Config.ofFlags w.files flags with
  | error cause => exact ⟨rfl, Nat.le_succ _⟩
  | ok config =>
    obtain ⟨same, once⟩ := runWithFrom_of_apart (Config.not_both_isStdin_of_ofFlags accepted)
      Template.engine ⟨Template.emptyStore, w⟩ inlet
    exact ⟨congrArg (fun ran => (ran.1.world, ran.2)) same, once⟩

theorem runProgramFrom_spec (argv : List String) (color : Bool) (w : World) (inlet : Inlet) :
    (runProgramFrom argv color w inlet).1 = runProgram argv inlet.next color w ∧
      (runProgramFrom argv color w inlet).2.readings ≤ inlet.readings + 1 := by
  match argv with
  | [] => exact ⟨rfl, Nat.le_succ _⟩
  | [_] => exact ⟨rfl, Nat.le_succ _⟩
  | path :: first :: rest =>
    simp only [runProgramFrom, runProgram]
    cases readFlags (first :: rest) with
    | ok flags =>
      obtain ⟨same, once⟩ := runFlagsFrom_spec flags w inlet
      exact ⟨congrArg (conclude color) same, once⟩
    | error cause => cases cause <;> exact ⟨rfl, Nat.le_succ _⟩

end CommandLine

open CommandLine

/-- Flags make a configuration exactly if they meet every check, and are refused over the first one
they do not meet otherwise, with nothing changed. What they make says what they say, and has a
separator that the loader can split on. A program reads standard input to its end at most once,
whatever its arguments are, and what that reading gives decides what becomes of it. -/
theorem ofFlags_admits (files : FileTree) (flags : Flags) :
    ((∃ config, Config.ofFlags files flags = .ok config) ↔
        ∀ check : Config.Check, check.Met files flags) ∧
      (∀ cause, Config.ofFlags files flags = .error cause ↔
        ∃ check : Config.Check, check.FirstUnmet files flags ∧ check.Raises files flags cause) ∧
      (∀ config, Config.ofFlags files flags = .ok config →
        Config.Describes files flags config ∧ Csv.Splits config.table.separator) ∧
      (∀ stdin w cause, w.files = files → Config.ofFlags files flags = .error cause →
        runFlags flags stdin w = (w, .error cause)) ∧
      ∀ argv color w answers,
        let ran := runProgramFrom argv color w ⟨answers, 0⟩
        ran.1 = runProgram argv (answers 0) color w ∧ ran.2.readings ≤ 1 := by
  have settled := Config.settled_ofFlags files flags
  refine ⟨⟨?_, ?_⟩, fun cause => ⟨?_, ?_⟩, ?_, ?_, ?_⟩
  · rintro ⟨config, accepted⟩
    rw [accepted] at settled
    cases settled with
    | ok met describes => exact met
  · intro met
    cases result : Config.ofFlags files flags with
    | ok config => exact ⟨config, rfl⟩
    | error cause =>
      rw [result] at settled
      cases settled with
      | error first raises => exact absurd (met _) first.1
  · intro refused
    rw [refused] at settled
    cases settled with
    | error first raises => exact ⟨_, first, raises⟩
  · rintro ⟨check, first, raises⟩
    exact settled.unique (.error first raises)
  · intro config accepted
    rw [accepted] at settled
    cases settled with
    | ok met describes =>
      obtain ⟨c, single, splits⟩ := met .separator
      rw [describes.separator, String.singleton_inj] at single
      rw [single]
      exact ⟨describes, splits⟩
  · rintro stdin w cause rfl refused
    rw [runFlags, refused]
  · intro argv color w answers
    exact runProgramFrom_spec argv color w ⟨answers, 0⟩

/-- A template that is a dash and no table are both standard input; with a table there is one
reading left, whatever a second one would give. -/
theorem ofFlags_admits_one_dash :
    let files : FileTree := ⟨[], []⟩
    let conflict : Flags := { Flags.default with template := some "-" }
    let flags : Flags := { conflict with csv := some "a;b", csvSep := ";" }
    let answers : Nat → Stdin := fun n => if n = 0 then .ok [] else .error (.stopped "closed")
    let world : World := ⟨files, .unlimited, .unlimited⟩
    (∀ stdin, runFlags conflict stdin world = (world, .error (.config .stdinConflict))) ∧
      ¬ Config.Check.streams.Met files conflict ∧
      (∃ config, Config.ofFlags files flags = .ok config ∧ Csv.Splits config.table.separator) ∧
      (runProgramFrom ["csvplate", "-i", "a", "-t", "-"] false world ⟨answers, 0⟩).2.readings ≤ 1 := by
  intro files conflict flags answers world
  have first : Config.Check.streams.FirstUnmet files conflict := by
    refine ⟨not_not_intro ⟨.inl rfl, .inr (.inr rfl)⟩,
      [.input, .counter, .separator, .csv, .template], _, rfl, ?_⟩
    intro check earlier
    cases check with
    | input => exact .inr ⟨"-", rfl, by decide⟩
    | counter => exact show "_index_" ≠ "" by decide
    | separator => exact ⟨',', rfl, by decide, by decide, by decide⟩
    | csv => exact ⟨.stdin, rfl⟩
    | template => exact ⟨.stdin, rfl⟩
    | streams => exact absurd earlier (by decide)
  have refused := ((ofFlags_admits files conflict).2.1 _).mpr ⟨_, first, .streams⟩
  have accepted : (Config.ofFlags files flags).isOk := by decide +kernel
  refine ⟨fun stdin => ?_, first.1, ?_, ?_⟩
  · exact (ofFlags_admits files conflict).2.2.2.1 stdin world _ rfl refused
  · cases result : Config.ofFlags files flags with
    | ok config => exact ⟨config, rfl, ((ofFlags_admits files flags).2.2.1 config result).2⟩
    | error cause =>
      rw [result] at accepted
      cases accepted
  · exact ((ofFlags_admits files flags).2.2.2.2 _ false world answers).2

end FormLetter
