import FormLetter.Proofs.CommandLine.Prepared
import FormLetter.Proofs.Render.Failing

/-!
Exit status and standard error. On streams that take everything a program ends with 0 or 1, and with
0 exactly if it has left standard error alone. A program that ends with 1 has reported one failure,
behind the rows it has skipped.
-/
namespace FormLetter.CommandLine

/-- What a program reports. -/
inductive Failure where
  /-- Arguments that are not accepted; the program was called by that path. -/
  | usage (path : String) (cause : UsageError)
  | run (cause : RunError)

namespace Failure

def message : Failure → String
  | .usage path cause => cause.report (calledName path)
  | .run cause => cause.message

/-- The flags are accepted and make no configuration. -/
def isConfig : Failure → Bool
  | .usage _ _ => false
  | .run cause => cause.isConfig

end Failure

/-- How a program fails: the reports of the rows in front of the failure, and the failure. -/
inductive ProgramFailure (stdin : Stdin) (w : World) :
    List String → List RowReport → Failure → Prop where
  | usage {path : String} {arguments : List String} {cause : UsageError} :
      arguments ≠ [] → readFlags arguments = .error cause → cause ≠ .help → cause ≠ .version →
      ProgramFailure stdin w (path :: arguments) [] (.usage path cause)
  | config {path : String} {arguments : List String} {flags : Flags} {cause : RunError} :
      arguments ≠ [] → readFlags arguments = .ok flags →
      Config.ofFlags w.files flags = .error cause →
      ProgramFailure stdin w (path :: arguments) [] (.run cause)
  | run {path : String} {arguments : List String} {flags : Flags} {config : Config}
      {reports : List RowReport} {cause : RunError} :
      arguments ≠ [] → readFlags arguments = .ok flags → Config.ofFlags w.files flags = .ok config →
      RunFailure Template.engine config stdin ⟨Template.emptyStore, w⟩ reports cause →
      ProgramFailure stdin w (path :: arguments) reports (.run cause)

/-- What is reported of a failure. -/
def Failure.stderr (color : Bool) (failure : Failure) : Bytes :=
  bytesOf (reportLine color failure.message) ++ if failure.isConfig then bytesOf usageHint else []

/-- A world whose streams take everything. -/
def onStreams (files : FileTree) (out err : Bytes) : World :=
  ⟨files, ⟨out, none, false⟩, ⟨err, none, false⟩⟩

variable {argv : List String} {stdin : Stdin} {color : Bool} {files : FileTree} {out err : Bytes}

theorem Failure.stderr_ne_nil (color : Bool) (failure : Failure) : failure.stderr color ≠ [] := by
  have colon : bytesOf ": " ≠ [] := by decide
  simp [Failure.stderr, reportLine, bytesOf_append, colon]

theorem stderr_report_usage (color : Bool) (path : String) (cause : UsageError) (files : FileTree)
    (out err : Bytes) :
    (report color (cause.report (calledName path)) (onStreams files out err)).stderr.written =
      err ++ (Failure.usage path cause).stderr color := by
  simp [report, tell, World.complain, Stream.write, onStreams, Failure.stderr, Failure.message,
    Failure.isConfig, reportLine]

theorem stderr_reportError (color : Bool) (cause : RunError) (files : FileTree) (out err : Bytes) :
    (reportError color cause (onStreams files out err)).stderr.written =
      err ++ (Failure.run cause).stderr color := by
  rw [reportError_eq]
  by_cases config : cause.isConfig <;>
    simp [errorLines, Failure.stderr, Failure.isConfig, Failure.message, config, told, onStreams,
      Stream.write]

theorem runFlags_onStreams {flags : Flags} {config : Config}
    (accepted : Config.ofFlags files flags = .ok config) :
    let ran := runWith Template.engine config stdin (.onStreams Template.emptyStore files out err)
    runFlags flags stdin (onStreams files out err) = (ran.1.world, ran.2) := by
  have same : Config.ofFlags (onStreams files out err).files flags = .ok config := accepted
  simp only [runFlags, same]
  rfl

/-- What a program does that fails. -/
theorem ProgramFailure.runProgram {reports : List RowReport} {failure : Failure}
    (failed : ProgramFailure stdin (onStreams files out err) argv reports failure) (color : Bool) :
    let ended := CommandLine.runProgram argv stdin color (onStreams files out err)
    ended.2 = 1 ∧
      ended.1.stderr.written = err ++ reports.flatMap RowReport.stderr ++ failure.stderr color := by
  cases failed with
  | @usage path arguments cause given refused noHelp noVersion =>
    obtain ⟨first, rest, rfl⟩ := List.exists_cons_of_ne_nil given
    simp only [CommandLine.runProgram, refused]
    cases cause with
    | help => contradiction
    | version => contradiction
    | _ => simpa using stderr_report_usage color path _ files out err
  | @config path arguments flags cause given read refused =>
    obtain ⟨first, rest, rfl⟩ := List.exists_cons_of_ne_nil given
    simp only [CommandLine.runProgram, read, runFlags, refused, conclude]
    exact ⟨rfl, by simpa using stderr_reportError color cause files out err⟩
  | @run path arguments flags config reports cause given read accepted failed =>
    obtain ⟨first, rest, rfl⟩ := List.exists_cons_of_ne_nil given
    obtain ⟨next, made, out', ran⟩ := failed.runWith
    change Config.ofFlags files flags = .ok config at accepted
    have same : runFlags flags stdin (onStreams files out err) =
        (onStreams made out' (err ++ reports.flatMap RowReport.stderr), .error cause) := by
      rw [runFlags_onStreams accepted, ran]
      rfl
    simp only [CommandLine.runProgram, read, same, conclude]
    exact ⟨rfl, stderr_reportError color cause made out' _⟩

/-- Only flags that were accepted can make no configuration. -/
theorem ProgramFailure.isConfig_iff {w : World} {reports : List RowReport} {failure : Failure}
    (failed : ProgramFailure stdin w argv reports failure) :
    failure.isConfig ↔ ∃ flags cause,
      readFlags argv.tail = .ok flags ∧ Config.ofFlags w.files flags = .error (.config cause) := by
  cases failed with
  | usage given refused =>
    refine ⟨nofun, fun ⟨flags, cause, read, _⟩ => ?_⟩
    cases refused.symm.trans read
  | @config path arguments flags cause given read refused =>
    refine ⟨fun config => ?_, fun ⟨flags', cause', read', refused'⟩ => ?_⟩
    · obtain ⟨cause, rfl⟩ : ∃ why, cause = .config why := by
        cases cause <;> first | exact ⟨_, rfl⟩ | cases config
      exact ⟨flags, cause, read, refused⟩
    · cases read.symm.trans read'
      cases refused.symm.trans refused'
      rfl
  | run given read accepted failed =>
    refine ⟨fun config => ?_, fun ⟨flags', cause', read', refused'⟩ => ?_⟩
    · rw [Failure.isConfig, failed.isConfig_eq_false] at config
      cases config
    · cases read.symm.trans read'
      cases accepted.symm.trans refused'

/-- A program fails in one of these ways, or leaves standard error alone. -/
theorem cases_of_runProgram (argv : List String) (stdin : Stdin) (color : Bool) (files : FileTree)
    (out err : Bytes) :
    let ended := runProgram argv stdin color (onStreams files out err)
    (∃ reports failure, ProgramFailure stdin (onStreams files out err) argv reports failure) ∨
      ended.2 = 0 ∧ ended.1.stderr.written = err := by
  match argv with
  | [] => exact .inr ⟨rfl, rfl⟩
  | [_] => exact .inr ⟨rfl, rfl⟩
  | path :: first :: rest =>
    simp only [runProgram]
    cases read : readFlags (first :: rest) with
    | error cause =>
      by_cases asked : cause = .help ∨ cause = .version
      · obtain rfl | rfl := asked <;> exact .inr ⟨rfl, rfl⟩
      · simp only [not_or] at asked
        exact .inl ⟨[], _, .usage (List.cons_ne_nil _ _) read asked.1 asked.2⟩
    | ok flags =>
      cases accepted : Config.ofFlags files flags with
      | error cause => exact .inl ⟨[], _, .config (List.cons_ne_nil _ _) read accepted⟩
      | ok config =>
        obtain ⟨reports, cause, failed⟩ | ⟨next, made, out', ran⟩ :=
          cases_of_runWith_onStreams Template.engine config stdin Template.emptyStore files out err
        · exact .inl ⟨reports, _, .run (List.cons_ne_nil _ _) read accepted failed⟩
        · have same : runFlags flags stdin (onStreams files out err) =
              (onStreams made out' err, .ok ()) := by
            rw [runFlags_onStreams accepted, ran]
            rfl
          refine .inr ?_
          simp only [same, conclude]
          exact ⟨trivial, rfl⟩

/-- On streams that take everything, a program ends with 0 or 1, and with 0 exactly if nothing was
written to standard error. It ends with 1 exactly if it fails; then standard error has the reports
of the skipped rows, one report of the failure, and a hint exactly if accepted flags make no
configuration. -/
theorem runProgram_reports (argv : List String) (stdin : Stdin) (color : Bool) (files : FileTree)
    (out err : Bytes) :
    let w : World := ⟨files, ⟨out, none, false⟩, ⟨err, none, false⟩⟩
    let ended := runProgram argv stdin color w
    (ended.2 = 0 ∨ ended.2 = 1) ∧
    (ended.2 = 0 ↔ ended.1.stderr.written = err) ∧
    (ended.2 = 1 ↔ ∃ reports failure, ProgramFailure stdin w argv reports failure) ∧
    ∀ reports failure, ProgramFailure stdin w argv reports failure →
      ended.1.stderr.written = err ++ reports.flatMap RowReport.stderr ++
        bytesOf (reportName color ++ ": " ++ failure.message ++ "\n") ++
        (if failure.isConfig then bytesOf usageHint else []) ∧
      (failure.isConfig ↔ ∃ flags cause,
        readFlags argv.tail = .ok flags ∧ Config.ofFlags files flags = .error (.config cause)) := by
  intro w ended
  have fails {reports : List RowReport} {failure : Failure}
      (failed : ProgramFailure stdin w argv reports failure) :
      ended.2 = 1 ∧ ended.1.stderr.written =
        err ++ reports.flatMap RowReport.stderr ++ failure.stderr color :=
    failed.runProgram color
  have told {reports : List RowReport} {failure : Failure}
      (failed : ProgramFailure stdin w argv reports failure) : ended.1.stderr.written ≠ err := by
    rw [(fails failed).2, List.append_assoc]
    simp [Failure.stderr_ne_nil]
  have reported {reports : List RowReport} {failure : Failure}
      (failed : ProgramFailure stdin w argv reports failure) :
      ended.1.stderr.written = err ++ reports.flatMap RowReport.stderr ++
        bytesOf (reportName color ++ ": " ++ failure.message ++ "\n") ++
        if failure.isConfig then bytesOf usageHint else [] := by
    rw [(fails failed).2, Failure.stderr, ← List.append_assoc]
    rfl
  have either : (∃ reports failure, ProgramFailure stdin w argv reports failure) ∨
      ended.2 = 0 ∧ ended.1.stderr.written = err :=
    cases_of_runProgram argv stdin color files out err
  refine ⟨?_, ?_, ?_, fun reports failure failed => ⟨reported failed, failed.isConfig_iff⟩⟩
  · obtain ⟨reports, failure, failed⟩ | ⟨done, _⟩ := either
    · exact .inr (fails failed).1
    · exact .inl done
  · obtain ⟨reports, failure, failed⟩ | ⟨done, silent⟩ := either
    · simp [(fails failed).1, told failed]
    · simp [done, silent]
  · refine ⟨fun code => ?_, fun ⟨reports, failure, failed⟩ => (fails failed).1⟩
    obtain failed | ⟨done, _⟩ := either
    · exact failed
    · rw [done] at code
      cases code

/-- Flags without a source. -/
theorem runProgram_reports_missing_input :
    let ended := runProgram ["csvplate", "-f"] (.ok []) false ⟨⟨[], []⟩, .unlimited, .unlimited⟩
    ended.2 = 1 ∧ ended.1.stderr.written =
      bytesOf "csvplate: one of --csv or --template is required\n" ++ bytesOf usageHint := by
  intro ended
  have failed : ProgramFailure (.ok []) ⟨⟨[], []⟩, .unlimited, .unlimited⟩ ["csvplate", "-f"] []
      (.run (.config .missingInput)) := .config (by decide) rfl rfl
  obtain ⟨-, -, ends, reported⟩ :=
    runProgram_reports ["csvplate", "-f"] (.ok []) false ⟨[], []⟩ [] []
  exact ⟨ends.mpr ⟨_, _, failed⟩, (reported _ _ failed).1⟩

end FormLetter.CommandLine
