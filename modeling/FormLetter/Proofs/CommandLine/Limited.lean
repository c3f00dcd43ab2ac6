import FormLetter.CommandLine.Program
import FormLetter.Proofs.Render.Limited

/-!
The program on limited output. What it prints is the beginning of what it prints without a limit,
whatever the arguments ask for. If everything fits there is no other difference, and if not the
program says so with its exit status.
-/
namespace FormLetter.CommandLine

/-- How a run of the program ends on limited output, beside how it ends without a limit. -/
structure Cut (limit : Nat) (full cut : World × Nat) : Prop where
  printed : cut.1.stdout.written = full.1.stdout.written.take limit
  same : full.1.stdout.written.length ≤ limit →
    cut.2 = full.2 ∧ cut.1.stderr = full.1.stderr ∧ cut.1.files = full.1.files
  failed : limit < full.1.stdout.written.length → cut.2 = 1

variable {limit : Nat} {w : World}

theorem stdout_reportError (color : Bool) (e : RunError) (w : World) :
    (reportError color e w).stdout = w.stdout := by
  unfold reportError
  dsimp only
  split <;> rfl

/-- Reports do not go to standard output. -/
theorem reportError_limited (color : Bool) (e : RunError) (limit : Nat) (w : World) :
    reportError color e (w.limited limit) = (reportError color e w).limited limit := by
  unfold reportError
  cases e.isConfig <;> rfl

theorem cut_of_same {code : Nat} (short : w.stdout.written.length ≤ limit) :
    Cut limit (w, code) (w.limited limit, code) where
  printed := (List.take_of_length_le short).symm
  same := fun _ => ⟨rfl, rfl, rfl⟩
  failed := fun long => absurd short (Nat.not_le_of_lt long)

theorem cut_answer (text : String) (isOpen : w.stdout.Open)
    (short : w.stdout.written.length ≤ limit) :
    Cut limit (answer text w) (answer text (w.limited limit)) := by
  have printed : w.print text =
      ({ w with stdout := { w.stdout with written := w.stdout.written ++ bytesOf text } },
        .ok ()) := by
    simp only [World.print, World.write, isOpen.write]
  rw [answer, printed]
  by_cases fits : (w.stdout.written ++ bytesOf text).length ≤ limit
  · have same := Stream.write_limited_of_le fits
    simp only [answer, World.print, World.write, World.limited, same]
    exact cut_of_same fits
  · have long := Nat.lt_of_not_le fits
    obtain ⟨full, wrote, first⟩ := Stream.write_limited_of_lt short long
    simp only [answer, World.print, World.write, World.limited, wrote]
    exact ⟨first, fun fits => absurd fits (Nat.not_le_of_lt long), fun _ => rfl⟩

/-- A failure that output is too short for is reported like any other. -/
theorem cut_conclude (color : Bool) {σ : Type} {full cut : Session σ × Except RunError Unit}
    (follows : Session.Follows limit full cut) :
    Cut limit (conclude color (full.1.world, full.2)) (conclude color (cut.1.world, cut.2)) := by
  cases follows with
  | @fits s result isOpen short =>
    cases result with
    | ok => exact cut_of_same short
    | error cause =>
      have quiet := stdout_reportError color cause s.world
      have reported : conclude color ((s.limited limit).world, .error cause) =
          ((reportError color cause s.world).limited limit, cause.exitCode) :=
        congrArg (·, cause.exitCode) (reportError_limited color cause limit s.world)
      rw [reported]
      exact cut_of_same (by rwa [quiet])
  | @exceeds s t result cause isOpen long first =>
    -- Whatever the full run goes on to report, its output stays as it is.
    have printed : (conclude color (s.world, result)).1.stdout = s.world.stdout := by
      cases result with
      | ok => rfl
      | error cause => exact stdout_reportError color cause s.world
    constructor
    · rw [printed, ← first]
      exact congrArg Stream.written (stdout_reportError color cause t.world)
    · rw [printed]
      exact fun fits => absurd fits (Nat.not_le_of_lt long)
    · exact fun _ => rfl

theorem cut_runFlags (flags : Flags) (stdin : Stdin) (color : Bool) (isOpen : w.stdout.Open)
    (short : w.stdout.written.length ≤ limit) :
    Cut limit (conclude color (runFlags flags stdin w))
      (conclude color (runFlags flags stdin (w.limited limit))) := by
  have same : (w.limited limit).files = w.files := rfl
  unfold runFlags
  rw [same]
  cases Config.ofFlags w.files flags with
  | error cause =>
    have follows : Session.Follows limit ((⟨(), w⟩ : Session Unit), (.error cause : Except _ Unit))
      ((⟨(), w⟩ : Session Unit).limited limit, .error cause) := .fits isOpen short
    exact cut_conclude color follows
  | ok config =>
    exact cut_conclude color
      ((Session.paced_runWith Template.engine config stdin).follows limit
        ⟨Template.emptyStore, w⟩ isOpen short)

theorem cut_runProgram (argv : List String) (stdin : Stdin) (color : Bool) (isOpen : w.stdout.Open)
    (short : w.stdout.written.length ≤ limit) :
    Cut limit (runProgram argv stdin color w) (runProgram argv stdin color (w.limited limit)) := by
  unfold runProgram
  split
  next => exact cut_answer _ isOpen short
  next => exact cut_answer _ isOpen short
  next path arguments _ =>
    cases readFlags arguments with
    | ok flags => exact cut_runFlags flags stdin color isOpen short
    | error e =>
      cases e with
      | help => exact cut_answer _ isOpen short
      | version => exact cut_answer _ isOpen short
      | _ => exact cut_of_same short

/-- On standard output that takes so many bytes and then fails, every run of the program leaves
exactly the first bytes of what it prints without a limit. If that is not too much, exit status,
standard error and files are the same; and if it is, the exit status is 1. -/
theorem runProgram_limited (argv : List String) (stdin : Stdin) (color : Bool) (files : FileTree)
    (stderr : Stream) (limit : Nat) :
    let full := runProgram argv stdin color ⟨files, ⟨[], none, false⟩, stderr⟩
    let cut := runProgram argv stdin color ⟨files, ⟨[], some limit, false⟩, stderr⟩
    cut.1.stdout.written = full.1.stdout.written.take limit ∧
    (full.1.stdout.written.length ≤ limit →
      cut.2 = full.2 ∧ cut.1.stderr = full.1.stderr ∧ cut.1.files = full.1.files) ∧
    (limit < full.1.stdout.written.length → cut.2 = 1) := by
  intro full cut
  obtain ⟨printed, same, failed⟩ : Cut limit full cut :=
    cut_runProgram argv stdin color ⟨rfl, rfl⟩ (Nat.zero_le limit)
  exact ⟨printed, same, failed⟩

end FormLetter.CommandLine
