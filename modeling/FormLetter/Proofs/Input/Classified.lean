import FormLetter.Input.Source
import FormLetter.Proofs.Files.Following

/-!
What a value on the command line stands for. A value that leads to an entry is a path, and most
values that lead nowhere are content; a value that takes a file for a directory on its way, or runs
through too many links, is refused.
-/
namespace FormLetter.Source

variable {files : FileTree} {raw : String} {fault : IoFault}

/-- A text that is no path names nothing. -/
theorem isMissing_of_checkPath (invalid : FileTree.checkPath raw = .error fault) :
    isMissing fault = true := by
  unfold FileTree.checkPath at invalid
  split at invalid
  · cases invalid
    rfl
  split at invalid
  · cases invalid
    rfl
  split at invalid
  · cases invalid
    rfl
  · cases invalid

theorem isMissing_of_stops {a : FileTree.Trek} (stops : a.Stops files fault) :
    isMissing fault = false ↔ fault = .notDirectory ∨ fault = .tooManyLinks := by
  cases stops with
  | closed other => decide
  | long standing noDots long => decide
  | missing standing ordinary absent => decide
  | exhausted standing ordinary found => decide

/-- The lookups that fail otherwise than by finding nothing. -/
theorem locate_eq_error_iff_halts :
    files.locate raw = .error fault ∧ isMissing fault = false ↔
      (fault = .notDirectory ∨ fault = .tooManyLinks) ∧ files.Halts raw fault := by
  rw [FileTree.locate_eq_error_iff]
  constructor
  · rintro ⟨invalid | ⟨a, leads, stops⟩ | ⟨rfl, -⟩, present⟩
    · rw [isMissing_of_checkPath invalid] at present
      cases present
    · exact ⟨(isMissing_of_stops stops).mp present, a, leads, stops⟩
    · cases present
  · rintro ⟨obstacle, a, leads, stops⟩
    exact ⟨.inr (.inl ⟨a, leads, stops⟩), (isMissing_of_stops stops).mpr obstacle⟩

section

variable (noStream : ¬ (raw = "" ∨ raw = stdioName))
include noStream

theorem classify_eq_path_iff :
    classify files raw = .ok (.path raw) ↔ ∃ found, files.locate raw = .ok found := by
  rw [classify, if_neg noStream]
  cases files.locate raw with
  | ok found => simp
  | error fault => cases missing : isMissing fault <;> simp [missing]

theorem classify_eq_literal_iff :
    classify files raw = .ok (.literal raw) ↔
      ∃ fault, files.locate raw = .error fault ∧ isMissing fault = true := by
  rw [classify, if_neg noStream]
  cases files.locate raw with
  | ok found => simp
  | error fault => cases missing : isMissing fault <;> simp [missing]

theorem classify_eq_error_iff {err : InputError} :
    classify files raw = .error err ↔
      ∃ fault, (files.locate raw = .error fault ∧ isMissing fault = false) ∧
        err = .sourceUnavailable raw fault := by
  rw [classify, if_neg noStream]
  cases files.locate raw with
  | ok found => simp
  | error fault =>
    cases missing : isMissing fault with
    | true => simp [missing]
    | false =>
      simp only [missing, Bool.false_eq_true, if_false]
      constructor
      · intro refused
        cases refused
        exact ⟨fault, ⟨rfl, missing⟩, rfl⟩
      · rintro ⟨_, ⟨same, -⟩, rfl⟩
        cases same
        rfl

end

/-- A value that names no stream is a path exactly if an entry is found there, following links. It
is refused exactly if its lookup takes for a directory what is none or meets one link too many, and
content otherwise: whatever characters it holds, and however long it or its parts are. -/
theorem classify_outcome (named : raw ≠ "" ∧ raw ≠ stdioName) :
    (classify files raw = .ok (.path raw) ↔ files.Finds raw) ∧
      (classify files raw = .ok (.literal raw) ↔
        ¬ files.Finds raw ∧ ¬ files.Halts raw .notDirectory ∧ ¬ files.Halts raw .tooManyLinks) ∧
      ∀ err, classify files raw = .error err ↔
        ∃ fault, ((fault = .notDirectory ∨ fault = .tooManyLinks) ∧ files.Halts raw fault) ∧
          err = .sourceUnavailable raw fault := by
  have noStream : ¬ (raw = "" ∨ raw = stdioName) := not_or.mpr named
  refine ⟨?_, ?_, fun err => ?_⟩
  · rw [classify_eq_path_iff noStream, FileTree.exists_locate_iff_finds]
  · rw [classify_eq_literal_iff noStream]
    constructor
    · rintro ⟨fault, located, missing⟩
      -- A lookup fails in one way only.
      have unhindered : ∀ other, (other = .notDirectory ∨ other = .tooManyLinks) →
          ¬ files.Halts raw other := by
        intro other obstacle halted
        obtain ⟨again, present⟩ := locate_eq_error_iff_halts.mpr ⟨obstacle, halted⟩
        rw [located] at again
        cases again
        rw [missing] at present
        cases present
      refine ⟨fun finds => ?_, unhindered _ (.inl rfl), unhindered _ (.inr rfl)⟩
      obtain ⟨found, again⟩ := FileTree.exists_locate_iff_finds.mpr finds
      rw [located] at again
      cases again
    · rintro ⟨nowhere, noFile, noLoop⟩
      cases located : files.locate raw with
      | ok found => exact absurd (FileTree.exists_locate_iff_finds.mp ⟨found, located⟩) nowhere
      | error fault =>
        cases missing : isMissing fault with
        | true => exact ⟨fault, rfl, missing⟩
        | false =>
          obtain ⟨rfl | rfl, halted⟩ := locate_eq_error_iff_halts.mp ⟨located, missing⟩
          · exact absurd halted noFile
          · exact absurd halted noLoop
  · simp only [classify_eq_error_iff noStream, locate_eq_error_iff_halts]

/-- Rows that begin with the name of a file are content still, until a slash follows that name. -/
theorem classify_outcome_beside_file :
    let files : FileTree := ⟨[(["n"], .file [])], []⟩
    ("n\n1" ≠ "" ∧ "n\n1" ≠ stdioName) ∧ classify files "n\n1" = .ok (.literal "n\n1") ∧
      ¬ files.Finds "n\n1" ∧ files.Halts "n/1" .notDirectory := by
  intro files
  have named : "n\n1" ≠ "" ∧ "n\n1" ≠ stdioName := by decide
  have content : classify files "n\n1" = .ok (.literal "n\n1") := rfl
  have refused : classify files "n/1" = .error (.sourceUnavailable "n/1" .notDirectory) := rfl
  obtain ⟨nowhere, -⟩ := (classify_outcome named).2.1.mp content
  obtain ⟨fault, ⟨-, halted⟩, same⟩ := ((classify_outcome (by decide)).2.2 _).mp refused
  cases same
  exact ⟨named, content, nowhere, halted⟩

/-- Behind the name of a file there is no entry, and yet content that begins so is refused. -/
theorem classify_refuses_behind_file :
    let files : FileTree := ⟨[(["n"], .file [])], []⟩
    ¬ files.Finds "n/a" ∧ classify files "n/a" ≠ .ok (.literal "n/a") ∧
      classify files "n/a" = .error (.sourceUnavailable "n/a" .notDirectory) := by
  intro files
  have refused : classify files "n/a" = .error (.sourceUnavailable "n/a" .notDirectory) := rfl
  have located : files.locate "n/a" = .error .notDirectory := rfl
  refine ⟨?_, ?_, refused⟩
  · rw [← FileTree.exists_locate_iff_finds, located]
    rintro ⟨found, wrong⟩
    cases wrong
  · rw [refused]
    intro wrong
    cases wrong

end FormLetter.Source
