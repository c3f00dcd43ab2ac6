import FormLetter.Proofs.Files.Parents
import FormLetter.Proofs.Files.Plain

/-!
Making a path and its enclosing directories, in file systems without links. Where the path stands
nothing is made. Where the directories cannot be made they never can be, however the file system
has grown: what is in the way stays in the way.
-/
namespace FormLetter

open FormLetter.Path (Encloses Closed)

namespace FileTree

variable {t made later : FileTree} {here spot : Location} {raw outer name : String}
  {fault : IoFault}

/-! ### Making one directory -/

theorem missing_of_enter (missing : t.enter here name = .error .noSuchEntry) :
    t.find? here = some .directory ∧ ¬ (name = "." ∨ name = "..") ∧ isTooLong name = false ∧
      t.find? (here ++ [name]) = none := by
  unfold enter at missing
  grind [Option.not_isSome_iff_eq_none]

theorem enter_put (missing : t.enter here name = .error .noSuchEntry) (e : Entry) :
    (t.put (here ++ [name]) e).enter here name = .ok (here ++ [name]) := by
  obtain ⟨standing, noDots, fits, -⟩ := missing_of_enter missing
  simp only [not_or] at noDots
  have still : (t.put (here ++ [name]) e).find? here = some .directory := by
    rw [find?_put_of_ne t (by simp), standing]
  have below : here ++ [name] ≠ [] := by simp
  simp [enter, still, noDots, fits, t.find?_put_self below e]

/-- Makes a directory in a directory. -/
def makeIn (t : FileTree) (here : Location) (name : String) : Except IoFault FileTree :=
  match t.enter here name with
  | .ok _ => .error .alreadyExists
  | .error .noSuchEntry => .ok (t.put (here ++ [name]) .directory)
  | .error fault => .error fault

theorem missing_of_makeIn (ok : t.makeIn here name = .ok made) :
    t.enter here name = .error .noSuchEntry ∧ made = t.put (here ++ [name]) .directory := by
  unfold makeIn at ok
  split at ok
  next => cases ok
  next missing =>
    cases ok
    exact ⟨missing, rfl⟩
  next => cases ok

/-- In a file system without links, all names but the last are followed, and the last one is made. -/
theorem Plain.makeDirectory_eq (plain : t.Plain) (valid : checkPath raw = .ok ())
    {front : List String} (names : (Path.parse raw).names = front ++ [name]) :
    t.makeDirectory raw = front.foldlM t.enter (startOf (Path.parse raw) t.workingDirectory) >>=
      fun here => t.makeIn here name := by
  unfold makeDirectory
  rw [valid]
  simp only [plain.target_eq _ _ names, bind, Except.bind]
  cases front.foldlM t.enter (startOf (Path.parse raw) t.workingDirectory) with
  | error fault => rfl
  | ok here =>
    unfold makeIn enter
    by_cases standing : t.find? here = some .directory
    · by_cases dots : name = "." ∨ name = ".."
      · rcases dots with rfl | rfl <;> simp [standing]
      · simp only [standing, dots, if_true, if_false]
        simp only [not_or] at dots
        by_cases long : isTooLong name = true
        · simp [long, dots]
        · cases found : t.find? (here ++ [name]) with
          | none => simp [long, dots]
          | some e => simp [long, dots]
    · simp [standing]

theorem makeDirectory_of_nameless (valid : checkPath raw = .ok ())
    (nameless : (Path.parse raw).names = []) : t.makeDirectory raw = .error .alreadyExists := by
  simp [makeDirectory, valid, target, nameless, bind, Except.bind]

theorem makeDirectory_of_invalid (invalid : checkPath raw = .error fault) :
    t.makeDirectory raw = .error fault := by
  rw [makeDirectory, invalid]
  rfl

/-- Only the empty path is missing as a text. -/
theorem checkPath_ne_noSuchEntry (filled : raw ≠ "") : checkPath raw ≠ .error .noSuchEntry := by
  have filled : raw.isEmpty = false := by simpa [String.isEmpty_iff] using filled
  unfold checkPath
  split
  next => simp
  next => split <;> simp [filled]

theorem seek_eq (t : FileTree) {front : List String}
    (names : (Path.parse raw).names = front ++ [name]) :
    t.seek raw = front.foldlM t.enter (startOf (Path.parse raw) t.workingDirectory) >>=
      fun here => t.enter here name := by
  simp [seek, names]

/-- Nothing is made where a path leads to something. -/
theorem Plain.makeDirectory_of_seek (plain : t.Plain) (valid : checkPath raw = .ok ())
    (reached : t.seek raw = .ok spot) : t.makeDirectory raw = .error .alreadyExists := by
  rcases List.eq_nil_or_concat' (Path.parse raw).names with nameless | ⟨front, name, names⟩
  · exact makeDirectory_of_nameless valid nameless
  · rw [t.seek_eq names] at reached
    obtain ⟨here, passed, entered⟩ := exists_of_bind_eq_ok reached
    rw [plain.makeDirectory_eq valid names, passed]
    simp [bind, Except.bind, makeIn, entered]

/-- What stops a path stops making the directory, unless only the directory itself is missing. -/
theorem Plain.makeDirectory_of_seek_error (plain : t.Plain) (valid : checkPath raw = .ok ())
    (stopped : t.seek raw = .error fault) :
    t.makeDirectory raw = .error fault ∨
      fault = .noSuchEntry ∧ ∃ made, t.makeDirectory raw = .ok made := by
  rcases List.eq_nil_or_concat' (Path.parse raw).names with nameless | ⟨front, name, names⟩
  · rw [seek, nameless] at stopped
    cases stopped
  · rw [t.seek_eq names] at stopped
    rw [plain.makeDirectory_eq valid names]
    cases passed : front.foldlM t.enter (startOf (Path.parse raw) t.workingDirectory) with
    | error fault' =>
      rw [passed] at stopped
      cases stopped
      exact .inl rfl
    | ok here =>
      have entered : t.enter here name = .error fault := by
        rw [passed] at stopped
        exact stopped
      simp only [bind, Except.bind, makeIn, entered]
      by_cases missing : fault = .noSuchEntry
      · subst missing
        exact .inr ⟨rfl, _, rfl⟩
      · left
        split <;> simp_all

theorem Plain.exists_of_makeDirectory (plain : t.Plain) (ok : t.makeDirectory raw = .ok made) :
    ∃ front name here, checkPath raw = .ok () ∧ (Path.parse raw).names = front ++ [name] ∧
      front.foldlM t.enter (startOf (Path.parse raw) t.workingDirectory) = .ok here ∧
      t.enter here name = .error .noSuchEntry ∧ made = t.put (here ++ [name]) .directory := by
  obtain ⟨_, valid, -⟩ := exists_of_bind_eq_ok ok
  rcases List.eq_nil_or_concat' (Path.parse raw).names with nameless | ⟨front, name, names⟩
  · rw [makeDirectory_of_nameless valid nameless] at ok
    cases ok
  · rw [plain.makeDirectory_eq valid names] at ok
    obtain ⟨here, passed, ok⟩ := exists_of_bind_eq_ok ok
    obtain ⟨missing, same⟩ := missing_of_makeIn ok
    exact ⟨front, name, here, valid, names, passed, missing, same⟩

theorem Plain.plain_of_makeDirectory (plain : t.Plain) (ok : t.makeDirectory raw = .ok made) :
    made.Plain := by
  obtain ⟨front, name, here, -, -, -, missing, rfl⟩ := plain.exists_of_makeDirectory ok
  exact plain.put (missing_of_enter missing).1 (by simp) (fun _ => rfl)

/-- A directory that was made is there. -/
theorem Plain.isDirectory_of_makeDirectory (plain : t.Plain)
    (ok : t.makeDirectory raw = .ok made) : made.isDirectory raw = true := by
  have plain' := plain.plain_of_makeDirectory ok
  have grown := (extends_of_makeDirectory ok).growsTo
  obtain ⟨front, name, here, valid, names, passed, missing, rfl⟩ :=
    plain.exists_of_makeDirectory ok
  rw [plain'.isDirectory_iff]
  refine ⟨valid, here ++ [name], ?_, t.find?_put_self (by simp) _⟩
  rw [seek_eq _ names, grown.workingDirectory, grown.foldlM passed]
  exact enter_put missing _

/-! ### Enclosing paths -/

theorem checkPath_of_encloses (encloses : Encloses outer raw) (ne : outer ≠ "")
    (valid : checkPath raw = .ok ()) : checkPath outer = .ok () := by
  obtain ⟨rest, text⟩ := encloses.begins
  unfold checkPath bytesOf at valid ⊢
  rw [← text, Text.Utf8.encode_append, List.length_append] at valid
  split at valid
  next => cases valid
  next clean =>
    split at valid
    next => cases valid
    next short =>
      have filled : outer.isEmpty = false := by simpa [String.isEmpty_iff] using ne
      simp only [List.contains_eq_mem, List.mem_append, decide_eq_true_eq, not_or] at clean
      simp [clean.1, filled]
      omega

theorem startOf_of_encloses (encloses : Encloses outer raw) (here : Location) :
    startOf (Path.parse outer) here = startOf (Path.parse raw) here := by
  simp [startOf, encloses.absolute]

/-- On the way to anything stand directories. -/
theorem stands_of_seek (encloses : Encloses outer raw) (reached : t.seek raw = .ok spot) :
    t.Stands outer := by
  obtain ⟨first, rest, names⟩ := encloses.exists_names
  rw [seek, names, List.foldlM_append, ← startOf_of_encloses encloses] at reached
  obtain ⟨inner, passed, reached⟩ := exists_of_bind_eq_ok reached
  rw [List.foldlM_cons] at reached
  obtain ⟨_, entered, -⟩ := exists_of_bind_eq_ok reached
  exact ⟨inner, passed, directory_of_enter entered⟩

theorem Plain.stands_of_makeDirectory (plain : t.Plain) (encloses : Encloses outer raw)
    (ok : t.makeDirectory raw = .ok made) : t.Stands outer := by
  obtain ⟨front, name, here, -, names, passed, missing, -⟩ := plain.exists_of_makeDirectory ok
  obtain ⟨first, rest, names'⟩ := encloses.exists_names
  -- The enclosing path is a first part of all names but the last.
  have split : front = (Path.parse outer).names ++ (first :: rest).dropLast := by
    rw [← List.dropLast_append_of_ne_nil (by simp), ← names', names, List.dropLast_concat]
  rw [split, ← startOf_of_encloses encloses] at passed
  exact exists_of_foldlM_append passed (missing_of_enter missing).1

/-- Where the enclosing directory stands, nothing is missing for the last name. -/
theorem foldlM_of_stands (encloses : Encloses outer raw) (stands : t.Stands outer)
    {dots : List String} (all : ∀ d ∈ dots, d = ".") :
    ∃ here, t.find? here = some .directory ∧
      ((Path.parse outer).names ++ dots).foldlM t.enter
        (startOf (Path.parse raw) t.workingDirectory) = .ok here := by
  obtain ⟨here, reached, standing⟩ := stands
  refine ⟨here, standing, ?_⟩
  rw [seek, startOf_of_encloses encloses] at reached
  rw [List.foldlM_append, reached]
  exact foldlM_dots all standing

theorem Plain.makeDirectory_ne_noSuchEntry (plain : t.Plain) (encloses : Encloses outer raw)
    (closed : Closed raw) (stands : t.Stands outer) :
    t.makeDirectory raw ≠ .error .noSuchEntry := by
  obtain ⟨dots, name, all, names⟩ := encloses.names_of_closed closed
  obtain ⟨here, standing, passed⟩ := foldlM_of_stands encloses stands all
  cases valid : checkPath raw with
  | error fault =>
    rw [makeDirectory_of_invalid valid]
    rintro ⟨⟩
    refine checkPath_ne_noSuchEntry ?_ valid
    rintro rfl
    exact absurd (congrArg List.length names) (by simp [Path.parse, splitSlashes])
  | ok =>
    rw [plain.makeDirectory_eq valid names, passed]
    simp only [bind, Except.bind, makeIn]
    split <;> simp_all

/-! ### Making directories where none exist -/

/-- Makes a directory unless it is there. -/
def ensure (t : FileTree) (raw : String) : FileTree × Except IoFault Unit :=
  match t.makeDirectory raw with
  | .ok made => (made, .ok ())
  | .error fault => if t.isDirectory raw then (t, .ok ()) else (t, .error fault)

theorem makeDirectories_of_ne (missing : t.makeDirectory raw ≠ .error .noSuchEntry)
    (outers : List String) : t.makeDirectories (raw :: outers) = t.ensure raw := by
  unfold makeDirectories ensure
  cases made : t.makeDirectory raw with
  | ok made => rfl
  | error fault =>
    cases fault with
    | noSuchEntry => exact absurd made missing
    | _ => rfl

theorem makeDirectories_of_missing (missing : t.makeDirectory raw = .error .noSuchEntry)
    (outers : List String) :
    t.makeDirectories (raw :: outers) =
      match t.makeDirectories outers with
      | (between, .ok ()) => between.ensure raw
      | (between, .error fault) => (between, .error fault) := by
  rw [makeDirectories, missing]
  rfl

theorem ensure_of_stuck (failed : t.makeDirectory raw = .error fault)
    (nowhere : t.isDirectory raw = false) : t.ensure raw = (t, .error fault) := by
  simp [ensure, failed, nowhere]

theorem exists_of_ensure_error (failed : t.ensure raw = (made, .error fault)) :
    made = t ∧ t.makeDirectory raw = .error fault ∧ t.isDirectory raw = false := by
  unfold ensure at failed
  split at failed
  next => cases failed
  next stopped =>
    split at failed
    next => cases failed
    next nowhere =>
      cases failed
      exact ⟨rfl, stopped, by simpa using nowhere⟩

theorem Plain.ensure_of_isDirectory (plain : t.Plain) (found : t.isDirectory raw = true) :
    t.makeDirectory raw = .error .alreadyExists ∧ t.ensure raw = (t, .ok ()) := by
  obtain ⟨valid, spot, reached, -⟩ := plain.isDirectory_iff.mp found
  have failed := plain.makeDirectory_of_seek valid reached
  exact ⟨failed, by simp [ensure, failed, found]⟩

theorem Plain.ensure (plain : t.Plain) (raw : String) : (t.ensure raw).1.Plain := by
  unfold FileTree.ensure
  split
  next ok => exact plain.plain_of_makeDirectory ok
  next => split <;> exact plain

theorem Plain.isDirectory_of_ensure (plain : t.Plain) (ok : t.ensure raw = (made, .ok ())) :
    made.isDirectory raw = true := by
  unfold FileTree.ensure at ok
  split at ok
  next made' created =>
    cases ok
    exact plain.isDirectory_of_makeDirectory created
  next =>
    split at ok
    next found =>
      cases ok
      exact found
    next => cases ok

/-- A directory that cannot be made, for another reason than a missing outer one, never can be. -/
theorem Plain.makeDirectory_stuck (plain : t.Plain) (plain' : later.Plain)
    (grown : t.GrowsTo later) (failed : t.makeDirectory raw = .error fault)
    (cause : fault ≠ .noSuchEntry) (nowhere : t.isDirectory raw = false) :
    later.makeDirectory raw = .error fault ∧ later.isDirectory raw = false := by
  cases valid : checkPath raw with
  | error fault' =>
    rw [makeDirectory_of_invalid valid] at failed ⊢
    refine ⟨failed, ?_⟩
    rw [Bool.eq_false_iff, ne_eq, plain'.isDirectory_iff, valid]
    rintro ⟨⟨⟩, -⟩
  | ok =>
    cases reached : t.seek raw with
    | ok spot =>
      -- The path leads to a file, and does so later.
      rw [plain.makeDirectory_of_seek valid reached] at failed
      have reached' := grown.seek reached
      rw [Bool.eq_false_iff, ne_eq, plain.isDirectory_of_seek valid reached] at nowhere
      rw [Bool.eq_false_iff, ne_eq, plain'.isDirectory_of_seek valid reached']
      constructor
      · rw [plain'.makeDirectory_of_seek valid reached', Except.error.inj failed]
      · exact grown.find?_ne_directory (plain.isSome_of_seek reached) nowhere
    | error fault' =>
      rcases plain.makeDirectory_of_seek_error valid reached with stopped | ⟨-, made, ok⟩
      · rw [stopped] at failed
        cases failed
        have stopped' := grown.seek_error plain reached cause
        refine ⟨?_, plain'.isDirectory_of_seek_error stopped'⟩
        rcases plain'.makeDirectory_of_seek_error valid stopped' with again | ⟨missing, -⟩
        · exact again
        · exact absurd missing cause
      · rw [ok] at failed
        cases failed

/-! ### Making a path and its enclosing directories -/

theorem Plain.makeDirectories (plain : t.Plain) (raws : List String) :
    (t.makeDirectories raws).1.Plain := by
  induction raws with
  | nil => exact plain
  | cons raw outers ih =>
    by_cases missing : t.makeDirectory raw = .error .noSuchEntry
    · rw [makeDirectories_of_missing missing]
      split
      next between same =>
        rw [same] at ih
        exact ih.ensure raw
      next same => rwa [same] at ih
    · rw [makeDirectories_of_ne missing]
      exact plain.ensure raw

theorem Plain.isDirectory_of_makeDirectories (plain : t.Plain) {outers : List String}
    (ok : t.makeDirectories (raw :: outers) = (made, .ok ())) : made.isDirectory raw = true := by
  by_cases missing : t.makeDirectory raw = .error .noSuchEntry
  · rw [makeDirectories_of_missing missing] at ok
    have plain' := plain.makeDirectories outers
    split at ok
    next between same =>
      rw [same] at plain'
      exact plain'.isDirectory_of_ensure ok
    next => cases ok
  · rw [makeDirectories_of_ne missing] at ok
    exact plain.isDirectory_of_ensure ok

theorem ancestors_empty (bound : Nat) : Path.ancestors bound "" = [] := by
  cases bound <;> rfl

/-- The enclosing directories of a path, innermost first. -/
def outersOf (bound : Nat) (raw : String) : List String :=
  match Path.parent? raw with
  | some outer => Path.ancestors bound outer
  | none => []

theorem ancestors_succ (bound : Nat) (filled : raw ≠ "") :
    Path.ancestors (bound + 1) raw = raw :: outersOf bound raw := by
  have filled : raw.isEmpty = false := by simpa [String.isEmpty_iff] using filled
  rw [Path.ancestors, filled, outersOf]
  cases Path.parent? raw <;> rfl

theorem Plain.stands_empty (plain : t.Plain) : t.Stands "" :=
  ⟨t.workingDirectory, rfl, plain.working⟩

theorem Plain.stands_of_parent?_eq_none (plain : t.Plain) (outermost : Path.parent? raw = none) :
    t.Stands raw :=
  ⟨_, foldlM_dots (Path.eq_dot_of_parent?_eq_none outermost) (plain.find?_start _),
    plain.find?_start _⟩

variable {bound : Nat}

/-- Where a path stands nothing is made for it. -/
theorem Plain.makeDirectories_of_stands (plain : t.Plain) (stands : t.Stands raw)
    (valid : raw ≠ "" → checkPath raw = .ok ()) (fits : raw.length < bound) :
    t.makeDirectories (Path.ancestors bound raw) = (t, .ok ()) := by
  obtain ⟨bound, rfl⟩ := Nat.exists_eq_add_one.mpr (Nat.zero_lt_of_lt fits)
  by_cases empty : raw = ""
  · rw [empty, ancestors_empty]
    rfl
  · have found := plain.isDirectory_iff.mpr ⟨valid empty, stands⟩
    obtain ⟨failed, ensured⟩ := plain.ensure_of_isDirectory found
    rw [ancestors_succ bound empty, makeDirectories_of_ne (by simp [failed]), ensured]

theorem Plain.stands_of_makeDirectories (plain : t.Plain) (fits : raw.length < bound)
    (ok : t.makeDirectories (Path.ancestors bound raw) = (made, .ok ())) :
    made.Stands raw ∧ (raw ≠ "" → checkPath raw = .ok ()) := by
  obtain ⟨bound, rfl⟩ := Nat.exists_eq_add_one.mpr (Nat.zero_lt_of_lt fits)
  have plain' := plain.makeDirectories (Path.ancestors (bound + 1) raw)
  rw [ok] at plain'
  by_cases empty : raw = ""
  · rw [empty]
    exact ⟨plain'.stands_empty, fun filled => absurd rfl filled⟩
  · rw [ancestors_succ bound empty] at ok
    obtain ⟨valid, stands⟩ := plain'.isDirectory_iff.mp (plain.isDirectory_of_makeDirectories ok)
    exact ⟨stands, fun _ => valid⟩

/-- A directory that could be made stands in a directory that was there. -/
theorem Plain.stands_of_ensure (plain : t.Plain) (encloses : Encloses outer raw)
    (ok : t.ensure raw = (made, .ok ())) : checkPath raw = .ok () ∧ t.Stands outer := by
  cases created : t.makeDirectory raw with
  | ok made' =>
    obtain ⟨_, _, _, valid, -⟩ := plain.exists_of_makeDirectory created
    exact ⟨valid, plain.stands_of_makeDirectory encloses created⟩
  | error fault =>
    cases found : t.isDirectory raw with
    | true =>
      obtain ⟨valid, spot, reached, -⟩ := plain.isDirectory_iff.mp found
      exact ⟨valid, stands_of_seek encloses reached⟩
    | false =>
      rw [ensure_of_stuck created found] at ok
      cases ok

theorem Plain.makeDirectories_stuck (plain : t.Plain) (plain' : later.Plain)
    (failed : t.ensure raw = (made, .error fault)) (grown : made.GrowsTo later)
    (possible : t.makeDirectory raw ≠ .error .noSuchEntry) (outers : List String) :
    later.makeDirectories (raw :: outers) = (later, .error fault) := by
  obtain ⟨rfl, failed, nowhere⟩ := exists_of_ensure_error failed
  have cause : fault ≠ .noSuchEntry := by
    rintro rfl
    exact possible failed
  obtain ⟨failed', nowhere'⟩ := plain.makeDirectory_stuck plain' grown failed cause nowhere
  have possible' : later.makeDirectory raw ≠ .error .noSuchEntry := by simpa [failed'] using cause
  rw [makeDirectories_of_ne possible', ensure_of_stuck failed' nowhere']

/-- Nothing can be missing for a path that leads nowhere. -/
theorem Plain.makeDirectory_of_outermost (plain : t.Plain) (outermost : Path.parent? raw = none)
    (filled : raw ≠ "") : t.makeDirectory raw ≠ .error .noSuchEntry := by
  intro missing
  have stands := plain.stands_of_parent?_eq_none outermost
  cases valid : checkPath raw with
  | error fault =>
    rw [makeDirectory_of_invalid valid] at missing
    cases missing
    exact checkPath_ne_noSuchEntry filled valid
  | ok =>
    have found := plain.isDirectory_iff.mpr ⟨valid, stands⟩
    rw [(plain.ensure_of_isDirectory found).1] at missing
    cases missing

/-- Where an enclosing directory cannot be made, neither can the directory. -/
theorem Plain.makeDirectories_of_outer_stuck (plain : t.Plain) (encloses : Encloses outer raw)
    (fits : outer.length < bound)
    (stuck : t.makeDirectories (Path.ancestors bound outer) = (t, .error fault)) :
    ∃ fault', t.makeDirectories (raw :: Path.ancestors bound outer) = (t, .error fault') := by
  by_cases missing : t.makeDirectory raw = .error .noSuchEntry
  · exact ⟨fault, by rw [makeDirectories_of_missing missing, stuck]⟩
  · rw [makeDirectories_of_ne missing]
    cases ensured : t.ensure raw with
    | mk made result =>
      cases result with
      | error fault' =>
        obtain ⟨rfl, -⟩ := exists_of_ensure_error ensured
        exact ⟨fault', rfl⟩
      | ok =>
        -- Then the enclosing directory stands, and making it could not have failed.
        obtain ⟨valid, stands⟩ := plain.stands_of_ensure encloses ensured
        have valid' (ne : outer ≠ "") := checkPath_of_encloses encloses ne valid
        rw [plain.makeDirectories_of_stands stands valid' fits] at stuck
        cases stuck

/-- Directories that could not be made cannot be made later, and nothing is made for them then. -/
theorem Plain.makeDirectories_again (plain : t.Plain) (closed : Closed raw)
    (fits : raw.length < bound)
    (failed : t.makeDirectories (Path.ancestors bound raw) = (made, .error fault))
    (plain' : later.Plain) (grown : made.GrowsTo later) :
    ∃ fault', later.makeDirectories (Path.ancestors bound raw) = (later, .error fault') := by
  -- The induction is on the bound, which counts the enclosing directories that may still follow.
  induction bound generalizing raw made fault with
  | zero => omega
  | succ bound ih =>
    have filled : raw ≠ "" := by
      rintro rfl
      rw [ancestors_empty] at failed
      cases failed
    rw [ancestors_succ bound filled] at failed ⊢
    by_cases missing : t.makeDirectory raw = .error .noSuchEntry
    · rw [makeDirectories_of_missing missing] at failed
      cases parent : Path.parent? raw with
      | none => exact absurd missing (plain.makeDirectory_of_outermost parent filled)
      | some outer =>
        have encloses := Path.encloses_of_parent? parent
        have shorter : outer.length < bound := by
          have := encloses.length_lt
          omega
        have outers : outersOf bound raw = Path.ancestors bound outer := by rw [outersOf, parent]
        rw [outers] at failed ⊢
        split at failed
        next between made' =>
          -- The outer directories were made, so what failed is not for want of them.
          have plain'' := plain.makeDirectories (Path.ancestors bound outer)
          rw [made'] at plain''
          have stands := (plain.stands_of_makeDirectories shorter made').1
          have possible := plain''.makeDirectory_ne_noSuchEntry encloses closed stands
          exact ⟨fault, plain''.makeDirectories_stuck plain' failed grown possible _⟩
        next between fault' stopped =>
          cases failed
          obtain ⟨fault', again⟩ := ih encloses.closed shorter stopped grown
          exact plain'.makeDirectories_of_outer_stuck encloses shorter again
    · rw [makeDirectories_of_ne missing] at failed
      exact ⟨fault, plain.makeDirectories_stuck plain' failed grown missing _⟩

end FileTree

end FormLetter
