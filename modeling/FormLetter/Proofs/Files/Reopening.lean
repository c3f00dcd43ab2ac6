import FormLetter.Proofs.Files.Making
import FormLetter.Proofs.Files.Opening

/-!
Outputs that may overwrite, in file systems without links. Opening an output once settles how it is
opened ever after: if it was opened, then every later opening empties the same file and makes
nothing else, and if it was refused, then it is refused again and makes nothing at all, whatever
other outputs were opened in between.
-/
namespace FormLetter

open FormLetter.Path (Encloses Closed)

namespace FileTree

variable {t later : FileTree} {spot : Location} {raw : String}

/-! ### Opening a file -/

theorem Plain.place?_eq_some_iff (plain : t.Plain) :
    t.place? raw = some spot ↔ checkPath raw = .ok () ∧ (Path.parse raw).trailingSlash = false ∧
      ∃ front name here, (Path.parse raw).names = front ++ [name] ∧
        front.foldlM t.enter (startOf (Path.parse raw) t.workingDirectory) = .ok here ∧
        t.find? here = some .directory ∧ ¬ (name = "." ∨ name = "..") ∧ isTooLong name = false ∧
        spot = here ++ [name] := by
  constructor
  · intro place
    obtain ⟨here, name, left, valid, named, bare, fits, rfl⟩ := exists_of_place? place
    refine ⟨valid, bare, ?_⟩
    rcases List.eq_nil_or_concat' (Path.parse raw).names with nameless | ⟨front, last, names⟩
    · simp [target, nameless] at named
    · rw [plain.target_eq _ _ names] at named
      obtain ⟨inner, passed, named⟩ := exists_of_bind_eq_ok named
      split at named
      next standing =>
        split at named
        next => cases named
        next noDots =>
          cases named
          exact ⟨front, name, here, names, passed, standing, noDots, fits, rfl⟩
      next => cases named
  · rintro ⟨valid, bare, front, name, here, names, passed, standing, noDots, fits, rfl⟩
    apply place?_eq_some valid ?_ bare fits
    · exact linkLimit
    · rw [plain.target_eq _ _ names, passed]
      simp [bind, Except.bind, standing, noDots]

theorem exists_openAt_eq (t : FileTree) (mode : Opening) (bound left : Nat) (start : Location)
    (p : Path) : ∃ follow, t.openAt mode bound left start p = t.openWith mode follow left start p := by
  cases bound with
  | zero => exact ⟨_, rfl⟩
  | succ bound => exact ⟨_, rfl⟩

/-- A file is opened at the place of its path, unless a directory is there. -/
theorem Plain.openFile_over_eq_ok_iff (plain : t.Plain) :
    t.openFile .over raw = .ok (later, spot) ↔
      t.place? raw = some spot ∧ t.find? spot ≠ some .directory ∧ later = t.put spot (.file []) := by
  -- There is no link to follow, so it does not matter how many may be followed.
  obtain ⟨follow, same⟩ := t.exists_openAt_eq .over linkLimit linkLimit
    (startOf (Path.parse raw) t.workingDirectory) (Path.parse raw)
  unfold openFile
  dsimp only
  rw [same]
  constructor
  · intro opened
    obtain ⟨_, valid, opened⟩ := exists_of_bind_eq_ok opened
    obtain ⟨target, named, opened⟩ := exists_of_bind_eq_ok opened
    cases target with
    | existing => cases opened
    | named here name left =>
      dsimp only at opened
      split at opened
      next => cases opened
      next bare =>
        split at opened
        next => cases opened
        next fits =>
          have place := place?_eq_some valid named (by simpa using bare) (by simpa using fits)
          split at opened
          next absent =>
            cases opened
            exact ⟨place, by simp [absent], rfl⟩
          next => cases opened
          next content found =>
            cases opened
            exact ⟨place, by simp [found], rfl⟩
          next target found => exact absurd found (plain.noLink _ target)
  · rintro ⟨place, free, rfl⟩
    obtain ⟨here, name, left, valid, named, bare, fits, rfl⟩ := exists_of_place? place
    rw [valid, openWith, named]
    simp only [bind, Except.bind, bare, fits, Bool.false_eq_true, if_false]
    cases found : t.find? (here ++ [name]) with
    | none => rfl
    | some e =>
      cases e with
      | file content => rfl
      | directory => exact absurd found free
      | link target => exact absurd found (plain.noLink _ target)

theorem ne_nil_of_place? (place : t.place? raw = some spot) : spot ≠ [] := by
  obtain ⟨here, name, -, -, -, -, -, rfl⟩ := exists_of_place? place
  simp

theorem Plain.put_place (plain : t.Plain) (place : t.place? raw = some spot)
    (free : t.find? spot ≠ some .directory) {content : Bytes} :
    (t.put spot (.file content)).Plain := by
  obtain ⟨-, -, front, name, here, -, -, standing, -, -, rfl⟩ := plain.place?_eq_some_iff.mp place
  exact plain.put standing (by simp) fun found => absurd found free

theorem GrowsTo.place? (grown : t.GrowsTo later) (plain : t.Plain) (plain' : later.Plain)
    (place : t.place? raw = some spot) : later.place? raw = some spot := by
  obtain ⟨valid, bare, front, name, here, names, passed, standing, noDots, fits, rfl⟩ :=
    plain.place?_eq_some_iff.mp place
  have passed' := grown.foldlM passed
  rw [← grown.workingDirectory] at passed'
  exact plain'.place?_eq_some_iff.mpr
    ⟨valid, bare, front, name, here, names, passed', grown.directory standing, noDots, fits, rfl⟩

/-- Where the enclosing directory stands, a path that has a place later has it already. -/
theorem GrowsTo.place?_of_stands (grown : t.GrowsTo later) (plain : t.Plain) (plain' : later.Plain)
    (stands : ∀ outer, Path.parent? raw = some outer → t.Stands outer)
    (place : later.place? raw = some spot) : t.place? raw = some spot := by
  obtain ⟨valid, bare, front, name, here, names, passed, standing, noDots, fits, rfl⟩ :=
    plain'.place?_eq_some_iff.mp place
  cases parent : Path.parent? raw with
  | none =>
    have dot := Path.eq_dot_of_parent?_eq_none parent name (by simp [names])
    exact absurd (.inl dot) noDots
  | some outer =>
    have encloses := Path.encloses_of_parent? parent
    -- The last name is no dot, so all names in front of it lead to the enclosing directory.
    have closed : Closed raw := by
      intro ends
      rw [names, List.getLast?_concat, Option.some_inj] at ends
      exact absurd (.inl ends) noDots
    obtain ⟨dots, name', all, names'⟩ := encloses.names_of_closed closed
    obtain ⟨rfl, last⟩ := List.append_inj' (names.symm.trans names') rfl
    obtain ⟨inner, standing', reached⟩ := foldlM_of_stands encloses (stands outer parent) all
    rw [grown.workingDirectory, grown.foldlM reached] at passed
    cases passed
    exact plain.place?_eq_some_iff.mpr
      ⟨valid, bare, _, name, here, names, reached, standing', noDots, fits, rfl⟩

end FileTree

/-! ### Outputs -/

open FileTree

variable {files made later : FileTree} {path : String} {spot : Location}

namespace FileTree.Plain

theorem makeParents (plain : files.Plain) (path : String) :
    (makeParents files path).1.Plain := by
  unfold FormLetter.makeParents
  split
  next => exact plain
  next parent _ =>
    have plain' := plain.makeDirectories (Path.ancestors (parent.length + 1) parent)
    split
    next same => rwa [same] at plain'
    next same => rwa [same] at plain'

theorem stands_of_makeParents (plain : files.Plain)
    (parents : FormLetter.makeParents files path = (made, .ok ())) :
    ∀ outer, Path.parent? path = some outer →
      made.Stands outer ∧ (outer ≠ "" → checkPath outer = .ok ()) := by
  intro outer parent
  unfold FormLetter.makeParents at parents
  rw [parent] at parents
  dsimp only at parents
  split at parents
  next ok =>
    cases parents
    exact plain.stands_of_makeDirectories (Nat.lt_succ_self _) ok
  next => cases parents

theorem makeParents_of_stands (plain : files.Plain)
    (stands : ∀ outer, Path.parent? path = some outer →
      files.Stands outer ∧ (outer ≠ "" → checkPath outer = .ok ())) :
    FormLetter.makeParents files path = (files, .ok ()) := by
  unfold FormLetter.makeParents
  cases parent : Path.parent? path with
  | none => rfl
  | some outer =>
    obtain ⟨stands, valid⟩ := stands outer parent
    dsimp only
    rw [plain.makeDirectories_of_stands stands valid (Nat.lt_succ_self _)]

theorem makeParents_again (plain : files.Plain) {cause : SinkError}
    (failed : FormLetter.makeParents files path = (made, .error cause)) (plain' : later.Plain)
    (grown : made.GrowsTo later) :
    ∃ cause', FormLetter.makeParents later path = (later, .error cause') := by
  unfold FormLetter.makeParents at failed ⊢
  cases parent : Path.parent? path with
  | none =>
    rw [parent] at failed
    cases failed
  | some outer =>
    rw [parent] at failed
    dsimp only at failed ⊢
    split at failed
    next => cases failed
    next fault stopped =>
      cases failed
      have closed := (Path.encloses_of_parent? parent).closed
      obtain ⟨fault', again⟩ :=
        plain.makeDirectories_again closed (Nat.lt_succ_self _) stopped plain' grown
      exact ⟨_, by rw [again]⟩

end FileTree.Plain

theorem openPath_forced_eq_ok_iff :
    openPath files path true = (later, .ok spot) ↔
      ∃ made, makeParents files path = (made, .ok ()) ∧
        made.openFile .over path = .ok (later, spot) := by
  unfold openPath createFile
  cases makeParents files path with
  | mk made result =>
    cases result with
    | error cause => simp
    | ok =>
      cases opened : made.openFile .over path with
      | ok found => simp [opened, Prod.ext_iff]
      | error fault => cases fault <;> simp [opened]

namespace FileTree.Plain

theorem openPath_refused (plain : files.Plain) {cause : SinkError}
    (refused : openPath files path true = (made, .error cause)) :
    made.Plain ∧ files.Extends made := by
  rw [files_of_openPath_error refused]
  exact ⟨plain.makeParents path, extends_makeParents files path⟩

theorem exists_of_openPath (plain : files.Plain)
    (opened : openPath files path true = (later, .ok spot)) :
    ∃ made, FormLetter.makeParents files path = (made, .ok ()) ∧ made.Plain ∧
      made.place? path = some spot ∧ made.find? spot ≠ some .directory ∧
      later = made.put spot (.file []) := by
  obtain ⟨made, parents, opened⟩ := openPath_forced_eq_ok_iff.mp opened
  have plain' := plain.makeParents path
  rw [parents] at plain'
  obtain ⟨place, free, rfl⟩ := plain'.openFile_over_eq_ok_iff.mp opened
  exact ⟨made, parents, plain', place, free, rfl⟩

/-- An output that was opened is empty, and everything else is as it was. -/
theorem openPath_opened (plain : files.Plain)
    (opened : openPath files path true = (made, .ok spot)) :
    made.Plain ∧ files.GrowsTo made ∧ made.find? spot = some (.file []) ∧
      ∀ other e, other ≠ spot → files.find? other = some e → made.find? other = some e := by
  obtain ⟨between, parents, plain', place, free, rfl⟩ := plain.exists_of_openPath opened
  have grown := extends_makeParents files path
  rw [parents] at grown
  have below := ne_nil_of_place? place
  refine ⟨plain'.put_place place free, grown.growsTo.trans (.put_file below free []),
    between.find?_put_self below _, fun other e ne found => ?_⟩
  rw [find?_put_of_ne between ne]
  exact grown.kept other e found

theorem makeParents_stands_again (plain : files.Plain)
    (parents : FormLetter.makeParents files path = (made, .ok ())) (plain' : later.Plain)
    (grown : made.GrowsTo later) : FormLetter.makeParents later path = (later, .ok ()) := by
  apply plain'.makeParents_of_stands
  intro outer parent
  obtain ⟨stands, valid⟩ := plain.stands_of_makeParents parents outer parent
  exact ⟨grown.stands stands, valid⟩

/-- An output that was opened is opened again at the same place, and nothing else changes. -/
theorem openPath_again (plain : files.Plain)
    (opened : openPath files path true = (made, .ok spot)) (plain' : later.Plain)
    (grown : made.GrowsTo later) :
    openPath later path true = (later.put spot (.file []), .ok spot) := by
  obtain ⟨between, parents, plain'', place, free, rfl⟩ := plain.exists_of_openPath opened
  have below := ne_nil_of_place? place
  have grown' := (GrowsTo.put_file below free []).trans grown
  apply openPath_forced_eq_ok_iff.mpr
  refine ⟨later, plain.makeParents_stands_again parents plain' grown', ?_⟩
  apply plain'.openFile_over_eq_ok_iff.mpr
  refine ⟨grown'.place? plain'' plain' place, ?_, rfl⟩
  -- A file that was opened is no directory later.
  have emptied := between.find?_put_self below (.file [])
  exact grown.find?_ne_directory (by rw [emptied]; rfl) (by simp [emptied])

/-- An output that can be opened later could have been opened at once, as soon as its directories
could be made. -/
theorem openPath_at_once (plain : files.Plain)
    (parents : FormLetter.makeParents files path = (made, .ok ())) (plain' : later.Plain)
    (grown : made.GrowsTo later) {last : FileTree}
    (opened : openPath later path true = (last, .ok spot)) :
    openPath files path true = (made.put spot (.file []), .ok spot) := by
  have plain'' := plain.makeParents path
  rw [parents] at plain''
  obtain ⟨_, parents', -, place, free, -⟩ := plain'.exists_of_openPath opened
  rw [plain.makeParents_stands_again parents plain' grown] at parents'
  cases parents'
  have stands outer parent := (plain.stands_of_makeParents parents outer parent).1
  have place' := grown.place?_of_stands plain'' plain' stands place
  have free' : made.find? spot ≠ some .directory := fun standing => free (grown.directory standing)
  apply openPath_forced_eq_ok_iff.mpr
  exact ⟨made, parents, plain''.openFile_over_eq_ok_iff.mpr ⟨place', free', rfl⟩⟩

/-- An output that was refused is refused again, and nothing changes. -/
theorem openPath_refused_again (plain : files.Plain) {cause : SinkError}
    (refused : openPath files path true = (made, .error cause)) (plain' : later.Plain)
    (grown : made.GrowsTo later) :
    ∃ cause', openPath later path true = (later, .error cause') := by
  have made' := files_of_openPath_error refused
  cases parents : FormLetter.makeParents files path with
  | mk between result =>
    rw [parents] at made'
    subst made'
    cases result with
    | error fault =>
      obtain ⟨fault', again⟩ := plain.makeParents_again parents plain' grown
      exact ⟨fault', by rw [openPath, again]⟩
    | ok =>
      have parents' := plain.makeParents_stands_again parents plain' grown
      cases opened : openPath later path true with
      | mk last result =>
        cases result with
        | error cause' =>
          have same := files_of_openPath_error opened
          rw [parents'] at same
          exact ⟨cause', by rw [same]⟩
        | ok spot =>
          have opened' := plain.openPath_at_once parents plain' grown opened
          cases congrArg Prod.snd (refused.symm.trans opened')

end FileTree.Plain

end FormLetter
