import FormLetter.Proofs.Files.Growth

/-!
Opening a file where overwriting is not allowed. The file is made exactly when nothing is at the
place its path names, and everything else is left as it was.
-/
namespace FormLetter

namespace FileTree

/-! ### Walking one name -/

section

variable {t : FileTree} {here : Location} {name : String}

theorem walk_nil (t : FileTree) (left : Nat) (here : Location) :
    t.walk left here [] = .ok (here, left) := by
  cases left <;> rfl

variable (standing : t.find? here = some .directory) (noDots : ¬ (name = "." ∨ name = ".."))
include standing noDots

theorem walk_long (long : isTooLong name = true) (left : Nat) (rest : List String) :
    t.walk left here (name :: rest) = .error .nameTooLong := by
  simp only [not_or] at noDots
  cases left <;> simp [walk, walkWith, standing, noDots, long]

variable (fits : isTooLong name = false)
include fits

theorem walk_missing (absent : t.find? (here ++ [name]) = none) (left : Nat)
    (rest : List String) : t.walk left here (name :: rest) = .error .noSuchEntry := by
  simp only [not_or] at noDots
  cases left <;> simp [walk, walkWith, standing, noDots, fits, absent]

theorem walk_found {e : Entry} (found : t.find? (here ++ [name]) = some e)
    (noLink : ∀ target, e ≠ .link target) (left : Nat) (rest : List String) :
    t.walk left here (name :: rest) = t.walk left (here ++ [name]) rest := by
  simp only [not_or] at noDots
  cases e with
  | link target => exact absurd rfl (noLink target)
  | file content => cases left <;> simp [walk, walkWith, standing, noDots, fits, found]
  | directory => cases left <;> simp [walk, walkWith, standing, noDots, fits, found]

theorem walk_link {target : String} (found : t.find? (here ++ [name]) = some (.link target))
    (left : Nat) (rest : List String) :
    t.walk (left + 1) here (name :: rest) =
      t.walk left (startOf (Path.parse target) here) ((Path.parse target).wholeNames ++ rest) := by
  simp only [not_or] at noDots
  simp [walk, walkWith, standing, noDots, fits, found]

theorem walk_exhausted {target : String}
    (found : t.find? (here ++ [name]) = some (.link target)) (rest : List String) :
    t.walk 0 here (name :: rest) = .error .tooManyLinks := by
  simp only [not_or] at noDots
  simp [walk, walkWith, standing, noDots, fits, found]

end

/-! ### Walking in two parts -/

private theorem walkWith_append (t : FileTree) {left : Nat}
    {follow : Location → String → List String → Except IoFault (Location × Nat)}
    {ys : List String} {after : Location × Nat → Except IoFault (Location × Nat)}
    (ends : ∀ here, t.walkWith left follow here ys = after (here, left))
    (follows : ∀ here target rest,
      follow here target (rest ++ ys) = follow here target rest >>= after)
    (here : Location) (xs : List String) :
    t.walkWith left follow here (xs ++ ys) = t.walkWith left follow here xs >>= after := by
  induction xs generalizing here with
  | nil => exact ends here
  | cons name rest ih =>
    rw [List.cons_append, walkWith, walkWith]
    cases standing : t.find? here with
    | none => rfl
    | some e =>
      cases e with
      | file content => rfl
      | link target => rfl
      | directory =>
        dsimp only
        split
        next => exact ih here
        next =>
          split
          next => exact ih here.dropLast
          next =>
            split
            next => rfl
            next =>
              cases entry : t.find? (here ++ [name]) with
              | none => rfl
              | some e =>
                cases e with
                | link target => exact follows here target rest
                | file content => exact ih (here ++ [name])
                | directory => exact ih (here ++ [name])

/-- The links that a first part uses up are missing in the second. -/
theorem walk_append (t : FileTree) (left : Nat) (here : Location) (xs ys : List String) :
    t.walk left here (xs ++ ys) = t.walk left here xs >>= fun r => t.walk r.2 r.1 ys := by
  -- A link puts its names in front of the rest of the first part, so the parts stay apart.
  induction left generalizing here xs with
  | zero => exact walkWith_append t (fun _ => rfl) (fun _ _ _ => rfl) here xs
  | succ left ih =>
    refine walkWith_append t (fun _ => rfl) ?_ here xs
    intro here target rest
    dsimp only
    rw [← List.append_assoc]
    exact ih _ _

/-! ### The place of a new entry -/

/-- Where a path would put a new file: links in front of its last name are followed, and the last
name itself is taken as it is. -/
def place? (t : FileTree) (raw : String) : Option Location :=
  let p := Path.parse raw
  match checkPath raw, t.target linkLimit (startOf p t.workingDirectory) p with
  | .ok (), .ok (.named directory name _) =>
    if p.trailingSlash ∨ isTooLong name then none else some (directory ++ [name])
  | _, _ => none

variable {t : FileTree} {raw : String} {spot : Location}

/-- What a place is made of. -/
theorem exists_of_place? (place : t.place? raw = some spot) :
    ∃ directory name left, checkPath raw = .ok () ∧
      t.target linkLimit (startOf (Path.parse raw) t.workingDirectory) (Path.parse raw) =
        .ok (.named directory name left) ∧
      (Path.parse raw).trailingSlash = false ∧ isTooLong name = false ∧
      spot = directory ++ [name] := by
  unfold place? at place
  dsimp only at place
  split at place
  next directory name left valid named =>
    split at place
    next => cases place
    next fits =>
      cases place
      simp only [not_or, Bool.not_eq_true] at fits
      exact ⟨directory, name, left, valid, named, fits.1, fits.2, rfl⟩
  next => cases place

theorem place?_eq_some {directory : Location} {name : String} {left : Nat}
    (valid : checkPath raw = .ok ())
    (named : t.target linkLimit (startOf (Path.parse raw) t.workingDirectory) (Path.parse raw) =
      .ok (.named directory name left))
    (bare : (Path.parse raw).trailingSlash = false) (fits : isTooLong name = false) :
    t.place? raw = some (directory ++ [name]) := by
  simp [place?, valid, named, bare, fits]

/-- No link is followed to a new file. -/
theorem openAt_fresh (t : FileTree) (bound left : Nat) (start : Location) (p : Path) :
    t.openAt .fresh bound left start p =
      t.openWith .fresh (fun _ _ _ => .error .tooManyLinks) left start p := by
  cases bound with
  | zero => rfl
  | succ bound => rfl

/-- A new file is made at the place of its path, and only where nothing is. -/
theorem openFile_fresh_eq_ok_iff {later : FileTree} :
    t.openFile .fresh raw = .ok (later, spot) ↔
      t.place? raw = some spot ∧ t.find? spot = none ∧ later = t.put spot (.file []) := by
  constructor
  · intro opened
    obtain ⟨_, valid, opened⟩ := exists_of_bind_eq_ok opened
    rw [openAt_fresh] at opened
    -- Everything but a free place is refused.
    obtain ⟨target, named, opened⟩ := exists_of_bind_eq_ok opened
    cases target with
    | existing => cases opened
    | named directory name left =>
      dsimp only at opened
      split at opened
      next => cases opened
      next bare =>
        split at opened
        next => cases opened
        next fits =>
          have place := place?_eq_some valid named (by simpa using bare) (by simpa using fits)
          split at opened
          next absent =>
            cases opened
            exact ⟨place, absent, rfl⟩
          all_goals cases opened
  · rintro ⟨place, absent, rfl⟩
    obtain ⟨directory, name, left, valid, named, bare, fits, rfl⟩ := exists_of_place? place
    rw [openFile, valid]
    simp [bind, Except.bind, openAt_fresh, openWith, named, bare, fits, absent]

/-- A target is walked to but for the last name, which is no dot. -/
theorem exists_of_target_eq_named {left left' : Nat} {start directory : Location} {p : Path}
    {name : String} (named : t.target left start p = .ok (.named directory name left')) :
    ∃ front, p.names = front ++ [name] ∧ t.walk left start front = .ok (directory, left') ∧
      t.find? directory = some .directory ∧ ¬ (name = "." ∨ name = "..") := by
  unfold target at named
  split at named
  next => cases named
  next last ends =>
    obtain ⟨⟨here, still⟩, walked, named⟩ := exists_of_bind_eq_ok named
    dsimp only at named
    split at named
    next standing =>
      simp only [Except.ok.injEq] at named
      split at named
      next => cases named
      next noDots =>
        cases named
        obtain ⟨front, names⟩ := List.getLast?_eq_some_iff.mp ends
        rw [names, List.dropLast_concat] at walked
        exact ⟨front, names, walked, standing, noDots⟩
    next => cases named

/-- Where nothing is at its place, a path leads nowhere. -/
theorem locate_of_absent (place : t.place? raw = some spot) (absent : t.find? spot = none) :
    t.locate raw = .error .noSuchEntry := by
  obtain ⟨directory, name, left, valid, named, bare, fits, rfl⟩ := exists_of_place? place
  obtain ⟨front, names, walked, standing, noDots⟩ := exists_of_target_eq_named named
  -- The path is walked to its directory first, and its last name is then missed there.
  have missing := walk_missing standing noDots fits absent left []
  rw [locate, valid]
  simp [bind, Except.bind, Path.wholeNames, bare, names, walk_append, walked, missing]

end FileTree

/-! ### Outputs -/

variable {files made later : FileTree} {path : String} {spot : Location}

/-- Where a name leads once its directories are made: to the place of a new file, or, through
links, to what is there already. -/
def Reaches (files : FileTree) (path : String) (spot : Location) : Prop :=
  ∃ made, makeParents files path = (made, .ok ()) ∧
    (made.place? path = some spot ∨ ∃ e, made.locate path = .ok (spot, e))

theorem createFile_eq_ok_iff :
    createFile files path false = .ok (later, spot) ↔
      files.openFile .fresh path = .ok (later, spot) := by
  unfold createFile
  cases opened : files.openFile .fresh path with
  | ok found => simp [opened]
  | error fault => cases fault <;> simp [opened]

/-- An output is opened once its directories are made. -/
theorem exists_openFile_of_openPath {force : Bool}
    (opened : openPath files path force = (later, .ok spot)) :
    ∃ made, makeParents files path = (made, .ok ()) ∧
      made.openFile (if force then .over else .fresh) path = .ok (later, spot) := by
  unfold openPath at opened
  split at opened
  next => cases opened
  next made parents =>
    refine ⟨made, parents, ?_⟩
    split at opened
    next => cases opened
    next =>
      split at opened
      next created =>
        cases opened
        unfold createFile at created
        split at created
        next found =>
          cases created
          exact found
        next => cases created
        next => cases created
      next => cases opened

/-- An output that is opened is a new file. -/
theorem exists_of_openPath (opened : openPath files path false = (later, .ok spot)) :
    ∃ made, makeParents files path = (made, .ok ()) ∧ made.place? path = some spot ∧
      made.find? spot = none ∧ later = made.put spot (.file []) := by
  obtain ⟨made, parents, created⟩ := exists_openFile_of_openPath opened
  exact ⟨made, parents, FileTree.openFile_fresh_eq_ok_iff.mp created⟩

/-- Where nothing is, the output is opened. -/
theorem openPath_of_absent (parents : makeParents files path = (made, .ok ()))
    (place : made.place? path = some spot) (absent : made.find? spot = none) :
    openPath files path false = (made.put spot (.file []), .ok spot) := by
  -- The probe finds nothing, since a free place is no link to something.
  have created : createFile made path false = .ok (made.put spot (.file []), spot) :=
    createFile_eq_ok_iff.mpr (FileTree.openFile_fresh_eq_ok_iff.mpr ⟨place, absent, rfl⟩)
  simp [openPath, parents, refuseExisting, FileTree.locate_of_absent place absent, created]

/-- A refusal comes after the directories are made and changes nothing more. -/
theorem files_of_openPath_error {force : Bool} {cause : SinkError}
    (refused : openPath files path force = (later, .error cause)) :
    later = (makeParents files path).1 := by
  unfold openPath at refused
  split at refused
  next parents =>
    cases refused
    rw [parents]
  next made parents =>
    rw [parents]
    split at refused
    next =>
      cases refused
      rfl
    next =>
      split at refused
      next => cases refused
      next =>
        cases refused
        rfl

theorem extends_openPath (files : FileTree) (path : String) :
    files.Extends (openPath files path false).1 := by
  have grown := extends_makeParents files path
  cases opened : openPath files path false with
  | mk later result =>
    cases result with
    | ok spot =>
      obtain ⟨made, parents, -, absent, rfl⟩ := exists_of_openPath opened
      rw [parents] at grown
      exact grown.trans (.put absent _)
    | error cause =>
      rw [files_of_openPath_error opened]
      exact grown

/-- An output is opened where its name leads. -/
theorem Reaches.eq_of_openPath {other : Location} (reaches : Reaches files path spot)
    (opened : openPath files path false = (later, .ok other)) : other = spot := by
  obtain ⟨made, parents, place, absent, -⟩ := exists_of_openPath opened
  obtain ⟨made', parents', reached⟩ := reaches
  rw [parents] at parents'
  cases parents'
  -- An output that is opened was found nowhere, so the name cannot have led to an entry.
  rcases reached with same | ⟨e, located⟩
  · rw [place] at same
    exact Option.some.inj same
  · rw [FileTree.locate_of_absent place absent] at located
    cases located

/-- A name that leads to something is refused. -/
theorem Reaches.exists_error {e : Entry} (reaches : Reaches files path spot)
    (present : files.find? spot = some e) :
    ∃ later cause, openPath files path false = (later, .error cause) := by
  cases opened : openPath files path false with
  | mk later result =>
    cases result with
    | error cause => exact ⟨later, cause, rfl⟩
    | ok other =>
      exfalso
      obtain ⟨made, parents, -, absent, -⟩ := exists_of_openPath opened
      have grown := extends_makeParents files path
      rw [parents] at grown
      have still := grown.kept spot e present
      rw [reaches.eq_of_openPath opened, still] at absent
      cases absent

end FormLetter
