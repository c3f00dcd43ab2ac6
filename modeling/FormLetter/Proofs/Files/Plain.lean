import FormLetter.Proofs.Files.Growth
import Mathlib.Data.List.Basic

/-!
File systems without links. There a path is followed name by name. What stops it, other than a
missing entry, stops it for good, whatever is made and overwritten later: directories stay
directories and files stay files.
-/
namespace FormLetter

namespace FileTree

variable {t later last : FileTree} {here next spot : Location} {name : String}

/-- No entry is a link. The entries form a tree, as those of a file system do: each of them stands
in a directory, and relative paths start in one. -/
structure Plain (t : FileTree) : Prop where
  noLink : ∀ spot target, t.find? spot ≠ some (.link target)
  enclosed : ∀ spot name, (t.find? (spot ++ [name])).isSome → t.find? spot = some .directory
  working : t.find? t.workingDirectory = some .directory

/-- Every entry is still there, a directory as a directory and a file as a file. -/
structure GrowsTo (t later : FileTree) : Prop where
  kept : ∀ spot e, t.find? spot = some e →
    ∃ e', later.find? spot = some e' ∧ (e' = .directory ↔ e = .directory)
  workingDirectory : later.workingDirectory = t.workingDirectory

@[simp] theorem find?_nil (t : FileTree) : t.find? [] = some .directory := by
  simp [find?]

/-! ### Growing -/

namespace GrowsTo

theorem refl (t : FileTree) : t.GrowsTo t :=
  ⟨fun _ e found => ⟨e, found, .rfl⟩, rfl⟩

theorem trans (first : t.GrowsTo later) (second : later.GrowsTo last) : t.GrowsTo last := by
  constructor
  · intro spot e found
    obtain ⟨e', found', same⟩ := first.kept spot e found
    obtain ⟨e'', found'', same'⟩ := second.kept spot e' found'
    exact ⟨e'', found'', same'.trans same⟩
  · rw [second.workingDirectory, first.workingDirectory]

theorem directory (grown : t.GrowsTo later) (found : t.find? spot = some .directory) :
    later.find? spot = some .directory := by
  obtain ⟨e, found', same⟩ := grown.kept spot _ found
  rw [found', same.mpr rfl]

/-- What is there and is no directory never becomes one. -/
theorem find?_ne_directory (grown : t.GrowsTo later) (present : (t.find? spot).isSome)
    (free : t.find? spot ≠ some .directory) : later.find? spot ≠ some .directory := by
  obtain ⟨e, found⟩ := Option.isSome_iff_exists.mp present
  obtain ⟨e', found', same⟩ := grown.kept spot e found
  intro standing
  rw [found', Option.some_inj] at standing
  rw [same.mp standing] at found
  exact free found

/-- An entry of the kind that is there already, or where nothing is. -/
theorem put {e : Entry} (below : spot ≠ [])
    (kind : ∀ old, t.find? spot = some old → (e = .directory ↔ old = .directory)) :
    t.GrowsTo (t.put spot e) := by
  refine ⟨fun other old found => ?_, rfl⟩
  by_cases same : other = spot
  · subst same
    exact ⟨e, t.find?_put_self below e, kind old found⟩
  · exact ⟨old, by rw [find?_put_of_ne t same, found], .rfl⟩

theorem put_file (below : spot ≠ []) (free : t.find? spot ≠ some .directory) (content : Bytes) :
    t.GrowsTo (t.put spot (.file content)) := by
  apply put below
  intro old found
  constructor
  · rintro ⟨⟩
  · rintro rfl
    exact absurd found free

end GrowsTo

theorem Extends.growsTo (grown : t.Extends later) : t.GrowsTo later :=
  ⟨fun spot e found => ⟨e, grown.kept spot e found, .rfl⟩, grown.workingDirectory⟩

/-- An entry in a directory, of the kind that is there already or where nothing is. -/
theorem Plain.put (plain : t.Plain) (standing : t.find? here = some .directory) {e : Entry}
    (noLink : ∀ target, e ≠ .link target)
    (kind : t.find? (here ++ [name]) = some .directory → e = .directory) :
    (t.put (here ++ [name]) e).Plain := by
  have below : here ++ [name] ≠ [] := by simp
  have directory {spot : Location} (found : t.find? spot = some .directory) :
      (t.put (here ++ [name]) e).find? spot = some .directory := by
    by_cases same : spot = here ++ [name]
    · subst same
      rw [find?_put_self t below, kind found]
    · rw [find?_put_of_ne t same, found]
  refine ⟨fun spot target found => ?_, fun spot other found => ?_, directory plain.working⟩
  · by_cases same : spot = here ++ [name]
    · subst same
      rw [find?_put_self t below, Option.some_inj] at found
      exact noLink target found
    · rw [find?_put_of_ne t same] at found
      exact plain.noLink spot target found
  · apply directory
    by_cases same : spot ++ [other] = here ++ [name]
    · rwa [(List.append_inj' same rfl).1]
    · rw [find?_put_of_ne t same] at found
      exact plain.enclosed spot other found

theorem Plain.dropLast (plain : t.Plain) (found : t.find? here = some .directory) :
    t.find? here.dropLast = some .directory := by
  rcases List.eq_nil_or_concat' here with rfl | ⟨outer, name, rfl⟩
  · exact t.find?_nil
  · rw [List.dropLast_concat]
    exact plain.enclosed outer name (by rw [found]; rfl)

/-! ### Name by name -/

/-- Follows a single name. -/
def enter (t : FileTree) (here : Location) (name : String) : Except IoFault Location :=
  if t.find? here = some .directory then
    if name = "." then .ok here
    else if name = ".." then .ok here.dropLast
    else if isTooLong name then .error .nameTooLong
    else if (t.find? (here ++ [name])).isSome then .ok (here ++ [name])
    else .error .noSuchEntry
  else .error .notDirectory

theorem directory_of_enter (entered : t.enter here name = .ok next) :
    t.find? here = some .directory := by
  unfold enter at entered
  split at entered
  next standing => exact standing
  next => cases entered

@[simp] theorem enter_dot (standing : t.find? here = some .directory) :
    t.enter here "." = .ok here := by
  simp [enter, standing]

theorem Plain.isSome_of_enter (plain : t.Plain) (entered : t.enter here name = .ok next) :
    (t.find? next).isSome := by
  have standing := directory_of_enter entered
  have outer := plain.dropLast standing
  unfold enter at entered
  grind

theorem GrowsTo.enter (grown : t.GrowsTo later) (entered : t.enter here name = .ok next) :
    later.enter here name = .ok next := by
  have standing := directory_of_enter entered
  have standing' := grown.directory standing
  unfold FileTree.enter at entered ⊢
  rw [if_pos standing] at entered
  rw [if_pos standing']
  split at entered
  next dot => rwa [if_pos dot]
  next dot =>
    rw [if_neg dot]
    split at entered
    next dots => rwa [if_pos dots]
    next dots =>
      rw [if_neg dots]
      split at entered
      next => cases entered
      next fits =>
        rw [if_neg fits]
        split at entered
        next found =>
          obtain ⟨e, found⟩ := Option.isSome_iff_exists.mp found
          obtain ⟨e', found', -⟩ := grown.kept _ e found
          rwa [if_pos (by rw [found']; rfl)]
        next => cases entered

/-- From an entry that is there, what stops a name stops it later, unless it was missing. -/
theorem GrowsTo.enter_error (grown : t.GrowsTo later) {fault : IoFault}
    (present : (t.find? here).isSome) (stopped : t.enter here name = .error fault)
    (cause : fault ≠ .noSuchEntry) : later.enter here name = .error fault := by
  obtain ⟨e, found⟩ := Option.isSome_iff_exists.mp present
  obtain ⟨e', found', same⟩ := grown.kept here e found
  unfold FileTree.enter at stopped ⊢
  grind

/-! ### Paths -/

theorem Plain.isSome_of_foldlM (plain : t.Plain) {names : List String}
    (present : (t.find? here).isSome) (reached : names.foldlM t.enter here = .ok next) :
    (t.find? next).isSome := by
  induction names generalizing here with
  | nil =>
    cases reached
    exact present
  | cons name rest ih =>
    rw [List.foldlM_cons] at reached
    obtain ⟨inner, entered, reached⟩ := exists_of_bind_eq_ok reached
    exact ih (plain.isSome_of_enter entered) reached

theorem GrowsTo.foldlM (grown : t.GrowsTo later) {names : List String}
    (reached : names.foldlM t.enter here = .ok next) : names.foldlM later.enter here = .ok next := by
  induction names generalizing here with
  | nil => exact reached
  | cons name rest ih =>
    rw [List.foldlM_cons] at reached ⊢
    obtain ⟨inner, entered, reached⟩ := exists_of_bind_eq_ok reached
    rw [grown.enter entered]
    exact ih reached

theorem GrowsTo.foldlM_error (grown : t.GrowsTo later) (plain : t.Plain) {names : List String}
    {fault : IoFault} (present : (t.find? here).isSome)
    (stopped : names.foldlM t.enter here = .error fault) (cause : fault ≠ .noSuchEntry) :
    names.foldlM later.enter here = .error fault := by
  induction names generalizing here with
  | nil => cases stopped
  | cons name rest ih =>
    rw [List.foldlM_cons] at stopped ⊢
    cases entered : t.enter here name with
    | error cause' =>
      rw [entered] at stopped
      cases stopped
      rw [grown.enter_error present entered cause]
      rfl
    | ok inner =>
      rw [entered] at stopped
      rw [grown.enter entered]
      exact ih (plain.isSome_of_enter entered) stopped

/-- A place on the way to a directory is a directory. -/
theorem exists_of_foldlM_append {xs ys : List String}
    (reached : (xs ++ ys).foldlM t.enter here = .ok next)
    (standing : t.find? next = some .directory) :
    ∃ inner, xs.foldlM t.enter here = .ok inner ∧ t.find? inner = some .directory := by
  rw [List.foldlM_append] at reached
  obtain ⟨inner, passed, reached⟩ := exists_of_bind_eq_ok reached
  refine ⟨inner, passed, ?_⟩
  cases ys with
  | nil =>
    cases reached
    exact standing
  | cons name rest =>
    rw [List.foldlM_cons] at reached
    obtain ⟨_, entered, -⟩ := exists_of_bind_eq_ok reached
    exact directory_of_enter entered

/-- Dots lead nowhere else. -/
theorem foldlM_dots {dots : List String} (all : ∀ d ∈ dots, d = ".")
    (standing : t.find? here = some .directory) : dots.foldlM t.enter here = .ok here := by
  induction dots with
  | nil => rfl
  | cons d dots ih =>
    rw [all d List.mem_cons_self, List.foldlM_cons, enter_dot standing]
    exact ih fun d mem => all d (List.mem_cons_of_mem _ mem)

/-- Without links, walking is following one name after the other. -/
theorem Plain.walk_eq (plain : t.Plain) (left : Nat) (here : Location) (names : List String) :
    t.walk left here names = (names.foldlM t.enter here).map (·, left) := by
  -- A walk follows a link by another walk; here no name is a link, so that walk is never asked.
  have steps (follow : Location → String → List String → Except IoFault (Location × Nat)) :
      t.walkWith left follow here names = (names.foldlM t.enter here).map (·, left) := by
    induction names generalizing here with
    | nil => rfl
    | cons name rest ih =>
      rw [walkWith, List.foldlM_cons, enter]
      have noLink := plain.noLink (here ++ [name])
      split
      next standing =>
        rw [if_pos standing]
        split
        next => exact ih here
        next =>
          split
          next => exact ih here.dropLast
          next =>
            split
            next => rfl
            next =>
              split
              next absent =>
                rw [absent]
                rfl
              next target found => exact absurd found (noLink target)
              next found =>
                rw [found]
                exact ih (here ++ [name])
      next other =>
        rw [if_neg (by simpa using other)]
        rfl
  cases left with
  | zero => exact steps _
  | succ left => exact steps _

/-- Where a path leads that may be any text. -/
def seek (t : FileTree) (raw : String) : Except IoFault Location :=
  (Path.parse raw).names.foldlM t.enter (startOf (Path.parse raw) t.workingDirectory)

/-- The path leads to a directory. -/
def Stands (t : FileTree) (raw : String) : Prop :=
  ∃ spot, t.seek raw = .ok spot ∧ t.find? spot = some .directory

variable {raw : String}

theorem Plain.find?_start (plain : t.Plain) (p : Path) :
    t.find? (startOf p t.workingDirectory) = some .directory := by
  unfold startOf
  split
  next => exact t.find?_nil
  next => exact plain.working

theorem Plain.isSome_of_seek (plain : t.Plain) (reached : t.seek raw = .ok spot) :
    (t.find? spot).isSome :=
  plain.isSome_of_foldlM (by rw [plain.find?_start]; rfl) reached

theorem GrowsTo.seek (grown : t.GrowsTo later) (reached : t.seek raw = .ok spot) :
    later.seek raw = .ok spot := by
  unfold FileTree.seek
  rw [grown.workingDirectory]
  exact grown.foldlM reached

theorem GrowsTo.seek_error (grown : t.GrowsTo later) (plain : t.Plain) {fault : IoFault}
    (stopped : t.seek raw = .error fault) (cause : fault ≠ .noSuchEntry) :
    later.seek raw = .error fault := by
  unfold FileTree.seek
  rw [grown.workingDirectory]
  exact grown.foldlM_error plain (by rw [plain.find?_start]; rfl) stopped cause

theorem GrowsTo.stands (grown : t.GrowsTo later) (stands : t.Stands raw) : later.Stands raw := by
  obtain ⟨spot, reached, standing⟩ := stands
  exact ⟨spot, grown.seek reached, grown.directory standing⟩

/-- A trailing slash makes no difference to a directory. -/
theorem foldlM_wholeNames_iff {p : Path} {start : Location}
    (standing : t.find? spot = some .directory) :
    p.wholeNames.foldlM t.enter start = .ok spot ↔ p.names.foldlM t.enter start = .ok spot := by
  unfold Path.wholeNames
  split
  next =>
    rw [List.foldlM_append]
    constructor
    · intro reached
      obtain ⟨inner, passed, reached⟩ := exists_of_bind_eq_ok reached
      rw [List.foldlM_cons] at reached
      obtain ⟨_, entered, same⟩ := exists_of_bind_eq_ok reached
      rw [enter_dot (directory_of_enter entered)] at entered
      cases entered
      cases same
      exact passed
    · intro reached
      rw [reached]
      exact foldlM_dots (by simp) standing
  next => rfl

theorem Plain.isDirectory_iff (plain : t.Plain) :
    t.isDirectory raw = true ↔ checkPath raw = .ok () ∧ t.Stands raw := by
  constructor
  · intro found
    unfold isDirectory at found
    split at found
    next spot located =>
      obtain ⟨left, valid, walked, standing⟩ := exists_of_locate located
      rw [plain.walk_eq] at walked
      cases reached : (Path.parse raw).wholeNames.foldlM t.enter
          (startOf (Path.parse raw) t.workingDirectory) with
      | error fault =>
        rw [reached] at walked
        cases walked
      | ok spot =>
        rw [reached] at walked
        cases walked
        exact ⟨valid, spot, (foldlM_wholeNames_iff standing).mp reached, standing⟩
    next => cases found
  · rintro ⟨valid, spot, reached, standing⟩
    have reached := (foldlM_wholeNames_iff standing).mpr reached
    simp [isDirectory, locate, valid, plain.walk_eq, reached, standing, bind, Except.bind,
      Except.map]

theorem Plain.isDirectory_of_seek (plain : t.Plain) (valid : checkPath raw = .ok ())
    (reached : t.seek raw = .ok spot) :
    t.isDirectory raw = true ↔ t.find? spot = some .directory := by
  rw [plain.isDirectory_iff]
  constructor
  · rintro ⟨-, other, reached', standing⟩
    rw [reached] at reached'
    cases reached'
    exact standing
  · intro standing
    exact ⟨valid, spot, reached, standing⟩

theorem Plain.isDirectory_of_seek_error (plain : t.Plain) {fault : IoFault}
    (stopped : t.seek raw = .error fault) : t.isDirectory raw = false := by
  rw [Bool.eq_false_iff, ne_eq, plain.isDirectory_iff]
  rintro ⟨-, spot, reached, -⟩
  rw [stopped] at reached
  cases reached

/-- Walking to the directory of a last name. -/
theorem Plain.target_eq (plain : t.Plain) (left : Nat) (start : Location) {p : Path}
    {front : List String} (names : p.names = front ++ [name]) :
    t.target left start p = front.foldlM t.enter start >>= fun directory =>
      if t.find? directory = some .directory then
        .ok (if name = "." ∨ name = ".." then .existing else .named directory name left)
      else .error .notDirectory := by
  unfold target
  rw [names, List.getLast?_concat, List.dropLast_concat, plain.walk_eq]
  cases front.foldlM t.enter start with
  | error fault => rfl
  | ok directory =>
    simp only [Except.map, bind, Except.bind]
    split
    next standing => rw [if_pos standing]
    next other => rw [if_neg (by simpa using other)]

end FileTree

end FormLetter
