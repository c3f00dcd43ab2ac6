import FormLetter.Proofs.Files.Opening
import FormLetter.Output.World

/-!
What opening a destination changes. Directories are made where enclosing paths lead, and the path
itself leads to an empty file afterwards; every other entry stays as it was, links on the way and
links in last names included. A refusal leaves nothing behind but directories.
-/
namespace FormLetter

/-- One path is an enclosing directory of the other, at any distance. -/
inductive Path.Above (outer : String) : String → Prop where
  | next {raw : String} : parent? raw = some outer → Above outer raw
  | further {inner raw : String} : parent? raw = some inner → Above outer inner → Above outer raw

theorem Path.above_of_mem_ancestors {bound : Nat} {outer raw : String}
    (mem : outer ∈ ancestors bound raw) : outer = raw ∨ Above outer raw := by
  induction bound generalizing raw with
  | zero => cases mem
  | succ bound ih =>
    rw [ancestors] at mem
    split at mem
    next => cases mem
    next =>
      cases parent : parent? raw with
      | none =>
        rw [parent] at mem
        exact .inl (List.mem_singleton.mp mem)
      | some inner =>
        rw [parent] at mem
        rcases List.mem_cons.mp mem with same | mem
        · exact .inl same
        · rcases ih mem with rfl | above
          · exact .inr (.next parent)
          · exact .inr (.further parent above)

namespace FileTree

variable {t later last made : FileTree} {spot directory : Location} {raw name : String} {e : Entry}

/-- All that differs in the later file system: entries at some locations, and new directories that
paths of a kind lead to. -/
structure DiffersBy (t later : FileTree) (own : List Location) (along : String → Prop) : Prop where
  kept : ∀ spot e, spot ∉ own → t.find? spot = some e → later.find? spot = some e
  added : ∀ spot e, spot ∉ own → t.find? spot = none → later.find? spot = some e →
    e = .directory ∧ ∃ raw, along raw ∧ later.locate raw = .ok (spot, .directory)
  workingDirectory : later.workingDirectory = t.workingDirectory

/-! ### Walking to an entry -/

/-- What is put at the end of a path is found there, if the way there is still the same. -/
theorem walk_put_of_named {left left' : Nat} {start : Location} {p : Path}
    (named : t.target left start p = .ok (.named directory name left'))
    (fits : isTooLong name = false) (noLink : ∀ target, e ≠ .link target)
    (retains : t.Retains (t.put (directory ++ [name]) e)) :
    (t.put (directory ++ [name]) e).walk left start p.names = .ok (directory ++ [name], left') := by
  obtain ⟨front, names, walked, standing, noDots⟩ := exists_of_target_eq_named named
  have created := t.find?_put_self (List.concat_ne_nil name directory) e
  rw [names, walk_append, retains.walk walked]
  exact (walk_found (retains.directory _ standing) noDots fits created noLink left' []).trans
    (walk_nil _ _ _)

/-- A trailing slash only asks for a directory. -/
theorem locate_of_walk {left : Nat} (valid : checkPath raw = .ok ())
    (walked : t.walk linkLimit (startOf (Path.parse raw) t.workingDirectory)
      (Path.parse raw).names = .ok (spot, left))
    (found : t.find? spot = some e)
    (closed : (Path.parse raw).trailingSlash = true → e = .directory) :
    t.locate raw = .ok (spot, e) := by
  have whole : t.walk linkLimit (startOf (Path.parse raw) t.workingDirectory)
      (Path.parse raw).wholeNames = .ok (spot, left) := by
    unfold Path.wholeNames
    split
    next slash =>
      rw [closed slash] at found
      rw [walk_append, walked]
      cases left <;> simp [bind, Except.bind, walk, walkWith, found]
    next => exact walked
  simp [locate, bind, Except.bind, valid, whole, found]

/-- A place in front of which nothing has changed. -/
theorem Extends.place? (grown : t.Extends later) (place : t.place? raw = some spot) :
    later.place? raw = some spot := by
  obtain ⟨directory, name, left, valid, named, bare, fits, rfl⟩ := exists_of_place? place
  obtain ⟨front, names, walked, standing, noDots⟩ := exists_of_target_eq_named named
  refine @place?_eq_some _ _ _ _ left valid ?_ bare fits
  simp [target, names, grown.workingDirectory, grown.walk walked, grown.kept _ _ standing, noDots,
    bind, Except.bind]

/-- Only what a file holds may be different where directories are looked for. -/
theorem Retains.locate (retains : t.Retains later)
    (located : t.locate raw = .ok (spot, .directory)) :
    later.locate raw = .ok (spot, .directory) := by
  obtain ⟨left, valid, walked, standing⟩ := exists_of_locate located
  have still := retains.directory _ standing
  simp [FileTree.locate, bind, Except.bind, valid, retains.workingDirectory, retains.walk walked,
    still]

/-- Nothing is there, or a file. -/
def Free (t : FileTree) (spot : Location) : Prop :=
  t.find? spot = none ∨ ∃ content, t.find? spot = some (.file content)

theorem Free.below (free : t.Free spot) : spot ≠ [] := by
  rintro rfl
  rcases free with absent | ⟨content, found⟩
  · simp [find?] at absent
  · simp [find?] at found

theorem Free.retains (free : t.Free spot) (content : Bytes) :
    t.Retains (t.put spot (.file content)) := by
  have elsewhere {other : Location} {e : Entry} (found : t.find? other = some e)
      (noFile : ∀ content, e ≠ .file content) :
      (t.put spot (.file content)).find? other = some e := by
    have ne : other ≠ spot := by
      rintro rfl
      rcases free with absent | ⟨old, same⟩
      · simp [absent] at found
      · rw [same, Option.some_inj] at found
        exact noFile old found.symm
    rw [find?_put_of_ne t ne, found]
  refine ⟨fun other found => ?_, fun other target found => ?_, fun other old found => ?_, rfl⟩
  · exact elsewhere found (by simp)
  · exact elsewhere found (by simp)
  · by_cases same : other = spot
    · exact ⟨content, by rw [same, find?_put_self t free.below]⟩
    · exact ⟨old, by rw [find?_put_of_ne t same, found]⟩

/-- A path that leads to a file leads to it whatever the file holds. -/
theorem locate_put_file {old : Bytes} (located : t.locate raw = .ok (spot, .file old))
    (content : Bytes) : (t.put spot (.file content)).locate raw = .ok (spot, .file content) := by
  obtain ⟨left, valid, walked, present⟩ := exists_of_locate located
  have free : t.Free spot := .inr ⟨old, present⟩
  have retains := free.retains content
  have replaced := t.find?_put_self free.below (.file content)
  simp [FileTree.locate, bind, Except.bind, valid, retains.workingDirectory, retains.walk walked,
    replaced]

/-! ### Making directories -/

namespace DiffersBy

variable {along along' : String → Prop}

theorem refl (t : FileTree) (along : String → Prop) : t.DiffersBy t [] along := by
  refine ⟨fun _ _ _ found => found, fun spot e _ absent found => ?_, rfl⟩
  rw [absent] at found
  cases found

theorem grown (differs : t.DiffersBy later [] along) : t.Extends later :=
  ⟨fun spot e found => differs.kept spot e List.not_mem_nil found, differs.workingDirectory⟩

theorem mono (differs : t.DiffersBy later [] along) (also : ∀ raw, along raw → along' raw) :
    t.DiffersBy later [] along' := by
  refine ⟨differs.kept, fun spot e free absent found => ?_, differs.workingDirectory⟩
  obtain ⟨rfl, raw, kind, located⟩ := differs.added spot e free absent found
  exact ⟨rfl, raw, also raw kind, located⟩

theorem trans (first : t.DiffersBy later [] along) (second : later.DiffersBy last [] along) :
    t.DiffersBy last [] along := by
  refine ⟨fun spot e free found => second.kept spot e free (first.kept spot e free found),
    fun spot e free absent found => ?_, ?_⟩
  · -- A new entry came with the first part, where its path still leads, or with the second.
    cases between : later.find? spot with
    | none => exact second.added spot e free between found
    | some old =>
      obtain ⟨rfl, raw, kind, located⟩ := first.added spot old free absent between
      have same := second.kept spot _ free between
      rw [same, Option.some_inj] at found
      exact ⟨found.symm, raw, kind, second.grown.locate located⟩
  · rw [second.workingDirectory, first.workingDirectory]

/-- A file may be put where nothing or a file is. -/
theorem put_file (differs : t.DiffersBy later [] along) (free : later.Free spot) (content : Bytes) :
    t.DiffersBy (later.put spot (.file content)) [spot] along := by
  refine ⟨fun other e ne found => ?_, fun other e ne absent found => ?_, ?_⟩
  · rw [List.mem_singleton] at ne
    rw [find?_put_of_ne later ne]
    exact differs.kept other e List.not_mem_nil found
  · rw [List.mem_singleton] at ne
    rw [find?_put_of_ne later ne] at found
    obtain ⟨rfl, raw, kind, located⟩ := differs.added other e List.not_mem_nil absent found
    exact ⟨rfl, raw, kind, (free.retains content).locate located⟩
  · exact differs.workingDirectory

/-- A place that is free later was free before. -/
theorem free (differs : t.DiffersBy later [] along) (free : later.Free spot) : t.Free spot := by
  cases before : t.find? spot with
  | none => exact .inl before
  | some e =>
    have same := differs.kept spot e List.not_mem_nil before
    rcases free with absent | ⟨content, found⟩
    · rw [absent] at same
      cases same
    · rw [found, Option.some_inj] at same
      exact .inr ⟨content, by rw [before, same]⟩

end DiffersBy

/-- A directory is made where nothing is, and its path leads there. -/
theorem exists_located_of_makeDirectory (ok : t.makeDirectory raw = .ok made) :
    ∃ spot, made = t.put spot .directory ∧ made.locate raw = .ok (spot, .directory) := by
  have grown := extends_of_makeDirectory ok
  obtain ⟨_, valid, ok⟩ := exists_of_bind_eq_ok ok
  obtain ⟨target, named, ok⟩ := exists_of_bind_eq_ok ok
  cases target with
  | existing => cases ok
  | named directory name left =>
    dsimp only at ok
    split at ok
    next => cases ok
    next fits =>
      split at ok
      next => cases ok
      next absent =>
        cases ok
        have walked := walk_put_of_named named (by simpa using fits) (by simp) grown.retains
        have created := t.find?_put_self (ne_nil_of_find?_eq_none absent) .directory
        exact ⟨_, rfl, locate_of_walk valid (grown.workingDirectory ▸ walked) created fun _ => rfl⟩

theorem differs_of_makeDirectory (ok : t.makeDirectory raw = .ok made) :
    t.DiffersBy made [] (· = raw) := by
  have grown := extends_of_makeDirectory ok
  obtain ⟨spot, rfl, located⟩ := exists_located_of_makeDirectory ok
  refine ⟨fun other e _ => grown.kept other e, fun other e _ absent found => ?_, rfl⟩
  by_cases same : other = spot
  · subst same
    obtain ⟨_, -, -, present⟩ := exists_of_locate located
    rw [present, Option.some_inj] at found
    exact ⟨found.symm, raw, rfl, located⟩
  · rw [find?_put_of_ne t same, absent] at found
    cases found

/-- Whether or not all directories could be made, the new ones are where the paths lead. -/
theorem differs_makeDirectories (t : FileTree) (raws : List String) :
    t.DiffersBy (t.makeDirectories raws).1 [] (· ∈ raws) := by
  induction raws generalizing t with
  | nil => exact .refl t _
  | cons raw outer ih =>
    have listed {t made : FileTree} (ok : t.makeDirectory raw = .ok made) :
        t.DiffersBy made [] (· ∈ raw :: outer) :=
      (differs_of_makeDirectory ok).mono fun _ same => same ▸ List.mem_cons_self
    have outers := (ih t).mono fun _ mem => List.mem_cons_of_mem raw mem
    rw [makeDirectories]
    split
    next made ok => exact listed ok
    next =>
      -- The directory is tried again once the outer ones are made.
      cases more : t.makeDirectories outer with
      | mk between result =>
        rw [more] at outers
        cases result with
        | error fault => exact outers
        | ok =>
          dsimp only
          split
          next made ok => exact outers.trans (listed ok)
          next => split <;> exact outers
    next => split <;> exact .refl t _

/-! ### Opening a file -/

/-- A file is opened at the end of a walk, and it is empty then. -/
structure OpensAt (t : FileTree) (mode : Opening) (left : Nat) (start : Location) (p : Path)
    (later : FileTree) (spot : Location) : Prop where
  free : t.Free spot
  fresh : mode = .fresh → t.find? spot = none
  made : later = t.put spot (.file [])
  bare : p.trailingSlash = false
  walked : ∃ left', later.walk left start p.names = .ok (spot, left')

/-- A path that leads to the end of its walk without a link in its last name. -/
theorem OpensAt.of_free {mode : Opening} {left left' : Nat} {start : Location} {p : Path}
    (named : t.target left start p = .ok (.named directory name left'))
    (bare : p.trailingSlash = false) (fits : isTooLong name = false)
    (free : t.Free (directory ++ [name]))
    (fresh : mode = .fresh → t.find? (directory ++ [name]) = none) :
    t.OpensAt mode left start p (t.put (directory ++ [name]) (.file [])) (directory ++ [name]) := by
  exact ⟨free, fresh, rfl, bare, left', walk_put_of_named named fits nofun (free.retains [])⟩

/-- A link in the last name is followed to where the file is opened. -/
theorem OpensAt.of_link {mode : Opening} {left left' : Nat} {start : Location} {p : Path}
    {target : String} (named : t.target left start p = .ok (.named directory name (left' + 1)))
    (bare : p.trailingSlash = false) (fits : isTooLong name = false)
    (found : t.find? (directory ++ [name]) = some (.link target))
    (opens : t.OpensAt mode left' (startOf (Path.parse target) directory) (Path.parse target) later
      spot) :
    t.OpensAt mode left start p later spot := by
  obtain ⟨front, names, walked, standing, noDots⟩ := exists_of_target_eq_named named
  obtain ⟨free, fresh, rfl, bare', last, walked'⟩ := opens
  have retains := free.retains []
  refine ⟨free, fresh, rfl, bare, last, ?_⟩
  rw [names, walk_append, retains.walk walked]
  -- The link is still there, and its own path ends in a name.
  have followed :=
    walk_link (retains.directory _ standing) noDots fits (retains.link _ _ found) left' []
  have whole : (Path.parse target).wholeNames = (Path.parse target).names := by
    simp [Path.wholeNames, bare']
  rw [whole, List.append_nil, walked'] at followed
  exact followed

theorem opensAt_of_openWith {mode : Opening} {left : Nat} {start : Location} {p : Path}
    {follow : Nat → Location → Path → Except IoFault (FileTree × Location)}
    (follows : ∀ left start p, follow left start p = .ok (later, spot) →
      ∃ less, left = less + 1 ∧ t.OpensAt mode less start p later spot)
    (opened : t.openWith mode follow left start p = .ok (later, spot)) :
    t.OpensAt mode left start p later spot := by
  obtain ⟨target, named, opened⟩ := exists_of_bind_eq_ok opened
  cases target with
  | existing => cases opened
  | named directory name left' =>
    dsimp only at opened
    split at opened
    next => cases opened
    next bare =>
      split at opened
      next => cases opened
      next fits =>
        rw [Bool.not_eq_true] at bare fits
        -- What is there decides, and for some entries the mode does.
        split at opened
        next absent =>
          cases opened
          exact .of_free named bare fits (.inl absent) fun _ => absent
        next => cases opened
        next content found =>
          split at opened
          next => cases opened
          next =>
            cases opened
            exact .of_free named bare fits (.inr ⟨content, found⟩) nofun
        next target found =>
          split at opened
          next => cases opened
          next =>
            obtain ⟨less, rfl, opens⟩ := follows _ _ _ opened
            exact .of_link named bare fits found opens

theorem opensAt_of_openAt {mode : Opening} {bound left : Nat} {start : Location} {p : Path}
    (opened : t.openAt mode bound left start p = .ok (later, spot)) :
    t.OpensAt mode left start p later spot := by
  -- On the links in last names that may still be followed.
  induction bound generalizing left start p with
  | zero =>
    refine opensAt_of_openWith ?_ opened
    intro left start p followed
    cases followed
  | succ bound ih =>
    refine opensAt_of_openWith (fun left start p followed => ?_) opened
    cases left with
    | zero => cases followed
    | succ left => exact ⟨left, rfl, ih followed⟩

/-- A file that was opened is empty, and its path leads to it. -/
theorem exists_of_openFile {mode : Opening} (opened : t.openFile mode raw = .ok (later, spot)) :
    t.Free spot ∧ (mode = .fresh → t.find? spot = none) ∧ later = t.put spot (.file []) ∧
      later.locate raw = .ok (spot, .file []) := by
  obtain ⟨_, valid, opened⟩ := exists_of_bind_eq_ok opened
  obtain ⟨free, fresh, rfl, bare, left, walked⟩ := opensAt_of_openAt opened
  have created := t.find?_put_self free.below (.file [])
  refine ⟨free, fresh, rfl, locate_of_walk valid walked created fun slash => ?_⟩
  rw [bare] at slash
  cases slash

end FileTree

/-! ### Outputs -/

variable {files made later : FileTree} {path : String} {spot : Location} {force : Bool}

theorem differs_makeParents (files : FileTree) (path : String) :
    files.DiffersBy (makeParents files path).1 [] (Path.Above · path) := by
  unfold makeParents
  split
  next => exact .refl files _
  next parent enclosing =>
    have differs := files.differs_makeDirectories (Path.ancestors (parent.length + 1) parent)
    have above := differs.mono fun outer mem => show Path.Above outer path by
      rcases Path.above_of_mem_ancestors mem with rfl | above
      · exact .next enclosing
      · exact .further enclosing above
    split
    next same => rwa [same] at above
    next same => rwa [same] at above

theorem differs_of_openPath_error {cause : SinkError}
    (refused : openPath files path force = (later, .error cause)) :
    files.DiffersBy later [] (Path.Above · path) := by
  rw [files_of_openPath_error refused]
  exact differs_makeParents files path

/-- An output that was opened is an empty file where nothing or a file was. -/
theorem exists_of_openPath_ok (opened : openPath files path force = (later, .ok spot)) :
    ∃ made, files.DiffersBy made [] (Path.Above · path) ∧ made.Free spot ∧
      (force = false → made.find? spot = none) ∧ later = made.put spot (.file []) ∧
      later.locate path = .ok (spot, .file []) := by
  obtain ⟨made, parents, found⟩ := exists_openFile_of_openPath opened
  have differs := differs_makeParents files path
  rw [parents] at differs
  obtain ⟨free, fresh, created, located⟩ := FileTree.exists_of_openFile found
  refine ⟨made, differs, free, fun unforced => fresh ?_, created, located⟩
  rw [unforced]
  rfl

/-- Where overwriting is not allowed, an output that was opened was nowhere to be found before. -/
theorem absent_of_openPath (opened : openPath files path false = (later, .ok spot)) :
    files.find? spot = none ∧ (∀ found, files.locate path ≠ .ok found) ∧
      ∀ place, files.place? path = some place → files.find? place = none := by
  obtain ⟨made, parents, place, absent, -⟩ := exists_of_openPath opened
  have grown := extends_makeParents files path
  rw [parents] at grown
  refine ⟨grown.absent absent, fun found located => ?_, fun other place' => ?_⟩
  · have still := grown.locate located
    rw [FileTree.locate_of_absent place absent] at still
    cases still
  · have same := grown.place? place'
    rw [place, Option.some_inj] at same
    exact same ▸ grown.absent absent

/-- Opening standard output changes nothing. Opening a file that is refused, for whatever reason,
keeps every entry, and all that is new are directories where enclosing paths lead. Opening a file
that succeeds leaves an empty file where its path leads, and besides that keeps every entry and adds
such directories; and if overwriting is not allowed, nothing was found at the path before, not even
a link. -/
theorem openSink_changes {w later : World} {d : Destination} {result : Except SinkError Sink}
    (opened : w.openSink d force = (later, result)) :
    later.stdout = w.stdout ∧ later.stderr = w.stderr ∧
    (d = .stdout → later = w ∧ result = .ok .stdout) ∧
    ∀ path, d = .file path →
      (∀ cause, result = .error cause →
        w.files.DiffersBy later.files [] (Path.Above · path)) ∧
      ∀ sink, result = .ok sink → ∃ spot, sink = .file spot ∧
        later.files.locate path = .ok (spot, .file []) ∧
        w.files.DiffersBy later.files [spot] (Path.Above · path) ∧
        (w.files.find? spot = none ∨ ∃ content, w.files.find? spot = some (.file content)) ∧
        (force = false → w.files.find? spot = none ∧
          (∀ found, w.files.locate path ≠ .ok found) ∧
          ∀ place, w.files.place? path = some place → w.files.find? place = none) := by
  cases d with
  | stdout =>
    cases opened
    exact ⟨rfl, rfl, fun _ => ⟨rfl, rfl⟩, nofun⟩
  | file path =>
    cases found : openPath w.files path force with
    | mk files outcome =>
      rw [World.openSink, found] at opened
      cases opened
      refine ⟨rfl, rfl, nofun, fun path' same => ?_⟩
      cases same
      constructor
      · intro cause refused
        cases outcome with
        | error fault => exact differs_of_openPath_error found
        | ok spot => cases refused
      · intro sink accepted
        cases outcome with
        | error fault => cases accepted
        | ok spot =>
          cases accepted
          obtain ⟨made, differs, free, -, rfl, located⟩ := exists_of_openPath_ok found
          refine ⟨spot, rfl, located, differs.put_file free [], differs.free free, ?_⟩
          rintro rfl
          exact absent_of_openPath found

/-- A file made through a link that leads nowhere yet, and a refusal that leaves a directory. -/
theorem openSink_changes_behind_link :
    let before : FileTree := ⟨[(["f"], .file (bytesOf "old")), (["l"], .link "new")], []⟩
    let through := World.openSink ⟨before, .unlimited, .unlimited⟩ (.file "l") true
    let refused := World.openSink ⟨before, .unlimited, .unlimited⟩ (.file "d/e/") true
    through.2.toOption = some (.file ["new"]) ∧
      through.1.files.locate "l" = .ok (["new"], .file []) ∧
      before.DiffersBy through.1.files [["new"]] (Path.Above · "l") ∧
    refused.2.isOk = false ∧ refused.1.files.isDirectory "d" ∧
      before.DiffersBy refused.1.files [] (Path.Above · "d/e/") := by
  intro before through refused
  have accepted : through.2.toOption = some (.file ["new"]) := by decide +kernel
  have failed : refused.2.isOk = false := by decide +kernel
  have left : refused.1.files.isDirectory "d" := by decide +kernel
  obtain ⟨-, -, -, madeThrough⟩ := openSink_changes (Prod.eta through).symm
  obtain ⟨-, -, -, madeRefused⟩ := openSink_changes (Prod.eta refused).symm
  have opened : through.2 = .ok (.file ["new"]) := by
    cases result : through.2 with
    | error cause =>
      rw [result] at accepted
      cases accepted
    | ok sink =>
      rw [result] at accepted
      exact congrArg Except.ok (Option.some.inj accepted)
  obtain ⟨spot, same, located, differs, -⟩ := (madeThrough "l" rfl).2 _ opened
  cases same
  refine ⟨accepted, located, differs, failed, left, ?_⟩
  cases result : refused.2 with
  | error cause => exact (madeRefused "d/e/" rfl).1 cause result
  | ok sink =>
    rw [result] at failed
    cases failed

end FormLetter
