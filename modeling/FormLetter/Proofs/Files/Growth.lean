import FormLetter.Output.Destination

/-!
File systems that only grow. One file system extends another if every entry is still there as it
was; making a directory, or a file where nothing is, extends a file system, and a path that leads
somewhere leads there in every extension.
-/
namespace FormLetter

theorem exists_of_bind_eq_ok {α β ε : Type} {x : Except ε α} {f : α → Except ε β} {b : β}
    (ok : x >>= f = .ok b) : ∃ a, x = .ok a ∧ f a = .ok b := by
  cases x with
  | ok a => exact ⟨a, rfl, ok⟩
  | error fault => cases ok

namespace FileTree

/-! ### Single entries -/

private theorem find?_putIn (spot other : Location) (e : Entry) (entries : List (Location × Entry)) :
    (putIn spot e entries).find? (·.1 = other) =
      if other = spot then some (spot, e) else entries.find? (·.1 = other) := by
  induction entries with
  | nil =>
    by_cases same : other = spot
    · simp [putIn, same]
    · simp [putIn, same, Ne.symm same]
  | cons old entries ih =>
    obtain ⟨place, old⟩ := old
    by_cases here : place = spot
    · subst here
      by_cases same : other = place
      · simp [putIn, same]
      · simp [putIn, same, Ne.symm same]
    · by_cases found : place = other
      · subst found
        simp [putIn, here]
      · simp only [putIn, here, if_false, List.find?_cons, found, decide_false, ih]

theorem find?_put_self (t : FileTree) {spot : Location} (below : spot ≠ []) (e : Entry) :
    (t.put spot e).find? spot = some e := by
  simp [find?, put, below, find?_putIn]

theorem find?_put_of_ne (t : FileTree) {spot other : Location} (ne : other ≠ spot) (e : Entry) :
    (t.put spot e).find? other = t.find? other := by
  simp [find?, put, ne, find?_putIn]

/-- The root is always found. -/
theorem ne_nil_of_find?_eq_none {t : FileTree} {spot : Location} (absent : t.find? spot = none) :
    spot ≠ [] := by
  rintro rfl
  simp [find?] at absent

theorem find?_append_self {t : FileTree} {spot : Location} {content : Bytes}
    (present : t.find? spot = some (.file content)) (bytes : Bytes) :
    (t.append spot bytes).find? spot = some (.file (content ++ bytes)) := by
  have below : spot ≠ [] := by
    rintro rfl
    simp [find?] at present
  simp only [append, present]
  exact t.find?_put_self below _

theorem exists_of_locate {t : FileTree} {raw : String} {found : Location × Entry}
    (located : t.locate raw = .ok found) :
    ∃ left, checkPath raw = .ok () ∧
      t.walk linkLimit (startOf (Path.parse raw) t.workingDirectory) (Path.parse raw).wholeNames =
        .ok (found.1, left) ∧
      t.find? found.1 = some found.2 := by
  obtain ⟨_, valid, located⟩ := exists_of_bind_eq_ok located
  obtain ⟨⟨spot, left⟩, walked, located⟩ := exists_of_bind_eq_ok located
  dsimp only at located
  split at located
  next e present =>
    cases located
    exact ⟨left, valid, walked, present⟩
  next => cases located

/-! ### Walks that lead on -/

/-- Directories and links are still there as they were, and files are still files. -/
structure Retains (t later : FileTree) : Prop where
  directory : ∀ spot, t.find? spot = some .directory → later.find? spot = some .directory
  link : ∀ spot target, t.find? spot = some (.link target) →
    later.find? spot = some (.link target)
  file : ∀ spot content, t.find? spot = some (.file content) →
    ∃ content', later.find? spot = some (.file content')
  workingDirectory : later.workingDirectory = t.workingDirectory

namespace Retains

variable {t later : FileTree}

/-- A walk asks for no content, so it meets the same entries. -/
private theorem walkWith (retains : t.Retains later) {left : Nat}
    {follow follow' : Location → String → List String → Except IoFault (Location × Nat)}
    (follows : ∀ here target rest r, follow here target rest = .ok r →
      follow' here target rest = .ok r)
    {here : Location} {names : List String} {r : Location × Nat}
    (walked : t.walkWith left follow here names = .ok r) :
    later.walkWith left follow' here names = .ok r := by
  induction names generalizing here with
  | nil => exact walked
  | cons name rest ih =>
    rw [FileTree.walkWith] at walked ⊢
    cases standing : t.find? here with
    | none => simp [standing] at walked
    | some e =>
      cases e with
      | file content => simp [standing] at walked
      | link target => simp [standing] at walked
      | directory =>
        simp only [standing] at walked
        simp only [retains.directory here standing]
        -- A name that was found is found again; one that was not has ended the walk.
        cases entry : t.find? (here ++ [name]) with
        | none => grind
        | some e =>
          cases e with
          | directory =>
            have same := retains.directory _ entry
            grind
          | link target =>
            have same := retains.link _ _ entry
            grind
          | file content =>
            obtain ⟨content', same⟩ := retains.file _ _ entry
            grind

theorem walk (retains : t.Retains later) {left : Nat} {here : Location} {names : List String}
    {r : Location × Nat} (walked : t.walk left here names = .ok r) :
    later.walk left here names = .ok r := by
  -- On the links that may still be followed.
  induction left generalizing here names r with
  | zero => exact retains.walkWith (fun _ _ _ _ wrong => wrong) walked
  | succ left ih =>
    refine retains.walkWith ?_ walked
    intro here target rest r followed
    exact ih followed

end Retains

/-! ### Extensions -/

/-- Every entry is still there, as it was. -/
structure Extends (t later : FileTree) : Prop where
  kept : ∀ spot e, t.find? spot = some e → later.find? spot = some e
  workingDirectory : later.workingDirectory = t.workingDirectory

namespace Extends

variable {t later last : FileTree}

theorem refl (t : FileTree) : t.Extends t :=
  ⟨fun _ _ found => found, rfl⟩

theorem trans (first : t.Extends later) (second : later.Extends last) : t.Extends last := by
  constructor
  · intro spot e found
    exact second.kept spot e (first.kept spot e found)
  · rw [second.workingDirectory, first.workingDirectory]

theorem absent (grown : t.Extends later) {spot : Location} (absent : later.find? spot = none) :
    t.find? spot = none := by
  cases found : t.find? spot with
  | none => rfl
  | some e =>
    rw [grown.kept spot e found] at absent
    cases absent

/-- Changes at a place where nothing was do not matter to what was there. -/
theorem put_of_absent {spot : Location} (absent : t.find? spot = none) (grown : t.Extends later)
    (e : Entry) : t.Extends (later.put spot e) := by
  constructor
  · intro other old found
    have ne : other ≠ spot := by
      rintro rfl
      rw [absent] at found
      cases found
    rw [find?_put_of_ne later ne]
    exact grown.kept other old found
  · exact grown.workingDirectory

theorem put {spot : Location} (absent : t.find? spot = none) (e : Entry) :
    t.Extends (t.put spot e) :=
  (refl t).put_of_absent absent e

theorem append_of_absent {spot : Location} (absent : t.find? spot = none) (grown : t.Extends later)
    (bytes : Bytes) : t.Extends (later.append spot bytes) := by
  unfold append
  split
  · exact grown.put_of_absent absent _
  · exact grown

theorem retains (grown : t.Extends later) : t.Retains later :=
  ⟨fun spot => grown.kept spot _, fun spot _ => grown.kept spot _,
    fun spot _ found => ⟨_, grown.kept spot _ found⟩, grown.workingDirectory⟩

theorem walk (grown : t.Extends later) {left : Nat} {here : Location} {names : List String}
    {r : Location × Nat} (walked : t.walk left here names = .ok r) :
    later.walk left here names = .ok r :=
  grown.retains.walk walked

/-- What a path leads to in an extension is what it led to before. -/
theorem locate (grown : t.Extends later) {raw : String} {found : Location × Entry}
    (located : t.locate raw = .ok found) : later.locate raw = .ok found := by
  obtain ⟨left, valid, walked, present⟩ := exists_of_locate located
  have still := grown.kept _ _ present
  simp [FileTree.locate, bind, Except.bind, valid, grown.workingDirectory, grown.walk walked, still]

end Extends

/-! ### Making directories -/

variable {t : FileTree}

/-- A directory is made where nothing is. -/
theorem exists_of_makeDirectory {raw : String} {made : FileTree}
    (ok : t.makeDirectory raw = .ok made) :
    ∃ spot, t.find? spot = none ∧ made = t.put spot .directory := by
  obtain ⟨_, -, ok⟩ := exists_of_bind_eq_ok ok
  obtain ⟨target, -, ok⟩ := exists_of_bind_eq_ok ok
  cases target with
  | existing => cases ok
  | named directory name left =>
    dsimp only at ok
    split at ok
    next => cases ok
    next =>
      split at ok
      next => cases ok
      next absent =>
        cases ok
        exact ⟨_, absent, rfl⟩

theorem extends_of_makeDirectory {raw : String} {made : FileTree}
    (ok : t.makeDirectory raw = .ok made) : t.Extends made := by
  obtain ⟨spot, absent, rfl⟩ := exists_of_makeDirectory ok
  exact .put absent _

/-- Whether or not all directories could be made, what was there is still there. -/
theorem extends_makeDirectories (t : FileTree) (raws : List String) :
    t.Extends (t.makeDirectories raws).1 := by
  induction raws generalizing t with
  | nil => exact .refl t
  | cons raw outer ih =>
    have grown := ih t
    rw [makeDirectories]
    split
    next made ok => exact extends_of_makeDirectory ok
    next =>
      -- The directory is tried again once the outer ones are made.
      cases more : t.makeDirectories outer with
      | mk between result =>
        rw [more] at grown
        cases result with
        | error fault => exact grown
        | ok =>
          dsimp only
          split
          next made ok => exact grown.trans (extends_of_makeDirectory ok)
          next => split <;> exact grown
    next => split <;> exact .refl t

end FileTree

theorem extends_makeParents (files : FileTree) (path : String) :
    files.Extends (makeParents files path).1 := by
  unfold makeParents
  split
  next => exact .refl files
  next parent _ =>
    have grown := files.extends_makeDirectories (Path.ancestors (parent.length + 1) parent)
    split
    next made same => rwa [same] at grown
    next made fault same => rwa [same] at grown

end FormLetter
