import FormLetter.Proofs.Files.Opening
import Mathlib.Logic.Relation

/-!
How a path is followed, one name at a time. Each step takes up one name or one link, so a path that
is followed arrives or stops with one fault, and what it comes to is what looking it up gives.
-/
namespace FormLetter.FileTree

/-- A path on its way: how many links may still be followed, where it has come to, and the names
that are still to be followed. -/
structure Trek where
  left : Nat
  here : Location
  names : List String

namespace Trek

/-- Where the lookup of a path sets out. -/
def start (t : FileTree) (raw : String) : Trek :=
  ⟨linkLimit, startOf (Path.parse raw) t.workingDirectory, (Path.parse raw).wholeNames⟩

variable {t : FileTree} {a b : Trek}

/-- A name that an entry can have. -/
def Ordinary (name : String) : Prop :=
  ¬ (name = "." ∨ name = "..") ∧ isTooLong name = false

inductive Step (t : FileTree) : Trek → Trek → Prop where
  | stay {left : Nat} {here : Location} {rest : List String}
      (standing : t.find? here = some .directory) :
      Step t ⟨left, here, "." :: rest⟩ ⟨left, here, rest⟩
  | leave {left : Nat} {here : Location} {rest : List String}
      (standing : t.find? here = some .directory) :
      Step t ⟨left, here, ".." :: rest⟩ ⟨left, here.dropLast, rest⟩
  | enter {left : Nat} {here : Location} {name : String} {rest : List String} {e : Entry}
      (standing : t.find? here = some .directory) (ordinary : Ordinary name)
      (found : t.find? (here ++ [name]) = some e) (noLink : ∀ target, e ≠ .link target) :
      Step t ⟨left, here, name :: rest⟩ ⟨left, here ++ [name], rest⟩
  /-- The names of the target come before those behind the link. -/
  | follow {left : Nat} {here : Location} {name : String} {rest : List String} {target : String}
      (standing : t.find? here = some .directory) (ordinary : Ordinary name)
      (found : t.find? (here ++ [name]) = some (.link target)) :
      Step t ⟨left + 1, here, name :: rest⟩
        ⟨left, startOf (Path.parse target) here, (Path.parse target).wholeNames ++ rest⟩

/-- Why a path goes no further. -/
inductive Stops (t : FileTree) : Trek → IoFault → Prop where
  /-- A name is looked for in something that is no directory. -/
  | closed {left : Nat} {here : Location} {name : String} {rest : List String}
      (other : t.find? here ≠ some .directory) : Stops t ⟨left, here, name :: rest⟩ .notDirectory
  | long {left : Nat} {here : Location} {name : String} {rest : List String}
      (standing : t.find? here = some .directory) (noDots : ¬ (name = "." ∨ name = ".."))
      (long : isTooLong name = true) : Stops t ⟨left, here, name :: rest⟩ .nameTooLong
  | missing {left : Nat} {here : Location} {name : String} {rest : List String}
      (standing : t.find? here = some .directory) (ordinary : Ordinary name)
      (absent : t.find? (here ++ [name]) = none) : Stops t ⟨left, here, name :: rest⟩ .noSuchEntry
  /-- One link more than may be followed. -/
  | exhausted {here : Location} {name : String} {rest : List String} {target : String}
      (standing : t.find? here = some .directory) (ordinary : Ordinary name)
      (found : t.find? (here ++ [name]) = some (.link target)) :
      Stops t ⟨0, here, name :: rest⟩ .tooManyLinks

/-! ### Every path comes to an end -/

theorem step_or_stops (t : FileTree) (left : Nat) (here : Location) (name : String)
    (rest : List String) :
    (∃ b, Step t ⟨left, here, name :: rest⟩ b) ∨
      ∃ fault, Stops t ⟨left, here, name :: rest⟩ fault := by
  by_cases standing : t.find? here = some .directory
  · by_cases dots : name = "." ∨ name = ".."
    · left
      rcases dots with rfl | rfl
      · exact ⟨_, .stay standing⟩
      · exact ⟨_, .leave standing⟩
    · cases fits : isTooLong name with
      | true => exact .inr ⟨_, .long standing dots fits⟩
      | false =>
        have ordinary : Ordinary name := ⟨dots, fits⟩
        cases found : t.find? (here ++ [name]) with
        | none => exact .inr ⟨_, .missing standing ordinary found⟩
        | some e =>
          cases e with
          | file content => exact .inl ⟨_, .enter standing ordinary found nofun⟩
          | directory => exact .inl ⟨_, .enter standing ordinary found nofun⟩
          | link target =>
            cases left with
            | zero => exact .inr ⟨_, .exhausted standing ordinary found⟩
            | succ left => exact .inl ⟨_, .follow standing ordinary found⟩
  · exact .inr ⟨_, .closed standing⟩

/-- A link may bring more names, and then there is one link less to follow. -/
theorem Step.decreases (step : Step t a b) :
    Prod.Lex (· < ·) (· < ·) (b.left, b.names.length) (a.left, a.names.length) := by
  cases step with
  | stay standing => exact .right _ (Nat.lt_succ_self _)
  | leave standing => exact .right _ (Nat.lt_succ_self _)
  | enter standing ordinary found noLink => exact .right _ (Nat.lt_succ_self _)
  | follow standing ordinary found => exact .left _ _ (Nat.lt_succ_self _)

theorem exists_end (t : FileTree) (a : Trek) :
    (∃ left spot, Relation.ReflTransGen (Step t) a ⟨left, spot, []⟩) ∨
      ∃ b fault, Relation.ReflTransGen (Step t) a b ∧ b.Stops t fault := by
  -- On the links that may be followed, and then on the names.
  obtain ⟨left, here, names⟩ := a
  cases names with
  | nil => exact .inl ⟨left, here, .refl⟩
  | cons name rest =>
    rcases step_or_stops t left here name rest with ⟨b, step⟩ | ⟨fault, stops⟩
    · have smaller := step.decreases
      rcases exists_end t b with ⟨left, spot, passes⟩ | ⟨last, fault, passes, stops⟩
      · exact .inl ⟨left, spot, passes.head step⟩
      · exact .inr ⟨last, fault, passes.head step, stops⟩
    · exact .inr ⟨_, fault, .refl, stops⟩
termination_by (a.left, a.names.length)
decreasing_by exact smaller

/-! ### What walking gives -/

theorem Step.walk_eq (step : Step t a b) :
    t.walk a.left a.here a.names = t.walk b.left b.here b.names := by
  cases step with
  | @stay left here rest standing => cases left <;> simp [walk, walkWith, standing]
  | @leave left here rest standing => cases left <;> simp [walk, walkWith, standing]
  | enter standing ordinary found noLink =>
    exact walk_found standing ordinary.1 ordinary.2 found noLink _ _
  | follow standing ordinary found => exact walk_link standing ordinary.1 ordinary.2 found _ _

theorem walk_eq_of_passes (passes : Relation.ReflTransGen (Step t) a b) :
    t.walk a.left a.here a.names = t.walk b.left b.here b.names := by
  induction passes with
  | refl => rfl
  | tail _ step ih => exact ih.trans step.walk_eq

theorem Stops.walk_eq {fault : IoFault} (stops : a.Stops t fault) :
    t.walk a.left a.here a.names = .error fault := by
  cases stops with
  | @closed left here name rest other =>
    cases standing : t.find? here with
    | none => cases left <;> simp [walk, walkWith, standing]
    | some e =>
      cases e with
      | directory => exact absurd standing other
      | file content => cases left <;> simp [walk, walkWith, standing]
      | link target => cases left <;> simp [walk, walkWith, standing]
  | long standing noDots long => exact walk_long standing noDots long _ _
  | missing standing ordinary absent =>
    exact walk_missing standing ordinary.1 ordinary.2 absent _ _
  | exhausted standing ordinary found =>
    exact walk_exhausted standing ordinary.1 ordinary.2 found _

theorem walk_eq_ok_iff {spot : Location} {left : Nat} :
    t.walk a.left a.here a.names = .ok (spot, left) ↔
      Relation.ReflTransGen (Step t) a ⟨left, spot, []⟩ := by
  constructor
  · intro walked
    -- The walk that has gone well cannot be one that stops.
    rcases exists_end t a with ⟨left', spot', passes⟩ | ⟨b, fault, passes, stops⟩
    · rw [walk_eq_of_passes passes, walk_nil] at walked
      cases walked
      exact passes
    · rw [walk_eq_of_passes passes, stops.walk_eq] at walked
      cases walked
  · intro passes
    rw [walk_eq_of_passes passes, walk_nil]

theorem walk_eq_error_iff {fault : IoFault} :
    t.walk a.left a.here a.names = .error fault ↔
      ∃ b, Relation.ReflTransGen (Step t) a b ∧ b.Stops t fault := by
  constructor
  · intro refused
    rcases exists_end t a with ⟨left, spot, passes⟩ | ⟨b, fault', passes, stops⟩
    · rw [walk_eq_of_passes passes, walk_nil] at refused
      cases refused
    · rw [walk_eq_of_passes passes, stops.walk_eq] at refused
      cases refused
      exact ⟨b, passes, stops⟩
  · rintro ⟨b, passes, stops⟩
    rw [walk_eq_of_passes passes, stops.walk_eq]

end Trek

/-! ### Looking up a path -/

variable {t : FileTree} {raw : String}

theorem checkPath_eq_ok_iff :
    checkPath raw = .ok () ↔
      '\x00' ∉ raw.toList ∧ (bytesOf raw).length < pathLimit ∧ raw ≠ "" := by
  unfold checkPath
  grind [String.isEmpty_iff]

/-- How far a path comes; a text that is no path does not even start. -/
structure Leads (t : FileTree) (raw : String) (a : Trek) : Prop where
  noNull : '\x00' ∉ raw.toList
  short : (bytesOf raw).length < pathLimit
  nonempty : raw ≠ ""
  passes : Relation.ReflTransGen (Trek.Step t) (.start t raw) a

/-- The path leads to an entry. -/
def Finds (t : FileTree) (raw : String) : Prop :=
  ∃ left spot e, t.Leads raw ⟨left, spot, []⟩ ∧ t.find? spot = some e

/-- The path is stopped on its way. -/
def Halts (t : FileTree) (raw : String) (fault : IoFault) : Prop :=
  ∃ a, t.Leads raw a ∧ a.Stops t fault

theorem leads_iff {a : Trek} :
    t.Leads raw a ↔
      checkPath raw = .ok () ∧ Relation.ReflTransGen (Trek.Step t) (.start t raw) a := by
  rw [checkPath_eq_ok_iff]
  constructor
  · rintro ⟨noNull, short, nonempty, passes⟩
    exact ⟨⟨noNull, short, nonempty⟩, passes⟩
  · rintro ⟨⟨noNull, short, nonempty⟩, passes⟩
    exact ⟨noNull, short, nonempty, passes⟩

theorem locate_eq_walk (valid : checkPath raw = .ok ()) :
    t.locate raw =
      t.walk (Trek.start t raw).left (Trek.start t raw).here (Trek.start t raw).names >>=
        fun arrived => match t.find? arrived.1 with
          | some e => .ok (arrived.1, e)
          | none => .error .noSuchEntry := by
  rw [locate, valid]
  rfl

theorem exists_locate_iff_finds : (∃ found, t.locate raw = .ok found) ↔ t.Finds raw := by
  constructor
  · rintro ⟨⟨spot, e⟩, located⟩
    obtain ⟨left, valid, walked, present⟩ := exists_of_locate located
    exact ⟨left, spot, e, leads_iff.mpr ⟨valid, Trek.walk_eq_ok_iff.mp walked⟩, present⟩
  · rintro ⟨left, spot, e, leads, present⟩
    obtain ⟨valid, passes⟩ := leads_iff.mp leads
    refine ⟨(spot, e), ?_⟩
    rw [locate_eq_walk valid, Trek.walk_eq_ok_iff.mpr passes]
    simp [bind, Except.bind, present]

/-- A path that leads to no entry is no path, is stopped, or has left the file system. -/
theorem locate_eq_error_iff {fault : IoFault} :
    t.locate raw = .error fault ↔
      checkPath raw = .error fault ∨ t.Halts raw fault ∨
        fault = .noSuchEntry ∧ ∃ left spot, t.Leads raw ⟨left, spot, []⟩ ∧ t.find? spot = none := by
  constructor
  · intro refused
    cases valid : checkPath raw with
    | error other =>
      rw [locate, valid] at refused
      cases refused
      exact .inl rfl
    | ok =>
      right
      rw [locate_eq_walk valid] at refused
      rcases Trek.exists_end t (.start t raw) with ⟨left, spot, passes⟩ | ⟨b, other, passes, stops⟩
      · right
        rw [Trek.walk_eq_ok_iff.mpr passes] at refused
        cases present : t.find? spot with
        | none =>
          simp only [bind, Except.bind, present] at refused
          cases refused
          exact ⟨rfl, left, spot, leads_iff.mpr ⟨valid, passes⟩, present⟩
        | some e =>
          simp only [bind, Except.bind, present] at refused
          cases refused
      · left
        rw [Trek.walk_eq_error_iff.mpr ⟨b, passes, stops⟩] at refused
        cases refused
        exact ⟨b, leads_iff.mpr ⟨valid, passes⟩, stops⟩
  · rintro (invalid | ⟨a, leads, stops⟩ | ⟨rfl, left, spot, leads, absent⟩)
    · rw [locate, invalid]
      rfl
    · obtain ⟨valid, passes⟩ := leads_iff.mp leads
      rw [locate_eq_walk valid, Trek.walk_eq_error_iff.mpr ⟨a, passes, stops⟩]
      rfl
    · obtain ⟨valid, passes⟩ := leads_iff.mp leads
      rw [locate_eq_walk valid, Trek.walk_eq_ok_iff.mpr passes]
      simp [bind, Except.bind, absent]

end FormLetter.FileTree
