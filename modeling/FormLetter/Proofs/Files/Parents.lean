import FormLetter.Files.Path
import Mathlib.Data.List.Basic

/-!
The enclosing directory of a path, in names. Its text is a piece of the path's text; its names are
the first names of the path, and what follows them is one name among dots.
-/
namespace FormLetter

/-! ### Pieces between slashes -/

theorem splitSlashes_ne_nil (cs : List Char) : splitSlashes cs ≠ [] := by
  cases cs with
  | nil => simp [splitSlashes]
  | cons c rest =>
    rw [splitSlashes]
    split
    next => simp
    next => split <;> simp

theorem splitSlashes_cons_slash (rest : List Char) :
    splitSlashes ('/' :: rest) = [] :: splitSlashes rest := by
  rw [splitSlashes]
  split
  next empty => exact absurd empty (splitSlashes_ne_nil rest)
  next => simp [*]

theorem splitSlashes_of_notMem {piece : List Char} (bare : '/' ∉ piece) :
    splitSlashes piece = [piece] := by
  induction piece with
  | nil => rfl
  | cons c piece ih =>
    simp only [List.mem_cons, not_or] at bare
    simp [splitSlashes, ih bare.2, Ne.symm bare.1]

theorem splitSlashes_append {piece : List Char} (bare : '/' ∉ piece) (rest : List Char) :
    splitSlashes (piece ++ '/' :: rest) = piece :: splitSlashes rest := by
  induction piece with
  | nil => exact splitSlashes_cons_slash rest
  | cons c piece ih =>
    simp only [List.mem_cons, not_or] at bare
    simp [splitSlashes, ih bare.2, Ne.symm bare.1]

theorem splitSlashes_cons_of_ne {c : Char} (ne : c ≠ '/') {rest first : List Char}
    {after : List (List Char)} (pieces : splitSlashes rest = first :: after) :
    splitSlashes (c :: rest) = (c :: first) :: after := by
  rw [splitSlashes, pieces]
  exact if_neg ne

/-- Between two texts there is one piece that takes in whatever is put there without a slash. -/
theorem exists_splitSlashes_around (front back : List Char) :
    ∃ before last first after, ∀ piece : List Char, '/' ∉ piece →
      splitSlashes (front ++ piece ++ back) = before ++ (last ++ piece ++ first) :: after := by
  induction front with
  | nil =>
    obtain ⟨first, after, behind⟩ := List.exists_cons_of_ne_nil (splitSlashes_ne_nil back)
    refine ⟨[], [], first, after, fun piece bare => ?_⟩
    induction piece with
    | nil => exact behind
    | cons c piece ih =>
      simp only [List.mem_cons, not_or] at bare
      exact splitSlashes_cons_of_ne (Ne.symm bare.1) (ih bare.2)
  | cons c front ih =>
    obtain ⟨before, last, first, after, around⟩ := ih
    by_cases slash : c = '/'
    · subst slash
      refine ⟨[] :: before, last, first, after, fun piece bare => ?_⟩
      rw [List.cons_append, List.cons_append, splitSlashes_cons_slash, around piece bare,
        List.cons_append]
    · cases before with
      | nil =>
        exact ⟨[], c :: last, first, after, fun piece bare =>
          splitSlashes_cons_of_ne slash (around piece bare)⟩
      | cons outer before =>
        exact ⟨(c :: outer) :: before, last, first, after, fun piece bare =>
          splitSlashes_cons_of_ne slash (around piece bare)⟩

theorem slash_notMem_of_mem_splitSlashes {cs piece : List Char} (mem : piece ∈ splitSlashes cs) :
    '/' ∉ piece := by
  induction cs generalizing piece with
  | nil => simp_all [splitSlashes]
  | cons c rest ih =>
    rw [splitSlashes] at mem
    split at mem
    next empty => exact absurd empty (splitSlashes_ne_nil rest)
    next first more pieces =>
      rw [pieces] at ih
      split at mem
      next =>
        rcases List.mem_cons.mp mem with rfl | mem
        · simp
        · exact ih mem
      next other =>
        rcases List.mem_cons.mp mem with rfl | mem
        · simpa [Ne.symm other] using ih List.mem_cons_self
        · exact ih (List.mem_cons_of_mem _ mem)

theorem intercalate_splitSlashes (cs : List Char) : ['/'].intercalate (splitSlashes cs) = cs := by
  induction cs with
  | nil => rfl
  | cons c rest ih =>
    rw [splitSlashes]
    split
    next empty => exact absurd empty (splitSlashes_ne_nil rest)
    next first more pieces =>
      rw [pieces] at ih
      split
      next slash => rw [List.intercalate_cons_cons, ih, slash, List.nil_append, List.cons_append,
        List.nil_append]
      next => cases more <;> simp_all [List.intercalate_cons_cons]

/-- Joined pieces and a further join. -/
theorem intercalate_append {xs ys : List (List Char)} (ne : xs ≠ []) (ne' : ys ≠ []) :
    ['/'].intercalate (xs ++ ys) = ['/'].intercalate xs ++ '/' :: ['/'].intercalate ys := by
  induction xs with
  | nil => exact absurd rfl ne
  | cons x xs ih =>
    cases xs with
    | nil =>
      obtain ⟨y, ys, rfl⟩ := List.exists_cons_of_ne_nil ne'
      simp [List.intercalate_cons_cons]
    | cons x' xs =>
      have later := ih (by simp)
      simp only [List.cons_append] at later ⊢
      rw [List.intercalate_cons_cons, List.intercalate_cons_cons, later]
      simp

theorem splitSlashes_intercalate {pieces : List (List Char)} (ne : pieces ≠ [])
    (bare : ∀ piece ∈ pieces, '/' ∉ piece) :
    splitSlashes (['/'].intercalate pieces) = pieces := by
  induction pieces with
  | nil => exact absurd rfl ne
  | cons piece pieces ih =>
    cases pieces with
    | nil =>
      rw [List.intercalate_singleton]
      exact splitSlashes_of_notMem (bare piece List.mem_cons_self)
    | cons next pieces =>
      rw [List.intercalate_cons_cons, List.append_assoc, List.singleton_append,
        splitSlashes_append (bare piece List.mem_cons_self),
        ih (by simp) fun p mem => bare p (List.mem_cons_of_mem _ mem)]

namespace Path

/-! ### Components -/

/-- A piece that no directory is entered for. -/
def IsIdle (piece : List Char) : Prop :=
  piece = [] ∨ piece = ['.']

theorem isIdle_of_componentEnds_eq_nil {first : Bool} {position : Nat}
    {pieces : List (List Char)} (ends : componentEnds first position pieces = []) :
    ∀ piece ∈ pieces, IsIdle piece := by
  induction pieces generalizing first position with
  | nil => simp
  | cons piece rest ih =>
    rw [componentEnds] at ends
    split at ends
    next idle =>
      have here : IsIdle piece := by
        simp only [Bool.or_eq_true, List.isEmpty_iff, Bool.and_eq_true, beq_iff_eq] at idle
        exact idle.imp_right And.left
      simpa [here] using ih ends
    next => cases ends

/-- Where the last component ends: in front of it are the other ones, and nothing of interest is
behind it. -/
theorem exists_of_componentEnds {first : Bool} {position stop : Nat} {ends : List Nat}
    {pieces : List (List Char)} (found : componentEnds first position pieces = ends ++ [stop]) :
    ∃ front component behind, pieces = front ++ component :: behind ∧
      componentEnds first position front = ends ∧
      stop = position + (['/'].intercalate (front ++ [component])).length ∧
      component ≠ [] ∧ (component = ['.'] → front = [] ∧ first = true) ∧
      ∀ piece ∈ behind, IsIdle piece := by
  induction pieces generalizing first position ends with
  | nil => simp [componentEnds] at found
  | cons piece rest ih =>
    rw [componentEnds] at found
    generalize later : componentEnds false (position + piece.length + 1) rest = more at found
    -- The first piece is the last component only if no component is behind it.
    rcases List.eq_nil_or_concat' more with rfl | ⟨more, last, rfl⟩
    · split at found
      next => simp at found
      next real =>
        obtain ⟨rfl, rfl⟩ : ends = [] ∧ position + piece.length = stop := by
          cases ends <;> simp_all
        simp only [Bool.or_eq_true, List.isEmpty_iff, Bool.and_eq_true, beq_iff_eq, not_or,
          not_and, Bool.not_eq_true] at real
        refine ⟨[], piece, rest, rfl, rfl, by simp, real.1, ?_,
          isIdle_of_componentEnds_eq_nil later⟩
        intro same
        exact ⟨rfl, by simpa using real.2 same⟩
    · have same : last = stop := by
        split at found
        next => exact (List.append_inj_right' found rfl |> List.singleton_inj.mp)
        next =>
          rw [← List.cons_append] at found
          exact List.singleton_inj.mp (List.append_inj_right' found rfl)
      subst same
      obtain ⟨front, component, behind, rfl, before, stops, filled, dot, idle⟩ := ih later
      refine ⟨piece :: front, component, behind, rfl, ?_, ?_, filled, ?_, idle⟩
      · rw [componentEnds, before]
        split
        next skip =>
          rw [if_pos skip] at found
          exact List.append_cancel_right found
        next real =>
          rw [if_neg real, ← List.cons_append] at found
          exact List.append_cancel_right found
      · have joined : ['/'].intercalate ([piece] ++ (front ++ [component])) = _ :=
          intercalate_append (by simp) (by simp)
        rw [List.singleton_append, List.intercalate_singleton] at joined
        rw [stops, List.cons_append, joined, List.length_append, List.length_cons]
        omega
      · intro same
        exact absurd (dot same).2 (by simp)

/-! ### Enclosing directories -/

/-- The names among pieces. -/
def namesOf (pieces : List (List Char)) : List String :=
  (pieces.filter (!·.isEmpty)).map String.ofList

@[simp] theorem namesOf_append (xs ys : List (List Char)) :
    namesOf (xs ++ ys) = namesOf xs ++ namesOf ys := by
  simp [namesOf]

theorem namesOf_cons {piece : List Char} (filled : piece ≠ []) (rest : List (List Char)) :
    namesOf (piece :: rest) = String.ofList piece :: namesOf rest := by
  simp [namesOf, filled]

theorem parse_names (raw : String) : (parse raw).names = namesOf (splitSlashes raw.toList) :=
  rfl

/-- Pieces that nothing is entered for are dots, where they are names at all. -/
theorem eq_dot_of_mem_namesOf {pieces : List (List Char)} (idle : ∀ piece ∈ pieces, IsIdle piece) :
    ∀ name ∈ namesOf pieces, name = "." := by
  intro name mem
  simp only [namesOf, List.mem_map, List.mem_filter, Bool.not_eq_eq_eq_not, Bool.not_true,
    List.isEmpty_eq_false_iff] at mem
  obtain ⟨piece, ⟨mem, filled⟩, rfl⟩ := mem
  rcases idle piece mem with empty | rfl
  · exact absurd empty filled
  · rfl

/-- The path ends in a dot only if it is the dot. -/
def Closed (raw : String) : Prop :=
  (parse raw).names.getLast? = some "." → (parse raw).names = ["."]

theorem closed_of_names_eq_nil {raw : String} (nameless : (parse raw).names = []) : Closed raw := by
  intro last
  rw [nameless] at last
  cases last

/-- A path encloses another: the text of the other one goes on with a name, among dots. -/
structure Encloses (outer raw : String) : Prop where
  absolute : (parse outer).absolute = (parse raw).absolute
  begins : outer.toList <+: raw.toList
  closed : Closed outer
  names : ∃ dots name more, (∀ d ∈ dots, d = ".") ∧ (∀ d ∈ more, d = ".") ∧
    (parse raw).names = (parse outer).names ++ dots ++ name :: more

theorem Encloses.exists_names {outer raw : String} (encloses : Encloses outer raw) :
    ∃ first rest, (parse raw).names = (parse outer).names ++ first :: rest := by
  obtain ⟨dots, name, more, -, -, names⟩ := encloses.names
  obtain ⟨first, rest, same⟩ := List.exists_cons_of_ne_nil (by simp : dots ++ name :: more ≠ [])
  exact ⟨first, rest, by rw [names, List.append_assoc, same]⟩

/-- A path that ends in a dot is the dot, so only one name is behind an enclosing directory. -/
theorem Encloses.names_of_closed {outer raw : String} (encloses : Encloses outer raw)
    (closed : Closed raw) :
    ∃ dots name, (∀ d ∈ dots, d = ".") ∧
      (parse raw).names = ((parse outer).names ++ dots) ++ [name] := by
  obtain ⟨dots, name, more, all, all', names⟩ := encloses.names
  rcases List.eq_nil_or_concat' more with rfl | ⟨more, last, rfl⟩
  · exact ⟨dots, name, all, names⟩
  · exfalso
    obtain rfl : last = "." := all' last (by simp)
    have ends : (parse raw).names.getLast? = some "." := by
      rw [names, ← List.cons_append, ← List.append_assoc, List.getLast?_concat]
    have alone := congrArg List.length ((closed ends).symm.trans names)
    simp only [List.length_append, List.length_cons, List.length_nil] at alone
    omega

/-- A path that no path encloses has dots for names. -/
theorem eq_dot_of_parent?_eq_none {raw : String} (outermost : parent? raw = none) :
    ∀ name ∈ (parse raw).names, name = "." := by
  apply eq_dot_of_mem_namesOf
  unfold parent? at outermost
  dsimp only at outermost
  split at outermost
  next ends => exact isIdle_of_componentEnds_eq_nil (List.reverse_eq_nil_iff.mp ends)
  next => cases outermost
  next => cases outermost

/-- The text up to the end of a component encloses the whole. -/
theorem encloses_of_pieces {raw : String} {front between behind : List (List Char)}
    {enclosing component : List Char}
    (pieces : splitSlashes raw.toList = front ++ enclosing :: between ++ component :: behind)
    (real : enclosing ≠ []) (dot : enclosing = ['.'] → front = []) (filled : component ≠ [])
    (idle : ∀ piece ∈ between, IsIdle piece) (idle' : ∀ piece ∈ behind, IsIdle piece) :
    Encloses (String.ofList (['/'].intercalate (front ++ [enclosing]))) raw := by
  have whole : raw.toList = ['/'].intercalate (front ++ [enclosing]) ++
      '/' :: ['/'].intercalate (between ++ component :: behind) := by
    rw [← intercalate_append (by simp) (by simp), ← intercalate_splitSlashes raw.toList, pieces]
    simp
  have bare : ∀ piece ∈ front ++ [enclosing], '/' ∉ piece := by
    intro piece mem
    refine @slash_notMem_of_mem_splitSlashes raw.toList piece ?_
    rw [pieces]
    simp only [List.mem_append, List.mem_cons, List.not_mem_nil, or_false] at mem ⊢
    exact .inl (mem.imp_right .inl)
  have names : (parse (String.ofList (['/'].intercalate (front ++ [enclosing])))).names =
      namesOf front ++ [String.ofList enclosing] := by
    rw [parse_names, String.toList_ofList, splitSlashes_intercalate (by simp) bare,
      namesOf_append, namesOf_cons real]
    rfl
  refine ⟨?_, ?_, ?_, namesOf between, String.ofList component, namesOf behind,
    eq_dot_of_mem_namesOf idle, eq_dot_of_mem_namesOf idle', ?_⟩
  · -- Whether a path is absolute its first character says, which both have in common.
    have started : ['/'].intercalate (front ++ [enclosing]) ≠ [] := by
      intro empty
      have split := splitSlashes_intercalate (by simp) bare
      rw [empty] at split
      cases front <;> simp_all [splitSlashes]
    obtain ⟨c, text, same⟩ := List.exists_cons_of_ne_nil started
    simp [parse, whole, same]
  · exact ⟨_, by rw [String.toList_ofList, whole]⟩
  · intro last
    rw [names, List.getLast?_concat, Option.some_inj] at last
    have same : enclosing = ['.'] := by simpa using congrArg String.toList last
    rw [names, dot same, last]
    rfl
  · rw [names, parse_names, pieces, namesOf_append, namesOf_append, namesOf_cons real,
      namesOf_cons filled]
    simp

/-- The first component stands in the root or where relative paths start. -/
theorem encloses_of_first {raw : String} {front behind : List (List Char)} {component : List Char}
    (pieces : splitSlashes raw.toList = front ++ component :: behind) (filled : component ≠ [])
    (idle : ∀ piece ∈ front, IsIdle piece) (idle' : ∀ piece ∈ behind, IsIdle piece) :
    Encloses (if raw.toList.head? == some '/' then "/" else "") raw := by
  have names : (parse raw).names = namesOf front ++ String.ofList component :: namesOf behind := by
    rw [parse_names, pieces, namesOf_append, namesOf_cons filled]
  have dots := eq_dot_of_mem_namesOf idle
  have dots' := eq_dot_of_mem_namesOf idle'
  split
  next rooted =>
    refine ⟨by simp [parse, rooted], ?_, closed_of_names_eq_nil rfl, _, _, _, dots, dots', names⟩
    cases text : raw.toList with
    | nil => simp [text] at rooted
    | cons c rest =>
      obtain rfl : c = '/' := by simpa [text] using rooted
      exact ⟨rest, rfl⟩
  next relative =>
    refine ⟨?_, ?_, closed_of_names_eq_nil rfl, _, _, _, dots, dots', names⟩
    · simpa [parse] using relative
    · exact List.nil_prefix

theorem encloses_of_parent? {outer raw : String} (parent : parent? raw = some outer) :
    Encloses outer raw := by
  unfold parent? at parent
  dsimp only at parent
  split at parent
  next => cases parent
  next last before others ends =>
    -- The text is cut where the last component but one ends.
    obtain ⟨front, component, behind, pieces, before', -, filled, -, idle'⟩ :=
      exists_of_componentEnds (List.reverse_eq_cons_iff.mp ends)
    rw [List.reverse_cons] at before'
    obtain ⟨front, enclosing, between, rfl, -, stops, real, dot, idle⟩ :=
      exists_of_componentEnds before'
    have enclosed := encloses_of_pieces pieces real (fun same => (dot same).1) filled idle idle'
    cases parent
    have cut : raw.toList.take before = ['/'].intercalate (front ++ [enclosing]) := by
      obtain ⟨rest, whole⟩ := enclosed.begins
      rw [String.toList_ofList] at whole
      rw [← whole, stops, Nat.zero_add, List.take_left]
    rwa [cut]
  next last ends =>
    obtain ⟨front, component, behind, pieces, ends', -, filled, -, idle'⟩ :=
      exists_of_componentEnds (List.reverse_eq_cons_iff.mp ends)
    cases parent
    exact encloses_of_first pieces filled (isIdle_of_componentEnds_eq_nil ends') idle'

/-- An enclosing path is shorter. -/
theorem Encloses.length_lt {outer raw : String} (encloses : Encloses outer raw) :
    outer.length < raw.length := by
  obtain ⟨rest, text⟩ := encloses.begins
  obtain ⟨first, more, names⟩ := encloses.exists_names
  -- It has fewer names, so its text cannot be the whole.
  have shorter : rest ≠ [] := by
    rintro rfl
    rw [List.append_nil] at text
    rw [String.toList_inj.mp text] at names
    simpa using congrArg List.length names
  have length := congrArg List.length text
  have positive := List.length_pos_iff.mpr shorter
  simp only [List.length_append, String.length_toList] at length
  omega

end Path

end FormLetter
