import FormLetter.Proofs.Files.Plain

/-!
Writing a list of files, one after the other. Of the contents that one file gets, the last one
stays; and to write files again that hold the last of their contents changes nothing.
-/
namespace FormLetter

namespace FileTree

variable {t : FileTree} {spot other : Location} {written : List (Location × Bytes)}

/-! ### Entries set twice -/

private theorem putIn_putIn (spot : Location) (e e' : Entry) (entries : List (Location × Entry)) :
    putIn spot e' (putIn spot e entries) = putIn spot e' entries := by
  induction entries with
  | nil => simp [putIn]
  | cons old entries ih =>
    by_cases here : old.1 = spot
    · simp [putIn, here]
    · simp [putIn, here, ih]

/-- The order of entries that are there already stays as it is. -/
private theorem putIn_comm {entries : List (Location × Entry)} (ne : spot ≠ other)
    (present : spot ∈ entries.map (·.1)) (e e' : Entry) :
    putIn other e' (putIn spot e entries) = putIn spot e (putIn other e' entries) := by
  induction entries with
  | nil => simp at present
  | cons old entries ih =>
    by_cases here : old.1 = spot
    · have there : old.1 ≠ other := by rwa [here]
      simp [putIn, here, ne]
    · have behind : spot ∈ entries.map (·.1) := by simpa [Ne.symm here] using present
      by_cases there : old.1 = other
      · simp [putIn, there, Ne.symm ne]
      · simp [putIn, here, there, ih behind]

private theorem putIn_self {e : Entry} {entries : List (Location × Entry)}
    (found : (entries.find? (·.1 = spot)).map (·.2) = some e) : putIn spot e entries = entries := by
  induction entries with
  | nil => simp at found
  | cons old entries ih =>
    obtain ⟨place, old⟩ := old
    by_cases here : place = spot
    · simp_all [putIn]
    · rw [List.find?_cons_of_neg (by simpa using here)] at found
      simp [putIn, here, ih found]

theorem put_put (t : FileTree) (spot : Location) (e e' : Entry) :
    (t.put spot e).put spot e' = t.put spot e' := by
  simp [put, putIn_putIn]

theorem put_self (below : spot ≠ []) {e : Entry} (found : t.find? spot = some e) :
    t.put spot e = t := by
  rw [find?, if_neg below] at found
  simp [put, putIn_self found]

theorem put_comm (ne : spot ≠ other) (below : spot ≠ []) (present : (t.find? spot).isSome)
    (e e' : Entry) : (t.put spot e).put other e' = (t.put other e').put spot e := by
  have listed : spot ∈ t.entries.map (·.1) := by
    rw [find?, if_neg below, Option.isSome_map, List.find?_isSome] at present
    obtain ⟨entry, mem, same⟩ := present
    exact List.mem_map.mpr ⟨entry, mem, by simpa using same⟩
  simp [put, putIn_comm ne listed]

theorem append_of_empty (empty : t.find? spot = some (.file [])) (bytes : Bytes) :
    t.append spot bytes = t.put spot (.file bytes) := by
  simp [append, empty]

/-! ### Several files -/

/-- Writes files, one after the other. -/
def overwrite (t : FileTree) (written : List (Location × Bytes)) : FileTree :=
  written.foldl (fun t (spot, content) => t.put spot (.file content)) t

@[simp] theorem overwrite_nil (t : FileTree) : t.overwrite [] = t :=
  rfl

@[simp] theorem overwrite_cons (t : FileTree) (spot : Location) (content : Bytes)
    (rest : List (Location × Bytes)) :
    t.overwrite ((spot, content) :: rest) = (t.put spot (.file content)).overwrite rest :=
  rfl

theorem overwrite_append (t : FileTree) (xs ys : List (Location × Bytes)) :
    t.overwrite (xs ++ ys) = (t.overwrite xs).overwrite ys := by
  simp [overwrite]

/-- Each of the files holds what it was given last. -/
def HoldsLast (t : FileTree) (written : List (Location × Bytes)) : Prop :=
  ∀ before spot content after, written = before ++ (spot, content) :: after →
    spot ∉ after.map (·.1) → t.find? spot = some (.file content)

theorem HoldsLast.nil (t : FileTree) : t.HoldsLast [] := by
  intro before spot content after split
  simp at split

theorem HoldsLast.tail {first : Location × Bytes} (holds : t.HoldsLast (first :: written)) :
    t.HoldsLast written := by
  intro before spot content after split last
  exact holds (first :: before) spot content after (by rw [split, List.cons_append]) last

theorem HoldsLast.single {content : Bytes} (found : t.find? spot = some (.file content)) :
    t.HoldsLast [(spot, content)] := by
  intro before other text after split _
  obtain ⟨rfl, same⟩ := List.append_eq_singleton_iff.mp split.symm |>.resolve_right (by simp)
  obtain ⟨⟨rfl, rfl⟩, -⟩ := by simpa using same
  exact found

/-- Files that are written later, apart from others that were written before and are spared. -/
theorem HoldsLast.append {later : FileTree} {more : List (Location × Bytes)}
    (holds : t.HoldsLast written) (holds' : later.HoldsLast more)
    (spares : ∀ spot content, t.find? spot = some (.file content) → spot ∉ more.map (·.1) →
      later.find? spot = some (.file content)) : later.HoldsLast (written ++ more) := by
  intro before spot content after split last
  rcases List.append_eq_append_iff.mp split with ⟨between, -, behind⟩ | ⟨between, front, behind⟩
  · exact holds' between spot content after behind last
  · cases between with
    | nil => exact holds' [] spot content after behind.symm last
    | cons first between =>
      rw [List.cons_append, List.cons.injEq] at behind
      obtain ⟨rfl, rfl⟩ := behind
      rw [List.map_append, List.mem_append, not_or] at last
      exact spares spot content (holds before spot content between front last.1) last.2

/-- Every file was given something last. -/
theorem exists_last (mem : spot ∈ written.map (·.1)) :
    ∃ before content after, written = before ++ (spot, content) :: after ∧
      spot ∉ after.map (·.1) := by
  induction written with
  | nil => simp at mem
  | cons first rest ih =>
    by_cases later : spot ∈ rest.map (·.1)
    · obtain ⟨before, content, after, split, last⟩ := ih later
      exact ⟨first :: before, content, after, by rw [split, List.cons_append], last⟩
    · obtain rfl : spot = first.1 := by simpa [later] using mem
      exact ⟨[], first.2, rest, rfl, later⟩

theorem ne_nil_of_file {content : Bytes} (found : t.find? spot = some (.file content)) :
    spot ≠ [] := by
  rintro rfl
  simp at found

/-- All of the files are there, whatever they hold. -/
def HasFiles (t : FileTree) (written : List (Location × Bytes)) : Prop :=
  ∀ spot ∈ written.map (·.1), ∃ content, t.find? spot = some (.file content)

theorem HoldsLast.hasFiles (holds : t.HoldsLast written) : t.HasFiles written := by
  intro spot mem
  obtain ⟨before, content, after, split, last⟩ := exists_last mem
  exact ⟨content, holds before spot content after split last⟩

namespace HasFiles

theorem head {content : Bytes} (files : t.HasFiles ((spot, content) :: written)) :
    ∃ old, t.find? spot = some (.file old) :=
  files spot (by simp)

theorem tail {first : Location × Bytes} (files : t.HasFiles (first :: written)) :
    t.HasFiles written :=
  fun spot mem => files spot (List.mem_cons_of_mem _ mem)

theorem put (files : t.HasFiles written) (below : spot ≠ []) (content : Bytes) :
    (t.put spot (.file content)).HasFiles written := by
  intro other mem
  by_cases same : other = spot
  · exact ⟨content, by rw [same, t.find?_put_self below]⟩
  · rw [find?_put_of_ne t same]
    exact files other mem

theorem mono {later : FileTree} (files : t.HasFiles written) (grown : t.GrowsTo later)
    (plain : later.Plain) : later.HasFiles written := by
  intro spot mem
  obtain ⟨content, found⟩ := files spot mem
  obtain ⟨e, found', same⟩ := grown.kept spot _ found
  cases e with
  | file content' => exact ⟨content', found'⟩
  | directory => cases same.mp rfl
  | link target => exact absurd found' (plain.noLink spot target)

/-- What a file gets is lost if the file is written again later. -/
theorem overwrite_put (files : t.HasFiles written) (mem : spot ∈ written.map (·.1))
    (content : Bytes) :
    (t.put spot (.file content)).overwrite written = t.overwrite written := by
  induction written generalizing t with
  | nil => simp at mem
  | cons first rest ih =>
    obtain ⟨place, text⟩ := first
    rw [overwrite_cons, overwrite_cons]
    by_cases same : place = spot
    · rw [same, put_put]
    · obtain ⟨old, found⟩ := files spot mem
      obtain ⟨old', found'⟩ := files.head
      have below := ne_nil_of_file found
      have behind : spot ∈ rest.map (·.1) := by simpa [Ne.symm same] using mem
      -- The other file may as well be written first.
      rw [put_comm (Ne.symm same) below (by rw [found]; rfl)]
      exact ih (files.tail.put (ne_nil_of_file found') text) behind

end HasFiles

/-- Files that hold what they were given last are as if they were written again. -/
theorem HoldsLast.overwrite_eq (holds : t.HoldsLast written) : t.overwrite written = t := by
  induction written with
  | nil => rfl
  | cons first rest ih =>
    obtain ⟨spot, content⟩ := first
    rw [overwrite_cons]
    by_cases later : spot ∈ rest.map (·.1)
    · rw [holds.tail.hasFiles.overwrite_put later]
      exact ih holds.tail
    · have found := holds [] spot content rest rfl later
      rw [put_self (ne_nil_of_file found) found]
      exact ih holds.tail

theorem Plain.put_file (plain : t.Plain) {old : Bytes} (found : t.find? spot = some (.file old))
    (content : Bytes) : (t.put spot (.file content)).Plain := by
  rcases List.eq_nil_or_concat' spot with rfl | ⟨here, name, rfl⟩
  · exact absurd rfl (ne_nil_of_file found)
  · apply plain.put (plain.enclosed here name (by rw [found]; rfl)) (by simp)
    intro standing
    rw [found] at standing
    cases standing

/-- Writing files that are there neither adds an entry nor removes one. -/
theorem Plain.overwrite (plain : t.Plain) (files : t.HasFiles written) :
    (t.overwrite written).Plain ∧ t.GrowsTo (t.overwrite written) := by
  induction written generalizing t with
  | nil => exact ⟨plain, .refl t⟩
  | cons first rest ih =>
    obtain ⟨spot, content⟩ := first
    obtain ⟨old, found⟩ := files.head
    have below := ne_nil_of_file found
    have free : t.find? spot ≠ some .directory := by simp [found]
    have grown := GrowsTo.put_file below free content
    obtain ⟨later, grown'⟩ := ih (plain.put_file found content) (files.tail.put below content)
    exact ⟨later, grown.trans grown'⟩

end FileTree

end FormLetter
