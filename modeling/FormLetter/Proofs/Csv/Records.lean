import FormLetter.Csv.Table

/-!
Fields of records. A name that was set twice has the value set last; in the record of a row every
column therefore answers to its name unless a later column, or the counter, has the same one.
-/
namespace FormLetter

namespace Record

theorem get?_set (r : Record) (name value other : String) :
    (r.set name value).get? other = if name = other then some value else r.get? other := by
  obtain ⟨fields⟩ := r
  simp only [set, get?]
  induction fields with
  | nil =>
    by_cases same : name = other
    · simp [setIn, same]
    · simp [setIn, same]
  | cons field rest ih =>
    obtain ⟨n, v⟩ := field
    simp only [setIn]
    split
    next here =>
      by_cases same : name = other
      · simp [here, same]
      · simp [here, same]
    next elsewhere =>
      -- The name is set further behind, and this field answers as before.
      rw [List.find?_cons, List.find?_cons]
      by_cases found : n = other
      · subst found
        simp [Ne.symm elsewhere]
      · simp only [beq_eq_false_iff_ne.mpr found]
        exact ih

theorem get?_set_self (r : Record) (name value : String) :
    (r.set name value).get? name = some value := by
  rw [get?_set, if_pos rfl]

theorem get?_set_of_ne (r : Record) {name other : String} (different : name ≠ other)
    (value : String) : (r.set name value).get? other = r.get? other := by
  rw [get?_set, if_neg different]

/-- Sets every header to the value of its column; the first of the headers is that of column
`first`. -/
def setColumns (r : Record) (row : List String) (first : Nat) (headers : List String) : Record :=
  (headers.zipIdx first).foldl (fun r (name, i) => r.set name (row.getD i "")) r

theorem setColumns_cons (r : Record) (row : List String) (first : Nat) (header : String)
    (headers : List String) :
    setColumns r row first (header :: headers) =
      setColumns (r.set header (row.getD first "")) row (first + 1) headers :=
  rfl

theorem get?_setColumns_of_notMem {headers : List String} {name : String} (absent : name ∉ headers)
    (r : Record) (row : List String) (first : Nat) :
    (setColumns r row first headers).get? name = r.get? name := by
  induction headers generalizing r first with
  | nil => rfl
  | cons header headers ih =>
    simp only [List.mem_cons, not_or] at absent
    rw [setColumns_cons, ih absent.2, get?_set_of_ne _ (Ne.symm absent.1)]

/-- The last column of a name gives the value. -/
theorem get?_setColumns {headers : List String} {name : String} {i : Nat}
    (here : headers[i]? = some name) (last : name ∉ headers.drop (i + 1))
    (r : Record) (row : List String) (first : Nat) :
    (setColumns r row first headers).get? name = some (row.getD (first + i) "") := by
  induction headers generalizing i r first with
  | nil => cases here
  | cons header headers ih =>
    rw [setColumns_cons]
    cases i with
    | zero =>
      -- No column behind this one sets the name again.
      cases here
      have absent : name ∉ headers := last
      rw [get?_setColumns_of_notMem absent, get?_set_self, Nat.add_zero]
    | succ i =>
      rw [ih here last, Nat.add_assoc, Nat.add_comm 1 i]

end Record

namespace Table

theorem record_eq (headers : List String) (counter : String) (number : Nat) (row : List String) :
    record headers counter number row =
      (Record.empty.setColumns row 0 headers).set counter (Decimal.ofNat number) :=
  rfl

theorem get?_record_counter (headers : List String) (counter : String) (number : Nat)
    (row : List String) :
    (record headers counter number row).get? counter = some (Decimal.ofNat number) := by
  rw [record_eq, Record.get?_set_self]

/-- A column answers to its name; a short row is padded. -/
theorem get?_record {headers : List String} {counter name : String} {i : Nat}
    (here : headers[i]? = some name) (last : name ∉ headers.drop (i + 1)) (other : name ≠ counter)
    (number : Nat) (row : List String) :
    (record headers counter number row).get? name = some (row.getD i "") := by
  rw [record_eq, Record.get?_set_of_ne _ (Ne.symm other), Record.get?_setColumns here last,
    Nat.zero_add]

theorem get?_record_of_notMem {headers : List String} {counter name : String}
    (absent : name ∉ headers) (other : name ≠ counter) (number : Nat) (row : List String) :
    (record headers counter number row).get? name = none := by
  rw [record_eq, Record.get?_set_of_ne _ (Ne.symm other),
    Record.get?_setColumns_of_notMem absent]
  rfl

/-- The records of a table are those of its rows, numbered from one; none is passed over if all
have fields. -/
theorem ofRows_eq (options : TableOptions) {first : List String} {rest : List (List String)}
    (filled : ∀ row ∈ first :: rest, row ≠ []) :
    ofRows options (first :: rest) =
      let headers := if options.hasHeader then first else numberedHeaders first.length
      let rows := if options.hasHeader then rest else first :: rest
      .ok ⟨headers, rows.mapIdx fun i row => record headers options.counter (i + 1) row⟩ := by
  have kept : (if options.hasHeader then rest else first :: rest).filter (!·.isEmpty) =
      if options.hasHeader then rest else first :: rest := by
    apply List.filter_eq_self.mpr
    intro row member
    have inside : row ∈ first :: rest := by
      split at member
      · exact List.mem_cons_of_mem _ member
      · exact member
    simpa using filled row inside
  simp only [ofRows, kept, List.mapIdx_eq_zipIdx_map]

end Table

end FormLetter
