import FormLetter.Proofs.Csv.Empty
import FormLetter.Proofs.Csv.Records
import FormLetter.Proofs.Decimal.Digits
import Mathlib.Data.List.Infix

/-!
The shape of a loaded table. A record has the names of the columns in the order in which each was
first met, and the counter behind them unless it has the name of a column; then it takes that place.
The headers come from the first row alone, whatever the counter is called, and the numbers of the
records go up from one, since the reader finds no row without a field.
-/
namespace FormLetter

theorem eraseDups_concat (names : List String) (name : String) :
    (names ++ [name]).eraseDups = names.eraseDups ++ if name ∈ names then [] else [name] := by
  rw [List.eraseDups_append]
  by_cases known : name ∈ names
  · simp [List.removeAll, known]
  · simp [List.removeAll, known, List.eraseDups_cons]

theorem exists_last_column {headers : List String} {name : String} (member : name ∈ headers) :
    ∃ i, headers[i]? = some name ∧ name ∉ headers.drop (i + 1) := by
  induction headers with
  | nil => cases member
  | cons header headers ih =>
    -- The first column is the last of its name if the others lack it.
    by_cases later : name ∈ headers
    · obtain ⟨i, here, last⟩ := ih later
      exact ⟨i + 1, here, last⟩
    · obtain rfl | later' := List.mem_cons.mp member
      · exact ⟨0, rfl, later⟩
      · exact absurd later' later

namespace Record

/-- A name that is set keeps its place, or takes the last one. -/
theorem keys_set (r : Record) (name value : String) :
    (r.set name value).keys = r.keys ++ if name ∈ r.keys then [] else [name] := by
  obtain ⟨fields⟩ := r
  simp only [set, keys]
  induction fields with
  | nil => simp [setIn]
  | cons field rest ih =>
    obtain ⟨n, v⟩ := field
    by_cases same : n = name
    · simp [setIn, same]
    · by_cases later : name ∈ rest.map (·.1)
      · simp [setIn, same, ih, later]
      · simp [setIn, same, Ne.symm same, ih, later]

theorem setColumns_concat (r : Record) (row : List String) (first : Nat) (headers : List String)
    (header : String) :
    setColumns r row first (headers ++ [header]) =
      (setColumns r row first headers).set header (row.getD (first + headers.length) "") := by
  rw [setColumns, List.zipIdx_append, List.foldl_append]
  rfl

theorem keys_setColumns (row : List String) (first : Nat) (headers : List String) :
    (empty.setColumns row first headers).keys = headers.eraseDups := by
  -- From the first column to the last, as a name keeps the place of its first column.
  induction headers using List.reverseRecOn with
  | nil => rfl
  | append_singleton headers header ih =>
    rw [setColumns_concat, keys_set, ih, eraseDups_concat]
    simp only [List.mem_eraseDups]

end Record

namespace Table

theorem keys_record (headers : List String) (counter : String) (number : Nat)
    (row : List String) :
    (record headers counter number row).keys =
      headers.eraseDups ++ if counter ∈ headers then [] else [counter] := by
  rw [record_eq, Record.keys_set, Record.keys_setColumns]
  simp only [List.mem_eraseDups]

theorem exists_get?_record {headers : List String} {counter name : String}
    (member : name ∈ headers) (other : name ≠ counter) (number : Nat) (row : List String) :
    ∃ i, headers[i]? = some name ∧ name ∉ headers.drop (i + 1) ∧
      (record headers counter number row).get? name = some (row.getD i "") := by
  obtain ⟨i, here, last⟩ := exists_last_column member
  exact ⟨i, here, last, get?_record here last other number row⟩

/-! ### Rows -/

theorem exists_cons_of_mapM {α β : Type} {f : α → Option β} {x : α} {xs : List α} {ys : List β}
    (done : (x :: xs).mapM f = some ys) :
    ∃ first rest, f x = some first ∧ xs.mapM f = some rest ∧ ys = first :: rest := by
  rw [List.mapM_cons] at done
  obtain ⟨first, here, more⟩ := Option.bind_eq_some_iff.mp done
  obtain ⟨rest, later, same⟩ := Option.bind_eq_some_iff.mp more
  cases same
  exact ⟨first, rest, here, later, rfl⟩

theorem exists_of_mem_mapM {α β : Type} {f : α → Option β} {xs : List α} {ys : List β}
    (done : xs.mapM f = some ys) {y : β} (member : y ∈ ys) : ∃ x ∈ xs, f x = some y := by
  induction xs generalizing ys with
  | nil =>
    cases done
    cases member
  | cons x xs ih =>
    obtain ⟨first, rest, here, later, rfl⟩ := exists_cons_of_mapM done
    obtain rfl | inside := List.mem_cons.mp member
    · exact ⟨x, List.mem_cons_self, here⟩
    · obtain ⟨x', found, gives⟩ := ih later inside
      exact ⟨x', List.mem_cons_of_mem _ found, gives⟩

theorem ne_nil_of_mem_rows {separator : Char} {text : List Char} {found : List (List (List Char))}
    (read : rows separator text = .ok found) {row : List (List Char)} (member : row ∈ found) :
    row ≠ [] := by
  unfold rows at read
  split at read
  next => cases read
  next standIn chosen =>
    dsimp only at read
    split at read
    next => cases read
    next decoded done =>
      cases read
      -- A row of the table has as many fields as the record it was decoded from.
      obtain ⟨values, inside, rfl⟩ := List.mem_map.mp member
      obtain ⟨fields, record, decodes⟩ := exists_of_mem_mapM done inside
      obtain ⟨field, others, rfl⟩ :=
        List.exists_cons_of_ne_nil (Csv.Reader.ne_nil_of_mem_records _ record)
      obtain ⟨value, more, -, -, rfl⟩ := exists_cons_of_mapM decodes
      exact List.cons_ne_nil _ _

theorem exists_rows_of_load {text : List Char} {options : TableOptions} {table : Table}
    (loaded : load text options = .ok table) :
    Csv.Quoting.check options.separator text = .ok () ∧
      ∃ first rest, rows options.separator text = .ok (first :: rest) ∧
        (∀ row ∈ first :: rest, row ≠ []) ∧
        ofRows options ((first :: rest).map (·.map String.ofList)) = .ok table := by
  unfold load at loaded
  split at loaded
  next => cases loaded
  next accepted =>
    refine ⟨accepted, ?_⟩
    cases read : rows options.separator text with
    | error e =>
      rw [read] at loaded
      cases loaded
    | ok found =>
      rw [read] at loaded
      cases found with
      | nil => cases loaded
      | cons first rest =>
        exact ⟨first, rest, rfl, fun row member => ne_nil_of_mem_rows read member, loaded⟩

/-! ### Tables -/

theorem numberedHeaders_eq (count : Nat) :
    numberedHeaders count = (List.range count).map fun i => "C" ++ toString (i + 1) := by
  simp only [numberedHeaders, Decimal.ofNat_eq_toString]

/-- What a table has from its rows. -/
structure Shaped (options : TableOptions) (first : List String) (rest : List (List String))
    (table : Table) : Prop where
  headers : table.headers = if options.hasHeader then first
    else (List.range first.length).map fun i => "C" ++ toString (i + 1)
  keys : ∀ record ∈ table.records, record.keys = table.headers.eraseDups ++
    if options.counter ∈ table.headers then [] else [options.counter]
  count : table.records.length = (if options.hasHeader then rest else first :: rest).length
  /-- The counter numbers the records, and any other column has the value of the last one with its
  name, which is empty in a short row. -/
  values : ∀ k row, (if options.hasHeader then rest else first :: rest)[k]? = some row →
    ∃ record, table.records[k]? = some record ∧
      record.get? options.counter = some (toString (k + 1)) ∧
      ∀ name ∈ table.headers, name ≠ options.counter →
        ∃ i, table.headers[i]? = some name ∧ name ∉ table.headers.drop (i + 1) ∧
          record.get? name = some (row.getD i "")

theorem shaped_of_ofRows {options : TableOptions} {first : List (List Char)}
    {rest : List (List (List Char))} {table : Table} (filled : ∀ row ∈ first :: rest, row ≠ [])
    (made : ofRows options ((first :: rest).map (·.map String.ofList)) = .ok table) :
    Shaped options (first.map String.ofList) (rest.map (·.map String.ofList)) table := by
  have filledTexts : ∀ row ∈ (first :: rest).map (·.map String.ofList), row ≠ [] := by
    simpa using filled
  rw [List.map_cons] at made filledTexts
  rw [ofRows_eq options filledTexts, numberedHeaders_eq] at made
  cases made
  constructor
  · rfl
  · intro found member
    obtain ⟨k, below, rfl⟩ := List.mem_mapIdx.mp member
    exact keys_record ..
  · exact List.length_mapIdx
  · -- The record in the place of a row is made of that row and the place.
    intro k row here
    refine ⟨_, (List.getElem?_mapIdx ..).trans (congrArg _ here), ?_, ?_⟩
    · rw [get?_record_counter, Decimal.ofNat_eq_toString]
    · intro name member other
      exact exists_get?_record member other (k + 1) row

theorem Shaped.headers_ne_nil {options : TableOptions} {first : List String}
    {rest : List (List String)} {table : Table} (shaped : Shaped options first rest table)
    (nonempty : first ≠ []) : table.headers ≠ [] := by
  rw [shaped.headers]
  split
  · exact nonempty
  · simpa using nonempty

/-- The headers are those of the first row, whatever the counter is called. -/
theorem exists_load_counter {text : List Char} {options : TableOptions} {table : Table}
    (loaded : load text options = .ok table) (counter : String) :
    ∃ other, load text { options with counter } = .ok other ∧ other.headers = table.headers := by
  obtain ⟨accepted, first, rest, read, filled, made⟩ := exists_rows_of_load loaded
  obtain ⟨other, made'⟩ : ∃ other, ofRows { options with counter }
      ((first :: rest).map (·.map String.ofList)) = .ok other := ⟨_, rfl⟩
  refine ⟨other, ?_, ?_⟩
  · simp only [load, accepted, read]
    exact made'
  · rw [(shaped_of_ofRows filled made').headers, (shaped_of_ofRows filled made).headers]

/-- The shape of every table that is loaded: headers that the counter has no part in, and for each
row one record with the names of the columns, the number of the record and the values of the row. -/
theorem load_shape {text : List Char} {options : TableOptions} {table : Table}
    (loaded : load text options = .ok table) :
    table.headers ≠ [] ∧
    (∀ counter, ∃ other, load text { options with counter } = .ok other ∧
      other.headers = table.headers) ∧
    ∃ first rest, rows options.separator text = .ok (first :: rest) ∧
      (∀ row ∈ first :: rest, row ≠ []) ∧
      Shaped options (first.map String.ofList) (rest.map (·.map String.ofList)) table := by
  obtain ⟨-, first, rest, read, filled, made⟩ := exists_rows_of_load loaded
  have shaped := shaped_of_ofRows filled made
  refine ⟨?_, exists_load_counter loaded, first, rest, read, filled, shaped⟩
  apply shaped.headers_ne_nil
  simpa using filled first List.mem_cons_self

/-- A name twice, a counter with the name of a column, a short row behind a blank line and a long
one. -/
theorem load_shape_repeated_name :
    let text := "a,n,a\n1\n\n2,3,4,5\n".toList
    let table : Table := ⟨["a", "n", "a"], [⟨[("a", ""), ("n", "1")]⟩, ⟨[("a", "4"), ("n", "2")]⟩]⟩
    load text ⟨',', true, "n"⟩ = .ok table ∧ table.headers ≠ [] ∧
      ∃ first rest, rows ',' text = .ok (first :: rest) ∧
        Shaped ⟨',', true, "n"⟩ (first.map String.ofList) (rest.map (·.map String.ofList)) table := by
  intro text table
  have loaded : load text ⟨',', true, "n"⟩ = .ok table := by decide +kernel
  obtain ⟨nonempty, -, first, rest, read, -, shaped⟩ := load_shape loaded
  exact ⟨loaded, nonempty, first, rest, read, shaped⟩

end Table

end FormLetter
