import FormLetter.Proofs.Csv.Kept
import FormLetter.Proofs.Csv.Rows

/-!
Separators outside ASCII. A reader of characters splits on any separator directly; the table loaded
by way of a stand-in is the one that it finds, whichever free character stands in.
-/
namespace FormLetter

namespace Csv

open StandIn

theorem Splits.of_wide {separator : Char} (wide : ¬ isAscii separator) : Splits separator := by
  -- Quotes and line breaks are ASCII.
  constructor
  · rintro rfl
    exact wide (by decide)
  · rintro rfl
    exact wide (by decide)
  · rintro rfl
    exact wide (by decide)

theorem StandIn.fits_of_free {separator standIn : Char} {text : List Char}
    (wide : ¬ isAscii separator) (candidate : standIn ∈ candidates) (free : standIn ∉ text) :
    Fits separator standIn text := by
  obtain ⟨-, below, splits⟩ := mem_candidates.mp candidate
  exact ⟨splits, below, fun ascii => absurd ascii wide, fun _ => free⟩

end Csv

namespace Table

open Csv

/-- Loads a table, given what is found as its rows. -/
def loadFrom (text : List Char) (options : TableOptions)
    (found : Except InputError (List (List (List Char)))) : Except InputError Table :=
  match Quoting.check options.separator text with
  | .error m => .error (.malformed m)
  | .ok () => do ofRows options ((← found).map (·.map String.ofList))

theorem load_eq_loadFrom (text : List Char) (options : TableOptions) :
    load text options = loadFrom text options (rows options.separator text) := rfl

/-- The rows that a reader of characters finds. -/
def charRows (separator : Char) (text : List Char) : List (List (List Char)) :=
  Reader.records (.ofChar separator) (body separator text)

/-- Loads a table by reading characters. -/
def loadChars (text : List Char) (options : TableOptions) : Except InputError Table :=
  loadFrom text options (.ok (charRows options.separator text))

/-- Loads a table by splitting on the given stand-in. -/
def loadBy (standIn : Char) (text : List Char) (options : TableOptions) :
    Except InputError Table :=
  loadFrom text options (rowsBy options.separator standIn text)

theorem loadBy_eq_loadChars {standIn : Char} {text : List Char} {options : TableOptions}
    (splits : Splits options.separator) (fits : StandIn.Fits options.separator standIn text) :
    loadBy standIn text options = loadChars text options := by
  rw [loadBy, rowsBy_eq splits fits, loadChars, charRows]

/-- What was chosen to stand in does; without a choice nothing is wrong but broken quotes or the
separator itself. -/
theorem cases_of_load (text : List Char) (options : TableOptions) :
    (∃ standIn, StandIn.choose? options.separator text = some standIn ∧
      load text options = loadBy standIn text options) ∨
    (∃ m, Quoting.check options.separator text = .error m ∧
      load text options = .error (.malformed m)) ∨
    load text options = .error (.separatorUnavailable options.separator) := by
  rw [load_eq_loadFrom]
  cases chosen : StandIn.choose? options.separator text with
  | some standIn =>
    refine .inl ⟨standIn, rfl, ?_⟩
    rw [rows_eq_rowsBy chosen, loadBy]
  | none =>
    have refused : rows options.separator text = .error (.separatorUnavailable options.separator) := by
      rw [rows, chosen]
    refine .inr ?_
    cases checked : Quoting.check options.separator text with
    | error m =>
      refine .inl ⟨m, rfl, ?_⟩
      rw [loadFrom, checked]
    | ok =>
      refine .inr ?_
      rw [loadFrom, checked, refused]
      rfl

/-- The separator is refused only where nothing can stand in for it. -/
theorem load_ne_of_free {text : List Char} {options : TableOptions}
    (wide : ¬ StandIn.isAscii options.separator) (free : ∃ c ∈ StandIn.candidates, c ∉ text) :
    load text options ≠ .error (.separatorUnavailable options.separator) := by
  obtain ⟨standIn, chosen⟩ := StandIn.exists_choose? fun _ => free
  rw [load_eq_loadFrom, rows_eq (Splits.of_wide wide) chosen]
  unfold loadFrom
  split
  next => nofun
  next =>
    change ofRows options _ ≠ _
    cases (Reader.records (.ofChar options.separator) (body options.separator text)).map
        (·.map String.ofList) with
    | nil => nofun
    | cons first rest => nofun

/-- A separator outside ASCII works like any other: unless no stand-in is free, the table or the
error is that of a reader of characters; which stand-in is used makes no difference; and no
character without a meaning gets lost on the way into the values, nor does one move. -/
theorem load_wide {text : List Char} {options : TableOptions}
    (wide : ¬ StandIn.isAscii options.separator)
    (available : load text options ≠ .error (.separatorUnavailable options.separator)) :
    load text options = loadChars text options ∧
      (∀ standIn ∈ StandIn.candidates, standIn ∉ text →
        loadBy standIn text options = load text options) ∧
      Reader.Keeps (.ofChar options.separator) (body options.separator text)
        (charRows options.separator text).flatten.flatten := by
  have splits := Splits.of_wide wide
  -- Broken quotes are reported first on both sides, so they need no stand-in.
  have whole : load text options = loadChars text options := by
    obtain ⟨standIn, chosen, loaded⟩ | ⟨m, broken, loaded⟩ | stuck := cases_of_load text options
    · rw [loaded, loadBy_eq_loadChars splits (StandIn.fits_of_choose? splits chosen)]
    · rw [loaded, loadChars, loadFrom, broken]
    · exact absurd stuck available
  refine ⟨whole, fun standIn candidate free => ?_, Reader.keeps_records splits.distinct _⟩
  rw [whole, loadBy_eq_loadChars splits (StandIn.fits_of_free wide candidate free)]

/-- A separator within quotes, one at the end of a line, and the character that would stand in if the
text had none of it. -/
theorem load_wide_section_sign :
    let text := "a§b\n\"x§\"§\x01".toList
    let options : TableOptions := ⟨'§', true, "n"⟩
    ¬ StandIn.isAscii '§' ∧ load text options ≠ .error (.separatorUnavailable '§') ∧
      load text options = loadChars text options ∧
      (∀ standIn ∈ StandIn.candidates, standIn ∉ text →
        loadBy standIn text options = load text options) ∧
      Reader.Keeps (.ofChar '§') (body '§' text) (charRows '§' text).flatten.flatten := by
  intro text options
  have wide : ¬ StandIn.isAscii options.separator := by decide
  have free : ∃ c ∈ StandIn.candidates, c ∉ text := ⟨'z', by decide, by decide⟩
  have available := @load_ne_of_free text options wide free
  exact ⟨wide, available, load_wide wide available⟩

end Table

end FormLetter
