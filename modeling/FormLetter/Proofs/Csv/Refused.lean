import FormLetter.Proofs.Csv.Empty
import FormLetter.Proofs.Csv.Wide

/-!
What a table is not loaded from. There are three reasons, looked at in this order: broken quotes, a
separator that nothing can stand in for, and a text without records. Nothing else goes wrong; above
all, the bytes are only ever split between characters, so that every field is a text.
-/
namespace FormLetter.Csv

/-- No byte is left to stand in for a separator outside ASCII. -/
def Exhausted (separator : Char) (text : List Char) : Prop :=
  ¬ StandIn.isAscii separator ∧
    ∀ b : UInt8, 0x01 ≤ b → b < 0x80 → b ≠ 0x22 → b ≠ 0x0D → b ≠ 0x0A →
      b ∈ Text.Utf8.encode text

/-- Nothing but line breaks, a leading mark aside. -/
def Blank (separator : Char) (text : List Char) : Prop :=
  ∀ c ∈ body separator text, c = '\r' ∨ c = '\n'

namespace StandIn

theorem mem_encode_iff {c : Char} (ascii : c.toNat < 0x80) (text : List Char) :
    UInt8.ofNat c.toNat ∈ Text.Utf8.encode text ↔ c ∈ text := by
  rw [Text.Utf8.encode, List.mem_flatMap]
  constructor
  · rintro ⟨other, member, byte⟩
    by_cases same : other = c
    · exact same ▸ member
    · -- No other character has that byte.
      exact absurd rfl (Text.Utf8.ne_of_mem_encodeChar ascii same byte)
  · intro member
    refine ⟨c, member, ?_⟩
    rw [Text.Utf8.encodeChar_ascii ascii]
    exact List.mem_singleton_self _

theorem choose?_eq_none_iff (separator : Char) (text : List Char) :
    choose? separator text = none ↔ ¬ isAscii separator ∧ ∀ c ∈ candidates, c ∈ text := by
  unfold choose?
  split
  next ascii => simp [ascii]
  next wide => simp [wide]

theorem ofNat_toNat_ascii {b : UInt8} (below : b < 0x80) :
    (Char.ofNat b.toNat).toNat = b.toNat := by
  have small : b.toNat < 0x80 := below
  exact Text.Utf8.toNat_ofNat_of_valid (.inl (by omega))

/-- The candidates are the ASCII characters that have no other meaning, and so are the bytes. -/
theorem choose?_eq_none_iff_exhausted (separator : Char) (text : List Char) :
    choose? separator text = none ↔ Exhausted separator text := by
  rw [choose?_eq_none_iff, Exhausted]
  apply and_congr_right
  intro _
  constructor
  · intro all b positive below noQuote noReturn noFeed
    have code := ofNat_toNat_ascii below
    have byte : UInt8.ofNat (Char.ofNat b.toNat).toNat = b := by rw [code, UInt8.ofNat_toNat]
    generalize Char.ofNat b.toNat = c at code byte
    have ascii : c.toNat < 0x80 := code ▸ below
    have splits : Splits c := by
      constructor
      · rintro rfl
        exact noQuote byte.symm
      · rintro rfl
        exact noReturn byte.symm
      · rintro rfl
        exact noFeed byte.symm
    have candidate : c ∈ candidates := mem_candidates.mpr ⟨code ▸ positive, ascii, splits⟩
    rw [← byte, mem_encode_iff ascii]
    exact all c candidate
  · intro all c candidate
    obtain ⟨positive, ascii, splits⟩ := mem_candidates.mp candidate
    have code : (UInt8.ofNat c.toNat).toNat = c.toNat := Text.Utf8.toNat_ofNat_of_lt (by omega)
    have other {x : Char} (asciiOther : x.toNat < 0x80) (differs : c ≠ x) :
        UInt8.ofNat c.toNat ≠ UInt8.ofNat x.toNat := by
      apply Text.Utf8.ne_of_mem_encodeChar asciiOther differs
      rw [Text.Utf8.encodeChar_ascii ascii]
      exact List.mem_singleton_self _
    rw [← mem_encode_iff ascii]
    apply all
    · rw [UInt8.le_iff_toNat_le, code]
      exact positive
    · rw [UInt8.lt_iff_toNat_lt, code]
      exact ascii
    · exact other (x := '"') (by decide) splits.ne_quote
    · exact other (x := '\r') (by decide) splits.ne_return
    · exact other (x := '\n') (by decide) splits.ne_feed

end StandIn

end FormLetter.Csv

namespace FormLetter.Table

open Csv

variable {text : List Char} {options : TableOptions}

theorem exists_text_of_mem_records {separator standIn : Char} (splits : Splits separator)
    (chosen : StandIn.choose? separator text = some standIn) {row : List Bytes} {field : Bytes}
    (found : row ∈ Reader.records (readerDialect standIn) (readerInput separator standIn text))
    (member : field ∈ row) : ∃ value, field = Text.Utf8.encode value := by
  have fits := StandIn.fits_of_choose? splits chosen
  have distinct := StandIn.readerDialect_distinct fits.splits fits.ascii
  -- The fields of the bytes are the fields of the characters, spelled.
  rw [StandIn.readerInput_eq fits, Reader.records_spelled splits.distinct distinct
    fun c inside => StandIn.spells fits (mem_of_mem_body inside)] at found
  obtain ⟨values, -, rfl⟩ := List.mem_map.mp found
  obtain ⟨value, -, rfl⟩ := List.mem_map.mp member
  exact ⟨_, StandIn.flatMap_spelling separator standIn value⟩

/-! ### Each reason -/

theorem load_of_malformed {m : Quoting.Malformed}
    (broken : Quoting.check options.separator text = .error m) :
    load text options = .error (.malformed m) := by
  rw [load, broken]

theorem load_of_exhausted (accepted : Quoting.check options.separator text = .ok ())
    (exhausted : Exhausted options.separator text) :
    load text options = .error (.separatorUnavailable options.separator) := by
  have none := (StandIn.choose?_eq_none_iff_exhausted _ _).mpr exhausted
  rw [load, accepted, rows, none]
  rfl

/-- With quotes in order and something to split on, the records are those that a reader of characters
finds. -/
theorem load_of_available (splits : Splits options.separator)
    (accepted : Quoting.check options.separator text = .ok ())
    (available : ¬ Exhausted options.separator text) :
    load text options =
      ofRows options ((charRows options.separator text).map (·.map String.ofList)) := by
  have found := mt (StandIn.choose?_eq_none_iff_exhausted _ _).mp available
  obtain ⟨standIn, chosen⟩ := Option.ne_none_iff_exists'.mp found
  rw [load, accepted, rows_eq splits chosen]
  rfl

theorem charRows_eq_nil_iff (splits : Splits options.separator) :
    charRows options.separator text = [] ↔ Blank options.separator text :=
  Reader.records_eq_nil_iff splits.distinct (body options.separator text)

theorem load_of_blank (splits : Splits options.separator)
    (accepted : Quoting.check options.separator text = .ok ())
    (available : ¬ Exhausted options.separator text) (blank : Blank options.separator text) :
    load text options = .error .emptySource := by
  rw [load_of_available splits accepted available, (charRows_eq_nil_iff splits).mpr blank]
  rfl

theorem exists_load (splits : Splits options.separator)
    (accepted : Quoting.check options.separator text = .ok ())
    (available : ¬ Exhausted options.separator text) (filled : ¬ Blank options.separator text) :
    ∃ table, load text options = .ok table := by
  obtain ⟨first, rest, found⟩ :=
    List.exists_cons_of_ne_nil (mt (charRows_eq_nil_iff splits).mp filled)
  rw [load_of_available splits accepted available, found]
  exact ⟨_, rfl⟩

/-- The bytes are split between characters, and no field is refused as no text. Loading reports
broken quotes exactly where there are some, else a separator that cannot be used exactly if nothing
can stand in for it, else an empty text exactly if there are only line breaks in it, and gives a
table otherwise. -/
theorem load_outcome (splits : Splits options.separator) :
    (∀ standIn, StandIn.choose? options.separator text = some standIn →
      ∀ row ∈ Reader.records (readerDialect standIn)
          (readerInput options.separator standIn text),
        ∀ field ∈ row, ∃ value, field = Text.Utf8.encode value) ∧
    load text options ≠ .error .unreadable ∧
    (∀ m, load text options = .error (.malformed m) ↔
      Quoting.check options.separator text = .error m) ∧
    (∀ c, load text options = .error (.separatorUnavailable c) ↔
      Quoting.check options.separator text = .ok () ∧ Exhausted options.separator text ∧
        options.separator = c) ∧
    (load text options = .error .emptySource ↔
      Quoting.check options.separator text = .ok () ∧ ¬ Exhausted options.separator text ∧
        Blank options.separator text) ∧
    ((∃ table, load text options = .ok table) ↔
      Quoting.check options.separator text = .ok () ∧ ¬ Exhausted options.separator text ∧
        ¬ Blank options.separator text) := by
  constructor
  · intro standIn chosen row found field member
    exact exists_text_of_mem_records splits chosen found member
  -- The reasons exclude each other in the order in which they are looked at.
  cases accepted : Quoting.check options.separator text with
  | error m =>
    rw [load_of_malformed accepted]
    simp
  | ok =>
    by_cases exhausted : Exhausted options.separator text
    · rw [load_of_exhausted accepted exhausted]
      simp [exhausted]
    by_cases blank : Blank options.separator text
    · rw [load_of_blank splits accepted exhausted blank]
      simp [exhausted, blank]
    · obtain ⟨table, loaded⟩ := exists_load splits accepted exhausted blank
      rw [loaded]
      simp [exhausted, blank]

/-- A mark and line breaks, with a separator outside ASCII. -/
theorem load_outcome_line_breaks :
    Splits '§' ∧ load "\uFEFF\r\n\n".toList ⟨'§', true, "n"⟩ = .error .emptySource := by
  have splits : Splits '§' := ⟨by decide, by decide, by decide⟩
  have blank : Blank '§' "\uFEFF\r\n\n".toList := by
    intro c member
    have lines : body '§' "\uFEFF\r\n\n".toList = ['\r', '\n', '\n'] := by decide
    rw [lines] at member
    simpa using member
  have available : ¬ Exhausted '§' "\uFEFF\r\n\n".toList := by
    rintro ⟨-, all⟩
    have used := all 0x7A (by decide) (by decide) (by decide) (by decide) (by decide)
    exact absurd used (by decide)
  obtain ⟨-, -, -, -, empty, -⟩ :=
    @load_outcome "\uFEFF\r\n\n".toList ⟨'§', true, "n"⟩ splits
  exact ⟨splits, empty.mpr ⟨rfl, available, blank⟩⟩

end FormLetter.Table
