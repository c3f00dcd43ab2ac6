import FormLetter.Csv.Table
import FormLetter.Proofs.Csv.Spelling
import FormLetter.Proofs.Text.Utf8

/-!
The rows of a text. The byte reader is fed the bytes of the text without a leading mark, with a
stand-in for a separator outside ASCII; the rows it finds are those that a reader of characters
finds on the text itself, split on the separator itself.
-/
namespace FormLetter.Csv

/-- What no separator may be. -/
structure Splits (separator : Char) : Prop where
  ne_quote : separator ≠ '"'
  ne_return : separator ≠ '\r'
  ne_feed : separator ≠ '\n'

theorem Splits.distinct {separator : Char} (splits : Splits separator) :
    (Dialect.ofChar separator).Distinct :=
  Dialect.ofChar_distinct splits.ne_quote splits.ne_return splits.ne_feed

namespace StandIn

/-- The character that is split on can be told from everything else in the text. -/
structure Fits (separator standIn : Char) (text : List Char) : Prop where
  splits : Splits standIn
  ascii : standIn.toNat < 0x80
  same : isAscii separator → standIn = separator
  free : ¬ isAscii separator → standIn ∉ text

theorem mem_candidates {c : Char} : c ∈ candidates ↔ 0 < c.toNat ∧ c.toNat < 0x80 ∧ Splits c := by
  constructor
  · intro member
    simp only [candidates, List.mem_filter, List.mem_map, List.mem_range, decide_eq_true_eq] at member
    obtain ⟨⟨i, below, rfl⟩, noQuote, noReturn, noFeed⟩ := member
    have code : (Char.ofNat (i + 1)).toNat = i + 1 :=
      Text.Utf8.toNat_ofNat_of_valid (.inl (by omega))
    exact ⟨by omega, by omega, noQuote, noReturn, noFeed⟩
  · rintro ⟨positive, below, noQuote, noReturn, noFeed⟩
    simp only [candidates, List.mem_filter, List.mem_map, List.mem_range, decide_eq_true_eq]
    refine ⟨⟨c.toNat - 1, by omega, ?_⟩, noQuote, noReturn, noFeed⟩
    rw [Nat.sub_add_cancel positive, Char.ofNat_toNat]

theorem fits_of_choose? {separator standIn : Char} {text : List Char} (splits : Splits separator)
    (chosen : choose? separator text = some standIn) : Fits separator standIn text := by
  unfold choose? at chosen
  split at chosen
  next ascii =>
    cases chosen
    exact ⟨splits, by simpa [isAscii] using ascii, fun _ => rfl, fun wide => absurd ascii wide⟩
  next wide =>
    obtain ⟨-, below, ok⟩ := mem_candidates.mp (List.mem_of_find?_eq_some chosen)
    have free := List.find?_some chosen
    exact ⟨ok, below, fun ascii => absurd ascii wide, fun _ => by simpa using free⟩

/-- A stand-in is found unless the text uses every candidate. -/
theorem exists_choose? {separator : Char} {text : List Char}
    (free : ¬ isAscii separator → ∃ c ∈ candidates, c ∉ text) :
    ∃ standIn, choose? separator text = some standIn := by
  unfold choose?
  split
  next => exact ⟨separator, rfl⟩
  next wide =>
    obtain ⟨c, member, absent⟩ := free wide
    apply Option.isSome_iff_exists.mp
    exact List.find?_isSome.mpr ⟨c, member, by simpa using absent⟩

/-- What stands for a character in the prepared text. -/
def image (separator standIn c : Char) : Char :=
  if isAscii separator then c else if c = separator then standIn else c

theorem image_ascii {separator standIn : Char} (ascii : isAscii separator) :
    image separator standIn = id := by
  funext c
  simp [image, ascii]

theorem image_wide {separator standIn : Char} (wide : ¬ isAscii separator) :
    image separator standIn = fun c => if c = separator then standIn else c := by
  funext c
  simp [image, wide]

theorem prepare_eq (separator standIn : Char) (text : List Char) :
    prepare separator standIn text = text.map (image separator standIn) := by
  unfold prepare
  split
  next ascii => rw [image_ascii ascii, List.map_id]
  next wide => rw [image_wide wide, exchange]

theorem restore_image {separator standIn : Char} {text value : List Char}
    (fits : Fits separator standIn text) (part : ∀ c ∈ value, c ∈ text) :
    restore separator standIn (value.map (image separator standIn)) = value := by
  unfold restore
  split
  next ascii => rw [image_ascii ascii, List.map_id]
  next wide =>
    -- The stand-in is none of the characters that were there before.
    have back : ∀ c ∈ value, (if image separator standIn c = standIn then separator
        else image separator standIn c) = c := by
      intro c member
      have other : c ≠ standIn := fun same => fits.free wide (same ▸ part c member)
      simp only [image_wide wide]
      by_cases same : c = separator
      · simp [same]
      · simp [same, other]
    rw [exchange, List.map_map]
    exact (List.map_congr_left back).trans (List.map_id' value)

/-- The bytes of a character as the reader gets them. -/
def spelling (separator standIn c : Char) : Bytes :=
  String.utf8EncodeChar (image separator standIn c)

theorem flatMap_spelling (separator standIn : Char) (text : List Char) :
    text.flatMap (spelling separator standIn) =
      Text.Utf8.encode (text.map (image separator standIn)) := by
  rw [Text.Utf8.encode, List.flatMap_map]
  rfl

/-- The stand-in, quotes and line breaks keep their meaning as bytes, and no other character
gets one. -/
theorem spells {separator standIn : Char} {text : List Char}
    (fits : Fits separator standIn text) {c : Char} (member : c ∈ text) :
    Spells (Dialect.ofChar separator) (Table.readerDialect standIn) c
      (spelling separator standIn c) := by
  have unmoved (other : c ≠ separator) : image separator standIn c = c := by
    simp [image, other]
  have single {x : Char} (ascii : x.toNat < 0x80) (same : image separator standIn c = x) :
      spelling separator standIn c = [UInt8.ofNat x.toNat] := by
    rw [spelling, same, Text.Utf8.encodeChar_ascii ascii]
  by_cases isSeparator : c = separator
  · have moved : image separator standIn c = standIn := by
      by_cases ascii : isAscii separator
      · rw [image_ascii ascii, fits.same ascii]
        exact isSeparator
      · simp only [image_wide ascii, if_pos isSeparator]
    rw [single fits.ascii moved, isSeparator]
    exact .separator
  have same := unmoved isSeparator
  by_cases isQuote : c = '"'
  · rw [single (x := '"') (by decide) (by rw [same, isQuote]), isQuote]
    exact .quote
  by_cases isReturn : c = '\r'
  · rw [single (x := '\r') (by decide) (by rw [same, isReturn]), isReturn]
    exact .carriageReturn
  by_cases isFeed : c = '\n'
  · rw [single (x := '\n') (by decide) (by rw [same, isFeed]), isFeed]
    exact .lineFeed
  -- A character that is none of these is no stand-in either, since the text is free of it.
  have other : c ≠ standIn := by
    by_cases ascii : isAscii separator
    · rw [fits.same ascii]
      exact isSeparator
    · rintro rfl
      exact fits.free ascii member
  -- The bytes with a meaning are ASCII, so they are not met inside another character.
  have plain : ∀ b ∈ String.utf8EncodeChar c, (Table.readerDialect standIn).Plain b := fun b hb =>
    ⟨Text.Utf8.ne_of_mem_encodeChar fits.ascii other hb,
      Text.Utf8.ne_of_mem_encodeChar (x := '"') (by decide) isQuote hb,
      Text.Utf8.ne_of_mem_encodeChar (x := '\r') (by decide) isReturn hb,
      Text.Utf8.ne_of_mem_encodeChar (x := '\n') (by decide) isFeed hb⟩
  rw [spelling, same]
  cases bytes : String.utf8EncodeChar c with
  | nil => exact absurd bytes String.utf8EncodeChar_ne_nil
  | cons b bs => exact .plain ⟨isSeparator, isQuote, isReturn, isFeed⟩ (bytes ▸ plain)

end StandIn

/-! ### The mark at the start -/

/-- The byte-order mark. -/
def mark : Char := '\uFEFF'

/-- The text that is split: a leading mark is no part of it, unless it is the separator. -/
def body (separator : Char) : List Char → List Char
  | [] => []
  | c :: rest => if c = mark ∧ separator ≠ mark then rest else c :: rest

theorem mem_of_mem_body {separator c : Char} {text : List Char} (member : c ∈ body separator text) :
    c ∈ text := by
  cases text with
  | nil => exact member
  | cons first rest =>
    simp only [body] at member
    split at member
    · exact List.mem_cons_of_mem _ member
    · exact member

theorem dropMark_encode_mark (rest : List Char) :
    dropMark (Text.Utf8.encode (mark :: rest)) = Text.Utf8.encode rest := by
  have bytes : String.utf8EncodeChar mark = [0xEF, 0xBB, 0xBF] := by decide
  rw [Text.Utf8.encode_cons, bytes]
  rfl

theorem dropMark_encode_of_ne {text : List Char} (other : text.head? ≠ some mark) :
    dropMark (Text.Utf8.encode text) = Text.Utf8.encode text := by
  unfold dropMark
  split
  next rest same =>
    -- The first three bytes decide the first character.
    have first : Text.Utf8.pieces (0xEF :: 0xBB :: 0xBF :: rest) =
        .char mark :: Text.Utf8.pieces rest := rfl
    rw [← same, Text.Utf8.pieces_encode] at first
    cases text with
    | nil => cases first
    | cons c text =>
      simp only [List.map_cons, List.cons.injEq, Text.Utf8.Piece.char.injEq] at first
      exact absurd (congrArg some first.1) other
  next => rfl

namespace StandIn

theorem image_eq_mark_iff {separator standIn c : Char} (ascii : standIn.toNat < 0x80) :
    image separator standIn c = mark ↔ c = mark ∧ separator ≠ mark := by
  have standInNe : standIn ≠ mark := by
    rintro rfl
    exact absurd ascii (by decide)
  by_cases narrow : isAscii separator
  · have separatorNe : separator ≠ mark := by
      rintro rfl
      exact absurd narrow (by decide)
    simp [image_ascii narrow, separatorNe]
  · simp only [image_wide narrow]
    split
    next same => simp [same, standInNe]
    next other =>
      constructor
      · rintro rfl
        exact ⟨rfl, Ne.symm other⟩
      · exact And.left

theorem readerDialect_distinct {standIn : Char} (splits : Splits standIn)
    (ascii : standIn.toNat < 0x80) : (Table.readerDialect standIn).Distinct := by
  have ne {c : Char} (other : c ≠ standIn) {b : UInt8} (byte : b ∈ String.utf8EncodeChar c) :
      b ≠ (Table.readerDialect standIn).separator :=
    Text.Utf8.ne_of_mem_encodeChar ascii other byte
  constructor
  · exact ne splits.ne_quote.symm (List.mem_singleton.mpr rfl)
  · exact ne splits.ne_return.symm (List.mem_singleton.mpr rfl)
  · exact ne splits.ne_feed.symm (List.mem_singleton.mpr rfl)
  all_goals simp [Table.readerDialect, Dialect.ofByte]

/-- The bytes that are split are those of the text without its mark, spelled. -/
theorem readerInput_eq {separator standIn : Char} {text : List Char}
    (fits : Fits separator standIn text) :
    Table.readerInput separator standIn text =
      (body separator text).flatMap (spelling separator standIn) := by
  rw [Table.readerInput, prepare_eq, flatMap_spelling]
  cases text with
  | nil => rfl
  | cons c rest =>
    by_cases marked : c = mark ∧ separator ≠ mark
    · have first := (image_eq_mark_iff fits.ascii).mpr marked
      rw [List.map_cons, first, dropMark_encode_mark, body, if_pos marked]
    · have first := mt (image_eq_mark_iff fits.ascii).mp marked
      rw [dropMark_encode_of_ne (by simpa using first), body, if_neg marked]

/-- Every spelled value is well-formed, and reads as its characters with the stand-in. -/
theorem mapM_decode?_spelled (separator standIn : Char) (rows : List (List (List Char))) :
    (rows.map (·.map (·.flatMap (spelling separator standIn)))).mapM
        (fun row => row.mapM Text.Utf8.decode?) =
      some (rows.map (·.map (·.map (image separator standIn)))) := by
  have value (v : List Char) : Text.Utf8.decode? (v.flatMap (spelling separator standIn)) =
      some (v.map (image separator standIn)) := by
    rw [flatMap_spelling, Text.Utf8.decode?_encode]
  have row (r : List (List Char)) :
      (r.map (·.flatMap (spelling separator standIn))).mapM Text.Utf8.decode? =
        some (r.map (·.map (image separator standIn))) := by
    rw [List.mapM_map]
    simp only [Function.comp_def, value]
    exact List.mapM_pure
  rw [List.mapM_map]
  simp only [Function.comp_def, row]
  exact List.mapM_pure

theorem map_restore_image {separator standIn : Char} {text : List Char}
    (fits : Fits separator standIn text) {rows : List (List (List Char))}
    (part : ∀ row ∈ rows, ∀ v ∈ row, ∀ c ∈ v, c ∈ text) :
    (rows.map (·.map (·.map (image separator standIn)))).map (·.map (restore separator standIn)) =
      rows := by
  rw [List.map_map]
  refine (List.map_congr_left fun row hrow => ?_).trans (List.map_id' rows)
  rw [Function.comp_apply, List.map_map]
  refine (List.map_congr_left fun v hv => ?_).trans (List.map_id' row)
  exact restore_image fits (part row hrow v hv)

end StandIn

end FormLetter.Csv

namespace FormLetter.Table

open Csv

/-- The rows of a text that is split on the given stand-in. -/
def rowsBy (separator standIn : Char) (text : List Char) :
    Except InputError (List (List (List Char))) :=
  let found := Reader.records (readerDialect standIn) (readerInput separator standIn text)
  match found.mapM fun row => row.mapM Text.Utf8.decode? with
  | none => .error .unreadable
  | some found => .ok (found.map fun row => row.map (StandIn.restore separator standIn))

theorem rows_eq_rowsBy {separator standIn : Char} {text : List Char}
    (chosen : StandIn.choose? separator text = some standIn) :
    rows separator text = rowsBy separator standIn text := by
  rw [rows, chosen]
  rfl

/-- Whatever fits as a stand-in, reading the rows of a text is reading its characters. -/
theorem rowsBy_eq {separator standIn : Char} {text : List Char} (splits : Splits separator)
    (fits : StandIn.Fits separator standIn text) :
    rowsBy separator standIn text =
      .ok (Reader.records (.ofChar separator) (body separator text)) := by
  have distinct := StandIn.readerDialect_distinct fits.splits fits.ascii
  -- The bytes spell the characters, so the records are those of the characters, spelled.
  have found := Reader.records_spelled splits.distinct distinct
    fun c (member : c ∈ body separator text) => StandIn.spells fits (mem_of_mem_body member)
  simp only [rowsBy, StandIn.readerInput_eq fits]
  rw [found]
  -- Spelled values are read back, and hold no stand-in that was not a separator.
  have part : ∀ row ∈ Reader.records (Dialect.ofChar separator) (body separator text),
      ∀ v ∈ row, ∀ c ∈ v, c ∈ text := fun row hrow v hv c hc =>
    mem_of_mem_body (Reader.mem_of_mem_records hrow hv hc)
  simp only [StandIn.mapM_decode?_spelled, StandIn.map_restore_image fits part]

/-- Reading the rows of a text is reading its characters. -/
theorem rows_eq {separator standIn : Char} {text : List Char} (splits : Splits separator)
    (chosen : StandIn.choose? separator text = some standIn) :
    rows separator text = .ok (Reader.records (.ofChar separator) (body separator text)) := by
  rw [rows_eq_rowsBy chosen, rowsBy_eq splits (StandIn.fits_of_choose? splits chosen)]

end FormLetter.Table
