import FormLetter.Proofs.Text.Strict
import FormLetter.Proofs.Text.Utf16

/-!
Every way of writing a text as bytes is undone by reading it: with a mark in one of three encodings,
without one in UTF-8, or in the single-byte code page where the bytes can be nothing else.
-/
namespace FormLetter.Text

namespace Western

/-- The code points of the bytes from 0x80 on, in order. -/
def upper : List Nat :=
  upperControls ++ (List.range 0x60).map (0xA0 + ·)

/-- The byte of a character of the code page: ASCII is its own byte, and every other character is
looked up by its code point. -/
def encodeChar? (c : Char) : Option UInt8 :=
  if c.toNat < 0x80 then some (UInt8.ofNat c.toNat)
  else (upper.idxOf? c.toNat).map fun pointer => UInt8.ofNat (0x80 + pointer)

/-- The bytes of a text, if all its characters are on the code page. -/
def encode? (cs : List Char) : Option Bytes :=
  cs.mapM encodeChar?

-- There are few enough bytes to look at them one by one.

private theorem encodeChar?_decodeByte_ofNat : ∀ n : Fin 256,
    encodeChar? (decodeByte (UInt8.ofNat n.val)) = some (UInt8.ofNat n.val) := by
  decide +kernel

private theorem toNat_decodeByte_upper : ∀ i : Fin 128,
    (decodeByte (UInt8.ofNat (0x80 + i.val))).toNat = upper.getD i.val 0 := by
  decide +kernel

theorem encodeChar?_decodeByte (b : UInt8) : encodeChar? (decodeByte b) = some b := by
  have found := encodeChar?_decodeByte_ofNat ⟨b.toNat, b.toNat_lt⟩
  rwa [UInt8.ofNat_toNat] at found

theorem decodeByte_of_encodeChar? {c : Char} {b : UInt8} (spelled : encodeChar? c = some b) :
    decodeByte b = c := by
  unfold encodeChar? at spelled
  split at spelled
  next ascii =>
    have code := Utf8.toNat_ofNat_of_lt (show c.toNat < 256 by omega)
    have below : ¬ (0x80 ≤ UInt8.ofNat c.toNat ∧ UInt8.ofNat c.toNat ≤ 0x9F) := by
      simp only [UInt8.le_iff_toNat_le, code, UInt8.reduceToNat]
      omega
    rw [← Option.some.inj spelled, decodeByte, if_neg below, code, Char.ofNat_toNat]
  next =>
    obtain ⟨pointer, found, rfl⟩ := Option.map_eq_some_iff.mp spelled
    obtain ⟨inside, same, -⟩ := List.idxOf?_eq_some_iff.mp found
    have bound : upper.length = 128 := rfl
    have code := toNat_decodeByte_upper ⟨pointer, bound ▸ inside⟩
    rw [List.getD_eq_getElem?_getD, List.getElem?_eq_getElem inside, Option.getD_some, same] at code
    exact Char.toNat_inj.mp code

/-- A text is written on the code page exactly as the bytes that are read as the text. -/
theorem encode?_eq_some_iff {cs : List Char} {bytes : Bytes} :
    encode? cs = some bytes ↔ decode bytes = cs := by
  constructor
  · intro spelled
    induction cs generalizing bytes with
    | nil =>
      cases spelled
      rfl
    | cons c cs ih =>
      simp only [encode?, List.mapM_cons, Option.bind_eq_bind, Option.pure_def,
        Option.bind_eq_some_iff, Option.some.injEq] at spelled
      obtain ⟨b, first, rest, later, rfl⟩ := spelled
      rw [decode, List.map_cons, decodeByte_of_encodeChar? first]
      exact congrArg _ (ih later)
  · rintro rfl
    rw [encode?, decode, List.mapM_map]
    simp only [Function.comp_def, encodeChar?_decodeByte]
    refine List.mapM_pure.trans ?_
    rw [List.map_id']
    rfl

end Western

/-! ### Marks -/

/-- The character whose bytes mark a text as UTF-8. -/
def byteOrderMark : Char := '\uFEFF'

/-- The marks that select an encoding. -/
def marks : List Bytes :=
  [[0xEF, 0xBB, 0xBF], [0xFF, 0xFE], [0xFE, 0xFF]]

/-- No mark stands at the start. -/
def Unmarked (bytes : Bytes) : Prop :=
  ∀ m ∈ marks, ¬ m <+: bytes

instance (bytes : Bytes) : Decidable (Unmarked bytes) :=
  inferInstanceAs (Decidable (∀ m ∈ marks, ¬ m <+: bytes))

/-- Without a mark bytes are UTF-8 if they can be, and on the code page otherwise. -/
theorem decode_of_unmarked {bytes : Bytes} (unmarked : Unmarked bytes) :
    decode bytes =
      match Utf8.decode? bytes with
      | some cs => ⟨cs, .utf8⟩
      | none => ⟨Western.decode bytes, .windows1252⟩ := by
  unfold decode
  split
  next rest => exact absurd ⟨rest, rfl⟩ (unmarked [0xEF, 0xBB, 0xBF] (by simp [marks]))
  next rest => exact absurd ⟨rest, rfl⟩ (unmarked [0xFF, 0xFE] (by simp [marks]))
  next rest => exact absurd ⟨rest, rfl⟩ (unmarked [0xFE, 0xFF] (by simp [marks]))
  next => rfl

/-- The bytes of a text have no mark but that of its own first character. -/
theorem unmarked_encode {cs : List Char} (other : cs.head? ≠ some byteOrderMark) :
    Unmarked (Utf8.encode cs) := by
  rintro m member ⟨rest, same⟩
  have read := Utf8.pieces_encode cs
  rw [← same] at read
  simp only [marks, List.mem_cons, List.not_mem_nil, or_false] at member
  rcases member with rfl | rfl | rfl
  · have first : Utf8.pieces ([0xEF, 0xBB, 0xBF] ++ rest) =
        .char byteOrderMark :: Utf8.pieces rest := rfl
    obtain ⟨ds, rfl, -⟩ := Utf8.exists_of_cons_eq_map (first ▸ read)
    exact other rfl
  -- The other two marks start with a byte that starts no character.
  · have first : Utf8.pieces ([0xFF, 0xFE] ++ rest) =
        .malformed 1 :: Utf8.pieces (0xFE :: rest) := rfl
    rw [first] at read
    cases cs <;> cases read
  · have first : Utf8.pieces ([0xFE, 0xFF] ++ rest) =
        .malformed 1 :: Utf8.pieces (0xFF :: rest) := rfl
    rw [first] at read
    cases cs <;> cases read

/-! ### Ways of writing a text -/

/-- The bytes that a text may be written as, each with the encoding. -/
inductive Encodes (t : String) : Encoding → Bytes → Prop
  /-- UTF-8 without a mark, which a leading mark of the text itself would be taken for. -/
  | utf8 (other : t.toList.head? ≠ some byteOrderMark) : Encodes t .utf8 (bytesOf t)
  | markedUtf8 : Encodes t .utf8 ([0xEF, 0xBB, 0xBF] ++ bytesOf t)
  | utf16le : Encodes t .utf16le ([0xFF, 0xFE] ++ Utf16.encodeLittle t.toList)
  | utf16be : Encodes t .utf16be ([0xFE, 0xFF] ++ Utf16.encodeBig t.toList)
  /-- The code page, where the bytes have no mark and are those of no text in UTF-8. -/
  | windows1252 {bytes : Bytes} (spelled : Western.encode? t.toList = some bytes)
      (unmarked : Unmarked bytes) (invalid : ∀ s, bytesOf s ≠ bytes) :
      Encodes t .windows1252 bytes

theorem decodeLenient_encode (cs : List Char) : Utf8.decodeLenient (Utf8.encode cs) = cs := by
  rw [Utf8.decodeLenient, Utf8.pieces_encode, List.map_map]
  exact List.map_id cs

/-- However a text is written, it is read back, and its encoding is found out. -/
theorem Encodes.decode_eq {t : String} {encoding : Encoding} {bytes : Bytes}
    (encodes : Encodes t encoding bytes) : decode bytes = ⟨t.toList, encoding⟩ := by
  cases encodes with
  | utf8 other =>
    rw [bytesOf, decode_of_unmarked (unmarked_encode other), Utf8.decode?_encode]
  | markedUtf8 => exact congrArg (Decoded.mk · .utf8) (decodeLenient_encode t.toList)
  | utf16le => exact congrArg (Decoded.mk · .utf16le) (Utf16.decode_encodeLittle t.toList)
  | utf16be => exact congrArg (Decoded.mk · .utf16be) (Utf16.decode_encodeBig t.toList)
  | windows1252 spelled unmarked invalid =>
    have refused : Utf8.decode? bytes = none := by
      cases read : Utf8.decode? bytes with
      | none => rfl
      | some cs =>
        have same := Utf8.decode?_eq_some_iff.mp read
        exact absurd (by rwa [bytesOf, String.toList_ofList]) (invalid (String.ofList cs))
    rw [decode_of_unmarked unmarked, refused, Western.encode?_eq_some_iff.mp spelled]

theorem Encodes.decodeText_eq {t : String} {encoding : Encoding} {bytes : Bytes}
    (encodes : Encodes t encoding bytes) : decodeText bytes = t := by
  rw [decodeText, encodes.decode_eq, String.ofList_toList]

end FormLetter.Text
