import FormLetter.Text.Utf8

/-!
The bytes of a text are read back as that text. A character outside ASCII has no byte below 0x80,
so that a byte reader never takes a piece of it for a separator, a quote or a line break.
-/
namespace FormLetter.Text.Utf8

theorem toNat_ofNat_of_lt {n : Nat} (small : n < 256) : (UInt8.ofNat n).toNat = n := by
  simp [Nat.mod_eq_of_lt small]

theorem encodeChar_ascii {c : Char} (ascii : c.toNat < 0x80) :
    String.utf8EncodeChar c = [UInt8.ofNat c.toNat] := by
  have small : c.val.toNat ≤ 0x7f := Nat.le_of_lt_succ ascii
  simp only [String.utf8EncodeChar, if_pos small]
  rfl

/-- Every byte of a character outside ASCII has its high bit set. -/
theorem le_of_mem_encodeChar {c : Char} {b : UInt8} (wide : 0x80 ≤ c.toNat)
    (member : b ∈ String.utf8EncodeChar c) : 0x80 ≤ b.toNat := by
  have large : ¬ c.val.toNat ≤ 0x7f := Nat.not_le_of_lt wide
  simp only [String.utf8EncodeChar, if_neg large] at member
  -- Two, three or four bytes; each of them is a small number above 0x80 or higher.
  split at member
  · simp only [List.mem_cons, List.not_mem_nil, or_false] at member
    rcases member with rfl | rfl <;> rw [toNat_ofNat_of_lt (by omega)] <;> omega
  · split at member
    · simp only [List.mem_cons, List.not_mem_nil, or_false] at member
      rcases member with rfl | rfl | rfl <;> rw [toNat_ofNat_of_lt (by omega)] <;> omega
    · simp only [List.mem_cons, List.not_mem_nil, or_false] at member
      rcases member with rfl | rfl | rfl | rfl <;> rw [toNat_ofNat_of_lt (by omega)] <;> omega

/-- No other character has the byte of an ASCII character. -/
theorem ne_of_mem_encodeChar {c x : Char} {b : UInt8} (ascii : x.toNat < 0x80) (other : c ≠ x)
    (member : b ∈ String.utf8EncodeChar c) : b ≠ UInt8.ofNat x.toNat := by
  intro same
  have code : b.toNat = x.toNat := by rw [same, toNat_ofNat_of_lt (by omega)]
  -- An ASCII character is its only byte, and any other has no byte so low.
  by_cases narrow : c.toNat < 0x80
  · rw [encodeChar_ascii narrow, List.mem_singleton] at member
    rw [member, toNat_ofNat_of_lt (by omega)] at code
    exact other (Char.toNat_inj.mp code)
  · have high := le_of_mem_encodeChar (by omega) member
    omega

/-! ### Bytes of several -/

-- The lead bytes are few enough to be looked at one by one.

private theorem lead_two : ∀ k : Fin 32, 2 ≤ k.val →
    lead (UInt8.ofNat (k.val + 0xc0)) = .opens ⟨1, 0x80, 0xBF, k.val, 1⟩ := by
  decide

private theorem lead_three : ∀ k : Fin 16, lead (UInt8.ofNat (k.val + 0xe0)) =
    .opens ⟨2, if k.val = 0 then 0xA0 else 0x80, if k.val = 0xD then 0x9F else 0xBF, k.val, 1⟩ := by
  decide

private theorem lead_four : ∀ k : Fin 5, lead (UInt8.ofNat (k.val + 0xf0)) =
    .opens ⟨3, if k.val = 0 then 0x90 else 0x80, if k.val = 4 then 0x8F else 0xBF, k.val, 1⟩ := by
  decide

private theorem step_continue (s : Owing) {m : Nat} (small : m < 64)
    (low : s.low.toNat ≤ m + 0x80) (high : m + 0x80 ≤ s.high.toNat) :
    step (some s) (UInt8.ofNat (m + 0x80)) =
      if s.owed ≤ 1 then ([.char (Char.ofNat (s.bits * 64 + m))], none)
      else ([], some ⟨s.owed - 1, 0x80, 0xBF, s.bits * 64 + m, s.seen + 1⟩) := by
  have same := toNat_ofNat_of_lt (show m + 0x80 < 256 by omega)
  have inside : s.low ≤ UInt8.ofNat (m + 0x80) ∧ UInt8.ofNat (m + 0x80) ≤ s.high := by
    simp only [UInt8.le_iff_toNat_le, same]
    exact ⟨low, high⟩
  simp only [step, if_pos inside, same, Nat.add_sub_cancel]

private theorem piecesFrom_opens {b : UInt8} {s : Owing} (opens : lead b = .opens s)
    (rest : List UInt8) : piecesFrom none (b :: rest) = piecesFrom (some s) rest := by
  simp only [piecesFrom, step, start, opens, List.nil_append]

private theorem piecesFrom_more (s : Owing) {m : Nat} (small : m < 64) (owed : ¬ s.owed ≤ 1)
    (low : s.low.toNat ≤ m + 0x80) (high : m + 0x80 ≤ s.high.toNat) (rest : List UInt8) :
    piecesFrom (some s) (UInt8.ofNat (m + 0x80) :: rest) =
      piecesFrom (some ⟨s.owed - 1, 0x80, 0xBF, s.bits * 64 + m, s.seen + 1⟩) rest := by
  simp only [piecesFrom, step_continue s small low high, if_neg owed, List.nil_append]

private theorem piecesFrom_last (s : Owing) {m : Nat} (small : m < 64) (owed : s.owed ≤ 1)
    (low : s.low.toNat ≤ m + 0x80) (high : m + 0x80 ≤ s.high.toNat) (rest : List UInt8) :
    piecesFrom (some s) (UInt8.ofNat (m + 0x80) :: rest) =
      .char (Char.ofNat (s.bits * 64 + m)) :: piecesFrom none rest := by
  simp only [piecesFrom, step_continue s small low high, if_pos owed, List.singleton_append]

theorem toNat_ofNat_of_valid {n : Nat} (valid : n < 0xD800 ∨ 0xDFFF < n ∧ n < 0x110000) :
    (Char.ofNat n).toNat = n := by
  rw [Char.ofNat, dif_pos valid]
  rfl

/-- A code point is below the surrogates or between them and the end. -/
theorem toNat_bounds (c : Char) :
    c.toNat < 0xD800 ∨ 0xDFFF < c.toNat ∧ c.toNat < 0x110000 :=
  c.valid

/-- The bytes of a character are read as that character, whatever follows. -/
theorem piecesFrom_encodeChar (c : Char) (rest : List UInt8) :
    piecesFrom none (String.utf8EncodeChar c ++ rest) = .char c :: piecesFrom none rest := by
  have whole {n : Nat} (same : n = c.toNat) : Char.ofNat n = c := by
    rw [same, Char.ofNat_toNat]
  have bounds := toNat_bounds c
  -- One case for each length. The bounds on what may follow the lead byte are met because the
  -- number is no surrogate and not beyond the last code point.
  simp only [String.utf8EncodeChar, apply_ite (· ++ rest), List.cons_append, List.nil_append,
    show c.val.toNat = c.toNat from rfl]
  split
  next one =>
    have same := toNat_ofNat_of_lt (show c.toNat < 256 by omega)
    have ascii : lead (UInt8.ofNat c.toNat) = .ascii := by
      have below : UInt8.ofNat c.toNat ≤ 0x7F := by
        rw [UInt8.le_iff_toNat_le, same]
        exact one
      rw [lead, if_pos below]
    simp only [piecesFrom, step, start, ascii, same, Char.ofNat_toNat, List.singleton_append]
  next =>
    split
    next two =>
      rw [piecesFrom_opens (lead_two ⟨c.toNat / 64 % 32, by omega⟩ (by simp only; omega)),
        piecesFrom_last _ (by omega) (by simp) (by simp) (by simp; omega)]
      simp only [whole (show c.toNat / 64 % 32 * 64 + c.toNat % 64 = c.toNat by omega)]
    next =>
      split
      next three =>
        rw [piecesFrom_opens (lead_three ⟨c.toNat / 4096 % 16, by omega⟩),
          piecesFrom_more _ (by omega) (by simp) (by simp only; split <;> simp; omega)
            (by simp only; split <;> simp <;> omega),
          piecesFrom_last _ (by omega) (by simp) (by simp) (by simp; omega)]
        simp only [whole (show (c.toNat / 4096 % 16 * 64 + c.toNat / 64 % 64) * 64 +
          c.toNat % 64 = c.toNat by omega)]
      next =>
        rw [piecesFrom_opens (lead_four ⟨c.toNat / 262144 % 8, by omega⟩),
          piecesFrom_more _ (by omega) (by simp) (by simp only; split <;> simp; omega)
            (by simp only; split <;> simp <;> omega),
          piecesFrom_more _ (by omega) (by simp) (by simp) (by simp; omega),
          piecesFrom_last _ (by omega) (by simp) (by simp) (by simp; omega)]
        simp only [whole (show ((c.toNat / 262144 % 8 * 64 + c.toNat / 4096 % 64) * 64 +
          c.toNat / 64 % 64) * 64 + c.toNat % 64 = c.toNat by omega)]

theorem pieces_encode (cs : List Char) : pieces (encode cs) = cs.map .char := by
  induction cs with
  | nil => rfl
  | cons c cs ih =>
    rw [encode_cons, pieces, piecesFrom_encodeChar, List.map_cons, ← ih, pieces]

theorem mapM_char? (cs : List Char) : (cs.map Piece.char).mapM Piece.char? = some cs := by
  induction cs with
  | nil => rfl
  | cons c cs ih => simp [Piece.char?, ih]

theorem decode?_encode (cs : List Char) : decode? (encode cs) = some cs := by
  rw [decode?, pieces_encode, mapM_char?]

theorem encode_injective {cs ds : List Char} (same : encode cs = encode ds) : cs = ds := by
  have decoded := decode?_encode cs
  rw [same, decode?_encode] at decoded
  exact (Option.some.inj decoded).symm

end FormLetter.Text.Utf8

namespace FormLetter

theorem bytesOf_injective {s t : String} (same : bytesOf s = bytesOf t) : s = t :=
  String.toList_inj.mp (Text.Utf8.encode_injective same)

end FormLetter
