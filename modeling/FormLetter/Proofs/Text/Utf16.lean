import FormLetter.Proofs.Text.Utf8
import FormLetter.Text.Decoding

/-!
The sixteen-bit units of a text are read back as that text, whichever byte of a unit stands first.
A character is one unit, which is then no surrogate, or a high surrogate and a low one.
-/
namespace FormLetter.Text.Utf16

/-! ### Units and bytes -/

theorem charUnits_lt {c : Char} {u : Nat} (member : u ∈ charUnits c) : u < 0x10000 := by
  have bounds := Utf8.toNat_bounds c
  unfold charUnits at member
  split at member
  next small =>
    rw [List.mem_singleton.mp member]
    exact small
  next =>
    simp only [List.mem_cons, List.not_mem_nil, or_false] at member
    omega

/-- Units whose two bytes are joined again in the order in which they were written. -/
theorem units_flatMap {join : UInt8 → UInt8 → Nat} {first second : Nat → UInt8} {us : List Nat}
    (joined : ∀ u ∈ us, join (first u) (second u) = u) :
    units join (us.flatMap fun u => [first u, second u]) = (us, false) := by
  induction us with
  | nil => rfl
  | cons u us ih =>
    have later := ih fun v member => joined v (List.mem_cons_of_mem _ member)
    simp only [List.flatMap_cons, List.cons_append, List.nil_append, units, later,
      joined u List.mem_cons_self]

theorem bytes_joined {u : Nat} (small : u < 0x10000) :
    (u / 256).toUInt8.toNat * 256 + (u % 256).toUInt8.toNat = u := by
  have high := Utf8.toNat_ofNat_of_lt (show u / 256 < 256 by omega)
  have low := Utf8.toNat_ofNat_of_lt (show u % 256 < 256 by omega)
  simp only [Nat.toUInt8, high, low]
  omega

/-! ### Characters and units -/

/-- The units of a character are read as that character, whatever follows. -/
theorem decodeUnits_charUnits (odd : Bool) (c : Char) (rest : List Nat) :
    decodeUnits odd (charUnits c ++ rest) = c :: decodeUnits odd rest := by
  have bounds := Utf8.toNat_bounds c
  unfold charUnits
  split
  next small =>
    -- No code point is a surrogate, so the unit stands alone.
    have noHigh : isHigh c.toNat = false := by
      simp only [isHigh, Bool.and_eq_false_iff, decide_eq_false_iff_not]
      omega
    have noLow : isLow c.toNat = false := by
      simp only [isLow, Bool.and_eq_false_iff, decide_eq_false_iff_not]
      omega
    cases rest with
    | nil => simp [decodeUnits, noHigh, noLow, Char.ofNat_toNat]
    | cons v rest => simp [decodeUnits, noHigh, noLow, Char.ofNat_toNat]
  next large =>
    have high : isHigh (0xD800 + (c.toNat - 0x10000) / 1024) = true := by
      simp only [isHigh, Bool.and_eq_true, decide_eq_true_eq]
      omega
    have low : isLow (0xDC00 + (c.toNat - 0x10000) % 1024) = true := by
      simp only [isLow, Bool.and_eq_true, decide_eq_true_eq]
      omega
    have whole : join (0xD800 + (c.toNat - 0x10000) / 1024) (0xDC00 + (c.toNat - 0x10000) % 1024) =
        c := by
      have code : 0x10000 + (0xD800 + (c.toNat - 0x10000) / 1024 - 0xD800) * 1024 +
          (0xDC00 + (c.toNat - 0x10000) % 1024 - 0xDC00) = c.toNat := by omega
      rw [join, code, Char.ofNat_toNat]
    simp only [List.cons_append, List.nil_append, decodeUnits, if_pos high, if_pos low, whole]

theorem decodeUnits_flatMap (cs : List Char) : decodeUnits false (cs.flatMap charUnits) = cs := by
  induction cs with
  | nil => rfl
  | cons c cs ih => rw [List.flatMap_cons, decodeUnits_charUnits, ih]

theorem lt_of_mem_units {cs : List Char} {u : Nat} (member : u ∈ cs.flatMap charUnits) :
    u < 0x10000 := by
  obtain ⟨c, -, found⟩ := List.mem_flatMap.mp member
  exact charUnits_lt found

theorem decode_encodeLittle (cs : List Char) : decode littleEndian (encodeLittle cs) = cs := by
  have read := @units_flatMap littleEndian (fun u => (u % 256).toUInt8) (fun u => (u / 256).toUInt8)
    (cs.flatMap charUnits) fun u member => bytes_joined (lt_of_mem_units member)
  rw [decode, encodeLittle, read]
  exact decodeUnits_flatMap cs

theorem decode_encodeBig (cs : List Char) : decode bigEndian (encodeBig cs) = cs := by
  have read := @units_flatMap bigEndian (fun u => (u / 256).toUInt8) (fun u => (u % 256).toUInt8)
    (cs.flatMap charUnits) fun u member => bytes_joined (lt_of_mem_units member)
  rw [decode, encodeBig, read]
  exact decodeUnits_flatMap cs

end FormLetter.Text.Utf16
