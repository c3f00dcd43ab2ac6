import FormLetter.Proofs.Text.Utf8
import Mathlib.Data.List.Basic

/-!
The strict reader takes the bytes of a text and no others: what it reads, written again, is what it
was given. Inside a character the bytes seen so far and any that may still come are together the
bytes of the character that is being read.
-/
namespace FormLetter.Text.Utf8

/-- Continuations that a state may be followed by, as the six bits that each of them holds. -/
structure Continues (s : Owing) (ms : List Nat) : Prop where
  length : ms.length = s.owed
  small : ∀ m ∈ ms, m < 64
  first : ∀ m, ms.head? = some m → s.low.toNat ≤ m + 0x80 ∧ m + 0x80 ≤ s.high.toNat

/-- The bytes seen lead to a state: with every continuation they are the bytes of the character
that is read. -/
structure Leads (s : Owing) (seen : List UInt8) : Prop where
  owes : 1 ≤ s.owed
  low : 0x80 ≤ s.low.toNat
  high : s.high.toNat ≤ 0xBF
  whole : ∀ ms, Continues s ms →
    String.utf8EncodeChar (Char.ofNat (ms.foldl (fun bits m => bits * 64 + m) s.bits)) =
      seen ++ ms.map fun m => UInt8.ofNat (m + 0x80)

/-! ### Bytes of several -/

theorem encodeChar_two {k m : Nat} (above : 2 ≤ k) (below : k < 32) (small : m < 64) :
    String.utf8EncodeChar (Char.ofNat (k * 64 + m)) =
      [UInt8.ofNat (k + 0xC0), UInt8.ofNat (m + 0x80)] := by
  have code := toNat_ofNat_of_valid (show k * 64 + m < 0xD800 ∨ _ by omega)
  have first : (k * 64 + m) / 64 % 32 = k := by omega
  have second : (k * 64 + m) % 64 = m := by omega
  simp only [String.utf8EncodeChar, show ∀ c : Char, c.val.toNat = c.toNat from fun _ => rfl, code]
  rw [if_neg (by omega), if_pos (by omega), first, second]

theorem encodeChar_three {k l m : Nat} (above : 0x800 ≤ (k * 64 + l) * 64 + m) (below : k < 16)
    (valid : (k * 64 + l) * 64 + m < 0xD800 ∨ 0xDFFF < (k * 64 + l) * 64 + m)
    (smallL : l < 64) (smallM : m < 64) :
    String.utf8EncodeChar (Char.ofNat ((k * 64 + l) * 64 + m)) =
      [UInt8.ofNat (k + 0xE0), UInt8.ofNat (l + 0x80), UInt8.ofNat (m + 0x80)] := by
  have code := @toNat_ofNat_of_valid ((k * 64 + l) * 64 + m) (by omega)
  have first : ((k * 64 + l) * 64 + m) / 4096 % 16 = k := by omega
  have second : ((k * 64 + l) * 64 + m) / 64 % 64 = l := by omega
  have third : ((k * 64 + l) * 64 + m) % 64 = m := by omega
  simp only [String.utf8EncodeChar, show ∀ c : Char, c.val.toNat = c.toNat from fun _ => rfl, code]
  rw [if_neg (by omega), if_neg (by omega), if_pos (by omega), first, second, third]

theorem encodeChar_four {k j l m : Nat} (above : 0x10000 ≤ ((k * 64 + j) * 64 + l) * 64 + m)
    (below : ((k * 64 + j) * 64 + l) * 64 + m < 0x110000)
    (smallJ : j < 64) (smallL : l < 64) (smallM : m < 64) :
    String.utf8EncodeChar (Char.ofNat (((k * 64 + j) * 64 + l) * 64 + m)) =
      [UInt8.ofNat (k + 0xF0), UInt8.ofNat (j + 0x80), UInt8.ofNat (l + 0x80),
        UInt8.ofNat (m + 0x80)] := by
  have code := @toNat_ofNat_of_valid (((k * 64 + j) * 64 + l) * 64 + m) (by omega)
  have first : (((k * 64 + j) * 64 + l) * 64 + m) / 262144 % 8 = k := by omega
  have second : (((k * 64 + j) * 64 + l) * 64 + m) / 4096 % 64 = j := by omega
  have third : (((k * 64 + j) * 64 + l) * 64 + m) / 64 % 64 = l := by omega
  have fourth : (((k * 64 + j) * 64 + l) * 64 + m) % 64 = m := by omega
  simp only [String.utf8EncodeChar, show ∀ c : Char, c.val.toNat = c.toNat from fun _ => rfl, code]
  rw [if_neg (by omega), if_neg (by omega), if_neg (by omega), first, second, third, fourth]

/-! ### States -/

theorem leads_two {k : Nat} (above : 2 ≤ k) (below : k < 32) :
    Leads ⟨1, 0x80, 0xBF, k, 1⟩ [UInt8.ofNat (k + 0xC0)] := by
  refine ⟨Nat.le_refl 1, Nat.le_refl 0x80, Nat.le_refl 0xBF, fun ms continues => ?_⟩
  obtain ⟨m, rfl⟩ := List.length_eq_one_iff.mp continues.length
  exact encodeChar_two above below (continues.small m (by simp))

theorem leads_three {k : Nat} {low high : UInt8} (below : k < 16) (atLeast : 0x80 ≤ low.toNat)
    (atMost : high.toNat ≤ 0xBF)
    (valid : ∀ l, low.toNat ≤ l + 0x80 → l + 0x80 ≤ high.toNat →
      0x20 ≤ k * 64 + l ∧ (k * 64 + l < 0x360 ∨ 0x37F < k * 64 + l)) :
    Leads ⟨2, low, high, k, 1⟩ [UInt8.ofNat (k + 0xE0)] := by
  refine ⟨by simp, atLeast, atMost, fun ms continues => ?_⟩
  obtain ⟨l, m, rfl⟩ := List.length_eq_two.mp continues.length
  obtain ⟨reached, bounded⟩ := continues.first l rfl
  obtain ⟨long, outside⟩ := valid l reached bounded
  have small := continues.small m (by simp)
  exact @encodeChar_three k l m (by omega) below (by omega) (continues.small l (by simp)) small

theorem leads_four {k : Nat} {low high : UInt8} (atLeast : 0x80 ≤ low.toNat)
    (atMost : high.toNat ≤ 0xBF)
    (valid : ∀ j, low.toNat ≤ j + 0x80 → j + 0x80 ≤ high.toNat →
      0x10 ≤ k * 64 + j ∧ k * 64 + j < 0x110) :
    Leads ⟨3, low, high, k, 1⟩ [UInt8.ofNat (k + 0xF0)] := by
  refine ⟨by simp, atLeast, atMost, fun ms continues => ?_⟩
  obtain ⟨j, l, m, rfl⟩ := List.length_eq_three.mp continues.length
  obtain ⟨reached, bounded⟩ := continues.first j rfl
  obtain ⟨long, inside⟩ := valid j reached bounded
  have smallL := continues.small l (by simp)
  have smallM := continues.small m (by simp)
  exact @encodeChar_four k j l m (by omega) (by omega) (continues.small j (by simp)) smallL smallM

/-- A byte as the bits that it adds to the lowest byte of its kind. -/
theorem ofNat_sub_add {b : UInt8} {lowest : Nat} (above : lowest ≤ b.toNat) :
    UInt8.ofNat (b.toNat - lowest + lowest) = b := by
  rw [Nat.sub_add_cancel above, UInt8.ofNat_toNat]

/-- Every state that a lead byte opens is reached by that byte. -/
theorem leads_of_lead {b : UInt8} {s : Owing} (opens : lead b = .opens s) : Leads s [b] := by
  unfold lead at opens
  simp only [UInt8.le_iff_toNat_le, UInt8.lt_iff_toNat_lt, UInt8.reduceToNat] at opens
  split at opens
  · cases opens
  split at opens
  · cases opens
  split at opens
  · cases opens
    have led := @leads_two (b.toNat - 0xC0) (by omega) (by omega)
    rwa [ofNat_sub_add (by omega)] at led
  split at opens
  next same =>
    cases opens
    rw [same]
    exact @leads_three 0 _ _ (by omega) (by simp) (by simp) (by simp; omega)
  split at opens
  next same =>
    cases opens
    rw [same]
    exact @leads_three 0xD _ _ (by omega) (by simp) (by simp) (by simp; omega)
  split at opens
  next noE0 noED _ =>
    cases opens
    have other : b.toNat ≠ 0xE0 ∧ b.toNat ≠ 0xED :=
      ⟨fun same => noE0 (UInt8.toNat_inj.mp same), fun same => noED (UInt8.toNat_inj.mp same)⟩
    have led := @leads_three (b.toNat - 0xE0) 0x80 0xBF (by omega) (by simp) (by simp)
      (by simp; omega)
    rwa [ofNat_sub_add (by omega)] at led
  split at opens
  next same =>
    cases opens
    rw [same]
    exact @leads_four 0 _ _ (by simp) (by simp) (by simp; omega)
  split at opens
  next noF0 _ =>
    cases opens
    have other : b.toNat ≠ 0xF0 := fun same => noF0 (UInt8.toNat_inj.mp same)
    have led := @leads_four (b.toNat - 0xF0) 0x80 0xBF (by simp) (by simp) (by simp; omega)
    rwa [ofNat_sub_add (by omega)] at led
  split at opens
  next same =>
    cases opens
    rw [same]
    exact @leads_four 4 _ _ (by simp) (by simp) (by simp; omega)
  · cases opens

theorem Leads.continues {s : Owing} {seen : List UInt8} (leads : Leads s seen) {b : UInt8}
    (inside : s.low ≤ b ∧ b ≤ s.high) {ms : List Nat} (length : ms.length + 1 = s.owed)
    (small : ∀ m ∈ ms, m < 64) : Continues s ((b.toNat - 0x80) :: ms) := by
  have low := leads.low
  have high := leads.high
  have reached := UInt8.le_iff_toNat_le.mp inside.1
  have bounded := UInt8.le_iff_toNat_le.mp inside.2
  constructor
  · rw [List.length_cons, length]
  · intro m member
    cases List.mem_cons.mp member with
    | inl same => omega
    | inr later => exact small m later
  · intro m found
    have same := Option.some.inj found
    omega

/-- One more byte in range either is the last of the character read or leads on. -/
theorem Leads.step {s : Owing} {seen : List UInt8} (leads : Leads s seen) {b : UInt8}
    (inside : s.low ≤ b ∧ b ≤ s.high) :
    (∃ c, Utf8.step (some s) b = ([.char c], none) ∧ String.utf8EncodeChar c = seen ++ [b]) ∨
    ∃ next, Utf8.step (some s) b = ([], some next) ∧ Leads next (seen ++ [b]) := by
  have owes := leads.owes
  have apart : UInt8.ofNat (b.toNat - 0x80 + 0x80) = b :=
    ofNat_sub_add (Nat.le_trans leads.low (UInt8.le_iff_toNat_le.mp inside.1))
  rw [Utf8.step, if_pos inside]
  by_cases last : s.owed ≤ 1
  · refine .inl ⟨Char.ofNat (s.bits * 64 + (b.toNat - 0x80)), by simp only [if_pos last], ?_⟩
    have one : ([] : List Nat).length + 1 = s.owed := Nat.le_antisymm owes last
    have whole := leads.whole _ (leads.continues inside one (by simp))
    rwa [List.map_singleton, apart] at whole
  · have owing : 1 ≤ s.owed - 1 := by omega
    -- What continues the next state continues this one with the byte in front.
    refine .inr ⟨⟨s.owed - 1, 0x80, 0xBF, s.bits * 64 + (b.toNat - 0x80), s.seen + 1⟩,
      by simp only [if_neg last], ⟨owing, Nat.le_refl 0x80, Nat.le_refl 0xBF, ?_⟩⟩
    intro ms more
    have length : ms.length = s.owed - 1 := more.length
    have whole := leads.whole _ (leads.continues inside (by omega) more.small)
    rw [List.map_cons, apart, List.foldl_cons] at whole
    rw [List.append_assoc]
    exact whole

/-! ### Texts -/

theorem encodeChar_of_ascii {b : UInt8} (ascii : lead b = .ascii) :
    String.utf8EncodeChar (Char.ofNat b.toNat) = [b] := by
  have below : b ≤ 0x7F := by
    by_contra above
    rw [lead, if_neg above] at ascii
    repeat' split at ascii
    all_goals cases ascii
  have small : b.toNat < 0x80 := Nat.lt_succ_of_le (UInt8.le_iff_toNat_le.mp below)
  have code := toNat_ofNat_of_valid (show b.toNat < 0xD800 ∨ _ by omega)
  rw [encodeChar_ascii (by rwa [code]), code, UInt8.ofNat_toNat]

theorem exists_of_cons_eq_map {c : Char} {rest : List Piece} {cs : List Char}
    (same : .char c :: rest = cs.map .char) : ∃ ds, cs = c :: ds ∧ rest = ds.map .char := by
  cases cs with
  | nil => cases same
  | cons d ds =>
    obtain ⟨first, later⟩ := List.cons.inj same
    exact ⟨ds, by rw [Piece.char.inj first], later⟩

/-- Bytes that are all read as characters are the bytes of these characters. -/
theorem encode_of_piecesFrom (bytes : List UInt8) :
    (∀ cs, piecesFrom none bytes = cs.map .char → encode cs = bytes) ∧
    ∀ s seen cs, Leads s seen → piecesFrom (some s) bytes = cs.map .char →
      encode cs = seen ++ bytes := by
  -- Between characters and within one the reader takes turns, so both go through one induction.
  induction bytes with
  | nil =>
    refine ⟨fun cs read => ?_, fun s seen cs _ read => ?_⟩
    · rw [List.map_eq_nil_iff.mp read.symm, encode_nil]
    · cases cs <;> cases read
  | cons b rest ih =>
    obtain ⟨between, within⟩ := ih
    constructor
    · intro cs read
      cases first : lead b with
      | ascii =>
        simp only [piecesFrom, step, start, first, List.singleton_append] at read
        obtain ⟨ds, rfl, later⟩ := exists_of_cons_eq_map read
        rw [encode_cons, encodeChar_of_ascii first, between ds later, List.singleton_append]
      | opens s =>
        simp only [piecesFrom, step, start, first, List.nil_append] at read
        rw [within s [b] cs (leads_of_lead first) read, List.singleton_append]
      | invalid =>
        simp only [piecesFrom, step, start, first, List.singleton_append] at read
        cases cs <;> cases read
    · intro s seen cs leads read
      by_cases inside : s.low ≤ b ∧ b ≤ s.high
      · obtain ⟨c, moved, bytes⟩ | ⟨next, moved, led⟩ := leads.step inside
        · simp only [piecesFrom, moved, List.singleton_append] at read
          obtain ⟨ds, rfl, later⟩ := exists_of_cons_eq_map read
          rw [encode_cons, bytes, between ds later, List.append_assoc, List.singleton_append]
        · simp only [piecesFrom, moved, List.nil_append] at read
          rw [within next _ cs led read, List.append_assoc, List.singleton_append]
      · simp only [piecesFrom, step, if_neg inside, List.cons_append] at read
        cases cs <;> cases read

theorem pieces_eq_of_decode? {bytes : List UInt8} {cs : List Char}
    (read : decode? bytes = some cs) : pieces bytes = cs.map .char := by
  unfold decode? at read
  generalize pieces bytes = found at *
  induction found generalizing cs with
  | nil =>
    cases read
    rfl
  | cons piece rest ih =>
    cases piece with
    | char c =>
      simp only [List.mapM_cons, Piece.char?, Option.bind_eq_bind, Option.bind_some,
        Option.pure_def, Option.bind_eq_some_iff, Option.some.injEq] at read
      obtain ⟨ds, later, rfl⟩ := read
      rw [ih later, List.map_cons]
    | malformed n => simp [Piece.char?] at read
    | cut n => simp [Piece.char?] at read

/-- Bytes are read strictly exactly if they are the bytes of a text, and then as that text. -/
theorem decode?_eq_some_iff {bytes : List UInt8} {cs : List Char} :
    decode? bytes = some cs ↔ encode cs = bytes := by
  constructor
  · intro read
    exact (encode_of_piecesFrom bytes).1 cs (pieces_eq_of_decode? read)
  · rintro rfl
    exact decode?_encode cs

end FormLetter.Text.Utf8
