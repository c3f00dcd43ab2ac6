import FormLetter.Proofs.Decimal.Digits
import FormLetter.Proofs.Template.Shown
import Mathlib.Data.List.Induction
import Mathlib.Data.List.TakeWhile
import Mathlib.Data.Nat.Digits.Defs

/-!
The number a text holds between blanks. A whole number is spelled by an optional sign and one or more
ASCII digits, as many as there may be; it is read if its exact value fits signed 64 bits, and every
other text counts as zero.
-/
namespace FormLetter

namespace Text

variable {front core back : List Char}

/-- Blanks around a text that has none at its ends are trimmed, and nothing else. -/
theorem trim_blanks (blankFront : ∀ c ∈ front, isBlank c) (blankBack : ∀ c ∈ back, isBlank c)
    (nonempty : core ≠ []) (first : ∀ c ∈ core.head?, ¬ isBlank c)
    (last : ∀ c ∈ core.getLast?, ¬ isBlank c) : trim (front ++ core ++ back) = core := by
  -- The blanks in front go up to the first character of the core, which is none.
  have start : trimStartOf isBlank (front ++ core ++ back) = core ++ back := by
    obtain ⟨c, rest, rfl⟩ := List.exists_cons_of_ne_nil nonempty
    rw [trimStartOf, List.append_assoc, List.dropWhile_append_of_pos blankFront, List.cons_append,
      List.dropWhile_cons_of_neg (first c rfl)]
  have close : trimEndOf isBlank (core ++ back) = core := by
    have blank : ∀ c ∈ back.reverse, isBlank c := fun c mem => blankBack c (List.mem_reverse.mp mem)
    obtain ⟨rest, c, rfl⟩ := (List.eq_nil_or_concat core).resolve_left nonempty
    have solid : ¬ isBlank c := last c (by simp)
    rw [trimEndOf, List.reverse_append, List.dropWhile_append_of_pos blank]
    simp [solid]
  rw [trim, trimOf, start, close]

theorem exists_trim (cs : List Char) :
    ∃ front back, cs = front ++ trim cs ++ back ∧ (∀ c ∈ front, isBlank c) ∧
      ∀ c ∈ back, isBlank c := by
  have start : cs.takeWhile isBlank ++ trimStartOf isBlank cs = cs := List.takeWhile_append_dropWhile
  have close : trim cs ++ ((trimStartOf isBlank cs).reverse.takeWhile isBlank).reverse =
      trimStartOf isBlank cs := by
    rw [trim, trimOf, trimEndOf, ← List.reverse_append, List.takeWhile_append_dropWhile,
      List.reverse_reverse]
  refine ⟨cs.takeWhile isBlank, ((trimStartOf isBlank cs).reverse.takeWhile isBlank).reverse,
    ?_, ?_, ?_⟩
  · rw [List.append_assoc, close, start]
  · exact fun c mem => List.mem_takeWhile_imp mem
  · exact fun c mem => List.mem_takeWhile_imp (List.mem_reverse.mp mem)

end Text

namespace Decimal

/-- One or more ASCII digits. -/
def IsNumeral (ds : List Char) : Prop := ds ≠ [] ∧ ∀ c ∈ ds, c.isDigit

/-- The number that digits stand for, each of them ten times as much as the one behind it. -/
def exactValue (ds : List Char) : Nat :=
  Nat.ofDigits 10 (ds.reverse.map fun c => c.toNat - '0'.toNat)

/-- A whole number as it may be written; leading zeros are allowed. -/
inductive Spells : List Char → Int → Prop
  | unsigned {ds : List Char} : IsNumeral ds → Spells ds (exactValue ds)
  | plus {ds : List Char} : IsNumeral ds → Spells ('+' :: ds) (exactValue ds)
  | minus {ds : List Char} : IsNumeral ds → Spells ('-' :: ds) (-(exactValue ds : Int))

/-- Between blanks, a text is nothing but a whole number. -/
def Holds (cs : List Char) (n : Int) : Prop :=
  ∃ front core back, cs = front ++ core ++ back ∧ (∀ c ∈ front, Text.isBlank c) ∧
    (∀ c ∈ back, Text.isBlank c) ∧ Spells core n

/-! ### Numerals -/

theorem value_concat (ds : List Char) (d : Char) :
    value (ds ++ [d]) = value ds * 10 + (d.toNat - 48) := by
  rw [value, List.foldl_append]
  rfl

theorem value_eq_exactValue (ds : List Char) : value ds = exactValue ds := by
  induction ds using List.reverseRecOn with
  | nil => rfl
  | append_singleton ds d ih =>
    have place : '0'.toNat = 48 := rfl
    rw [value_concat, ih, exactValue, exactValue, List.reverse_append, List.map_append]
    simp [Nat.ofDigits_cons, place]
    omega

theorem isDigits_iff (ds : List Char) : isDigits ds ↔ IsNumeral ds := by
  simp [isDigits, IsNumeral]

theorem IsNumeral.splitSign_eq {ds : List Char} (numeral : IsNumeral ds) :
    splitSign ds = (1, ds) := by
  unfold splitSign
  split
  next => exact absurd (numeral.2 '-' List.mem_cons_self) (by decide)
  next => exact absurd (numeral.2 '+' List.mem_cons_self) (by decide)
  next => rfl

theorem readInt?_eq_some_iff (cs : List Char) (n : Int) : readInt? cs = some n ↔ Spells cs n := by
  constructor
  · intro found
    rw [readInt?_eq] at found
    split at found <;> cases found
    next digits =>
      rw [value_eq_exactValue]
      have numeral := (isDigits_iff _).mp digits
      unfold splitSign at numeral ⊢
      split at numeral
      next => simpa using Spells.minus numeral
      next => simpa using Spells.plus numeral
      next => simpa using Spells.unsigned numeral
  · intro spells
    have read {sign : Int} {ds : List Char} (split : splitSign cs = (sign, ds))
        (numeral : IsNumeral ds) : readInt? cs = some (sign * exactValue ds) := by
      rw [readInt?_eq, split, if_pos ((isDigits_iff ds).mpr numeral), value_eq_exactValue]
    cases spells with
    | unsigned numeral => simpa using read numeral.splitSign_eq numeral
    | plus numeral => simpa using read rfl numeral
    | minus numeral => simpa using read rfl numeral

/-! ### Between blanks -/

theorem not_isBlank_of_isDigit {c : Char} (digit : c.isDigit) : ¬ Text.isBlank c := by
  have between : 48 ≤ c.toNat ∧ c.toNat ≤ 57 := by
    simpa [Char.isDigit, UInt32.le_iff_toNat_le] using digit
  simp only [Text.isBlank, Bool.or_eq_true, Bool.and_eq_true, decide_eq_true_eq, beq_iff_eq]
  omega

variable {cs core front back : List Char} {n : Int}

theorem Spells.not_isBlank (spells : Spells core n) {c : Char} (mem : c ∈ core) :
    ¬ Text.isBlank c := by
  cases spells with
  | unsigned numeral => exact not_isBlank_of_isDigit (numeral.2 c mem)
  | plus numeral | minus numeral =>
    obtain rfl | digit := List.mem_cons.mp mem
    · decide
    · exact not_isBlank_of_isDigit (numeral.2 c digit)

theorem Spells.ne_nil (spells : Spells core n) : core ≠ [] := by
  cases spells with
  | unsigned numeral => exact numeral.1
  | plus | minus => exact List.cons_ne_nil _ _

theorem Spells.trim_eq (spells : Spells core n) (blankFront : ∀ c ∈ front, Text.isBlank c)
    (blankBack : ∀ c ∈ back, Text.isBlank c) : Text.trim (front ++ core ++ back) = core :=
  Text.trim_blanks blankFront blankBack spells.ne_nil
    (fun _ head => spells.not_isBlank (List.mem_of_mem_head? head))
    (fun _ last => spells.not_isBlank (List.mem_of_mem_getLast? last))

theorem holds_iff (cs : List Char) (n : Int) : Holds cs n ↔ readInt? (Text.trim cs) = some n := by
  rw [readInt?_eq_some_iff]
  constructor
  · rintro ⟨front, core, back, rfl, blankFront, blankBack, spells⟩
    rwa [spells.trim_eq blankFront blankBack]
  · -- What is trimmed off are blanks, so the text is what is left between them.
    intro spells
    obtain ⟨front, back, parts, blankFront, blankBack⟩ := Text.exists_trim cs
    exact ⟨front, Text.trim cs, back, parts, blankFront, blankBack, spells⟩

theorem lenientInt_of_holds (holds : Holds cs n) (fits : IsSigned64 n) : lenientInt cs = n := by
  have bounds : minSigned64 ≤ n ∧ n ≤ maxSigned64 := fits
  rw [lenientInt, readWithin?, (holds_iff cs n).mp holds]
  simp [bounds]

theorem lenientInt_of_not_holds (never : ∀ n, IsSigned64 n → ¬ Holds cs n) :
    lenientInt cs = 0 := by
  rw [lenientInt, readWithin?]
  cases read : readInt? (Text.trim cs) with
  | none => rfl
  | some n =>
    have beyond : ¬ (minSigned64 ≤ n ∧ n ≤ maxSigned64) := fun fits =>
      never n fits ((holds_iff cs n).mpr read)
    simp [beyond]

/-! ### Written numbers -/

theorem isNumeral_digits (n : Nat) : IsNumeral (digits n) :=
  ⟨digits_ne_nil n, fun _ mem => isDigit_of_mem_digits mem⟩

theorem spells_text (n : Int) : Spells (text n) n := by
  have same : (exactValue (digits n.natAbs) : Int) = n.natAbs := by
    rw [← value_eq_exactValue, value_digits]
  have numeral := isNumeral_digits n.natAbs
  unfold text
  split
  next negative =>
    have spells := Spells.minus numeral
    rwa [same, show -(n.natAbs : Int) = n by omega] at spells
  next nonneg =>
    have spells := Spells.unsigned numeral
    rwa [same, show (n.natAbs : Int) = n by omega] at spells

/-- The filter reads the text of a value as a whole number if it is one between blanks, of whatever
length, and its exact value fits signed 64 bits; every other text gives zero. So it reads back every
number of 64 bits, with blanks of any kind around its text. It is the number that is gathered digit by
digit in 64 bits. -/
theorem atoi_reads_signed64 (escaping : Bool) (cs : List Char) :
    ∃ n, (∀ v : Template.Value, v.display.toList = cs →
        Template.Filter.apply escaping "atoi" [v] = .ok (.ofInt n)) ∧
      (∀ k, IsSigned64 k → Holds cs k → n = k) ∧
      ((∀ k, IsSigned64 k → ¬ Holds cs k) → n = 0) ∧
      n = (readGathered? (Text.trim cs)).getD 0 ∧
      ∀ k front back, IsSigned64 k → (∀ c ∈ front, Text.isBlank c) →
        (∀ c ∈ back, Text.isBlank c) → cs = front ++ text k ++ back → n = k := by
  refine ⟨lenientInt cs, ?_, ?_, lenientInt_of_not_holds, ?_, ?_⟩
  · rintro v rfl
    exact Template.Filter.atoi_singleton v
  · exact fun k fits holds => lenientInt_of_holds holds fits
  · rw [readGathered?_eq, lenientInt]
  · rintro k front back fits blankFront blankBack rfl
    exact lenientInt_of_holds ⟨front, text k, back, rfl, blankFront, blankBack, spells_text k⟩ fits

/-- The least number of 64 bits between blanks, the number below it, and one with zeros in front. -/
theorem atoi_reads_signed64_least :
    Template.Filter.apply false "atoi" [.ofString "\u3000-9223372036854775808\n"] =
        .ok (.ofInt (-9223372036854775808)) ∧
      Template.Filter.apply false "atoi" [.ofString "\u3000-9223372036854775809\n"] =
        .ok (.ofInt 0) ∧
      Template.Filter.apply false "atoi" [.ofString "+0070"] = .ok (.ofInt 70) := by
  refine ⟨?_, ?_, ?_⟩
  · obtain ⟨n, filtered, -, -, -, written⟩ :=
      atoi_reads_signed64 false "\u3000-9223372036854775808\n".toList
    have least := written (-9223372036854775808) ['\u3000'] ['\n'] (by decide)
      (List.forall_mem_singleton.mpr rfl) (List.forall_mem_singleton.mpr rfl) (by decide +kernel)
    rw [filtered (.ofString "\u3000-9223372036854775808\n") rfl, least]
  · obtain ⟨n, filtered, -, other, -, -⟩ :=
      atoi_reads_signed64 false "\u3000-9223372036854775809\n".toList
    have below : n = 0 := by
      refine other fun k fits holds => ?_
      have value : readInt? (Text.trim "\u3000-9223372036854775809\n".toList) =
          some (-9223372036854775809) := by decide +kernel
      rw [holds_iff, value] at holds
      cases holds
      exact absurd fits (by decide)
    rw [filtered (.ofString "\u3000-9223372036854775809\n") rfl, below]
  · obtain ⟨n, filtered, reads, -, -, -⟩ := atoi_reads_signed64 false "+0070".toList
    have zeros : Holds "+0070".toList 70 :=
      ⟨[], "+0070".toList, [], rfl, nofun, nofun, .plus ((isDigits_iff _).mp (by decide))⟩
    rw [filtered (.ofString "+0070") rfl, reads 70 (by decide) zeros]

end Decimal

end FormLetter
