import FormLetter.Proofs.Template.Shown

/-!
The part of a text between two offsets. An offset counts from the front, or from the end if it is
negative, and is moved to the nearest end if it points outside; so every pair of offsets has a part,
and the two parts of a text at one offset make up the text. Reckoned in signed 64-bit numbers, with
every sum and every index checked, the part comes out the same: an offset below zero only makes the
number of characters smaller, and a position is looked up only after it has been moved inside.
-/
namespace FormLetter.Text

open Decimal (IsSigned64 signed64? signed64?_of_fits)

/-- Where an offset points in a text of so many characters. -/
def clipped (count : Nat) (offset : Int) : Nat :=
  (max 0 (min (if 0 ≤ offset then offset else count + offset) count)).toNat

/-- The characters at the positions from `first` on and below `last`, in their order. -/
def Between (cs : List Char) (first last : Nat) (part : List Char) : Prop :=
  ∀ i, part[i]? = if first + i < last then cs[first + i]? else none

/-! ### In 64 bits -/

/-- The position of an offset. -/
def position64? (count offset : Int) : Option Int := do
  let place ← if offset < 0 then signed64? (count + offset) else some offset
  return max 0 (min place count)

/-- The characters between two positions, which have to lie in the text and in order. -/
def slice? (cs : List Char) (first last : Int) : Option (List Char) :=
  if 0 ≤ first ∧ first ≤ last ∧ last ≤ cs.length then
    some ((cs.take last.toNat).drop first.toNat)
  else none

/-- The part between two offsets. -/
def excerpt64? (cs : List Char) (start : Int) (stop : Option Int) : Option (List Char) := do
  let count ← signed64? cs.length
  let first ← position64? count start
  let last ← position64? count (stop.getD count)
  if last ≤ first then return [] else slice? cs first last

/-! ### Positions -/

theorem position_eq_clipped (count : Nat) (offset : Int) :
    position count offset = clipped count offset := by
  unfold position clipped
  split <;> split <;> omega

theorem clipped_le (count : Nat) (offset : Int) : clipped count offset ≤ count := by
  unfold clipped
  omega

theorem clipped_length (count : Nat) : clipped count count = count := by
  unfold clipped
  split <;> omega

theorem position64?_eq {count : Nat} {offset : Int} (short : IsSigned64 count)
    (fits : IsSigned64 offset) : position64? count offset = some (clipped count offset : Int) := by
  unfold position64? clipped
  by_cases negative : offset < 0
  · -- The sum lies between the offset and the count, which both fit.
    have sum : IsSigned64 (count + offset) := by
      unfold IsSigned64 Decimal.minSigned64 Decimal.maxSigned64 at *
      omega
    simp only [negative, if_true, signed64?_of_fits sum]
    rw [if_neg (by omega)]
    exact congrArg some (by omega)
  · simp only [negative, if_false]
    rw [if_pos (by omega)]
    exact congrArg some (by omega)

/-! ### Parts -/

variable {cs : List Char}

/-- The position where a part ends: that of its last offset, or the end of the text. -/
def stopAt (count : Nat) (stop : Option Int) : Nat :=
  stop.elim count (clipped count)

theorem excerpt_eq (cs : List Char) (start : Int) (stop : Option Int) :
    excerpt cs start stop = (cs.take (stopAt cs.length stop)).drop (clipped cs.length start) := by
  cases stop <;> simp [excerpt, stopAt, position_eq_clipped]

theorem between_excerpt (cs : List Char) (start : Int) (stop : Option Int) :
    Between cs (clipped cs.length start) (stopAt cs.length stop) (excerpt cs start stop) := by
  intro i
  rw [excerpt_eq, List.getElem?_drop, List.getElem?_take]

theorem excerpt_of_le {start : Int} {stop : Option Int}
    (crossed : stopAt cs.length stop ≤ clipped cs.length start) : excerpt cs start stop = [] := by
  rw [excerpt_eq]
  exact List.drop_eq_nil_of_le (by simp; omega)

theorem excerpt64?_eq {start : Int} {stop : Option Int} (short : IsSigned64 cs.length)
    (fits : IsSigned64 start) (stops : ∀ n ∈ stop, IsSigned64 n) :
    excerpt64? cs start stop = some (excerpt cs start stop) := by
  have last : position64? cs.length (stop.getD cs.length) = some (stopAt cs.length stop : Int) := by
    cases stop with
    | none => rw [Option.getD_none, position64?_eq short short, clipped_length]; rfl
    | some n => exact position64?_eq short (stops n rfl)
  have inside : stopAt cs.length stop ≤ cs.length := by
    cases stop with
    | none => exact Nat.le_refl _
    | some n => exact clipped_le _ n
  have parts : excerpt64? cs start stop =
      if (stopAt cs.length stop : Int) ≤ clipped cs.length start then some []
      else slice? cs (clipped cs.length start) (stopAt cs.length stop) := by
    simp only [excerpt64?, signed64?_of_fits short, Option.bind_eq_bind, Option.bind_some,
      position64?_eq short fits, last]
    rfl
  rw [parts]
  split
  next crossed => rw [excerpt_of_le (by omega)]
  next =>
    rw [slice?, if_pos (by omega), excerpt_eq]
    simp

theorem excerpt_append_excerpt (cs : List Char) (offset : Int) :
    excerpt cs 0 (some offset) ++ excerpt cs offset none = cs := by
  have front : clipped cs.length 0 = 0 := by unfold clipped; omega
  rw [excerpt_eq, excerpt_eq, front]
  simp [stopAt]

/-! ### The filter -/

/-- Applied to a value and offsets of 64 bits, the filter gives the characters of its text between
the positions they point to, and none if these cross. Nothing overflows on the way and no index is
out of range, as long as the characters can be counted in 64 bits. What it gives up to an offset and
from there on makes up the text. -/
theorem substr_between (escaping : Bool) (v : Template.Value) {a : Template.Value}
    {rest : List Template.Value} {start : Int} {stop : Option Int} (held : a.whole? = some start)
    (fits : IsSigned64 start) (ends : Template.EndsIn rest stop) :
    let cs := v.display.toList
    ∃ part, Template.Filter.apply escaping "substr" (v :: a :: rest) = .ok (.ofChars part) ∧
      Between cs (clipped cs.length start) (stopAt cs.length stop) part ∧
      (stopAt cs.length stop ≤ clipped cs.length start → part = []) ∧
      (IsSigned64 cs.length → excerpt64? cs start stop = some part) ∧
      ∀ zero : Template.Value, zero.whole? = some 0 →
        ∃ front back, Template.Filter.apply escaping "substr" [v, zero, a] = .ok (.ofChars front) ∧
          Template.Filter.apply escaping "substr" [v, a] = .ok (.ofChars back) ∧
          front ++ back = cs := by
  intro cs
  refine ⟨excerpt cs start stop, ?_, between_excerpt cs start stop, excerpt_of_le, ?_, ?_⟩
  · exact Template.Filter.substr_of_whole? v held fits ends
  · exact fun short => excerpt64?_eq short fits ends.isSigned64
  · intro zero isZero
    refine ⟨excerpt cs 0 (some start), excerpt cs start none, ?_, ?_,
      excerpt_append_excerpt cs start⟩
    · exact Template.Filter.substr_of_whole? v isZero (by decide) (.given held fits)
    · exact Template.Filter.substr_of_whole? v held fits .absent

/-- All but the ends of a text, by an offset from the end; all of it, from the least offset to the
greatest; and its two parts at an offset. -/
theorem substr_between_extremes :
    Template.Filter.apply false "substr" [.ofString "héllo", .ofNat 1, .ofInt (-1)] =
        .ok (.ofChars "éll".toList) ∧
      Template.Filter.apply false "substr"
          [.ofString "héllo", .ofInt (-9223372036854775808), .ofNat 9223372036854775807] =
        .ok (.ofChars "héllo".toList) ∧
      ∃ front back,
        Template.Filter.apply false "substr" [.ofString "héllo", .ofNat 0, .ofNat 1] =
          .ok (.ofChars front) ∧
        Template.Filter.apply false "substr" [.ofString "héllo", .ofNat 1] = .ok (.ofChars back) ∧
        front ++ back = "héllo".toList := by
  obtain ⟨part, filtered, -, -, checked, parts⟩ :=
    substr_between false (.ofString "héllo") (a := .ofNat 1) rfl (by decide)
      (.given (v := .ofInt (-1)) rfl (by decide))
  have middle : some part = some "éll".toList := by
    rw [← checked (by decide)]
    decide
  obtain ⟨text, unclipped, -, -, reckoned, -⟩ :=
    substr_between false (.ofString "héllo") (a := .ofInt (-9223372036854775808)) rfl (by decide)
      (.given (v := .ofNat 9223372036854775807) rfl (by decide))
  have whole : some text = some "héllo".toList := by
    rw [← reckoned (by decide)]
    decide
  refine ⟨?_, ?_, parts (.ofNat 0) rfl⟩
  · rw [filtered, Option.some.inj middle]
  · rw [unclipped, Option.some.inj whole]

end FormLetter.Text
