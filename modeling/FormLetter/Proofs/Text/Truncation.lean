import FormLetter.Proofs.Text.Width
import FormLetter.Text.Layout

/-!
How wide a shortened text comes out. The budget of a cut is reckoned in single characters, so the
characters that take a column more in a text than alone make the result wider than it was to be, and
so does an ellipsis whose characters are narrower together than alone.
-/
namespace FormLetter.Text

@[simp]
theorem cost_append (front back : List Char) : cost (front ++ back) = cost front + cost back := by
  induction front with
  | nil => simp [cost]
  | cons c rest ih => simp [cost, ih, Nat.add_assoc]

theorem cost_reverse (cs : List Char) : cost cs.reverse = cost cs := by
  induction cs with
  | nil => rfl
  | cons c rest ih => simp [cost_append, cost, ih, Nat.add_comm]

theorem cost_takeWidth (budget : Nat) (cs : List Char) : cost (takeWidth budget cs) ≤ budget := by
  induction cs generalizing budget with
  | nil => simp [takeWidth, cost]
  | cons c rest ih =>
    simp only [takeWidth]
    split
    next fits =>
      have tail := ih (budget - charWidth c)
      simp only [cost] at *
      omega
    next => simp [cost]

theorem cost_takeWidthEnd (budget : Nat) (cs : List Char) :
    cost (takeWidthEnd budget cs) ≤ budget := by
  have kept := cost_takeWidth budget cs.reverse
  rwa [takeWidthEnd, cost_reverse]

/-- The three ways to shorten a text. -/
def truncations : List (List Char → Nat → List Char → List Char) :=
  [truncateEnd, truncateStart, truncateMiddle]

/-- What is kept of a text and the ellipsis, character by character, go into the budget and the
columns of the ellipsis. -/
theorem cost_truncated {truncate : List Char → Nat → List Char → List Char}
    (way : truncate ∈ truncations) {cs : List Char} {width : Nat} (wide : width < displayWidth cs)
    (ellipsis : List Char) :
    cost (truncate cs width ellipsis) ≤ width - displayWidth ellipsis + cost ellipsis := by
  have long : ¬ displayWidth cs ≤ width := by omega
  simp only [truncations, List.mem_cons, List.not_mem_nil, or_false] at way
  obtain rfl | rfl | rfl := way
  · have kept := cost_takeWidth (width - displayWidth ellipsis) cs
    simp only [truncateEnd, long, if_false, cost_append]
    omega
  · have kept := cost_takeWidthEnd (width - displayWidth ellipsis) cs
    simp only [truncateStart, long, if_false, cost_append]
    omega
  · have front := cost_takeWidth
      (width - displayWidth ellipsis - (width - displayWidth ellipsis) / 2) cs
    have back := cost_takeWidthEnd ((width - displayWidth ellipsis) / 2) cs
    simp only [truncateMiddle, long, if_false, cost_append]
    omega

/-- A text that is not too wide is left as it is. -/
theorem truncated_of_fits {truncate : List Char → Nat → List Char → List Char}
    (way : truncate ∈ truncations) {cs : List Char} {width : Nat} (fits : displayWidth cs ≤ width)
    (ellipsis : List Char) : truncate cs width ellipsis = cs := by
  simp only [truncations, List.mem_cons, List.not_mem_nil, or_false] at way
  obtain rfl | rfl | rfl := way <;>
    simp [truncateEnd, truncateStart, truncateMiddle, fits]

theorem mem_of_mem_takeWidth {c : Char} {budget : Nat} {cs : List Char}
    (kept : c ∈ takeWidth budget cs) : c ∈ cs := by
  induction cs generalizing budget with
  | nil => simp [takeWidth] at kept
  | cons first rest ih =>
    simp only [takeWidth] at kept
    split at kept
    next =>
      obtain rfl | later := List.mem_cons.mp kept
      · exact List.mem_cons_self
      · exact List.mem_cons_of_mem _ (ih later)
    next => cases kept

theorem mem_of_mem_takeWidthEnd {c : Char} {budget : Nat} {cs : List Char}
    (kept : c ∈ takeWidthEnd budget cs) : c ∈ cs :=
  List.mem_reverse.mp (mem_of_mem_takeWidth (List.mem_reverse.mp kept))

/-- A shortened text has no characters but those of the text and of the ellipsis. -/
theorem mem_of_mem_truncated {truncate : List Char → Nat → List Char → List Char}
    (way : truncate ∈ truncations) {c : Char} {cs ellipsis : List Char} {width : Nat}
    (kept : c ∈ truncate cs width ellipsis) : c ∈ cs ++ ellipsis := by
  have start := @mem_of_mem_takeWidth c
  have rest := @mem_of_mem_takeWidthEnd c
  simp only [truncations, List.mem_cons, List.not_mem_nil, or_false] at way
  obtain rfl | rfl | rfl := way
  · grind [truncateEnd]
  · grind [truncateStart]
  · grind [truncateMiddle]

/-- A character that takes the same columns in every text, or fewer, as alone. -/
def isPlain (c : Char) : Bool :=
  !isControl c && c != '\uFE0F' && c.toNat != 0x2D7F

theorem understated_of_plain {cs : List Char} (plain : ∀ c ∈ cs, isPlain c) :
    understated cs = 0 := by
  induction cs with
  | nil => rfl
  | cons c behind ih =>
    have unselected : behind.head? ≠ some '\uFE0F' := fun head =>
      absurd (plain _ (List.mem_cons_of_mem _ (List.mem_of_head? head))) (by decide +kernel)
    have first := plain c List.mem_cons_self
    simp only [isPlain, Bool.and_eq_true, Bool.not_eq_true', bne_iff_ne, ne_eq] at first
    have rest := ih fun c later => plain c (List.mem_cons_of_mem _ later)
    simp [understated, IsUnderstated, first, unselected, rest]

theorem displayWidth_truncate_le {truncate : List Char → Nat → List Char → List Char}
    (way : truncate ∈ truncations) (cs : List Char) {width : Nat} {ellipsis : List Char}
    (fits : displayWidth ellipsis ≤ width) :
    displayWidth (truncate cs width ellipsis) ≤
      width + understated (truncate cs width ellipsis) +
        (cost ellipsis - displayWidth ellipsis) := by
  by_cases wide : width < displayWidth cs
  · have bound := displayWidth_le (truncate cs width ellipsis)
    have kept := cost_truncated way wide ellipsis
    omega
  · rw [truncated_of_fits way (by omega)]
    omega

/-- Without understated characters, and with an ellipsis whose characters are as wide together as
alone, a shortened text fits the width. -/
theorem displayWidth_truncated_le_of_plain {cs ellipsis : List Char} {width : Nat}
    (plain : ∀ c ∈ cs ++ ellipsis, isPlain c) (together : cost ellipsis ≤ displayWidth ellipsis)
    (fits : displayWidth ellipsis ≤ width) :
    ∀ truncate ∈ truncations, displayWidth (truncate cs width ellipsis) ≤ width := by
  intro truncate way
  have none : understated (truncate cs width ellipsis) = 0 :=
    understated_of_plain fun c kept => plain c (mem_of_mem_truncated way kept)
  have bound := displayWidth_truncate_le way cs fits
  omega

/-- Shortened to a width that the ellipsis fits, a text is wider than that by no more than its
understated characters are many, and by what the characters of the ellipsis are wider alone than
together. -/
theorem displayWidth_truncated_le (cs : List Char) (width : Nat) (ellipsis : List Char)
    (fits : displayWidth ellipsis ≤ width) :
    ∀ truncate ∈ truncations, displayWidth (truncate cs width ellipsis) ≤
      width + understated (truncate cs width ellipsis) +
        (cost ellipsis - displayWidth ellipsis) :=
  fun _ way => displayWidth_truncate_le way cs fits

/-- Two tabs and an ellipsis take three columns. -/
theorem displayWidth_truncated_le_tabs :
    displayWidth ['…'] ≤ 1 ∧
      ∀ truncate ∈ truncations, displayWidth (truncate ['\t', '\t'] 1 ['…']) ≤
        1 + understated (truncate ['\t', '\t'] 1 ['…']) + (cost ['…'] - displayWidth ['…']) :=
  ⟨by decide +kernel, displayWidth_truncated_le _ _ _ (by decide +kernel)⟩

/-- A shortened text may be wider than it was to be. -/
theorem not_displayWidth_truncated_le_width :
    ¬ ∀ (cs : List Char) (width : Nat) (ellipsis : List Char), displayWidth ellipsis ≤ width →
      ∀ truncate ∈ truncations, displayWidth (truncate cs width ellipsis) ≤ width := by
  intro fits
  have tabs := fits ['\t', '\t'] 1 ['…'] (by decide +kernel) truncateEnd (by simp [truncations])
  exact absurd tabs (by decide +kernel)

end FormLetter.Text
