import FormLetter.Proofs.Text.Truncation
import Mathlib.Data.List.Infix

/-!
What a shortened text leaves out. The two ends that are kept are chosen independently of each other,
each for its own share of the budget; they stay apart as long as the characters of the text together
do not fit the budget. A text that is too wide only as a whole may fit it, and then it is kept
entirely, at either end.
-/
namespace FormLetter.Text

variable {budget front back width : Nat} {cs ellipsis : List Char}

/-! ### What is kept -/

theorem takeWidth_starts (budget : Nat) (cs : List Char) : takeWidth budget cs <+: cs := by
  induction cs generalizing budget with
  | nil => exact List.prefix_rfl
  | cons c rest ih =>
    simp only [takeWidth]
    split
    next fits =>
      apply (List.prefix_cons_inj c).mpr
      exact ih (budget - charWidth c)
    next => exact List.nil_prefix

theorem takeWidthEnd_ends (budget : Nat) (cs : List Char) : takeWidthEnd budget cs <:+ cs := by
  have kept := List.reverse_suffix.mpr (takeWidth_starts budget cs.reverse)
  rwa [List.reverse_reverse] at kept

theorem takeWidth_of_cost_le (fits : cost cs ≤ budget) : takeWidth budget cs = cs := by
  induction cs generalizing budget with
  | nil => rfl
  | cons c rest ih =>
    simp only [cost] at fits
    have first : charWidth c ≤ budget := by omega
    have later : cost rest ≤ budget - charWidth c := by omega
    rw [takeWidth, if_pos first, ih later]

/-! ### What is left out -/

theorem exists_behind_takeWidth (beyond : budget < cost cs) :
    ∃ dropped, dropped ≠ [] ∧ cs = takeWidth budget cs ++ dropped := by
  obtain ⟨dropped, parts⟩ := takeWidth_starts budget cs
  refine ⟨dropped, ?_, parts.symm⟩
  rintro rfl
  -- If nothing were left out, the whole text would fit the budget.
  have kept := cost_takeWidth budget cs
  rw [List.append_nil] at parts
  rw [parts] at kept
  omega

theorem exists_before_takeWidthEnd (beyond : budget < cost cs) :
    ∃ dropped, dropped ≠ [] ∧ cs = dropped ++ takeWidthEnd budget cs := by
  have reversed : budget < cost cs.reverse := by rwa [cost_reverse]
  obtain ⟨dropped, nonempty, parts⟩ := exists_behind_takeWidth reversed
  refine ⟨dropped.reverse, mt List.reverse_eq_nil_iff.mp nonempty, ?_⟩
  rw [takeWidthEnd, ← List.reverse_append, ← parts, List.reverse_reverse]

/-- Two ends that are kept do not meet if their budgets together are less than the text needs. -/
theorem exists_between (beyond : front + back < cost cs) :
    ∃ dropped, dropped ≠ [] ∧ cs = takeWidth front cs ++ dropped ++ takeWidthEnd back cs := by
  have keptFront := cost_takeWidth front cs
  have keptBack := cost_takeWidthEnd back cs
  obtain ⟨rest, atFront⟩ := takeWidth_starts front cs
  obtain ⟨start, atBack⟩ := takeWidthEnd_ends back cs
  generalize takeWidth front cs = left at *
  generalize takeWidthEnd back cs = right at *
  have columns := congrArg cost atFront
  rw [cost_append] at columns
  obtain ⟨dropped, rfl, rfl⟩ | ⟨shared, rfl, rfl⟩ :=
    List.append_eq_append_iff.mp (atFront.trans atBack.symm)
  · refine ⟨dropped, ?_, atBack.symm⟩
    rintro rfl
    rw [List.nil_append] at columns
    omega
  · -- The ends overlap, so that together they cost no less than the text.
    rw [cost_append] at columns keptFront keptBack
    omega

/-- In each of its shortened forms the text has lost one part, which is not empty, to the ellipsis,
and nothing else. -/
structure CutOnce (cs : List Char) (width : Nat) (ellipsis : List Char) : Prop where
  middle : ∃ front dropped back, cs = front ++ dropped ++ back ∧ dropped ≠ [] ∧
    truncateMiddle cs width ellipsis = front ++ ellipsis ++ back
  atEnd : ∃ front dropped, cs = front ++ dropped ∧ dropped ≠ [] ∧
    truncateEnd cs width ellipsis = front ++ ellipsis
  atStart : ∃ dropped back, cs = dropped ++ back ∧ dropped ≠ [] ∧
    truncateStart cs width ellipsis = ellipsis ++ back

theorem cutOnce_of_lt_cost (wide : width < displayWidth cs)
    (beyond : width - displayWidth ellipsis < cost cs) : CutOnce cs width ellipsis := by
  have long : ¬ displayWidth cs ≤ width := by omega
  constructor
  · -- The shares of the two ends add up to the budget.
    have shares : width - displayWidth ellipsis - (width - displayWidth ellipsis) / 2 +
        (width - displayWidth ellipsis) / 2 < cost cs := by omega
    obtain ⟨dropped, nonempty, parts⟩ := exists_between shares
    exact ⟨_, dropped, _, parts, nonempty, by rw [truncateMiddle, if_neg long]⟩
  · obtain ⟨dropped, nonempty, parts⟩ := exists_behind_takeWidth beyond
    exact ⟨_, dropped, parts, nonempty, by rw [truncateEnd, if_neg long]⟩
  · obtain ⟨dropped, nonempty, parts⟩ := exists_before_takeWidthEnd beyond
    exact ⟨dropped, _, parts, nonempty, by rw [truncateStart, if_neg long]⟩

/-- Characters that fit the budget together are all kept in front of the ellipsis. -/
theorem not_cutOnce_of_cost_le (wide : width < displayWidth cs)
    (fits : cost cs ≤ width - displayWidth ellipsis) : ¬ CutOnce cs width ellipsis := by
  intro cut
  obtain ⟨front, dropped, parts, nonempty, short⟩ := cut.atEnd
  have long : ¬ displayWidth cs ≤ width := by omega
  rw [truncateEnd, if_neg long, takeWidth_of_cost_le fits] at short
  have whole : cs = front := List.append_cancel_right short
  rw [← whole] at parts
  exact nonempty (List.self_eq_append_right.mp parts)

/-- A text that is too wide has one part cut out in each of its shortened forms exactly if its
characters, each measured alone, do not fit the budget. That is so if it is too wide by more columns
than it has understated characters. -/
theorem cutOnce_iff_lt_cost (wide : width < displayWidth cs) :
    (CutOnce cs width ellipsis ↔ width - displayWidth ellipsis < cost cs) ∧
      (width + understated cs < displayWidth cs → CutOnce cs width ellipsis) := by
  constructor
  · constructor
    · intro cut
      by_contra fits
      exact not_cutOnce_of_cost_le wide (by omega) cut
    · exact cutOnce_of_lt_cost wide
  · intro far
    have bound := displayWidth_le cs
    exact cutOnce_of_lt_cost wide (by omega)

/-- Wide letters and a tab, shortened to five columns. -/
theorem cutOnce_iff_lt_cost_wide_letters :
    let text := "ab日本語\tgh".toList
    5 < displayWidth text ∧
      (CutOnce text 5 ['…'] ↔ 5 - displayWidth ['…'] < cost text) ∧ CutOnce text 5 ['…'] := by
  intro text
  have wide : 5 < displayWidth text := by decide +kernel
  obtain ⟨exactly, far⟩ := @cutOnce_iff_lt_cost 5 text ['…'] wide
  exact ⟨wide, exactly, far (by decide +kernel)⟩

/-- A tab is one column wide in a text and none alone, and nothing of it is cut. -/
theorem not_cutOnce_of_tab :
    ¬ ∀ (cs : List Char) (width : Nat) (ellipsis : List Char), width < displayWidth cs →
      CutOnce cs width ellipsis := by
  intro always
  have wide : 0 < displayWidth ['\t'] := by decide +kernel
  exact not_cutOnce_of_cost_le wide (by decide +kernel) (always ['\t'] 0 ['…'] wide)

end FormLetter.Text
