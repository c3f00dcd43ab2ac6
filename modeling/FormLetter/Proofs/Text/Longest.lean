import FormLetter.Proofs.Text.Cut

/-!
How much a shortened text keeps. A cut adds up characters until one does not fit. As no character
gives columns back, the starts of the text that fit the budget are then exactly the starts of what
was kept, whatever stands behind the character that did not fit; and a character without columns is
never the one that stops the cut. For the ends of the text it is the same, read from the other side.
-/
namespace FormLetter.Text

variable {budget width : Nat} {cs front back kept other : List Char}
  {IsPart : List Char → Prop}

/-! ### The parts that fit -/

theorem cost_le_of_starts (starts : front <+: cs) : cost front ≤ cost cs := by
  obtain ⟨rest, rfl⟩ := starts
  rw [cost_append]
  exact Nat.le_add_right (cost front) (cost rest)

theorem starts_takeWidth_iff :
    front <+: takeWidth budget cs ↔ front <+: cs ∧ cost front ≤ budget := by
  constructor
  · intro starts
    have fits := (cost_le_of_starts starts).trans (cost_takeWidth budget cs)
    exact ⟨starts.trans (takeWidth_starts budget cs), fits⟩
  · rintro ⟨starts, fits⟩
    -- The budget is general, since the first character takes the same part of it on both sides.
    induction cs generalizing budget front with
    | nil => exact starts
    | cons c rest ih =>
      cases front with
      | nil => exact List.nil_prefix
      | cons first later =>
        obtain ⟨rfl, laterStarts⟩ := List.cons_prefix_cons.mp starts
        simp only [cost] at fits
        have firstFits : charWidth first ≤ budget := by omega
        have laterFits : cost later ≤ budget - charWidth first := by omega
        rw [takeWidth, if_pos firstFits]
        apply (List.prefix_cons_inj first).mpr
        exact ih laterStarts laterFits

theorem ends_takeWidthEnd_iff :
    back <:+ takeWidthEnd budget cs ↔ back <:+ cs ∧ cost back ≤ budget := by
  rw [← List.reverse_prefix, takeWidthEnd, List.reverse_reverse, starts_takeWidth_iff,
    List.reverse_prefix, cost_reverse]

/-! ### The longest of them -/

/-- Of the parts of one kind that fit the budget, one that none is longer than. -/
structure Longest (IsPart : List Char → Prop) (budget : Nat) (kept : List Char) : Prop where
  part : IsPart kept
  fits : cost kept ≤ budget
  longest : ∀ other, IsPart other → cost other ≤ budget → other.length ≤ kept.length

/-- The longest start of a text that fits the budget, with all characters behind it that take no
column. -/
structure KeptStart (budget : Nat) (cs kept : List Char) : Prop
    extends Longest (· <+: cs) budget kept where
  marks : ∀ marks, kept ++ marks <+: cs → cost marks = 0 → marks = []

/-- The longest end of a text that fits the budget, with all characters in front of it that take no
column. -/
structure KeptEnd (budget : Nat) (cs kept : List Char) : Prop
    extends Longest (· <:+ cs) budget kept where
  marks : ∀ marks, marks ++ kept <:+ cs → cost marks = 0 → marks = []

theorem Longest.length_eq (keeps : Longest IsPart budget kept)
    (keepsOther : Longest IsPart budget other) : kept.length = other.length := by
  apply Nat.le_antisymm
  · exact keepsOther.longest kept keeps.part keeps.fits
  · exact keeps.longest other keepsOther.part keepsOther.fits

/-- What costs nothing in addition would still fit, so there is nothing of it left to keep. -/
theorem Longest.length_le_of_cost_le (keeps : Longest IsPart budget kept) (part : IsPart other)
    (cheap : cost other ≤ cost kept) : other.length ≤ kept.length :=
  keeps.longest other part (cheap.trans keeps.fits)

theorem longest_takeWidth (budget : Nat) (cs : List Char) :
    Longest (· <+: cs) budget (takeWidth budget cs) where
  part := takeWidth_starts budget cs
  fits := cost_takeWidth budget cs
  longest _ starts fits := (starts_takeWidth_iff.mpr ⟨starts, fits⟩).length_le

theorem longest_takeWidthEnd (budget : Nat) (cs : List Char) :
    Longest (· <:+ cs) budget (takeWidthEnd budget cs) where
  part := takeWidthEnd_ends budget cs
  fits := cost_takeWidthEnd budget cs
  longest _ ends fits := (ends_takeWidthEnd_iff.mpr ⟨ends, fits⟩).length_le

theorem keptStart_iff : KeptStart budget cs kept ↔ kept = takeWidth budget cs := by
  constructor
  · intro keeps
    -- A start that fits is a start of what was taken, and the longest one is no shorter than it.
    have within : kept <+: takeWidth budget cs :=
      starts_takeWidth_iff.mpr ⟨keeps.part, keeps.fits⟩
    exact within.eq_of_length (keeps.length_eq (longest_takeWidth budget cs))
  · rintro rfl
    have keeps := longest_takeWidth budget cs
    refine ⟨keeps, fun marks starts columnless => ?_⟩
    have noLonger := keeps.length_le_of_cost_le starts (by simp [columnless])
    rw [List.length_append] at noLonger
    exact List.eq_nil_of_length_eq_zero (by omega)

theorem keptEnd_iff : KeptEnd budget cs kept ↔ kept = takeWidthEnd budget cs := by
  constructor
  · intro keeps
    have within : kept <:+ takeWidthEnd budget cs :=
      ends_takeWidthEnd_iff.mpr ⟨keeps.part, keeps.fits⟩
    exact within.eq_of_length (keeps.length_eq (longest_takeWidthEnd budget cs))
  · rintro rfl
    have keeps := longest_takeWidthEnd budget cs
    refine ⟨keeps, fun marks ends columnless => ?_⟩
    have noLonger := keeps.length_le_of_cost_le ends (by simp [columnless])
    rw [List.length_append] at noLonger
    exact List.eq_nil_of_length_eq_zero (by omega)

/-- A text that is too wide is shortened to the longest start or the longest end that fits the
budget, or to both for a half of the budget each, an odd column going to the start; and to nothing
else. -/
theorem truncated_eq_iff_longest (wide : width < displayWidth cs) (ellipsis out : List Char) :
    let budget := width - displayWidth ellipsis
    (truncateEnd cs width ellipsis = out ↔
        ∃ front, KeptStart budget cs front ∧ out = front ++ ellipsis) ∧
      (truncateStart cs width ellipsis = out ↔
        ∃ back, KeptEnd budget cs back ∧ out = ellipsis ++ back) ∧
      (truncateMiddle cs width ellipsis = out ↔
        ∃ front back, KeptStart (budget - budget / 2) cs front ∧ KeptEnd (budget / 2) cs back ∧
          out = front ++ ellipsis ++ back) := by
  intro budget
  have long : ¬ displayWidth cs ≤ width := by omega
  refine ⟨?_, ?_, ?_⟩
  · rw [truncateEnd, if_neg long]
    simp only [keptStart_iff, exists_eq_left]
    exact eq_comm
  · rw [truncateStart, if_neg long]
    simp only [keptEnd_iff, exists_eq_left]
    exact eq_comm
  · rw [truncateMiddle, if_neg long]
    simp only [keptStart_iff, keptEnd_iff, exists_and_left, exists_eq_left]
    exact eq_comm

/-- An accent is kept behind its letter, and one whose letter did not fit in front of the next. -/
theorem truncated_eq_iff_longest_accents :
    let text := "e\u0301日本\u0301b".toList
    let budget := 3 - displayWidth ['…']
    3 < displayWidth text ∧
      (∃ front, KeptStart budget text front ∧ "e\u0301…".toList = front ++ ['…']) ∧
      (∃ back, KeptEnd budget text back ∧ "…\u0301b".toList = ['…'] ++ back) ∧
      ∃ front back, KeptStart (budget - budget / 2) text front ∧ KeptEnd (budget / 2) text back ∧
        "e\u0301…\u0301b".toList = front ++ ['…'] ++ back := by
  intro text budget
  have wide : 3 < displayWidth text := by decide +kernel
  refine ⟨wide, ?_, ?_, ?_⟩
  · exact (truncated_eq_iff_longest wide ['…'] _).1.mp (by decide +kernel)
  · exact (truncated_eq_iff_longest wide ['…'] _).2.1.mp (by decide +kernel)
  · exact (truncated_eq_iff_longest wide ['…'] _).2.2.mp (by decide +kernel)

end FormLetter.Text
