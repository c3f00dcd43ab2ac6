/-!
Occurrences of one text in another, the part of a text between two offsets, and rows of one text.
-/
namespace FormLetter.Text

/-- The needle stands somewhere in the text. -/
def occursIn (needle : List Char) : List Char → Bool
  | [] => needle.isEmpty
  | c :: cs => needle.isPrefixOf (c :: cs) || occursIn needle cs

theorem occursIn_iff {needle : List Char} {text : List Char} :
    occursIn needle text = true ↔ needle <:+: text := by
  induction text with
  | nil => simp [occursIn]
  | cons c cs ih => simp [occursIn, List.infix_cons_iff, ih]

/-- What stands in front of the first occurrence of a needle, and what behind it. -/
def cutAt (needle : List Char) : List Char → Option (List Char × List Char)
  | [] => if needle.isEmpty then some ([], []) else none
  | c :: cs =>
    if needle.isPrefixOf (c :: cs) then some ([], (c :: cs).drop needle.length)
    else (cutAt needle cs).map fun (front, behind) => (c :: front, behind)

theorem cutAt_eq_append {needle text front behind : List Char}
    (h : cutAt needle text = some (front, behind)) : text = front ++ needle ++ behind := by
  induction text generalizing front with
  | nil =>
    unfold cutAt at h
    split at h <;> simp_all
  | cons c cs ih =>
    unfold cutAt at h
    split at h
    · rename_i hp
      obtain ⟨rest, hr⟩ := List.isPrefixOf_iff_prefix.1 hp
      simp only [Option.some.injEq, Prod.mk.injEq] at h
      obtain ⟨rfl, rfl⟩ := h
      simp [← hr]
    · obtain ⟨⟨f, b⟩, hc, hf⟩ := Option.map_eq_some_iff.1 h
      simp only [Prod.mk.injEq] at hf
      obtain ⟨rfl, rfl⟩ := hf
      simp [ih hc]

/-- The parts between the occurrences of a needle, read from the left. At most `limit` cuts are
made if there is a limit. An empty needle stands before, between and behind all characters. -/
def splitText (needle : List Char) (limit : Option Nat) (text : List Char) : List (List Char) :=
  if needle.isEmpty then splitSingles limit text else splitFrom (text.length + 1) limit text
where
  splitSingles (limit : Option Nat) (text : List Char) : List (List Char) :=
    let singles := [] :: text.map (fun c => [c]) ++ [[]]
    match limit with
    | none => singles
    | some cuts =>
      if singles.length ≤ cuts + 1 then singles
      else singles.take cuts ++ [(singles.drop cuts).flatten]
  splitFrom : Nat → Option Nat → List Char → List (List Char)
    | 0, _, text => [text]
    | fuel + 1, limit, text =>
      if limit = some 0 then [text]
      else match cutAt needle text with
        | none => [text]
        | some (front, behind) => front :: splitFrom fuel (limit.map (· - 1)) behind

/-- Every occurrence of a needle is exchanged, from the left. -/
def replaceText (needle stand : List Char) (text : List Char) : List Char :=
  stand.intercalate (splitText needle none text)

/-! ### Between two offsets -/

/-- An offset as a position in a text; a negative one counts from the end. -/
def position (count : Nat) (offset : Int) : Nat :=
  min (if offset < 0 then (count + offset).toNat else offset.toNat) count

/-- The characters from one offset up to another, or up to the end. -/
def excerpt (cs : List Char) (start : Int) (stop : Option Int) : List Char :=
  let stop := match stop with
    | some offset => position cs.length offset
    | none => cs.length
  (cs.take stop).drop (position cs.length start)

/-! ### Rows of one text -/

/-- The text, `count` times in a row. -/
def copies (s : String) (count : Nat) : String :=
  if count = 0 then ""
  else
    let half := copies s (count / 2)
    if count % 2 = 0 then half ++ half else half ++ half ++ s
termination_by count

private theorem flatten_replicate_add (cs : List Char) (m n : Nat) :
    (List.replicate (m + n) cs).flatten =
      (List.replicate m cs).flatten ++ (List.replicate n cs).flatten := by
  rw [← List.replicate_append_replicate, List.flatten_append]

/-- The characters of the row are those of the text, `count` times. -/
theorem toList_copies (s : String) (count : Nat) :
    (copies s count).toList = (List.replicate count s.toList).flatten := by
  induction count using Nat.strongRecOn with
  | ind count ih =>
    rw [copies]
    by_cases hzero : count = 0
    · simp [hzero]
    · have half := ih (count / 2) (by omega)
      by_cases heven : count % 2 = 0
      · have split : count = count / 2 + count / 2 := by omega
        simp only [hzero, heven, if_true, if_false, String.toList_append, half]
        rw [← flatten_replicate_add, ← split]
      · have split : count = count / 2 + count / 2 + 1 := by omega
        simp only [hzero, heven, if_false, String.toList_append, half]
        rw [← flatten_replicate_add]
        conv => rhs; rw [split, flatten_replicate_add]
        simp

end FormLetter.Text
