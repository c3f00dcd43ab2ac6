/-!
Look-up in tables over code points: plain ranges, ranges with a step, and case mappings.
-/
namespace FormLetter.Text

/-- The character is a control character. -/
def isControl (c : Char) : Bool :=
  c.toNat < 0x20 || (0x7F ≤ c.toNat && c.toNat < 0xA0)

/-- The character lies in one of the ranges, ends included. -/
def inRanges (ranges : List (Nat × Nat)) (c : Char) : Bool :=
  ranges.any fun (low, high) => low ≤ c.toNat && c.toNat ≤ high

/-- The character is reached from the start of one of the ranges in whole steps. -/
def inSteps (ranges : List (Nat × Nat × Nat)) (c : Char) : Bool :=
  ranges.any fun (low, high, step) =>
    low ≤ c.toNat && c.toNat ≤ high && (c.toNat - low) % step == 0

/-- The image of a character under a mapping with expansions; a character without an entry maps
to itself. -/
def mapped (single : List (Nat × Nat × Nat × Nat)) (several : List (Nat × List Nat)) (c : Char) :
    List Char :=
  match several.find? fun (code, _) => code == c.toNat with
  | some (_, image) => image.map Char.ofNat
  | none =>
    match single.find? fun (low, high, step, _) =>
        low ≤ c.toNat && c.toNat ≤ high && (c.toNat - low) % step == 0 with
    | some (low, _, _, image) => [Char.ofNat (image + (c.toNat - low))]
    | none => [c]

end FormLetter.Text
