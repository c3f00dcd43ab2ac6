import FormLetter.Proofs.Files.Parents
import FormLetter.Proofs.Template.Shown
import FormLetter.Text.Slug
import Mathlib.Data.List.Infix

/-!
Slugs are safe parts of names. Whatever table the characters are spelled by, a slug has nothing but
small letters, digits and hyphens that stand alone between them, and is its own slug. Put into a
name, it adds no slash, so that the name has the pieces it would have without it, and a piece that it
is part of is neither of the two that stand for a directory.
-/
namespace FormLetter.Text.Slug

/-- A small ASCII letter or a digit. -/
def isSmall (c : Char) : Bool :=
  c.isLower || c.isDigit

/-- Small letters and digits with single hyphens between them; one at the end is allowed, and one at
the start if no hyphen stands in front. -/
inductive Joined : Bool → List Char → Prop
  | nil {afterHyphen : Bool} : Joined afterHyphen []
  | small {afterHyphen : Bool} {c : Char} {rest : List Char} :
    isSmall c → Joined false rest → Joined afterHyphen (c :: rest)
  | hyphen {rest : List Char} : Joined true rest → Joined false ('-' :: rest)

/-- A part of a name that is safe anywhere in it. -/
structure IsSlug (cs : List Char) : Prop where
  chars : ∀ c ∈ cs, isSmall c ∨ c = '-'
  single : ¬ ['-', '-'] <:+: cs
  front : cs.head? ≠ some '-'
  back : cs.getLast? ≠ some '-'

variable {afterHyphen : Bool} {c : Char} {cs : List Char}

/-! ### Single characters -/

theorem kept_ascii : ∀ n : Fin 128, isKept (Char.ofNat n) → isSmall (Char.ofNat n).toLower := by
  decide

theorem small_ascii : ∀ n : Fin 128, isSmall (Char.ofNat n) →
    isKept (Char.ofNat n) ∧ (Char.ofNat n).toLower = Char.ofNat n := by
  decide

theorem toNat_lt_of_val_le {last : Char} (le : c.val ≤ last.val) (ascii : last.toNat < 128) :
    c.toNat < 128 :=
  Nat.lt_of_le_of_lt (UInt32.le_iff_toNat_le.mp le) ascii

theorem toNat_lt_of_isSmall (small : isSmall c) : c.toNat < 128 := by
  obtain lower | digit := (Bool.or_eq_true _ _).mp small
  · exact toNat_lt_of_val_le (of_decide_eq_true ((Bool.and_eq_true _ _).mp lower).2) (by decide)
  · exact toNat_lt_of_val_le (of_decide_eq_true ((Bool.and_eq_true _ _).mp digit).2) (by decide)

theorem toNat_lt_of_isKept (kept : isKept c) : c.toNat < 128 := by
  obtain letter | digit := (Bool.or_eq_true _ _).mp kept
  · obtain upper | lower := (Bool.or_eq_true _ _).mp letter
    · exact toNat_lt_of_val_le (of_decide_eq_true upper).2 (by decide)
    · exact toNat_lt_of_isSmall ((Bool.or_eq_true _ _).mpr (.inl lower))
  · exact toNat_lt_of_isSmall ((Bool.or_eq_true _ _).mpr (.inr digit))

theorem isSmall_toLower (kept : isKept c) : isSmall c.toLower := by
  have ascii := kept_ascii ⟨c.toNat, toNat_lt_of_isKept kept⟩
  simp only [Char.ofNat_toNat] at ascii
  exact ascii kept

theorem isKept_of_isSmall (small : isSmall c) : isKept c ∧ c.toLower = c := by
  have ascii := small_ascii ⟨c.toNat, toNat_lt_of_isSmall small⟩
  simp only [Char.ofNat_toNat] at ascii
  exact ascii small

/-! ### Joining -/

theorem joined_joinFrom (afterHyphen : Bool) (cs : List Char) :
    Joined afterHyphen (joinFrom afterHyphen cs) := by
  induction cs generalizing afterHyphen with
  | nil => exact .nil
  | cons c rest ih =>
    rw [joinFrom]
    split
    next kept => exact .small (isSmall_toLower kept) (ih false)
    next =>
      cases afterHyphen with
      | false => exact .hyphen (ih true)
      | true => exact ih true

/-- What is joined already is left as it is. -/
theorem Joined.joinFrom_eq (joined : Joined afterHyphen cs) : joinFrom afterHyphen cs = cs := by
  induction joined with
  | nil => rfl
  | small small _ ih =>
    obtain ⟨kept, lower⟩ := isKept_of_isSmall small
    rw [joinFrom, if_pos kept, lower, ih]
  | hyphen _ ih =>
    rw [joinFrom, if_neg (by decide), ih]
    rfl

theorem not_joined_hyphen : ¬ Joined true ('-' :: cs) := by
  rintro (_ | ⟨small, _⟩)
  exact absurd small (by decide)

theorem Joined.chars (joined : Joined afterHyphen cs) (mem : c ∈ cs) : isSmall c ∨ c = '-' := by
  induction joined with
  | nil => cases mem
  | small small _ ih =>
    obtain rfl | later := List.mem_cons.mp mem
    · exact .inl small
    · exact ih later
  | hyphen _ ih =>
    obtain rfl | later := List.mem_cons.mp mem
    · exact .inr rfl
    · exact ih later

theorem Joined.single (joined : Joined afterHyphen cs) : ¬ ['-', '-'] <:+: cs := by
  induction joined with
  | nil => simp
  | small small _ ih =>
    rintro within
    obtain ⟨_, start⟩ | later := List.infix_cons_iff.mp within
    · cases start
      exact absurd small (by decide)
    · exact ih later
  | hyphen joined ih =>
    rintro within
    obtain ⟨_, start⟩ | later := List.infix_cons_iff.mp within
    · cases start
      exact not_joined_hyphen joined
    · exact ih later

theorem Joined.front (joined : Joined true cs) : cs.head? ≠ some '-' := by
  cases joined with
  | nil => nofun
  | small small _ =>
    rintro ⟨⟩
    exact absurd small (by decide)

theorem Joined.dropLast (joined : Joined afterHyphen cs) : Joined afterHyphen cs.dropLast := by
  induction joined with
  | nil => exact .nil
  | small small joined ih =>
    cases joined with
    | nil => exact .nil
    | small | hyphen => exact .small small ih
  | hyphen joined ih =>
    cases joined with
    | nil => exact .nil
    | small => exact .hyphen ih

/-! ### Slugs -/

/-- One hyphen is dropped at the end, and there is no other in front of it. -/
theorem isSlug_dropHyphen (joined : Joined true cs) : IsSlug (dropHyphen cs) := by
  unfold dropHyphen
  split
  next last =>
    obtain ⟨rest, rfl⟩ := List.getLast?_eq_some_iff.mp (beq_iff_eq.mp last)
    have shorter := joined.dropLast
    rw [List.dropLast_concat] at shorter ⊢
    refine ⟨fun c => shorter.chars, shorter.single, shorter.front, fun hyphen => ?_⟩
    obtain ⟨more, rfl⟩ := List.getLast?_eq_some_iff.mp hyphen
    exact joined.single ⟨more, [], by simp⟩
  next other =>
    exact ⟨fun c => joined.chars, joined.single, joined.front, fun last => other (by simp [last])⟩

theorem isSlug_slugWith (spelling? : Char → Option (List Char)) (cs : List Char) :
    IsSlug (slugWith spelling? cs) :=
  isSlug_dropHyphen (joined_joinFrom true _)

namespace IsSlug

/-- A slug is joined, from its first character on. -/
theorem joined (slug : IsSlug cs) : Joined true cs := by
  -- The rest of a slug may start with a hyphen, unless one stands in front of it.
  have tail : ∀ {afterHyphen : Bool} {cs : List Char}, (∀ c ∈ cs, isSmall c ∨ c = '-') →
      ¬ ['-', '-'] <:+: cs → (afterHyphen = true → cs.head? ≠ some '-') → Joined afterHyphen cs := by
    intro afterHyphen cs
    induction cs generalizing afterHyphen with
    | nil => exact fun _ _ _ => .nil
    | cons c rest ih =>
      intro chars single front
      have later := fun c mem => chars c (List.mem_cons_of_mem _ mem)
      have apart : ¬ ['-', '-'] <:+: rest := fun within => single (List.infix_cons within)
      obtain small | rfl := chars c List.mem_cons_self
      · exact .small small (ih later apart nofun)
      · cases afterHyphen with
        | true => exact absurd rfl (front rfl)
        | false =>
          refine .hyphen (ih later apart fun _ hyphen => single ?_)
          obtain ⟨more, rfl⟩ := List.head?_eq_some_iff.mp hyphen
          exact ⟨[], more, rfl⟩
  exact tail slug.chars slug.single fun _ => slug.front

theorem toNat_lt (slug : IsSlug cs) (mem : c ∈ cs) : c.toNat < 0x80 := by
  obtain small | rfl := slug.chars c mem
  · exact toNat_lt_of_isSmall small
  · decide

/-- A slug is its own slug. -/
theorem slugWith_eq (slug : IsSlug cs) (spelling? : Char → Option (List Char)) :
    slugWith spelling? cs = cs := by
  have plain : (cs.flatMap fun c => if c.toNat < 0x80 then [c] else (spelling? c).getD ['-']) =
      cs := by
    calc cs.flatMap (fun c => if c.toNat < 0x80 then [c] else (spelling? c).getD ['-'])
      _ = cs.flatMap (fun c => [c]) :=
        List.flatMap_congr fun c mem => if_pos (slug.toNat_lt mem)
      _ = cs := List.flatMap_singleton' cs
  have ended : ¬ (cs.getLast? == some '-') := fun last => slug.back (beq_iff_eq.mp last)
  rw [slugWith, plain, slug.joined.joinFrom_eq, dropHyphen, if_neg ended]

/-- No character of a slug has a meaning in a path. -/
theorem notMem {marked : Char} (slug : IsSlug cs) (mark : marked ∈ ['/', '.', '\x00']) :
    marked ∉ cs := by
  intro mem
  obtain small | rfl := slug.chars marked mem
  · simp only [List.mem_cons, List.not_mem_nil, or_false] at mark
    obtain rfl | rfl | rfl := mark <;> exact absurd small (by decide)
  · exact absurd mark (by decide)

end IsSlug

/-- Put into a name, a slug changes one piece of it, which becomes no name of a directory by that. -/
theorem IsSlug.splitSlashes_around (slug : IsSlug cs) (front back : List Char) :
    ∃ before last first after,
      splitSlashes (front ++ back) = before ++ (last ++ first) :: after ∧
        splitSlashes (front ++ cs ++ back) = before ++ (last ++ cs ++ first) :: after ∧
        (last ++ cs ++ first ∈ [['.'], ['.', '.']] → cs = []) := by
  obtain ⟨before, last, first, after, around⟩ := exists_splitSlashes_around front back
  have without := around [] (by simp)
  rw [List.append_nil, List.append_nil] at without
  refine ⟨before, last, first, after, without, around cs (slug.notMem (by simp)), fun dots => ?_⟩
  by_contra nonempty
  obtain ⟨c, rest, rfl⟩ := List.exists_cons_of_ne_nil nonempty
  have dot : c ≠ '.' := by
    rintro rfl
    exact slug.notMem (by simp) List.mem_cons_self
  have within : c ∈ last ++ c :: rest ++ first := by simp
  simp only [List.mem_cons, List.not_mem_nil, or_false] at dots
  obtain dots | dots := dots <;> rw [dots] at within <;> simp [dot] at within

/-- Whatever the table of spellings, a slug has only small ASCII letters, digits and single hyphens
between them, and is its own slug. Put into a name it adds no slash and no zero character: the name
has the pieces it would have without the slug, but for the one that the slug becomes part of, and
that one is neither of the names of directories, unless nothing is put in. The filter gives the slug
of the text that is shown for its value. -/
theorem slug_part_of_name (spelling? : Char → Option (List Char)) (cs : List Char) :
    let part := slugWith spelling? cs
    IsSlug part ∧ slugWith spelling? part = part ∧ (∀ c ∈ ['/', '.', '\x00'], c ∉ part) ∧
      (∀ front back, ∃ before last first after,
        splitSlashes (front ++ back) = before ++ (last ++ first) :: after ∧
          splitSlashes (front ++ part ++ back) = before ++ (last ++ part ++ first) :: after ∧
          (last ++ part ++ first ∈ [['.'], ['.', '.']] → part = [])) ∧
      ∀ (escaping : Bool) (v : Template.Value), v.display.toList = cs →
        Template.Filter.apply escaping "slugify" [v] = .ok (.ofChars (slug cs)) := by
  intro part
  have isSlug : IsSlug part := isSlug_slugWith spelling? cs
  refine ⟨isSlug, isSlug.slugWith_eq spelling?, fun c mark => isSlug.notMem mark,
    isSlug.splitSlashes_around, ?_⟩
  rintro escaping v rfl
  exact Template.Filter.ofShown_singleton slug v

/-- A way upwards that ends in an accented letter. -/
theorem slug_part_of_name_dots :
    slug "../../\x00É".toList = ['e'] ∧
      Template.Filter.apply false "slugify" [.ofString "../../\x00É"] = .ok (.ofChars ['e']) := by
  have value : slug "../../\x00É".toList = ['e'] := by decide +kernel
  obtain ⟨-, -, -, -, filtered⟩ :=
    slug_part_of_name Transliteration.spelling? "../../\x00É".toList
  exact ⟨value, value ▸ filtered false (.ofString "../../\x00É") rfl⟩

end FormLetter.Text.Slug
