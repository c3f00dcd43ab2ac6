import FormLetter.Proofs.Decimal.Bounded
import FormLetter.Template.Filter

/-!
Filters that work on the text output shows for a value. Applied by name to the value and whole
numbers that fit, such a filter gives what its function gives for that text.
-/
namespace FormLetter.Template

/-! ### Taking arguments -/

namespace Take

variable {α β : Type} {arguments rest : List Value}

theorem bind_of_ok {x : Take α} {f : α → Take β} {a : α} (first : x arguments = .ok (a, rest)) :
    (x >>= f) arguments = f a rest := by
  change x arguments >>= (fun taken => f taken.1 taken.2) = _
  rw [first]
  rfl

theorem all_of_ok {take : Take α} {a : α} (taken : take arguments = .ok (a, [])) :
    all take arguments = .ok a := by
  have ended : (take >>= fun a => done >>= fun _ => pure a) arguments = .ok (a, []) :=
    bind_of_ok taken
  change (·.1) <$> (take >>= fun a => done >>= fun _ => pure a) arguments = _
  rw [ended]
  rfl

theorem as_of_ok {convert : Value → Except Error α} {v : Value} {a : α}
    (converted : convert v = .ok a) : as convert (v :: rest) = .ok (a, rest) := by
  change convert v >>= (fun a => Except.ok (a, rest)) = _
  rw [converted]
  rfl

theorem optional_of_ok {convert : Value → Except Error α} {v : Value} {a : Option α}
    (converted : v.optionally convert = .ok a) :
    optional convert (v :: rest) = .ok (a, rest) := by
  change v.optionally convert >>= (fun a => Except.ok (a, rest)) = _
  rw [converted]
  rfl

end Take

namespace Value

variable {v : Value} {n : Int}

theorem asIntWithin_of_whole? (held : v.whole? = some n) {low high : Int} (type : String)
    (fits : low ≤ n ∧ n ≤ high) : v.asIntWithin type low high = .ok n := by
  rw [asIntWithin, held]
  exact if_pos fits

theorem asInt64_of_whole? (held : v.whole? = some n) (fits : Decimal.IsSigned64 n) :
    v.asInt64 = .ok n :=
  asIntWithin_of_whole? held "i64" fits

theorem asSize_of_whole? {size : Nat} (held : v.whole? = some (size : Int))
    (fits : (size : Int) ≤ Decimal.maxUnsigned64) : v.asSize = .ok size := by
  rw [asSize, asIntWithin_of_whole? held "usize" ⟨Int.natCast_nonneg size, fits⟩]
  rfl

theorem optionally_of_whole? {α : Type} {convert : Value → Except Error α} {a : α}
    (held : v.whole? = some n) (converted : convert v = .ok a) :
    v.optionally convert = .ok (some a) := by
  have given : v.optionally convert = (convert v).map some := by
    cases v <;> first | rfl | cases held
  rw [given, converted]
  rfl

end Value

/-- Arguments that end in a whole number of 64 bits, or in one that is left out or has no value. -/
inductive EndsIn : List Value → Option Int → Prop
  | absent : EndsIn [] none
  | undefined : EndsIn [.undefined] none
  | none : EndsIn [.none] none
  | given {v : Value} {n : Int} : v.whole? = some n → Decimal.IsSigned64 n → EndsIn [v] (some n)

theorem EndsIn.optional_eq {rest : List Value} {stop : Option Int} (ends : EndsIn rest stop) :
    Take.optional Value.asInt64 rest = .ok (stop, []) := by
  cases ends with
  | absent | undefined | none => rfl
  | given held fits =>
    exact Take.optional_of_ok
      (Value.optionally_of_whole? held (Value.asInt64_of_whole? held fits))

theorem EndsIn.isSigned64 {rest : List Value} {stop : Option Int} (ends : EndsIn rest stop) :
    ∀ n ∈ stop, Decimal.IsSigned64 n := by
  rintro n ⟨⟩
  cases ends with
  | given _ fits => exact fits

/-! ### Filters -/

namespace Filter

theorem shown_cons (v : Value) (rest : List Value) :
    shown (v :: rest) = .ok (v.display.toList, rest) :=
  rfl

theorem ofShown_singleton (f : List Char → List Char) (v : Value) :
    ofShown f [v] = .ok (.ofChars (f v.display.toList)) :=
  rfl

theorem ofWidth_of_size (f : List Char → Nat → List Char) (v : Value) {w : Value} {size : Nat}
    (converted : w.asSize = .ok size) :
    ofWidth f [v, w] = .ok (.ofChars (f v.display.toList size)) :=
  Take.all_of_ok <| (Take.bind_of_ok (shown_cons v [w])).trans <|
    Take.bind_of_ok (Take.as_of_ok converted)

theorem substr_of_whole? (v : Value) {a : Value} {rest : List Value} {start : Int}
    {stop : Option Int} (held : a.whole? = some start) (fits : Decimal.IsSigned64 start)
    (ends : EndsIn rest stop) :
    substr (v :: a :: rest) = .ok (.ofChars (Text.excerpt v.display.toList start stop)) :=
  Take.all_of_ok <| (Take.bind_of_ok (shown_cons v (a :: rest))).trans <|
    (Take.bind_of_ok (Take.as_of_ok (Value.asInt64_of_whole? held fits))).trans <|
      Take.bind_of_ok ends.optional_eq

theorem atoi_singleton (v : Value) :
    atoi [v] = .ok (.ofInt (Decimal.lenientInt v.display.toList)) :=
  rfl

end Filter

end FormLetter.Template
