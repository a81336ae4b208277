/-!
# Unsigned numbers

An unsigned number is one or more ASCII digits, of which any may be zero, perhaps after a plus sign.
Numbers have 32 bits. Reading goes digit by digit and ends where there is no room for the number, so
the number that is read is exactly the one that is written (`number?_eq_some_iff`), however many
digits there are.
-/

namespace MailAuth.Text

/-- The first number that has no room in 32 bits. -/
def numberBound : Nat := UInt32.size

/-- The digits of a number: all of its characters but a plus sign in front. -/
def numberDigits : List Char → List Char
  | '+' :: digits => digits
  | digits => digits

/-- The number `n` with one more digit, if `c` is a digit and there is room. -/
def appendDigit? (n : Nat) (c : Char) : Option Nat :=
  let next := 10 * n + (c.toNat - '0'.toNat)
  if c.isDigit ∧ next < numberBound then some next else none

/-- The number that the text writes in decimal. -/
def number? (s : String) : Option Nat :=
  let digits := numberDigits s.toList
  if digits = [] then none else digits.foldlM appendDigit? 0

variable {c : Char} {cs : List Char} {n m : Nat}

theorem appendDigit?_eq_some_iff :
    appendDigit? n c = some m ↔
      c.isDigit ∧ m = 10 * n + (c.toNat - '0'.toNat) ∧ m < numberBound := by
  simp only [appendDigit?, Option.ite_none_right_eq_some, Option.some.injEq]
  constructor
  · rintro ⟨⟨digit, room⟩, rfl⟩
    exact ⟨digit, rfl, room⟩
  · rintro ⟨digit, rfl, room⟩
    exact ⟨⟨digit, room⟩, rfl⟩

/-- More digits make no number smaller. -/
theorem le_ofDigitChars (cs : List Char) (n : Nat) : n ≤ Nat.ofDigitChars 10 cs n := by
  induction cs generalizing n with
  | nil => simp
  | cons c cs ih =>
    rw [Nat.ofDigitChars_cons]
    have := ih (10 * n + (c.toNat - '0'.toNat))
    omega

/-- Digits are read as the number they write, as long as that number has room: where it has room,
so has every number on the way to it. -/
theorem foldlM_appendDigit?_eq_some_iff (room : n < numberBound) :
    cs.foldlM appendDigit? n = some m ↔
      (∀ c ∈ cs, c.isDigit) ∧ m = Nat.ofDigitChars 10 cs n ∧ m < numberBound := by
  induction cs generalizing n with
  | nil =>
    simp only [List.foldlM_nil, Option.pure_def, Option.some.injEq, Nat.ofDigitChars_nil]
    constructor
    · rintro rfl
      exact ⟨nofun, rfl, room⟩
    · rintro ⟨-, rfl, -⟩
      rfl
  | cons c cs ih =>
    rw [List.foldlM_cons, Option.bind_eq_bind, Option.bind_eq_some_iff, Nat.ofDigitChars_cons,
      List.forall_mem_cons]
    constructor
    · rintro ⟨next, step, rest⟩
      obtain ⟨digit, rfl, room⟩ := appendDigit?_eq_some_iff.1 step
      obtain ⟨digits, rfl, bound⟩ := (ih room).1 rest
      exact ⟨⟨digit, digits⟩, rfl, bound⟩
    · rintro ⟨⟨digit, digits⟩, rfl, bound⟩
      have room := Nat.lt_of_le_of_lt (le_ofDigitChars cs _) bound
      exact ⟨_, appendDigit?_eq_some_iff.2 ⟨digit, rfl, room⟩, (ih room).2 ⟨digits, rfl, bound⟩⟩

/-- A number is read exactly if there are digits, and nothing but digits, and room for the number
they write. -/
theorem number?_eq_some_iff {s : String} :
    number? s = some n ↔
      numberDigits s.toList ≠ [] ∧ (∀ c ∈ numberDigits s.toList, c.isDigit) ∧
        n = Nat.ofDigitChars 10 (numberDigits s.toList) 0 ∧ n < numberBound := by
  simp only [number?, Option.ite_none_left_eq_some]
  rw [foldlM_appendDigit?_eq_some_iff (by decide)]

/-- Before the digits stands a plus sign or nothing. -/
theorem numberDigits_cases (cs : List Char) :
    cs = '+' :: numberDigits cs ∨ cs = numberDigits cs := by
  unfold numberDigits
  split
  · exact .inl rfl
  · exact .inr rfl

/-- Where there are digits only, there is no plus sign to leave out. -/
theorem numberDigits_of_forall (digit : ∀ c ∈ cs, c.isDigit) : numberDigits cs = cs := by
  rcases numberDigits_cases cs with plus | same
  · have mem : '+' ∈ cs := by
      rw [plus]
      exact List.mem_cons_self
    exact absurd (digit '+' mem) (by decide)
  · exact same.symm

/-- A number is read back from its decimal digits. -/
theorem number?_repr (room : n < numberBound) : number? n.repr = some n := by
  have digit : ∀ c ∈ Nat.toDigits 10 n, c.isDigit := fun c hc =>
    Nat.isDigit_of_mem_toDigits (by decide) (by decide) hc
  have chars : numberDigits n.repr.toList = Nat.toDigits 10 n := by
    rw [Nat.repr, String.toList_ofList, numberDigits_of_forall digit]
  rw [number?_eq_some_iff, chars]
  exact ⟨Nat.toDigits_ne_nil, digit, Nat.ofDigitChars_ten_toDigits.symm, room⟩

end MailAuth.Text
