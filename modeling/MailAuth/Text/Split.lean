/-!
# Cutting a text at a character

Every occurrence of a separator cuts (`parts`), or the first one only (`splitFirst`), or a given
text is cut from the front (`after?`).
-/

namespace MailAuth.Text

/-! ### At every separator -/

/-- The texts between the separators, in order; there is one more of them than of separators. -/
def parts (sep : Char) (s : String) : List String := (s.toList.splitOn sep).map String.ofList

theorem parts_ne_nil (sep : Char) (s : String) : parts sep s ≠ [] := by
  simp [parts, List.splitOn_ne_nil]

/-- Texts joined by a separator are cut where they were joined. -/
theorem parts_append (sep : Char) (s t : String) :
    parts sep (s ++ String.singleton sep ++ t) = parts sep s ++ parts sep t := by
  simp [parts, List.splitOn_append_cons_self]

/-! ### At the first separator -/

/-- The characters before and after the first separator, if there is one. -/
def cutFirst (sep : Char) : List Char → Option (List Char × List Char)
  | [] => none
  | c :: cs => if c = sep then some ([], cs) else (cutFirst sep cs).map fun (a, b) => (c :: a, b)

/-- What stands before and after the first separator, if there is one. -/
def splitFirst (sep : Char) (s : String) : Option (String × String) :=
  (cutFirst sep s.toList).map fun (a, b) => (String.ofList a, String.ofList b)

theorem cutFirst_eq_none_iff {sep : Char} {cs : List Char} :
    cutFirst sep cs = none ↔ sep ∉ cs := by
  induction cs with
  | nil => simp [cutFirst]
  | cons c cs ih =>
    by_cases h : c = sep
    · simp [cutFirst, h]
    · simp [cutFirst, h, ih, Ne.symm h]

theorem cutFirst_eq_some_iff {sep : Char} {cs a b : List Char} :
    cutFirst sep cs = some (a, b) ↔ cs = a ++ sep :: b ∧ sep ∉ a := by
  induction cs generalizing a with
  | nil => simp [cutFirst]
  | cons c cs ih =>
    by_cases h : c = sep
    · cases a with
      | nil => simp [cutFirst, h]
      | cons d a => simp [cutFirst, h]; grind
    · cases a with
      | nil => simp [cutFirst, h]
      | cons d a => simp [cutFirst, h, ih]; grind

theorem splitFirst_eq_none_iff {sep : Char} {s : String} :
    splitFirst sep s = none ↔ sep ∉ s.toList := by
  simp [splitFirst, cutFirst_eq_none_iff]

theorem splitFirst_eq_some_iff {sep : Char} {s a b : String} :
    splitFirst sep s = some (a, b) ↔
      s.toList = a.toList ++ sep :: b.toList ∧ sep ∉ a.toList := by
  rw [← cutFirst_eq_some_iff]
  simp only [splitFirst, Option.map_eq_some_iff, Prod.mk.injEq, Prod.exists]
  constructor
  · rintro ⟨x, y, h, rfl, rfl⟩
    simpa using h
  · exact fun h => ⟨_, _, h, by simp, by simp⟩

/-! ### From the front -/

/-- What follows `start` in a text that begins with it. -/
def after? (start s : String) : Option String :=
  (start.toList.isPrefixOf? s.toList).map String.ofList

theorem isPrefixOf?_eq_some_iff {a s r : List Char} : a.isPrefixOf? s = some r ↔ s = a ++ r := by
  induction a generalizing s with
  | nil => exact ⟨Option.some.inj, congrArg some⟩
  | cons c a ih =>
    cases s with
    | nil => exact ⟨nofun, nofun⟩
    | cons d s =>
      have step : (c :: a).isPrefixOf? (d :: s) = if c == d then a.isPrefixOf? s else none := rfl
      rw [step, List.cons_append, List.cons.injEq]
      by_cases same : c = d
      · rw [if_pos (beq_iff_eq.2 same), ih, eq_comm (a := d)]
        exact (and_iff_right same).symm
      · rw [if_neg (by simpa using same)]
        exact ⟨nofun, fun h => absurd h.1.symm same⟩

theorem after?_eq_some_iff {start s r : String} : after? start s = some r ↔ s = start ++ r := by
  simp only [after?, Option.map_eq_some_iff, isPrefixOf?_eq_some_iff]
  constructor
  · rintro ⟨cs, h, rfl⟩
    simp [← String.toList_inj, h]
  · rintro rfl
    exact ⟨r.toList, by simp⟩

end MailAuth.Text
