import MailAuth.Proofs.Text.Trimmed
import MailAuth.Property

/-!
# Reading a property

A token with an equals sign spells one property (`Property.Spells`), and that property is read
(`Property.read_eq_ok_iff`). It is settled: there is nothing left to split off, to trim or to
lower-case (`Property.Spells.settled`). The settled properties are those that are read from their
own key and value (`Property.read_append_eq_self_iff`), so reading a second time changes nothing
(`Property.read_settles`).
-/

namespace MailAuth

open Text

namespace Property

/-- The token spells the property. What stands before its first equals sign is the key, in whatever
case, and what stands after it is the value. Blanks around the two belong to neither. -/
def Spells (token : String) (p : Property) : Prop :=
  ∃ left name right, token = left ++ "=" ++ right ∧ '=' ∉ left.toList ∧
    (Padded left name ∧ Trimmed name ∧ p.key = lowercase name) ∧
    Padded right p.value ∧ Trimmed p.value

/-- A property as it is kept. The key is in lower case, no equals sign is in it, and there are no
blanks at the ends of the key or of the value. -/
structure Settled (p : Property) : Prop where
  unassigned : '=' ∉ p.key.toList
  lower : lowercase p.key = p.key
  key : Trimmed p.key
  value : Trimmed p.value

variable {token key value : String} {p : Property}

/-! ### What is read -/

/-- A property is read at its first equals sign. -/
theorem read_append (h : '=' ∉ key.toList) (value : String) :
    read (key ++ "=" ++ value) = .ok ⟨lowercase (trim key), trim value⟩ := by
  have : splitFirst '=' (key ++ "=" ++ value) = some (key, value) := splitFirst_append h value
  rw [read, this]

/-- Only a token without an equals sign is refused. -/
theorem exists_read_eq_ok_iff : (∃ p, read token = .ok p) ↔ '=' ∈ token.toList := by
  constructor
  · rintro ⟨p, h⟩
    refine Decidable.byContradiction fun bare => ?_
    rw [read_eq_error_iff.2 ⟨bare, rfl⟩] at h
    cases h
  · intro assigned
    cases h : read token with
    | error e => exact absurd assigned (read_eq_error_iff.1 h).1
    | ok p => exact ⟨p, rfl⟩

theorem mem_of_read_eq_ok (h : read token = .ok p) : '=' ∈ token.toList :=
  exists_read_eq_ok_iff.1 ⟨p, h⟩

/-- What is read from a token is what it spells. -/
theorem read_eq_ok_iff : read token = .ok p ↔ Spells token p := by
  constructor
  · intro h
    cases cut : splitFirst '=' token with
    | none => exact absurd (mem_of_read_eq_ok h) (splitFirst_eq_none_iff.1 cut)
    | some found =>
      obtain ⟨left, right⟩ := found
      obtain ⟨chars, bare⟩ := splitFirst_eq_some_iff.1 cut
      have joined : token = left ++ "=" ++ right := by
        rw [← String.toList_inj, chars]
        simp
      rw [joined, read_append bare] at h
      obtain rfl := Except.ok.inj h
      exact ⟨left, trim left, right, joined, bare,
        ⟨padded_trim left, trimmed_trim left, rfl⟩, padded_trim right, trimmed_trim right⟩
  · rintro ⟨left, name, right, rfl, bare, ⟨inLeft, trimmed, lower⟩, inRight, trimmed'⟩
    rw [read_append bare, trim_eq_iff.2 ⟨inLeft, trimmed⟩, trim_eq_iff.2 ⟨inRight, trimmed'⟩,
      ← lower]

/-! ### Settled properties -/

/-- What a token spells is settled: lower-casing the key brings in no equals sign, and no blank at
the ends. -/
theorem Spells.settled (h : Spells token p) : p.Settled := by
  obtain ⟨left, name, right, -, bare, ⟨inLeft, trimmed, lower⟩, -, trimmed'⟩ := h
  have bareName : '=' ∉ name.toList := fun sign => bare (inLeft.mem sign)
  refine ⟨?_, ?_, ?_, trimmed'⟩ <;> rw [lower]
  · exact not_mem_lowercase (by decide) bareName
  · exact lowercase_lowercase name
  · exact trimmed.lowercase

/-- The key and the value of a settled property, joined, spell the property. -/
theorem Settled.spells (h : p.Settled) : Spells (p.key ++ "=" ++ p.value) p :=
  ⟨p.key, p.key, p.value, rfl, h.unassigned, ⟨padded_self p.key, h.key, h.lower.symm⟩,
    padded_self p.value, h.value⟩

/-- Exactly the settled properties are read from their own key and value. -/
theorem read_append_eq_self_iff : read (p.key ++ "=" ++ p.value) = .ok p ↔ p.Settled :=
  read_eq_ok_iff.trans ⟨Spells.settled, Settled.spells⟩

/-- A bare key in lower case and an unbroken value are read as they are. -/
theorem read_lowerBare (named : LowerBare key) (unbroken : Unbroken value) :
    read (key ++ "=" ++ value) = .ok ⟨key, value⟩ := by
  have settled : Settled ⟨key, value⟩ :=
    ⟨named.bare.2, named.lower, named.bare.1.1.trimmed, unbroken.trimmed⟩
  exact read_eq_ok_iff.2 settled.spells

/-- A token without an equals sign is refused as it is. Any other token spells the property that is
read from it; that property is settled, and reading its key and value joined gives it again. -/
theorem read_settles (token : String) :
    (read token = .error (.malformedParameter token) ↔ '=' ∉ token.toList) ∧
      ('=' ∈ token.toList ↔ ∃ p, read token = .ok p ∧ Spells token p ∧ p.Settled ∧
        read (p.key ++ "=" ++ p.value) = .ok p) := by
  refine ⟨?refused, fun assigned => ?spelled, fun ⟨p, h, _⟩ => mem_of_read_eq_ok h⟩
  case refused => rw [read_eq_error_iff, and_iff_left rfl]
  case spelled =>
    obtain ⟨p, h⟩ := exists_read_eq_ok_iff.2 assigned
    have spelled : Spells token p := read_eq_ok_iff.1 h
    exact ⟨p, h, spelled, spelled.settled, read_append_eq_self_iff.2 spelled.settled⟩

/-- The lower case of the key is longer than the key and ends in a final sigma, and the blanks
around it are cut off; the second equals sign belongs to the value. -/
theorem read_settles_sigma :
    '=' ∈ "\u2003ΑİΣ\u00a0= b=c\t".toList ∧
      read "\u2003ΑİΣ\u00a0= b=c\t" = .ok ⟨"αi\u0307ς", "b=c"⟩ ∧
      Settled ⟨"αi\u0307ς", "b=c"⟩ ∧ read "αi\u0307ς=b=c" = .ok ⟨"αi\u0307ς", "b=c"⟩ ∧
      read " b c\t" = .error (.malformedParameter " b c\t") := by
  have assigned : '=' ∈ "\u2003ΑİΣ\u00a0= b=c\t".toList := by decide
  obtain ⟨p, h, -, settled, again⟩ := (read_settles "\u2003ΑİΣ\u00a0= b=c\t").2.1 assigned
  have found : read "\u2003ΑİΣ\u00a0= b=c\t" = .ok ⟨"αi\u0307ς", "b=c"⟩ :=
    read?_eq_some_iff.1 (by decide +kernel)
  obtain rfl := Except.ok.inj (h.symm.trans found)
  exact ⟨assigned, found, settled, again, (read_settles " b c\t").1.2 (by decide)⟩

end Property

end MailAuth
