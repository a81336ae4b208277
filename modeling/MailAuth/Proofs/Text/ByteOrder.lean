/-!
# The order of bytes

Texts are ordered by their code points, and so are the keys of a property map. This is the order of
their bytes in UTF-8 as well (`bytes_lt_bytes_iff`).

A greater code point has more bytes, which shows in the first of them, or it has as many and differs
in a digit to the base 64. Either way the greater code point has the greater byte where the two
differ first, whatever follows (`utf8EncodeChar_append_lt`).
-/

namespace MailAuth.Text

/-- The bytes of a text in UTF-8. -/
def bytes (s : String) : List UInt8 := s.toUTF8.data.toList

theorem bytes_eq (s : String) : bytes s = s.toList.flatMap String.utf8EncodeChar := by
  have encoded : s.toUTF8 = s.toList.utf8Encode := by simp
  rw [bytes, encoded]
  simp [List.utf8Encode]

/-- Numbers are compared by their digits to the base 64, the highest first. -/
theorem digits_lt {m n : Nat} (h : m < n) :
    m / 262144 < n / 262144 ∨ m / 262144 = n / 262144 ∧
      (m / 4096 % 64 < n / 4096 % 64 ∨ m / 4096 % 64 = n / 4096 % 64 ∧
        (m / 64 % 64 < n / 64 % 64 ∨ m / 64 % 64 = n / 64 % 64 ∧ m % 64 < n % 64)) := by
  have step {a b : Nat} (h : a < b) : a / 64 < b / 64 ∨ a / 64 = b / 64 ∧ a % 64 < b % 64 := by
    omega
  have div (k : Nat) : k / 64 / 64 = k / 4096 ∧ k / 4096 / 64 = k / 262144 := by omega
  rcases step h with h | h
  · rcases step h with h | h
    · rw [(div m).1, (div n).1] at h
      rcases step h with h | h <;> rw [(div m).2, (div n).2] at h <;> omega
    · rw [(div m).1, (div n).1] at h
      omega
  · omega

/-- The bytes of a greater character are greater, whatever follows. -/
theorem utf8EncodeChar_append_lt {c d : Char} (h : c < d) (r₁ r₂ : List UInt8) :
    String.utf8EncodeChar c ++ r₁ < String.utf8EncodeChar d ++ r₂ := by
  have h : c.val.toNat < d.val.toNat := h
  have bound : d.val.toNat < 0x110000 := by
    have valid := d.valid
    simp only [UInt32.isValidChar, Nat.isValidChar] at valid
    omega
  simp only [String.utf8EncodeChar]
  generalize c.val.toNat = m at h
  generalize d.val.toNat = n at h bound
  have digits := digits_lt h
  have byte {k : Nat} (h : k < 256) : (UInt8.ofNat k).toNat = k := by
    rw [UInt8.toNat_ofNat']
    omega
  -- One case for each number of bytes of the two. The bounds that `Nat.mod_eq_of_lt` needs come
  -- from the number of bytes.
  repeat' split
  all_goals
    simp (disch := omega) only [List.cons_append, List.nil_append, List.cons_lt_cons_iff,
      UInt8.lt_iff_toNat_lt, ← UInt8.toNat_inj, byte, Nat.mod_eq_of_lt]
    omega

theorem flatMap_utf8EncodeChar_lt {cs ds : List Char} (h : cs < ds) :
    cs.flatMap String.utf8EncodeChar < ds.flatMap String.utf8EncodeChar := by
  induction cs generalizing ds with
  | nil =>
    cases ds with
    | nil => exact absurd h (List.lt_irrefl [])
    | cons d ds =>
      obtain ⟨b, bs, hb⟩ := List.exists_cons_of_ne_nil (String.utf8EncodeChar_ne_nil (c := d))
      rw [List.flatMap_nil, List.flatMap_cons, hb]
      exact List.nil_lt_cons b _
  | cons c cs ih =>
    cases ds with
    | nil => exact absurd h (List.not_lt_nil _)
    | cons d ds =>
      rw [List.flatMap_cons, List.flatMap_cons]
      rcases List.cons_lt_cons_iff.1 h with less | ⟨rfl, rest⟩
      · exact utf8EncodeChar_append_lt less _ _
      · exact List.append_left_lt (ih rest)

variable {s t : String}

/-- The order of the bytes is the order of the code points. -/
theorem bytes_lt_bytes_iff : bytes s < bytes t ↔ s < t := by
  have mono {s t : String} (h : s < t) : bytes s < bytes t := by
    rw [bytes_eq, bytes_eq]
    exact flatMap_utf8EncodeChar_lt h
  constructor
  · intro h
    rcases Std.lt_trichotomy s t with less | same | greater
    · exact less
    · rw [same] at h
      exact absurd h (List.lt_irrefl _)
    · exact absurd h (List.lt_asymm (mono greater))
  · exact mono

theorem bytes_le_bytes_iff : bytes s ≤ bytes t ↔ s ≤ t := by
  rw [← List.not_lt, ← String.not_lt, bytes_lt_bytes_iff]

end MailAuth.Text
