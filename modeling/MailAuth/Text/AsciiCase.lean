/-!
# ASCII case

Names are compared without regard to the case of the letters A to Z. No other letter is folded.
-/

namespace MailAuth.Text

/-- The text with `A`–`Z` replaced by `a`–`z`. -/
def foldAscii (s : String) : String := String.ofList (s.toList.map Char.toLower)

/-- The two texts differ in the case of ASCII letters at most. -/
def sameName (a b : String) : Bool := foldAscii a == foldAscii b

@[simp] theorem toList_foldAscii (s : String) :
    (foldAscii s).toList = s.toList.map Char.toLower := by
  simp [foldAscii]

theorem sameName_iff {a b : String} :
    sameName a b ↔ a.toList.map Char.toLower = b.toList.map Char.toLower := by
  simp [sameName, ← String.toList_inj]

@[simp] theorem sameName_self (a : String) : sameName a a := by simp [sameName]

end MailAuth.Text
