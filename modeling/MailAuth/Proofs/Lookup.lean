import Mathlib.Data.List.Find
import MailAuth.Proofs.ReadHeader

/-!
# Looking a result up

A result is looked up by the name of its method, and three foldings meet there: reading lowers the
name by the rules of Unicode, while the known methods and the look-up fold the letters A to Z only.
In a header that was read they agree (`Header.find?_of_read`). A known name finds the first result
of its method, and no result of an unknown method stands in the way. Any other name finds the first
result of an unknown method that has just this name, with A to Z in lower case.
-/

namespace MailAuth

open Text

/-- A name in lower case is the same as another name exactly if folding makes it of the other. -/
theorem Text.sameName_iff_eq_foldAscii {a b : String} (lower : lowercase a = a) :
    sameName a b ↔ a = foldAscii b := by
  rw [sameName, foldAscii_of_lowercase lower, beq_iff_eq]

theorem Text.sameName_trans {a b c : String} (h₁ : sameName a b) (h₂ : sameName b c) :
    sameName a c :=
  sameName_iff.2 ((sameName_iff.1 h₁).trans (sameName_iff.1 h₂))

namespace Result

variable {r : Result} {query : String}

/-- The results with the name of a known method are those of the method. -/
theorem Normal.sameName_iff_knownMethod? (h : r.Normal) {known : Method}
    (named : sameName known.name query) :
    sameName r.method query ↔ r.evidence.knownMethod? = some known := by
  have folded : known.name = foldAscii query :=
    (sameName_iff_eq_foldAscii known.lowerBare_name.lower).1 named
  have lower : lowercase r.method = r.method := h.names.method.lower
  rw [sameName_iff_eq_foldAscii lower, ← folded]
  constructor
  · intro name
    rw [← h.names.ofName?, ← Method.ofName?_name known, ← name]
    rfl
  · exact Evidence.method_eq_name

/-- The results with the name of no known method are those of an unknown method that has the folded
name. -/
theorem Normal.sameName_iff_method_eq (h : r.Normal)
    (unknown : ∀ known ∈ Method.all, ¬ sameName known.name query) :
    sameName r.method query ↔ r.evidence.knownMethod? = none ∧ r.method = foldAscii query := by
  have folded : sameName r.method query ↔ r.method = foldAscii query :=
    sameName_iff_eq_foldAscii h.names.method.lower
  rw [← folded]
  refine ⟨fun named => ⟨?_, named⟩, And.right⟩
  rw [← h.names.ofName?, Method.ofName?_eq_none_iff]
  exact fun known mem same => unknown known mem (sameName_trans same named)

end Result

namespace Header

variable {s : String} {h : Header}

/-- In a header that was read, a known name finds the first result of its method, however it is
spelled, and any other name the first result of an unknown method with the folded name. -/
theorem find?_of_read (given : h = read s ∨ h = readArc s) (query : String) :
    (∀ known : Method, sameName known.name query →
        h.find? query = h.results.find? fun r => r.evidence.knownMethod? = some known) ∧
      ((∀ known ∈ Method.all, ¬ sameName known.name query) →
        h.find? query = h.results.find? fun r =>
          r.evidence.knownMethod? = none ∧ r.method = foldAscii query) := by
  have normal : h.Normal := by
    rcases given with given | given <;> rw [given]
    · exact normal_read s
    · exact normal_readArc s
  constructor
  · intro known named
    refine List.find?_congr fun r hr => ?_
    rw [Bool.eq_iff_iff, decide_eq_true_iff]
    exact (normal.results r hr).sameName_iff_knownMethod? named
  · intro unknown
    refine List.find?_congr fun r hr => ?_
    rw [Bool.eq_iff_iff, decide_eq_true_iff]
    exact (normal.results r hr).sameName_iff_method_eq unknown

/-- The sign for Kelvin is read as the letter k, in a known name and in an unknown one, and is not
folded where a result is looked up. -/
theorem find?_of_read_kelvin :
    (readArc "i=1; mx; X-\u212A=ok; D\u212AIM=pass; dkim=fail").find? "DKim" =
        some ⟨.pass, .dkim "" "" ""⟩ ∧
      (readArc "i=1; mx; X-\u212A=ok; D\u212AIM=pass; dkim=fail").find? "d\u212Aim" = none ∧
      (readArc "i=1; mx; X-\u212A=ok; D\u212AIM=pass; dkim=fail").find? "x-K" =
        some ⟨.other "ok", .generic "x-k" .empty⟩ := by
  have find := @find?_of_read "i=1; mx; X-\u212A=ok; D\u212AIM=pass; dkim=fail" _ (.inr rfl)
  refine ⟨?_, ?_, ?_⟩
  · rw [(find "DKim").1 .dkim (by decide)]
    decide
  · rw [(find "d\u212Aim").2 (by decide)]
    decide
  · rw [(find "x-K").2 (by decide)]
    decide

end Header

end MailAuth
