import MailAuth.Text.CodeRange

/-!
# Blanks

The blanks are the characters with the Unicode property `White_Space`. They separate the words of a
text, and they are cut from its ends.
-/

namespace MailAuth.Text

/-- The characters with the property `White_Space`. -/
def blankRanges : List CodeRange := [
  ⟨0x0009, 0x000D⟩, ⟨0x0020, 0x0020⟩, ⟨0x0085, 0x0085⟩, ⟨0x00A0, 0x00A0⟩, ⟨0x1680, 0x1680⟩,
  ⟨0x2000, 0x200A⟩, ⟨0x2028, 0x2029⟩, ⟨0x202F, 0x202F⟩, ⟨0x205F, 0x205F⟩, ⟨0x3000, 0x3000⟩]

/-- The property `White_Space`. -/
def isBlank (c : Char) : Bool := CodeRange.covers blankRanges c

example : CodeRange.count blankRanges = 25 ∧ CodeRange.ascending blankRanges := by decide

/-! ### Cutting blanks from the ends -/

/-- The characters without the blanks at both ends. -/
def trimBlanks (cs : List Char) : List Char :=
  ((cs.dropWhile isBlank).reverse.dropWhile isBlank).reverse

/-- The text without the blanks at both ends. -/
def trim (s : String) : String := String.ofList (trimBlanks s.toList)

@[simp] theorem toList_trim (s : String) : (trim s).toList = trimBlanks s.toList := by
  simp [trim]

/-! ### Words -/

/-- The longest runs of characters that are not blank, in order. -/
def blankFree (cs : List Char) : List (List Char) :=
  (cs.splitOnP isBlank).filter (!·.isEmpty)

/-- The words of a text: its longest runs without a blank, in order. -/
def words (s : String) : List String := (blankFree s.toList).map String.ofList

@[simp] theorem blankFree_nil : blankFree [] = [] := by simp [blankFree, List.splitOnP_nil]

/-- A blank separates the words before it from those after it. -/
theorem blankFree_append_cons {b : Char} (h : isBlank b) (cs ds : List Char) :
    blankFree (cs ++ b :: ds) = blankFree cs ++ blankFree ds := by
  rw [blankFree, List.splitOnP_append_cons cs ds h, List.filter_append]
  rfl

/-- A blank in front belongs to no word. -/
theorem blankFree_cons {b : Char} (h : isBlank b) (cs : List Char) :
    blankFree (b :: cs) = blankFree cs := by
  simpa using blankFree_append_cons h [] cs

/-- Characters without a blank among them are one word. -/
theorem blankFree_of_forall {cs : List Char} (hne : cs ≠ []) (h : ∀ c ∈ cs, isBlank c = false) :
    blankFree cs = [cs] := by
  rw [blankFree, List.splitOnP_eq_singleton h]
  simp [hne]

end MailAuth.Text
