import MailAuth.Text.CaseMapping
import MailAuth.Text.CaseProperties

/-!
# Lower case

Full Unicode lower-casing of a text. Every character has its lower-case form, with one rule for what
stands beside it: capital sigma becomes the final sigma `ς` at the end of a word and `σ` elsewhere.
The end of a word is looked for in the text at hand only.
-/

namespace MailAuth.Text

/-- The first character that is not ignorable is cased. -/
def startsCased (cs : List Char) : Bool :=
  (cs.dropWhile isCaseIgnorable).head?.any isCased

/-- Sigma is final if a cased character comes before it and none after it. The text before is read
backwards, from the sigma. -/
def isFinalSigma (before after : List Char) : Bool :=
  startsCased before && !startsCased after

/-- The lower case of the characters `cs`, which stand after those of `before` (written
backwards). -/
def lowercaseAfter (before : List Char) : List Char → List Char
  | [] => []
  | c :: cs =>
    (if c = 'Σ' then [if isFinalSigma before cs then 'ς' else 'σ'] else lowerForm c) ++
      lowercaseAfter (c :: before) cs

/-- The text in lower case. -/
def lowercase (s : String) : String := String.ofList (lowercaseAfter [] s.toList)

@[simp] theorem toList_lowercase (s : String) :
    (lowercase s).toList = lowercaseAfter [] s.toList := by
  simp [lowercase]

/-- On ASCII, lower-casing changes the capital letters only. -/
theorem lowerForm_of_ascii {c : Char} (h : c.toNat < 128) : lowerForm c = [c.toLower] := by
  have all : ∀ n < 128, lowerForm (Char.ofNat n) = [(Char.ofNat n).toLower] := by decide +kernel
  simpa using all c.toNat h

/-- Where there is no capital sigma, each character is lower-cased for itself. -/
theorem lowercaseAfter_eq_flatMap {before cs : List Char} (h : 'Σ' ∉ cs) :
    lowercaseAfter before cs = cs.flatMap lowerForm := by
  induction cs generalizing before with
  | nil => rfl
  | cons c cs ih =>
    simp only [List.mem_cons, not_or] at h
    simp [lowercaseAfter, Ne.symm h.1, ih h.2]

end MailAuth.Text
