import MailAuth.Text.Lowercase

/-!
# Verdicts

A verdict is the outcome that a method reports. Nine words are reserved for the verdicts with a
meaning of their own; any other word is kept in lower case.
-/

namespace MailAuth

/-- The outcome of one authentication method. -/
inductive Verdict where
  | none
  | pass
  | fail
  | policy
  | neutral
  | tempError
  | permError
  | hardFail
  | softFail
  /-- A word that is not reserved. -/
  | other (word : String)
  deriving DecidableEq

namespace Verdict

/-- Where nothing is reported, the verdict is `none`. -/
instance : Inhabited Verdict := ⟨.none⟩

/-- The word for a verdict. -/
def text : Verdict → String
  | .none => "none"
  | .pass => "pass"
  | .fail => "fail"
  | .policy => "policy"
  | .neutral => "neutral"
  | .tempError => "temperror"
  | .permError => "permerror"
  | .hardFail => "hardfail"
  | .softFail => "softfail"
  | .other word => word

/-- The verdicts that have a reserved word. -/
def reserved : List Verdict :=
  [.none, .pass, .fail, .policy, .neutral, .tempError, .permError, .hardFail, .softFail]

/-- The verdict that a word in lower case stands for. -/
def ofLowercase (word : String) : Verdict :=
  (reserved.find? (·.text == word)).getD (.other word)

/-- The verdict that a word stands for, in whatever case it is written. -/
def ofText (s : String) : Verdict := ofLowercase (Text.lowercase s)

/-- Only `pass` is a success. -/
def isPass (v : Verdict) : Bool := v == .pass

@[simp] theorem text_ofLowercase (word : String) : (ofLowercase word).text = word := by
  unfold ofLowercase
  cases h : reserved.find? (·.text == word) with
  | none => rfl
  | some v => simpa using List.find?_some h

@[simp] theorem text_ofText (s : String) : (ofText s).text = Text.lowercase s :=
  text_ofLowercase _

theorem ofLowercase_text {v : Verdict} (h : v ∈ reserved) : ofLowercase v.text = v := by
  revert v
  decide

end Verdict

end MailAuth
