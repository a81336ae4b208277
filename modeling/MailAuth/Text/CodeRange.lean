/-!
# Ranges of code points

A property of characters is written as an ascending list of ranges.
-/

namespace MailAuth.Text

/-- The code points from `first` to `last`, both included. -/
structure CodeRange where
  first : Nat
  last : Nat
  deriving DecidableEq

namespace CodeRange

/-- One of the ranges holds the character. -/
def covers (rs : List CodeRange) (c : Char) : Bool :=
  rs.any fun r => r.first ≤ c.toNat && c.toNat ≤ r.last

/-- No range is empty, and each ends before the next begins. -/
def ascending : List CodeRange → Bool
  | [] => true
  | [r] => r.first ≤ r.last
  | r :: s :: rest => r.first ≤ r.last && r.last < s.first && ascending (s :: rest)

/-- How many code points ascending ranges hold. -/
def count : List CodeRange → Nat
  | [] => 0
  | r :: rest => (r.last + 1 - r.first) + count rest

theorem covers_iff {rs : List CodeRange} {c : Char} :
    covers rs c ↔ ∃ r ∈ rs, r.first ≤ c.toNat ∧ c.toNat ≤ r.last := by
  simp [covers]

end CodeRange

end MailAuth.Text
