import MailAuth.Text.AsciiCase

/-!
# Methods

The authentication methods whose properties have a meaning of their own. A method is known by its
name, in whatever case its ASCII letters are written.
-/

namespace MailAuth

/-- The methods with evidence of a fixed shape. -/
inductive Method where
  | auth
  | dkim
  | domainKeys
  | ipRev
  | senderId
  | spf
  | dmarc
  deriving DecidableEq

namespace Method

/-- Every method. -/
def all : List Method := [.auth, .dkim, .domainKeys, .ipRev, .senderId, .spf, .dmarc]

/-- The name of a method. -/
def name : Method → String
  | .auth => "auth"
  | .dkim => "dkim"
  | .domainKeys => "domainkeys"
  | .ipRev => "iprev"
  | .senderId => "sender-id"
  | .spf => "spf"
  | .dmarc => "dmarc"

/-- The method with the name, if there is one. -/
def ofName? (name : String) : Option Method := all.find? fun m => Text.sameName m.name name

theorem mem_all (m : Method) : m ∈ all := by cases m <;> decide

theorem ofName?_name (m : Method) : ofName? m.name = some m := by cases m <;> decide

theorem foldAscii_name (m : Method) : Text.foldAscii m.name = m.name := by cases m <;> decide

theorem name_inj {m n : Method} : m.name = n.name ↔ m = n :=
  ⟨fun h => Option.some.inj (by rw [← ofName?_name m, h, ofName?_name n]), fun h => h ▸ rfl⟩

/-- A name belongs to the method whose name it equals but for the case of ASCII letters. -/
theorem ofName?_eq_some_iff {name : String} {m : Method} :
    ofName? name = some m ↔ Text.sameName m.name name := by
  constructor
  · intro h
    simpa using List.find?_some h
  · intro h
    have fold : Text.foldAscii name = m.name := by
      rw [← foldAscii_name m]
      exact (eq_of_beq h).symm
    have same : (fun n : Method => Text.sameName n.name name) =
        fun n => Text.sameName n.name m.name :=
      funext fun n => by rw [Text.sameName, Text.sameName, fold, foldAscii_name m]
    rw [← ofName?_name m, ofName?, ofName?, same]

theorem ofName?_eq_none_iff {name : String} :
    ofName? name = none ↔ ∀ known ∈ all, ¬ Text.sameName known.name name :=
  List.find?_eq_none

end Method

end MailAuth
