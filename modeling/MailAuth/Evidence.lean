import MailAuth.Method
import MailAuth.Properties
import MailAuth.Text.Lowercase

/-!
# Evidence

What a result says besides its verdict. Each known method has fields of its own, every one filled
from the property with a certain key and empty where that property is missing; evidence of any other
method is the property map as it is. `ofProperties` and `properties` go from property maps to
evidence and back.
-/

namespace MailAuth

/-- The method of a result and what the method reports. -/
inductive Evidence where
  | auth (reason account : String)
  | dkim (reason domain identifier : String)
  | domainKeys (reason domain sentFrom sender : String)
  | ipRev (reason ip : String)
  /-- `headerKey` names the header field that was evaluated, `headerValue` is its address. -/
  | senderId (reason headerKey headerValue : String)
  | spf (reason mailFrom helo : String)
  | dmarc (reason headerFrom : String)
  /-- A method without fields of its own. -/
  | generic (method : String) (properties : Properties)
  deriving DecidableEq

namespace Evidence

/-- The first property about a header field, in the order of keys: the name of the field and the
value. Both are empty if there is none. -/
def firstHeader (m : Properties) : String × String :=
  (m.entries.findSome? fun p => (Property.headerName? p.key).map (·, p.value)).getD ("", "")

/-- The evidence of a known method. -/
def ofMethod (method : Method) (m : Properties) : Evidence :=
  match method with
  | .auth => .auth (m.value "reason") (m.value "smtp.auth")
  | .dkim => .dkim (m.value "reason") (m.value "header.d") (m.value "header.i")
  | .domainKeys =>
    .domainKeys (m.value "reason") (m.value "header.d") (m.value "header.from")
      (m.value "header.sender")
  | .ipRev => .ipRev (m.value "reason") (m.value "policy.iprev")
  | .senderId => .senderId (m.value "reason") (firstHeader m).1 (firstHeader m).2
  | .spf => .spf (m.value "reason") (m.value "smtp.mailfrom") (m.value "smtp.helo")
  | .dmarc => .dmarc (m.value "reason") (m.value "header.from")

/-- The evidence of the method with the given name. -/
def ofProperties (name : String) (m : Properties) : Evidence :=
  match Method.ofName? name with
  | some method => ofMethod method m
  | none => .generic name m

/-- The properties that stand for the evidence. A known method has all of its keys, for empty fields
too. -/
def properties : Evidence → Properties
  | .auth reason account => .ofList [⟨"reason", reason⟩, ⟨"smtp.auth", account⟩]
  | .dkim reason domain identifier =>
    .ofList [⟨"reason", reason⟩, ⟨"header.d", domain⟩, ⟨"header.i", identifier⟩]
  | .domainKeys reason domain sentFrom sender =>
    .ofList [⟨"reason", reason⟩, ⟨"header.d", domain⟩, ⟨"header.from", sentFrom⟩,
      ⟨"header.sender", sender⟩]
  | .ipRev reason ip => .ofList [⟨"reason", reason⟩, ⟨"policy.iprev", ip⟩]
  | .senderId reason headerKey headerValue =>
    .ofList [⟨"reason", reason⟩, ⟨"header." ++ Text.lowercase headerKey, headerValue⟩]
  | .spf reason mailFrom helo =>
    .ofList [⟨"reason", reason⟩, ⟨"smtp.mailfrom", mailFrom⟩, ⟨"smtp.helo", helo⟩]
  | .dmarc reason headerFrom => .ofList [⟨"reason", reason⟩, ⟨"header.from", headerFrom⟩]
  | .generic _ m => m

/-- The known method that the evidence belongs to. -/
def knownMethod? : Evidence → Option Method
  | .auth .. => some .auth
  | .dkim .. => some .dkim
  | .domainKeys .. => some .domainKeys
  | .ipRev .. => some .ipRev
  | .senderId .. => some .senderId
  | .spf .. => some .spf
  | .dmarc .. => some .dmarc
  | .generic .. => none

/-- The name of the method. -/
def method : Evidence → String
  | .auth .. => Method.auth.name
  | .dkim .. => Method.dkim.name
  | .domainKeys .. => Method.domainKeys.name
  | .ipRev .. => Method.ipRev.name
  | .senderId .. => Method.senderId.name
  | .spf .. => Method.spf.name
  | .dmarc .. => Method.dmarc.name
  | .generic name _ => name

/-- The reason given for the verdict, empty if none is. -/
def reason : Evidence → String
  | .auth reason .. => reason
  | .dkim reason .. => reason
  | .domainKeys reason .. => reason
  | .ipRev reason .. => reason
  | .senderId reason .. => reason
  | .spf reason .. => reason
  | .dmarc reason .. => reason
  | .generic _ m => m.value "reason"

@[simp] theorem knownMethod?_ofMethod (method : Method) (m : Properties) :
    (ofMethod method m).knownMethod? = some method := by
  cases method <;> rfl

theorem method_eq_name {e : Evidence} {method : Method} (h : e.knownMethod? = some method) :
    e.method = method.name := by
  cases e <;> simp_all [knownMethod?, Evidence.method]

theorem eq_generic_of_knownMethod? {e : Evidence} (h : e.knownMethod? = none) :
    ∃ name m, e = .generic name m := by
  cases e with
  | generic name m => exact ⟨name, m, rfl⟩
  | _ => cases h

theorem eq_senderId_of_knownMethod? {e : Evidence} (h : e.knownMethod? = some .senderId) :
    ∃ reason headerKey headerValue, e = .senderId reason headerKey headerValue := by
  cases e with
  | senderId reason headerKey headerValue => exact ⟨reason, headerKey, headerValue, rfl⟩
  | _ => cases h

/-- Evidence has the name of a known method, or it is a property map. -/
theorem method_cases (e : Evidence) :
    (∃ known : Method, e.method = known.name) ∨ ∃ name m, e = .generic name m := by
  cases h : e.knownMethod? with
  | some known => exact .inl ⟨known, method_eq_name h⟩
  | none => exact .inr (eq_generic_of_knownMethod? h)

/-- Evidence is of the method that its name belongs to. -/
theorem knownMethod?_ofProperties (name : String) (m : Properties) :
    (ofProperties name m).knownMethod? = Method.ofName? name := by
  unfold ofProperties
  split
  · rename_i h
    simp [h]
  · rename_i h
    simp [knownMethod?, h]

end Evidence

end MailAuth
