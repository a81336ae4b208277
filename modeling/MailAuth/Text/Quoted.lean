import MailAuth.Text.Blank

/-!
# Quoted strings

A value that holds a blank or one of `;`, `(`, `)`, `"` and `\` is written between quotation
marks, with a backslash before each quotation mark and backslash in it; any other value is written
as it is. The closing mark is the first that no backslash escapes, so a quoted value ends at the
same place whatever follows it (`closeQuote_escape`).
-/

namespace MailAuth.Text.Quoted

/-- A character that may not stand outside quotation marks. -/
def isSpecial (c : Char) : Bool :=
  isBlank c || [';', '(', ')', '"', '\\'].contains c

/-- A character that takes a backslash between quotation marks. -/
def isEscaped (c : Char) : Bool := c == '"' || c == '\\'

/-- The characters as they stand between quotation marks. -/
def escape (cs : List Char) : List Char :=
  cs.flatMap fun c => if isEscaped c then ['\\', c] else [c]

/-- The written form of a value. -/
def encode (s : String) : String :=
  if s.toList.any isSpecial then String.ofList ('"' :: escape s.toList ++ ['"']) else s

/-- Reads up to the closing quotation mark: the characters meant and the rest after the mark. There
is no answer if the text ends first. -/
def closeQuote : List Char → Option (List Char × List Char)
  | [] => none
  | ['\\'] => none
  | '\\' :: c :: rest => (closeQuote rest).map fun (s, after) => (c :: s, after)
  | c :: rest =>
    if c = '"' then some ([], rest)
    else (closeQuote rest).map fun (s, after) => (c :: s, after)

@[simp] theorem escape_nil : escape [] = [] := rfl

theorem escape_cons (c : Char) (cs : List Char) :
    escape (c :: cs) = (if isEscaped c then ['\\', c] else [c]) ++ escape cs := by
  simp [escape]

/-- Whatever follows the closing quotation mark, the value is read back and the rest is left. -/
theorem closeQuote_escape (cs rest : List Char) :
    closeQuote (escape cs ++ '"' :: rest) = some (cs, rest) := by
  induction cs with
  | nil => simp [closeQuote]
  | cons c cs ih =>
    by_cases hq : c = '"'
    · subst hq; simp [escape_cons, isEscaped, closeQuote, ih]
    by_cases hb : c = '\\'
    · subst hb; simp [escape_cons, isEscaped, closeQuote, ih]
    · simp [escape_cons, isEscaped, hq, hb, closeQuote, ih]

end MailAuth.Text.Quoted
