import MailAuth.Proofs.Text.Clean
import MailAuth.Text.Quoted

/-!
# What quoting changes

A value without special characters is written as it is, and only such a value: a quoted value is
longer than what it stands for (`encode_eq_self_iff`). Quoting adds quotation marks and backslashes
and nothing else, so the written form of a clean value is clean.

What stands between quotation marks reads back as the value (`unescape_escape`), and whatever can be
read there ends at the same mark however the text goes on (`closeQuote_of_unescape`). So no two
values have one written form, even where the text goes on (`encode_append_inj`); `encode_delimited`
has it all.
-/

namespace MailAuth.Text.Quoted

/-- The value may stand outside quotation marks. -/
def Plain (s : String) : Prop := ∀ c ∈ s.toList, isSpecial c = false

instance (s : String) : Decidable (Plain s) :=
  List.decidableBAll (isSpecial · = false) s.toList

/-- Escaping removes no character. -/
theorem length_le_length_escape (cs : List Char) : cs.length ≤ (escape cs).length := by
  induction cs with
  | nil => simp
  | cons c cs ih =>
    rw [escape_cons, List.length_append, List.length_cons]
    have : 1 ≤ (if isEscaped c then ['\\', c] else [c]).length := by split <;> simp
    omega

theorem mem_escape {cs : List Char} {d : Char} (h : d ∈ escape cs) : d = '\\' ∨ d ∈ cs := by
  obtain ⟨c, hc, hd⟩ := List.mem_flatMap.1 h
  split at hd
  · simp only [List.mem_cons, List.not_mem_nil, or_false] at hd
    rcases hd with rfl | rfl
    · exact .inl rfl
    · exact .inr hc
  · rw [List.mem_singleton] at hd
    exact .inr (hd ▸ hc)

theorem encode_of_plain {s : String} (h : Plain s) : encode s = s := by
  rw [encode, if_neg]
  intro special
  obtain ⟨c, hc, hs⟩ := List.any_eq_true.1 special
  rw [h c hc] at hs
  cases hs

/-- Exactly the values without special characters are written as they are. -/
theorem encode_eq_self_iff {s : String} : encode s = s ↔ Plain s := by
  refine ⟨fun h c hc => ?_, encode_of_plain⟩
  rw [Bool.eq_false_iff]
  intro special
  rw [encode, if_pos (List.any_eq_true.2 ⟨c, hc, special⟩)] at h
  have lengths := congrArg (fun t : String => t.toList.length) h
  simp only [String.toList_ofList, List.cons_append, List.length_cons, List.length_append,
    List.length_nil] at lengths
  have := length_le_length_escape s.toList
  omega

@[simp] theorem encode_empty : encode "" = "" := rfl

/-- No value but the empty one is written as nothing. -/
theorem encode_eq_empty_iff {s : String} : encode s = "" ↔ s = "" := by
  constructor
  · intro h
    by_cases special : s.toList.any isSpecial
    · rw [encode, if_pos special] at h
      have := congrArg String.toList h
      simp at this
    · rwa [encode, if_neg special] at h
  · rintro rfl
    rfl

theorem mem_encode {s : String} {c : Char} (h : c ∈ (encode s).toList) :
    c = '"' ∨ c = '\\' ∨ c ∈ s.toList := by
  unfold encode at h
  split at h
  · rw [String.toList_ofList] at h
    simp only [List.cons_append, List.mem_cons, List.mem_append, List.not_mem_nil, or_false] at h
    rcases h with h | h | h
    · exact .inl h
    · exact .inr (mem_escape h)
    · exact .inl h
  · exact .inr (.inr h)

theorem unbroken_encode {s : String} (h : Unbroken s) : Unbroken (encode s) := by
  intro c hc
  rcases mem_encode hc with rfl | rfl | hc
  · decide
  · decide
  · exact h c hc

theorem not_mem_encode {s : String} (h : ';' ∉ s.toList) : ';' ∉ (encode s).toList := by
  intro hc
  rcases mem_encode hc with hc | hc | hc
  · exact absurd hc (by decide)
  · exact absurd hc (by decide)
  · exact h hc

/-- A plain value is clean; what it may not hold besides is `(`, `)`, `"` and `\`. -/
theorem plain_iff {s : String} :
    Plain s ↔ Clean s ∧ Without ['(', ')', '"', '\\'] s := by
  simp only [Plain, Without, Clean, Unbroken, isSpecial, List.contains_eq_mem, List.mem_cons,
    List.not_mem_nil, or_false, not_or, Bool.or_eq_false_iff, decide_eq_false_iff_not]
  constructor
  · intro h
    exact ⟨⟨fun c hc => (h c hc).1, fun hc => (h _ hc).2.1 rfl⟩, fun c hc => (h c hc).2.2⟩
  · rintro ⟨⟨blank, semi⟩, marks⟩ c hc
    exact ⟨blank c hc, fun h => semi (h ▸ hc), marks c hc⟩

theorem plain_iff_of_unbroken {s : String} (h : Unbroken s) :
    Plain s ↔ Without [';', '(', ')', '"', '\\'] s := by
  rw [plain_iff, Clean]
  constructor
  · rintro ⟨⟨-, semi⟩, marks⟩ c hc
    rw [List.mem_cons, not_or]
    exact ⟨fun h => semi (h ▸ hc), marks c hc⟩
  · intro all
    exact ⟨⟨h, fun hc => all _ hc List.mem_cons_self⟩,
      fun c hc mark => all c hc (List.mem_cons_of_mem _ mark)⟩

/-! ### Where a written value ends -/

/-- A value is quoted, or it is plain and written as it is. -/
theorem encode_cases (s : String) :
    (encode s).toList = '"' :: (escape s.toList ++ ['"']) ∨ Plain s ∧ encode s = s := by
  by_cases special : s.toList.any isSpecial
  · left
    rw [encode, if_pos special, String.toList_ofList, List.cons_append]
  · right
    have written : encode s = s := by rw [encode, if_neg special]
    exact ⟨encode_eq_self_iff.1 written, written⟩

/-- A plain value with its rest does not begin with a quotation mark. -/
theorem head?_append_ne_quote {s : String} (plain : Plain s) {rest : List Char}
    (ends : EndsClean rest) : (s.toList ++ rest).head? ≠ some '"' := by
  intro quote
  cases chars : s.toList with
  | nil =>
    rw [chars, List.nil_append] at quote
    rcases ends _ quote with blank | semicolon
    · exact absurd blank (by decide)
    · exact absurd semicolon (by decide)
  | cons c cs =>
    rw [chars] at quote
    obtain rfl := Option.some.inj quote
    have := plain '"' (by simp [chars])
    exact absurd this (by decide)

/-- Where a written value ends, and what it stands for, is seen in a longer text: a quoted one at
its closing mark, a plain one before a blank or a separator, and which of the two it is at its first
character. -/
theorem encode_append_inj {s t : String} {r₁ r₂ : List Char} (h₁ : EndsClean r₁)
    (h₂ : EndsClean r₂) (h : (encode s).toList ++ r₁ = (encode t).toList ++ r₂) :
    s = t ∧ r₁ = r₂ := by
  rcases encode_cases s with quoted₁ | ⟨plain₁, same₁⟩ <;>
    rcases encode_cases t with quoted₂ | ⟨plain₂, same₂⟩
  · simp only [quoted₁, quoted₂, List.cons_append, List.append_assoc, List.nil_append,
      List.cons.injEq, true_and] at h
    have read := closeQuote_escape s.toList r₁
    rw [h, closeQuote_escape, Option.some.injEq, Prod.mk.injEq, String.toList_inj] at read
    exact ⟨read.1.symm, read.2.symm⟩
  · rw [quoted₁, same₂] at h
    exact absurd (congrArg List.head? h.symm) (head?_append_ne_quote plain₂ h₂)
  · rw [same₁, quoted₂] at h
    exact absurd (congrArg List.head? h) (head?_append_ne_quote plain₁ h₁)
  · rw [same₁, same₂] at h
    exact (plain_iff.1 plain₁).1.append_inj (plain_iff.1 plain₂).1 h₁ h₂ h

theorem encode_inj {s t : String} (h : encode s = encode t) : s = t := by
  have ends : EndsClean [] := nofun
  exact (encode_append_inj ends ends (congrArg (·.toList ++ []) h)).1

/-! ### Reading what stands between quotation marks -/

/-- Reads the text between quotation marks: a backslash makes the next character literal. There is
no answer if a mark stands in it that no backslash escapes, nor if it ends on a backslash that
escapes nothing. -/
def unescape : List Char → Option (List Char)
  | [] => some []
  | ['\\'] => none
  | '\\' :: c :: rest => (unescape rest).map (c :: ·)
  | c :: rest => if c = '"' then none else (unescape rest).map (c :: ·)

/-- What is escaped is read back. -/
theorem unescape_escape (cs : List Char) : unescape (escape cs) = some cs := by
  induction cs with
  | nil => rfl
  | cons c cs ih =>
    by_cases mark : c = '"'
    · subst mark; simp [escape_cons, isEscaped, unescape, ih]
    by_cases backslash : c = '\\'
    · subst backslash; simp [escape_cons, isEscaped, unescape, ih]
    · simp [escape_cons, isEscaped, mark, backslash, unescape, ih]

/-- Behind a text that can be read, the closing mark is found, whatever follows it. -/
theorem closeQuote_of_unescape {body value : List Char} (h : unescape body = some value)
    (rest : List Char) : closeQuote (body ++ '"' :: rest) = some (value, rest) := by
  fun_induction unescape body generalizing value with
  | case1 =>
    obtain rfl := Option.some.inj h
    rfl
  | case2 => cases h
  | case3 c body ih =>
    obtain ⟨value, read, rfl⟩ := Option.map_eq_some_iff.1 h
    rw [List.cons_append, List.cons_append, closeQuote, ih read]
    rfl
  | case4 => cases h
  | case5 c body single escapes mark ih =>
    obtain ⟨value, read, rfl⟩ := Option.map_eq_some_iff.1 h
    -- A backslash would have been one of the cases before, alone or with what it escapes.
    have literal : c ≠ '\\' := by
      intro backslash
      cases body with
      | nil => exact single backslash rfl
      | cons d ds => exact escapes d ds backslash rfl
    simp [closeQuote, literal, mark, ih read]

/-- A value is written as it is and holds no special character, or it is written between quotation
marks as a text that reads back as the value, and the closing mark stays the same whatever is
appended. So where the text goes on with a blank or a separator, or not at all, no other value has
this written form. -/
theorem encode_delimited (s : String) :
    (Unbroken s ∧ Without [';', '(', ')', '"', '\\'] s ∧ encode s = s ∨
      ∃ body : String, encode s = "\"" ++ body ++ "\"" ∧ unescape body.toList = some s.toList ∧
        ∀ rest : String, closeQuote (body ++ "\"" ++ rest).toList = some (s.toList, rest.toList)) ∧
      ∀ t r₁ r₂ : String, EndsClean r₁.toList → EndsClean r₂.toList →
        encode s ++ r₁ = encode t ++ r₂ → s = t ∧ r₁ = r₂ := by
  refine ⟨?form, fun t r₁ r₂ ends₁ ends₂ same => ?unique⟩
  case form =>
    rcases encode_cases s with quoted | ⟨plain, same⟩
    · right
      have read := unescape_escape s.toList
      refine ⟨String.ofList (escape s.toList), ?_, by rwa [String.toList_ofList], fun rest => ?_⟩
      · rw [← String.toList_inj, quoted]
        simp
      · simpa using closeQuote_of_unescape read rest.toList
    · have unbroken : Unbroken s := (plain_iff.1 plain).1.1
      exact .inl ⟨unbroken, (plain_iff_of_unbroken unbroken).1 plain, same⟩
  case unique =>
    have chars : (encode s).toList ++ r₁.toList = (encode t).toList ++ r₂.toList := by
      rw [← String.toList_append, same, String.toList_append]
    obtain ⟨value, rest⟩ := encode_append_inj ends₁ ends₂ chars
    exact ⟨value, String.toList_inj.1 rest⟩

/-- A backslash at the end of a value does not escape the closing mark, and a mark in a value is
neither taken for the closing one nor for the opening one. -/
theorem encode_delimited_backslash :
    (∃ body : String, encode "a\\" = "\"" ++ body ++ "\"" ∧
      unescape body.toList = some ['a', '\\'] ∧
      closeQuote (body ++ "\"" ++ " b").toList = some (['a', '\\'], [' ', 'b'])) ∧
      ∀ t r : String, EndsClean r.toList → encode t ++ r = "\"\\\"a\";b" →
        t = "\"a" ∧ r = ";b" := by
  have special : ¬ Without [';', '(', ')', '"', '\\'] "a\\" := by decide
  refine ⟨?_, fun t r ends same => ?_⟩
  · rcases (encode_delimited "a\\").1 with ⟨-, plain, -⟩ | ⟨body, written, read, ends⟩
    · exact absurd plain special
    · exact ⟨body, written, read, ends " b"⟩
  · have semicolon : EndsClean ";b".toList := by simp [EndsClean]
    obtain ⟨-, unique⟩ := encode_delimited "\"a"
    obtain ⟨rfl, rfl⟩ := unique t ";b" r semicolon ends same.symm
    exact ⟨rfl, rfl⟩

end MailAuth.Text.Quoted
