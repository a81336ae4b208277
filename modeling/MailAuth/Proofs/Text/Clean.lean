import MailAuth.Proofs.Text.Lowercase
import MailAuth.Text.Split

/-!
# Clean texts

A text is *clean* if cutting at blanks and at the separator of segments leaves it whole, and *bare*
if it holds no equals sign either. This module says how the ways of cutting a text act on such
texts, and on texts that are joined from them: `words_append_join` and `parts_append_join` undo the
joining, and whatever is cut out is unbroken (`mem_words`) or free of the separator (`mem_parts`).
-/

namespace MailAuth.Text

/-- None of the marks is in the text. -/
def Without (marks : List Char) (s : String) : Prop := ∀ c ∈ s.toList, c ∉ marks

/-- No blank is in the text. -/
def Unbroken (s : String) : Prop := ∀ c ∈ s.toList, isBlank c = false

/-- Neither a blank nor the separator of segments is in the text. -/
def Clean (s : String) : Prop := Unbroken s ∧ ';' ∉ s.toList

/-- A clean text without an equals sign. -/
def Bare (s : String) : Prop := Clean s ∧ '=' ∉ s.toList

/-- A bare text in lower case. As a name it is read as it is written. -/
structure LowerBare (s : String) : Prop where
  bare : Bare s
  lower : lowercase s = s

-- The search goes through the text. Left to itself it may go through all characters.
instance (marks : List Char) (s : String) : Decidable (Without marks s) :=
  List.decidableBAll (· ∉ marks) s.toList

instance (s : String) : Decidable (Unbroken s) :=
  List.decidableBAll (isBlank · = false) s.toList

instance (s : String) : Decidable (Clean s) := inferInstanceAs (Decidable (_ ∧ _))

instance (s : String) : Decidable (Bare s) := inferInstanceAs (Decidable (_ ∧ _))

instance (s : String) : Decidable (LowerBare s) :=
  decidable_of_iff (Bare s ∧ lowercase s = s) ⟨fun h => ⟨h.1, h.2⟩, fun h => ⟨h.bare, h.lower⟩⟩

theorem unbroken_append {s t : String} : Unbroken (s ++ t) ↔ Unbroken s ∧ Unbroken t := by
  simp only [Unbroken, String.toList_append, List.mem_append]
  exact ⟨fun h => ⟨fun c hc => h c (.inl hc), fun c hc => h c (.inr hc)⟩,
    fun h c hc => hc.elim (h.1 c) (h.2 c)⟩

theorem clean_append {s t : String} : Clean (s ++ t) ↔ Clean s ∧ Clean t := by
  simp only [Clean, unbroken_append, String.toList_append, List.mem_append, not_or]
  exact and_and_and_comm

theorem bare_append {s t : String} : Bare (s ++ t) ↔ Bare s ∧ Bare t := by
  simp only [Bare, clean_append, String.toList_append, List.mem_append, not_or]
  exact and_and_and_comm

theorem lowerBare_append {s t : String} : LowerBare (s ++ t) ↔ LowerBare s ∧ LowerBare t := by
  constructor
  · rintro ⟨bare, lower⟩
    obtain ⟨bareS, bareT⟩ := bare_append.1 bare
    obtain ⟨lowerS, lowerT⟩ := lowercase_append_eq_self_iff.1 lower
    exact ⟨⟨bareS, lowerS⟩, ⟨bareT, lowerT⟩⟩
  · rintro ⟨s, t⟩
    exact ⟨bare_append.2 ⟨s.bare, t.bare⟩, lowercase_append_eq_self_iff.2 ⟨s.lower, t.lower⟩⟩

theorem clean_empty : Clean "" := by decide

/-- Only the characters count. -/
theorem Clean.of_subset {s t : String} (h : Clean s) (hst : ∀ c ∈ t.toList, c ∈ s.toList) :
    Clean t :=
  ⟨fun c hc => h.1 c (hst c hc), fun hc => h.2 (hst _ hc)⟩

theorem Bare.of_subset {s t : String} (h : Bare s) (hst : ∀ c ∈ t.toList, c ∈ s.toList) : Bare t :=
  ⟨h.1.of_subset hst, fun hc => h.2 (hst _ hc)⟩

/-- Lower-casing keeps a text unbroken. -/
theorem Unbroken.lowercase {s : String} (h : Unbroken s) : Unbroken (lowercase s) := by
  intro c hc
  rw [Bool.eq_false_iff]
  intro blank
  have := h c (mem_of_mem_lowercase hc (by simp [isDelimiter, blank]))
  rw [this] at blank
  cases blank

theorem not_mem_lowercase {s : String} {d : Char} (hd : isDelimiter d) (h : d ∉ s.toList) :
    d ∉ (lowercase s).toList :=
  fun hc => h (mem_of_mem_lowercase hc hd)

/-- Lower-casing keeps a text clean. -/
theorem Clean.lowercase {s : String} (h : Clean s) : Clean (lowercase s) :=
  ⟨h.1.lowercase, not_mem_lowercase (by decide) h.2⟩

/-- Lower-casing keeps a text bare. -/
theorem Bare.lowercase {s : String} (h : Bare s) : Bare (lowercase s) :=
  ⟨h.1.lowercase, not_mem_lowercase (by decide) h.2⟩

/-- A bare text, once it is lower-cased, is read as it is written. -/
theorem Bare.lowerBare_lowercase {s : String} (h : Bare s) : LowerBare (Text.lowercase s) :=
  ⟨h.lowercase, lowercase_lowercase s⟩

/-! ### Cutting blanks from the ends -/

theorem dropWhile_isBlank_of_head {cs : List Char} (h : ∀ c ∈ cs.head?, isBlank c = false) :
    cs.dropWhile isBlank = cs := by
  cases cs with
  | nil => rfl
  | cons c cs => exact List.dropWhile_cons_of_neg (by simp [h c rfl])

/-- Where no blank is at the ends, none is cut. -/
theorem trimBlanks_eq_self {cs : List Char} (head : ∀ c ∈ cs.head?, isBlank c = false)
    (last : ∀ c ∈ cs.getLast?, isBlank c = false) : trimBlanks cs = cs := by
  rw [trimBlanks, dropWhile_isBlank_of_head head, dropWhile_isBlank_of_head, List.reverse_reverse]
  rwa [List.head?_reverse]

/-- The text neither begins nor ends with a blank. -/
def Trimmed (s : String) : Prop :=
  (∀ c ∈ s.toList.head?, isBlank c = false) ∧ ∀ c ∈ s.toList.getLast?, isBlank c = false

theorem trim_of_trimmed {s : String} (h : Trimmed s) : trim s = s := by
  rw [← String.toList_inj, toList_trim]
  exact trimBlanks_eq_self h.1 h.2

theorem Unbroken.trimmed {s : String} (h : Unbroken s) : Trimmed s :=
  ⟨fun c hc => h c (List.mem_of_head? hc), fun c hc => h c (List.mem_of_getLast? hc)⟩

/-- An unbroken text has no blanks at its ends. -/
theorem trim_of_unbroken {s : String} (h : Unbroken s) : trim s = s := trim_of_trimmed h.trimmed

theorem not_isBlank_of_head?_dropWhile {cs : List Char} {c : Char}
    (h : (cs.dropWhile isBlank).head? = some c) : isBlank c = false := by
  have first := List.head?_dropWhile_not isBlank cs
  rwa [h] at first

/-- No blank is left at the front. -/
theorem not_isBlank_of_head?_trimBlanks {cs : List Char} {c : Char}
    (h : (trimBlanks cs).head? = some c) : isBlank c = false := by
  rw [trimBlanks, List.head?_reverse] at h
  have last : (cs.dropWhile isBlank).reverse.getLast? = some c := by
    rw [← List.takeWhile_append_dropWhile (p := isBlank) (l := (cs.dropWhile isBlank).reverse),
      List.getLast?_append, h, Option.some_or]
  rw [List.getLast?_reverse] at last
  exact not_isBlank_of_head?_dropWhile last

/-- No blank is left at the end. -/
theorem not_isBlank_of_getLast?_trimBlanks {cs : List Char} {c : Char}
    (h : (trimBlanks cs).getLast? = some c) : isBlank c = false := by
  rw [trimBlanks, List.getLast?_reverse] at h
  exact not_isBlank_of_head?_dropWhile h

theorem trimmed_trim (s : String) : Trimmed (trim s) := by
  rw [Trimmed, toList_trim]
  exact ⟨fun _ => not_isBlank_of_head?_trimBlanks, fun _ => not_isBlank_of_getLast?_trimBlanks⟩

/-- Cutting blanks twice is cutting them once. -/
theorem trim_trim (s : String) : trim (trim s) = trim s := trim_of_trimmed (trimmed_trim s)

theorem trim_space_append (s : String) : trim (" " ++ s) = trim s := by
  have : (" " ++ s).toList = ' ' :: s.toList := by simp
  rw [trim, trim, this, trimBlanks, List.dropWhile_cons_of_pos (by decide)]
  rfl

/-- Cutting blanks adds no character. -/
theorem mem_of_mem_trim {s : String} {c : Char} (h : c ∈ (trim s).toList) : c ∈ s.toList := by
  rw [toList_trim, trimBlanks, List.mem_reverse] at h
  have h := List.dropWhile_subset _ h
  rw [List.mem_reverse] at h
  exact List.dropWhile_subset _ h

/-! ### Pieces -/

/-- While cutting, a piece is made of what was held back and of characters that do not cut. -/
theorem mem_splitOnPPrepend {p : Char → Bool} {cs held piece : List Char}
    (h : piece ∈ cs.splitOnPPrepend p held) : ∀ c ∈ piece, c ∈ held ∨ (p c = false ∧ c ∈ cs) := by
  induction cs generalizing held with
  | nil =>
    rw [List.splitOnPPrepend_nil, List.mem_singleton] at h
    intro c hc
    rw [h, List.mem_reverse] at hc
    exact .inl hc
  | cons d cs ih =>
    intro c hc
    cases hd : p d with
    | true =>
      rw [List.splitOnPPrepend_cons_pos hd, List.mem_cons] at h
      rcases h with rfl | later
      · exact .inl (List.mem_reverse.1 hc)
      · rcases ih later c hc with none | ⟨keeps, mem⟩
        · cases none
        · exact .inr ⟨keeps, List.mem_cons_of_mem _ mem⟩
    | false =>
      rw [List.splitOnPPrepend_cons_neg hd] at h
      rcases ih h c hc with held' | ⟨keeps, mem⟩
      · rcases List.mem_cons.1 held' with rfl | mem
        · exact .inr ⟨hd, List.mem_cons_self⟩
        · exact .inl mem
      · exact .inr ⟨keeps, List.mem_cons_of_mem _ mem⟩

/-- A piece holds none of the characters that were cut at, and no others than the whole. -/
theorem mem_splitOnP {p : Char → Bool} {cs piece : List Char} (h : piece ∈ cs.splitOnP p)
    {c : Char} (hc : c ∈ piece) : p c = false ∧ c ∈ cs := by
  rw [List.splitOnP_eq_splitOnPPrepend] at h
  exact (mem_splitOnPPrepend h c hc).resolve_left List.not_mem_nil

/-- A word is not empty and unbroken. -/
theorem mem_words {s w : String} (h : w ∈ words s) :
    w ≠ "" ∧ Unbroken w ∧ ∀ c ∈ w.toList, c ∈ s.toList := by
  obtain ⟨cs, hcs, rfl⟩ := List.mem_map.1 h
  obtain ⟨piece, ne⟩ := List.mem_filter.1 hcs
  refine ⟨fun empty => ?_, fun c hc => (mem_splitOnP piece (by simpa using hc)).1,
    fun c hc => (mem_splitOnP piece (by simpa using hc)).2⟩
  have : cs = [] := by simpa using congrArg String.toList empty
  simp [this] at ne

/-- Words of a text without the separator are clean. -/
theorem clean_of_mem_words {s w : String} (hs : ';' ∉ s.toList) (h : w ∈ words s) : Clean w :=
  have ⟨_, unbroken, subset⟩ := mem_words h
  ⟨unbroken, fun hc => hs (subset _ hc)⟩

theorem words_of_unbroken {s : String} (h : Unbroken s) (ne : s ≠ "") : words s = [s] := by
  have : s.toList ≠ [] := fun empty => ne (String.toList_inj.1 (by simpa using empty))
  rw [words, blankFree_of_forall this h]
  simp

@[simp] theorem words_empty : words "" = [] := by simp [words]

theorem words_append_space_append (s t : String) : words (s ++ " " ++ t) = words s ++ words t := by
  have : (s ++ " " ++ t).toList = s.toList ++ ' ' :: t.toList := by simp
  rw [words, this, blankFree_append_cons (by decide), List.map_append]
  rfl

theorem words_space_append (s : String) : words (" " ++ s) = words s := by
  simpa using words_append_space_append "" s

/-- Texts joined with a blank before each are cut where they were joined. -/
theorem words_append_join (s : String) (ts : List String) :
    words (s ++ String.join (ts.map (" " ++ ·))) = words s ++ ts.flatMap words := by
  induction ts generalizing s with
  | nil => simp
  | cons t ts ih =>
    rw [List.map_cons, String.join_cons, ← String.append_assoc, ← String.append_assoc, ih,
      words_append_space_append, List.flatMap_cons, List.append_assoc]

theorem parts_of_not_mem {sep : Char} {s : String} (h : sep ∉ s.toList) : parts sep s = [s] := by
  rw [parts, List.splitOn_eq_singleton h]
  simp

/-- A part does not hold the separator. -/
theorem mem_parts {sep : Char} {s p : String} (h : p ∈ parts sep s) : sep ∉ p.toList := by
  obtain ⟨cs, hcs, rfl⟩ := List.mem_map.1 h
  rw [List.splitOn_eq_splitOnP] at hcs
  intro hsep
  have := (mem_splitOnP hcs (c := sep) (by simpa using hsep)).1
  simp at this

/-- `parts_append` for the separator of segments as it is written between texts. -/
theorem parts_append_semicolon (s t : String) :
    parts ';' (s ++ ";" ++ t) = parts ';' s ++ parts ';' t :=
  parts_append ';' s t

/-- A separator makes two parts at least. -/
theorem exists_parts_eq_cons_cons {sep : Char} {s : String} (h : sep ∈ s.toList) :
    ∃ first second rest, parts sep s = first :: second :: rest := by
  obtain ⟨before, after, cut⟩ := List.append_of_mem h
  have joined : s = String.ofList before ++ String.singleton sep ++ String.ofList after := by
    rw [← String.toList_inj, cut]
    simp
  obtain ⟨first, ps, hps⟩ := List.exists_cons_of_ne_nil (parts_ne_nil sep (String.ofList before))
  obtain ⟨second, qs, hqs⟩ := List.exists_cons_of_ne_nil (parts_ne_nil sep (String.ofList after))
  rw [joined, parts_append, hps, hqs]
  cases ps with
  | nil => exact ⟨first, second, qs, rfl⟩
  | cons p ps => exact ⟨first, p, ps ++ second :: qs, rfl⟩

/-- Texts joined with the separator before each are cut where they were joined. -/
theorem parts_append_join (sep : Char) (s : String) (ts : List String) :
    parts sep (s ++ String.join (ts.map (String.singleton sep ++ ·))) =
      parts sep s ++ ts.flatMap (parts sep) := by
  induction ts generalizing s with
  | nil => simp
  | cons t ts ih =>
    rw [List.map_cons, String.join_cons, ← String.append_assoc, ← String.append_assoc, ih,
      parts_append, List.flatMap_cons, List.append_assoc]

/-! ### Where a text ends -/

/-- No clean text goes on into the rest: it is empty, or begins with a blank or the separator of
segments. -/
def EndsClean (rest : List Char) : Prop := ∀ c ∈ rest.head?, isBlank c ∨ c = ';'

/-- A clean text is what comes before the first blank and the first separator. -/
theorem takeWhile_clean_append {s : String} (clean : Clean s) {rest : List Char}
    (ends : EndsClean rest) :
    (s.toList ++ rest).takeWhile (fun c => !isBlank c && c != ';') = s.toList := by
  have whole : ∀ c ∈ s.toList, (!isBlank c && c != ';') = true := by
    intro c hc
    have ne : c ≠ ';' := fun same => clean.2 (same ▸ hc)
    simp [clean.1 c hc, ne]
  have stops : rest.takeWhile (fun c => !isBlank c && c != ';') = [] := by
    cases rest with
    | nil => rfl
    | cons c rest =>
      rcases ends c rfl with blank | rfl
      · simp [blank]
      · simp
  rw [List.takeWhile_append_of_pos whole, stops, List.append_nil]

/-- Where a clean text ends is seen in a longer text. -/
theorem Clean.append_inj {s t : String} (hs : Clean s) (ht : Clean t) {r₁ r₂ : List Char}
    (h₁ : EndsClean r₁) (h₂ : EndsClean r₂) (h : s.toList ++ r₁ = t.toList ++ r₂) :
    s = t ∧ r₁ = r₂ := by
  have chars : s.toList = t.toList := by
    rw [← takeWhile_clean_append hs h₁, h, takeWhile_clean_append ht h₂]
  rw [chars] at h
  exact ⟨String.toList_inj.1 chars, List.append_cancel_left h⟩

/-- A text without a separator ends before the first. -/
theorem append_cons_inj {sep : Char} {a b x y : List Char} (ha : sep ∉ a) (hb : sep ∉ b)
    (h : a ++ sep :: x = b ++ sep :: y) : a = b ∧ x = y := by
  have left : cutFirst sep (a ++ sep :: x) = some (a, x) := cutFirst_eq_some_iff.2 ⟨rfl, ha⟩
  have right : cutFirst sep (b ++ sep :: y) = some (b, y) := cutFirst_eq_some_iff.2 ⟨rfl, hb⟩
  rw [h, right] at left
  cases left
  exact ⟨rfl, rfl⟩

/-- The first separator is the one after a text that does not hold it. -/
theorem splitFirst_append {sep : Char} {a : String} (h : sep ∉ a.toList) (b : String) :
    splitFirst sep (a ++ String.singleton sep ++ b) = some (a, b) :=
  splitFirst_eq_some_iff.2 ⟨by simp, h⟩

end MailAuth.Text
