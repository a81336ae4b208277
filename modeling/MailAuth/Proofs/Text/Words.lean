import MailAuth.Proofs.Text.Clean

/-!
# Words and the blanks around them

Blanks at the ends of a text are in none of its words (`words_trim`), and the first blank separates
the words before it from those after it (`words_untilBlank_append`). So a text is blank if it has no
word (`words_eq_nil_iff`), and a text with one word is that word with blanks around it
(`trim_of_words_eq_singleton`).
-/

namespace MailAuth.Text

variable {s w : String}

/-! ### Blanks at the ends -/

theorem blankFree_of_blank {bs : List Char} (blank : ∀ b ∈ bs, isBlank b) : blankFree bs = [] := by
  induction bs with
  | nil => exact blankFree_nil
  | cons b bs ih =>
    rw [blankFree_cons (blank b List.mem_cons_self)]
    exact ih fun c hc => blank c (List.mem_cons_of_mem _ hc)

theorem blankFree_blank_append {bs : List Char} (blank : ∀ b ∈ bs, isBlank b) (cs : List Char) :
    blankFree (bs ++ cs) = blankFree cs := by
  induction bs with
  | nil => rfl
  | cons b bs ih =>
    rw [List.cons_append, blankFree_cons (blank b List.mem_cons_self)]
    exact ih fun c hc => blank c (List.mem_cons_of_mem _ hc)

theorem blankFree_append_blank {bs : List Char} (blank : ∀ b ∈ bs, isBlank b) (cs : List Char) :
    blankFree (cs ++ bs) = blankFree cs := by
  cases bs with
  | nil => rw [List.append_nil]
  | cons b bs =>
    have rest : blankFree bs = [] :=
      blankFree_of_blank fun c hc => blank c (List.mem_cons_of_mem _ hc)
    rw [blankFree_append_cons (blank b List.mem_cons_self), rest, List.append_nil]

theorem isBlank_of_mem_takeWhile {cs : List Char} : ∀ c ∈ cs.takeWhile isBlank, isBlank c :=
  fun _ hc => List.all_eq_true.1 List.all_takeWhile _ hc

/-- What trimming cuts off is blank. -/
theorem exists_append_trimBlanks (cs : List Char) :
    ∃ front back, cs = front ++ trimBlanks cs ++ back ∧ (∀ c ∈ front, isBlank c) ∧
      ∀ c ∈ back, isBlank c := by
  have inner : cs.dropWhile isBlank =
      trimBlanks cs ++ ((cs.dropWhile isBlank).reverse.takeWhile isBlank).reverse := by
    rw [trimBlanks, ← List.reverse_append, List.takeWhile_append_dropWhile, List.reverse_reverse]
  refine ⟨cs.takeWhile isBlank, ((cs.dropWhile isBlank).reverse.takeWhile isBlank).reverse, ?_,
    isBlank_of_mem_takeWhile, fun c hc => isBlank_of_mem_takeWhile c (List.mem_reverse.1 hc)⟩
  rw [List.append_assoc, ← inner, List.takeWhile_append_dropWhile]

/-- Blanks at the ends are in no word. -/
theorem words_trim (s : String) : words (trim s) = words s := by
  obtain ⟨front, back, cut, blankFront, blankBack⟩ := exists_append_trimBlanks s.toList
  have same : blankFree s.toList = blankFree (trimBlanks s.toList) := by
    conv => lhs; rw [cut]
    rw [blankFree_append_blank blankBack, blankFree_blank_append blankFront]
  rw [words, words, toList_trim, same]

/-! ### The first blank -/

/-- What stands before the first blank. -/
def untilBlank (s : String) : String := String.ofList (s.toList.takeWhile (!isBlank ·))

/-- What begins with the first blank, empty if there is none. -/
def fromBlank (s : String) : String := String.ofList (s.toList.dropWhile (!isBlank ·))

theorem untilBlank_append_fromBlank (s : String) : untilBlank s ++ fromBlank s = s := by
  rw [← String.toList_inj, String.toList_append, untilBlank, fromBlank, String.toList_ofList,
    String.toList_ofList, List.takeWhile_append_dropWhile]

theorem unbroken_untilBlank (s : String) : Unbroken (untilBlank s) := by
  intro c hc
  rw [untilBlank, String.toList_ofList] at hc
  simpa using List.all_eq_true.1 List.all_takeWhile c hc

theorem isBlank_of_head?_fromBlank {c : Char} (h : (fromBlank s).toList.head? = some c) :
    isBlank c := by
  have first := List.head?_dropWhile_not (!isBlank ·) s.toList
  rw [fromBlank, String.toList_ofList] at h
  rw [h] at first
  simpa using first

/-- The first blank cuts no word. -/
theorem words_untilBlank_append (s : String) :
    words s = words (untilBlank s) ++ words (fromBlank s) := by
  have cut : s.toList = (untilBlank s).toList ++ (fromBlank s).toList := by
    rw [← String.toList_append, untilBlank_append_fromBlank]
  rw [words, words, words, cut, ← List.map_append]
  cases rest : (fromBlank s).toList with
  | nil => rw [List.append_nil, blankFree_nil, List.append_nil]
  | cons b bs =>
    have head : (fromBlank s).toList.head? = some b := by
      rw [rest]
      rfl
    have blank := isBlank_of_head?_fromBlank head
    rw [blankFree_append_cons blank, blankFree_cons blank]

/-- A text that does not begin with a blank begins with a word, unless it is empty. -/
theorem words_untilBlank_trim (s : String) :
    words (untilBlank (trim s)) = if trim s = "" then [] else [untilBlank (trim s)] := by
  split
  · rename_i empty
    rw [empty]
    decide
  · rename_i ne
    refine words_of_unbroken (unbroken_untilBlank _) fun empty => ?_
    cases chars : (trim s).toList with
    | nil => exact ne (String.toList_eq_nil_iff.1 chars)
    | cons c cs =>
      have head : (trimBlanks s.toList).head? = some c := by
        rw [← toList_trim, chars]
        rfl
      have first := not_isBlank_of_head?_trimBlanks head
      have starts : (untilBlank (trim s)).toList = c :: cs.takeWhile (!isBlank ·) := by
        rw [untilBlank, String.toList_ofList, chars, List.takeWhile_cons_of_pos (by simp [first])]
      rw [empty] at starts
      cases starts

/-- Exactly a blank text has no word. -/
theorem words_eq_nil_iff : words s = [] ↔ trim s = "" := by
  rw [← words_trim]
  by_cases empty : trim s = ""
  · rw [empty, words_empty]
    exact iff_of_true rfl rfl
  · rw [words_untilBlank_append, words_untilBlank_trim, if_neg empty]
    exact iff_of_false nofun empty

/-- A blank text consists of blanks. -/
theorem isBlank_of_trim_eq_empty (h : trim s = "") : ∀ c ∈ s.toList, isBlank c := by
  obtain ⟨front, back, cut, blankFront, blankBack⟩ := exists_append_trimBlanks s.toList
  rw [← toList_trim, h] at cut
  intro c hc
  rw [cut, String.toList_empty, List.append_nil] at hc
  exact (List.mem_append.1 hc).elim (blankFront c) (blankBack c)

/-- In a trimmed text a word follows the first blank. -/
theorem fromBlank_eq_empty_of_trim (h : trim (fromBlank (trim s)) = "") :
    fromBlank (trim s) = "" := by
  cases last : (fromBlank (trim s)).toList.getLast? with
  | none => exact String.toList_eq_nil_iff.1 (List.getLast?_eq_none_iff.1 last)
  | some c =>
    have whole : (trimBlanks s.toList).getLast? = some c := by
      rw [← toList_trim, ← untilBlank_append_fromBlank (trim s), String.toList_append,
        List.getLast?_append, last, Option.some_or]
    have blank := isBlank_of_trim_eq_empty h c (List.mem_of_getLast? last)
    rw [not_isBlank_of_getLast?_trimBlanks whole] at blank
    cases blank

/-- A text with one word is that word with blanks around it. -/
theorem trim_of_words_eq_singleton (h : words s = [w]) : trim s = w := by
  rw [← words_trim] at h
  by_cases empty : trim s = ""
  · rw [empty, words_empty] at h
    cases h
  · rw [words_untilBlank_append, words_untilBlank_trim, if_neg empty, List.singleton_append,
      List.cons.injEq, words_eq_nil_iff] at h
    obtain ⟨first, rest⟩ := h
    rw [← untilBlank_append_fromBlank (trim s), first, fromBlank_eq_empty_of_trim rest,
      String.append_empty]

end MailAuth.Text
