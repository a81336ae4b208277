import MailAuth.Property

/-!
# Property maps

The properties that belong to one result. A key occurs once, and the entries stand in the order of
their keys, by code points. Writing under a key that is there replaces its value, so of several
properties with one key the last is kept.
-/

namespace MailAuth

/-- Properties in the order of their keys, each key once. -/
structure Properties where
  entries : List Property
  sorted : entries.Pairwise fun p q => p.key < q.key
  deriving DecidableEq

namespace Properties

/-- No property. -/
def empty : Properties := ⟨[], .nil⟩

/-- Puts `p` at its place among sorted entries, for the entry with its key if there is one. -/
def insertEntry (p : Property) : List Property → List Property
  | [] => [p]
  | q :: rest =>
    if p.key < q.key then p :: q :: rest
    else if p.key = q.key then p :: rest
    else q :: insertEntry p rest

theorem mem_insertEntry {p q : Property} {entries : List Property}
    (h : q ∈ insertEntry p entries) : q = p ∨ q ∈ entries := by
  induction entries with
  | nil => simpa [insertEntry] using h
  | cons r rest ih => grind [insertEntry]

theorem sorted_insertEntry (p : Property) {entries : List Property}
    (h : entries.Pairwise fun p q => p.key < q.key) :
    (insertEntry p entries).Pairwise fun p q => p.key < q.key := by
  induction entries with
  | nil => simp [insertEntry]
  | cons q rest ih =>
    obtain ⟨hq, hrest⟩ := List.pairwise_cons.1 h
    unfold insertEntry
    split
    · rename_i hlt
      exact List.pairwise_cons.2 ⟨fun r hr => by
        rcases List.mem_cons.1 hr with rfl | hr
        · exact hlt
        · exact String.lt_trans hlt (hq r hr), h⟩
    · rename_i hlt
      split
      · rename_i heq
        exact List.pairwise_cons.2 ⟨fun r hr => heq ▸ hq r hr, hrest⟩
      · rename_i hne
        refine List.pairwise_cons.2 ⟨fun r hr => ?_, ih hrest⟩
        rcases mem_insertEntry hr with rfl | hr
        · exact Std.lt_of_le_of_ne (String.not_lt.1 hlt) (Ne.symm hne)
        · exact hq r hr

/-- The map with `p` written under its key. -/
def insert (m : Properties) (p : Property) : Properties :=
  ⟨insertEntry p m.entries, sorted_insertEntry p m.sorted⟩

/-- The properties written one after the other into an empty map. -/
def ofList (ps : List Property) : Properties := ps.foldl insert empty

/-- The value under a key. -/
def get? (m : Properties) (key : String) : Option String :=
  (m.entries.find? (·.key == key)).map (·.value)

/-- The value under a key, empty if there is none. -/
def value (m : Properties) (key : String) : String := (m.get? key).getD ""

/-! ### Reading after writing -/

@[simp] theorem get?_empty (key : String) : empty.get? key = none := rfl

theorem find?_insertEntry (p : Property) (key : String) (entries : List Property) :
    (insertEntry p entries).find? (·.key == key) =
      if p.key = key then some p else entries.find? (·.key == key) := by
  induction entries with
  | nil => by_cases h : p.key = key <;> simp [insertEntry, h]
  | cons q rest ih =>
    unfold insertEntry
    split
    · by_cases h : p.key = key <;> simp [h]
    · split
      · rename_i heq
        by_cases h : p.key = key
        · simp [h]
        · have : q.key ≠ key := heq ▸ h
          simp [h, this]
      · rename_i hne
        by_cases hq : q.key = key
        · have : p.key ≠ key := fun h => hne (h.trans hq.symm)
          simp [hq, this]
        · simp [hq, ih]

theorem get?_insert (m : Properties) (p : Property) (key : String) :
    (m.insert p).get? key = if p.key = key then some p.value else m.get? key := by
  simp only [get?, insert, find?_insertEntry]
  split <;> rfl

/-- The value under a key is that of the last property with the key. -/
theorem get?_ofList (ps : List Property) (key : String) :
    (ofList ps).get? key = (ps.reverse.find? (·.key == key)).map (·.value) := by
  suffices h : ∀ m : Properties, (ps.foldl insert m).get? key =
      ((ps.reverse.find? (·.key == key)).map (·.value)).or (m.get? key) by
    simpa [ofList] using h empty
  induction ps with
  | nil => simp
  | cons p ps ih =>
    intro m
    simp only [List.foldl_cons, ih, get?_insert, List.reverse_cons, List.find?_append]
    by_cases h : p.key = key <;> cases ps.reverse.find? (·.key == key) <;> simp [h]

end Properties

end MailAuth
