import MailAuth.Properties

/-!
# Contents of property maps

A property map is determined by its entries, and an entry is in it exactly if looking its key up
gives its value (`mem_entries_iff`). Writing sorted properties one after the other gives those
properties (`entries_ofList`), so a map that is written out in order and read back is the same map.
-/

namespace MailAuth.Properties

theorem eq_of_entries {m n : Properties} (h : m.entries = n.entries) : m = n := by
  cases m
  cases n
  cases h
  rfl

/-- The map with every value replaced by its image. -/
def mapValues (f : String → String) (m : Properties) : Properties where
  entries := m.entries.map fun p => ⟨p.key, f p.value⟩
  sorted := List.pairwise_map.2 m.sorted

theorem mapValues_eq_self_iff {f : String → String} {m : Properties} :
    m.mapValues f = m ↔ ∀ p ∈ m.entries, f p.value = p.value := by
  constructor
  · intro h p hp
    have same := congrArg Properties.entries h
    have fixed : (fun p : Property => (⟨p.key, f p.value⟩ : Property)) p = id p :=
      List.map_eq_map_iff.1 (same.trans (List.map_id _).symm) p hp
    exact congrArg Property.value fixed
  · intro h
    apply eq_of_entries
    have fixed : ∀ p ∈ m.entries, (⟨p.key, f p.value⟩ : Property) = id p := fun p hp => by
      rw [h p hp]
      rfl
    exact (List.map_congr_left fixed).trans (List.map_id _)

/-! ### Entries and look-up -/

/-- In sorted entries the first with a key is the only one. -/
theorem find?_of_mem {entries : List Property} (sorted : entries.Pairwise fun p q => p.key < q.key)
    {p : Property} (h : p ∈ entries) : entries.find? (·.key == p.key) = some p := by
  induction entries with
  | nil => cases h
  | cons q rest ih =>
    obtain ⟨below, sorted⟩ := List.pairwise_cons.1 sorted
    rcases List.mem_cons.1 h with rfl | h
    · simp
    · have : q.key ≠ p.key := fun same => String.lt_irrefl _ (same ▸ below p h)
      rw [List.find?_cons_of_neg (by simpa using this)]
      exact ih sorted h

/-- A value that is found under a key belongs to a property with the key. -/
theorem mem_of_find? {ps : List Property} {p : Property}
    (h : (ps.find? (·.key == p.key)).map (·.value) = some p.value) : p ∈ ps := by
  obtain ⟨⟨key, value⟩, found, hvalue⟩ := Option.map_eq_some_iff.1 h
  have hkey : key = p.key := by simpa using List.find?_some found
  have mem := List.mem_of_find?_eq_some found
  cases p
  simp_all

/-- An entry is what is found under its key. -/
theorem mem_entries_iff {m : Properties} {p : Property} :
    p ∈ m.entries ↔ m.get? p.key = some p.value := by
  constructor
  · intro h
    rw [get?, find?_of_mem m.sorted h]
    rfl
  · exact mem_of_find?

/-- A map is told by what is found under the keys. -/
theorem eq_of_get? {m n : Properties} (h : ∀ key, m.get? key = n.get? key) : m = n := by
  have same : ∀ p, p ∈ m.entries ↔ p ∈ n.entries := fun p => by
    rw [mem_entries_iff, mem_entries_iff, h]
  have distinct (m : Properties) : m.entries.Nodup := by
    refine m.sorted.imp fun {p q} below => ?_
    rintro rfl
    exact String.lt_irrefl _ below
  have perm := (List.perm_ext_iff_of_nodup (distinct m) (distinct n)).2 same
  exact eq_of_entries (perm.eq_of_pairwise
    (fun p q _ _ below above => absurd above (String.lt_asymm below)) m.sorted n.sorted)

/-- Behind an entry the keys are greater. -/
theorem key_le_of_mem_cons {m : Properties} {before after : List Property} {p q : Property}
    (cut : m.entries = before ++ p :: after) (h : q ∈ p :: after) : p.key ≤ q.key := by
  have sorted := m.sorted
  rw [cut] at sorted
  have above := (List.pairwise_cons.1 (List.pairwise_append.1 sorted).2.1).1
  rcases List.mem_cons.1 h with rfl | h
  · exact String.le_refl _
  · exact Std.le_of_lt (above q h)

theorem value_of_mem {m : Properties} {p : Property} (h : p ∈ m.entries) :
    m.value p.key = p.value := by
  rw [value, mem_entries_iff.1 h]
  rfl

/-- A value is empty, or it belongs to an entry with the key. -/
theorem value_eq_empty_or_mem (m : Properties) (key : String) :
    m.value key = "" ∨ ⟨key, m.value key⟩ ∈ m.entries := by
  cases h : m.get? key with
  | none => exact .inl (by simp [value, h])
  | some v => exact .inr (mem_entries_iff.2 (by simp [value, h]))

/-! ### Writing a list of properties -/

/-- Only what is written is in the map. -/
theorem mem_of_mem_ofList {ps : List Property} {p : Property} (h : p ∈ (ofList ps).entries) :
    p ∈ ps := by
  rw [mem_entries_iff, get?_ofList] at h
  exact List.mem_reverse.1 (mem_of_find? h)

/-- A property whose key comes after all others is put at the end. -/
theorem insertEntry_of_forall_lt {p : Property} {entries : List Property}
    (h : ∀ q ∈ entries, q.key < p.key) : insertEntry p entries = entries ++ [p] := by
  induction entries with
  | nil => rfl
  | cons q rest ih =>
    have below := h q List.mem_cons_self
    have notBelow : ¬ p.key < q.key := String.lt_asymm below
    have ne : p.key ≠ q.key := fun same => String.lt_irrefl _ (same ▸ below)
    rw [insertEntry, if_neg notBelow, if_neg ne, ih fun r hr => h r (List.mem_cons_of_mem _ hr)]
    rfl

/-- Sorted properties, written one after the other, are the entries. -/
theorem entries_ofList {ps : List Property} (h : ps.Pairwise fun p q => p.key < q.key) :
    (ofList ps).entries = ps := by
  suffices key : ∀ (ps : List Property) (m : Properties),
      (m.entries ++ ps).Pairwise (fun p q => p.key < q.key) →
        (ps.foldl insert m).entries = m.entries ++ ps from key ps empty h
  intro ps
  induction ps with
  | nil => simp
  | cons p ps ih =>
    intro m sorted
    have last : (m.insert p).entries = m.entries ++ [p] :=
      insertEntry_of_forall_lt fun q hq =>
        (List.pairwise_append.1 sorted).2.2 q hq p List.mem_cons_self
    rw [List.foldl_cons, ih, last, List.append_assoc, List.singleton_append]
    rwa [last, List.append_assoc, List.singleton_append]

end MailAuth.Properties
