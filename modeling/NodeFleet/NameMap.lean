/-
  Finite maps from names to values, kept in the order of the names.

  * `NameMap.insert`, `NameMap.get?`, `NameMap.ofList`: a later entry of a name replaces an
    earlier one.
  * `get?_insert`: what an insertion changes.
  * `ext_get?`: two maps that answer every name alike are equal, so the order of insertion
    of distinct names leaves no trace.
  * `NameMap.filterMap`: the entries that a function keeps; `get?_filterMap_eq_some_iff` and
    `keys_filterMap` tell which.
  * `lookup_filter`: looking up in a list of entries that need not be sorted.
-/
namespace NodeFleet

/-- What is looked up is not among the entries that are left out. -/
theorem lookup_filter {α β : Type} [BEq α] [LawfulBEq α] {p : α × β → Bool} {k : α}
    (h : ∀ v, p (k, v) = true) (es : List (α × β)) : (es.filter p).lookup k = es.lookup k := by
  induction es with
  | nil => rfl
  | cons e es ih =>
    obtain ⟨k', v⟩ := e
    by_cases hp : p (k', v) = true
    · rw [List.filter_cons_of_pos hp, List.lookup_cons, List.lookup_cons, ih]
    · have hk : k ≠ k' := by
        rintro rfl
        exact hp (h v)
      rw [List.filter_cons_of_neg hp, ih, List.lookup_cons, beq_false_of_ne hk]

/-- Entries with strictly increasing names. -/
structure NameMap (α : Type) where
  entries : List (String × α)
  sorted : entries.Pairwise (·.1 < ·.1)

namespace NameMap

variable {α : Type}

def empty : NameMap α := ⟨[], .nil⟩

instance : Inhabited (NameMap α) := ⟨empty⟩

def keys (m : NameMap α) : List String := m.entries.map (·.1)

def size (m : NameMap α) : Nat := m.entries.length

def isEmpty (m : NameMap α) : Bool := m.entries.isEmpty

def get? (m : NameMap α) (k : String) : Option α := m.entries.lookup k

/-! ## Insertion -/

/-- Puts an entry in its place among sorted entries. -/
def place (k : String) (v : α) : List (String × α) → List (String × α)
  | [] => [(k, v)]
  | (k', v') :: rest =>
    if k < k' then (k, v) :: (k', v') :: rest
    else if k' < k then (k', v') :: place k v rest
    else (k, v) :: rest

private theorem eq_of_not_lt {a b : String} (h₁ : ¬a < b) (h₂ : ¬b < a) : a = b :=
  String.le_antisymm (String.not_lt.1 h₂) (String.not_lt.1 h₁)

theorem mem_place {k : String} {v : α} {e : String × α} {es : List (String × α)}
    (h : e ∈ place k v es) : e = (k, v) ∨ e ∈ es := by
  induction es with
  | nil => simpa [place] using h
  | cons e' rest ih =>
    rw [place] at h
    split at h
    · simpa using h
    · split at h
      · rcases List.mem_cons.1 h with h | h
        · exact .inr (by simp [h])
        · exact (ih h).imp_right (List.mem_cons_of_mem _)
      · rcases List.mem_cons.1 h with h | h
        · exact .inl h
        · exact .inr (List.mem_cons_of_mem _ h)

theorem sorted_place (k : String) (v : α) {es : List (String × α)}
    (h : es.Pairwise (·.1 < ·.1)) : (place k v es).Pairwise (·.1 < ·.1) := by
  induction es with
  | nil => simp [place]
  | cons e rest ih =>
    rw [List.pairwise_cons] at h
    rw [place]
    split
    · next hk =>
      refine .cons (fun x hx => ?_) (.cons h.1 h.2)
      rcases List.mem_cons.1 hx with rfl | hx
      · exact hk
      · exact String.lt_trans hk (h.1 x hx)
    · split
      · next hk =>
        refine .cons (fun x hx => ?_) (ih h.2)
        rcases mem_place hx with rfl | hx
        · exact hk
        · exact h.1 x hx
      · next h₁ h₂ =>
        have hk : k = e.1 := eq_of_not_lt h₁ h₂
        exact .cons (fun x hx => hk ▸ h.1 x hx) h.2

def insert (m : NameMap α) (k : String) (v : α) : NameMap α :=
  ⟨place k v m.entries, sorted_place k v m.sorted⟩

theorem mem_insert {m : NameMap α} {k : String} {v : α} {e : String × α}
    (h : e ∈ (m.insert k v).entries) : e = (k, v) ∨ e ∈ m.entries :=
  mem_place h

/-- The map of a list of entries; of two entries of one name the later counts. -/
def ofList (es : List (String × α)) : NameMap α :=
  es.foldl (fun m e => m.insert e.1 e.2) empty

/-! ## Looking up -/

theorem lookup_place (k : String) (v : α) (es : List (String × α)) (k' : String)
    (h : es.Pairwise (·.1 < ·.1)) :
    (place k v es).lookup k' = if k' = k then some v else es.lookup k' := by
  induction es with
  | nil =>
    by_cases hk : k' = k
    · simp [place, hk]
    · have hkb : (k' == k) = false := by simpa using hk
      simp [place, List.lookup_cons, hkb, hk]
  | cons e rest ih =>
    rw [List.pairwise_cons] at h
    obtain ⟨a, b⟩ := e
    rw [place]
    by_cases hk : k' = k
    · subst hk
      split
      · simp
      · split
        · next h₁ h₂ =>
          have hne : (k' == a) = false := by
            simp only [beq_eq_false_iff_ne, ne_eq]
            rintro rfl
            exact absurd h₂ (String.lt_irrefl _)
          simp [List.lookup_cons, hne, ih h.2]
        · simp
    · have hkb : (k' == k) = false := by simpa using hk
      split
      · simp only [List.lookup_cons, hkb]
      · split
        · simp only [List.lookup_cons, ih h.2, hk, if_false]
        · next h₁ h₂ =>
          have hka : k = a := eq_of_not_lt h₁ h₂
          subst hka
          simp only [List.lookup_cons, hkb]

theorem get?_insert (m : NameMap α) (k : String) (v : α) (k' : String) :
    (m.insert k v).get? k' = if k' = k then some v else m.get? k' :=
  lookup_place k v m.entries k' m.sorted

@[simp] theorem get?_empty (k : String) : (empty : NameMap α).get? k = none := rfl

private theorem lookup_eq_none_of_lt (k : String) (es : List (String × α))
    (h : ∀ e ∈ es, k < e.1) : es.lookup k = none := by
  induction es with
  | nil => rfl
  | cons e rest ih =>
    have hne : (k == e.1) = false := by
      simp only [beq_eq_false_iff_ne, ne_eq]
      intro hk
      exact absurd (hk ▸ h e (by simp)) (String.lt_irrefl _)
    obtain ⟨a, b⟩ := e
    simp only [List.lookup_cons, hne]
    exact ih fun e he => h e (List.mem_cons_of_mem _ he)

private theorem entries_eq_of_lookup :
    ∀ {es fs : List (String × α)}, es.Pairwise (·.1 < ·.1) → fs.Pairwise (·.1 < ·.1) →
      (∀ k, es.lookup k = fs.lookup k) → es = fs
  | [], [], _, _, _ => rfl
  | [], (a, b) :: fs, _, _, h => by simpa [List.lookup_cons] using h a
  | (a, b) :: es, [], _, _, h => by simpa [List.lookup_cons] using h a
  | (a, b) :: es, (c, d) :: fs, he, hf, h => by
    rw [List.pairwise_cons] at he hf
    have hac : a = c := by
      refine eq_of_not_lt (fun hlt => ?_) (fun hlt => ?_)
      · have := h a
        rw [lookup_eq_none_of_lt a ((c, d) :: fs)] at this
        · simp at this
        · intro e hmem
          rcases List.mem_cons.1 hmem with rfl | hmem
          · exact hlt
          · exact String.lt_trans hlt (hf.1 e hmem)
      · have := h c
        rw [lookup_eq_none_of_lt c ((a, b) :: es)] at this
        · simp at this
        · intro e hmem
          rcases List.mem_cons.1 hmem with rfl | hmem
          · exact hlt
          · exact String.lt_trans hlt (he.1 e hmem)
    subst hac
    have hbd : b = d := by simpa [List.lookup_cons] using h a
    subst hbd
    have htail : es = fs := by
      refine entries_eq_of_lookup he.2 hf.2 fun k => ?_
      by_cases hk : k = a
      · subst hk
        rw [lookup_eq_none_of_lt k es he.1, lookup_eq_none_of_lt k fs hf.1]
      · have hkb : (k == a) = false := by simpa using hk
        simpa [List.lookup_cons, hkb] using h k
    rw [htail]

theorem ext_get? {m n : NameMap α} (h : ∀ k, m.get? k = n.get? k) : m = n := by
  obtain ⟨es, he⟩ := m
  obtain ⟨fs, hf⟩ := n
  have : es = fs := entries_eq_of_lookup he hf h
  subst this
  rfl

/-! ## Entries -/

private theorem lookup_eq_some_iff {k : String} {v : α} :
    ∀ {es : List (String × α)}, es.Pairwise (·.1 < ·.1) → (es.lookup k = some v ↔ (k, v) ∈ es)
  | [], _ => by simp
  | (a, b) :: es, h => by
    rw [List.pairwise_cons] at h
    by_cases hk : k = a
    · subst hk
      have hnot : (k, v) ∉ es := fun hmem => absurd (h.1 _ hmem) (String.lt_irrefl _)
      simp [hnot, eq_comm]
    · have hkb : (k == a) = false := by simpa using hk
      simp [List.lookup_cons, hkb, hk, lookup_eq_some_iff h.2]

theorem get?_eq_some_iff {m : NameMap α} {k : String} {v : α} :
    m.get? k = some v ↔ (k, v) ∈ m.entries :=
  lookup_eq_some_iff m.sorted

theorem mem_keys_iff {m : NameMap α} {k : String} : k ∈ m.keys ↔ ∃ v, m.get? k = some v := by
  simp [keys, get?_eq_some_iff]

theorem nodup_keys (m : NameMap α) : m.keys.Nodup := by
  refine List.pairwise_map.2 (m.sorted.imp fun h he => ?_)
  exact absurd (he ▸ h) (String.lt_irrefl _)

/-- The entries that a function keeps, with the values it gives them. -/
def filterMap {β : Type} (f : String → α → Option β) (m : NameMap α) : NameMap β where
  entries := m.entries.filterMap fun e => (f e.1 e.2).map (e.1, ·)
  sorted := by
    refine m.sorted.filterMap _ fun e e' h b hb b' hb' => ?_
    obtain ⟨_, _, rfl⟩ := Option.map_eq_some_iff.1 hb
    obtain ⟨_, _, rfl⟩ := Option.map_eq_some_iff.1 hb'
    exact h

theorem get?_filterMap_eq_some_iff {β : Type} {f : String → α → Option β} {m : NameMap α}
    {k : String} {b : β} :
    (m.filterMap f).get? k = some b ↔ ∃ a, (k, a) ∈ m.entries ∧ f k a = some b := by
  rw [get?_eq_some_iff]
  simp only [filterMap, List.mem_filterMap, Option.map_eq_some_iff]
  constructor
  · rintro ⟨⟨k', a⟩, hmem, b', hb, heq⟩
    cases heq
    exact ⟨a, hmem, hb⟩
  · rintro ⟨a, hmem, hb⟩
    exact ⟨(k, a), hmem, b, hb, rfl⟩

theorem keys_filterMap {β : Type} (f : String → α → Option β) (m : NameMap α) :
    (m.filterMap f).keys = (m.entries.filter fun e => (f e.1 e.2).isSome).map (·.1) := by
  simp only [filterMap, keys]
  induction m.entries with
  | nil => rfl
  | cons e es ih => cases h : f e.1 e.2 <;> simp [h, ih]

end NameMap

end NodeFleet
