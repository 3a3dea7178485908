/-
  Address books of a document, whose entries can be entered in any order.

  * `AddressBook.Names`: an entry whose key writes an address.
  * `AddressBook.Reads`: what can come of a document, by some order of its entries.
  * `AddressBook.Contested`: two entries have different names for one address.
  * `exists_loadInto_iff`, `nameOf_loadInto_iff`: when entries can be entered, and what an address
    is called then: what the last entry says that is about it.
  * `orders_agree`: whether a document can be read is the same in every order; what an address is
    called is the same unless it is contested.
-/
import NodeFleet.AddressBook
import NodeFleet.Proofs.HexText
import Mathlib.Data.List.Nodup

namespace NodeFleet.AddressBook

variable {b b' : AddressBook} {es order : List (String × String)} {a : Address} {name : String}

/-! ## Entries -/

/-- The key of an entry writes an address. -/
def Names (a : Address) (e : String × String) : Prop := Hex.Writes e.1.toList a.toBytes

theorem Names.unique {a a' : Address} {e : String × String} (h : Names a e) (h' : Names a' e) :
    a = a' :=
  Except.ok.inj ((Address.parse_eq_ok_iff.2 h).symm.trans (Address.parse_eq_ok_iff.2 h'))

/-- Two entries have different names for one address. -/
def Contested (es : List (String × String)) : Prop :=
  ∃ a, ∃ e ∈ es, ∃ e' ∈ es, Names a e ∧ Names a e' ∧ e.2 ≠ e'.2

theorem nameOf_register_of_ne {a' : Address} (h : a' ≠ a) :
    (b.register a name).nameOf a' = b.nameOf a' := by
  have hlookup : (b.register a name).entries.lookup a' = b.entries.lookup a' := by
    rw [register, List.lookup_cons, beq_false_of_ne h]
    exact lookup_filter (fun _ => by simpa using h) b.entries
  rw [nameOf, hlookup, nameOf]

/-- Entries can be entered if every key is an address, whatever stands in the book. -/
theorem exists_loadInto_iff :
    (∃ b', loadInto b es = .ok b') ↔ ∀ e ∈ es, ∃ a, Names a e := by
  induction es generalizing b with
  | nil => simp [loadInto]
  | cons e es ih =>
    obtain ⟨key, name⟩ := e
    simp only [List.forall_mem_cons, loadInto, Names, ← Address.parse_eq_ok_iff] at ih ⊢
    cases Address.parse key with
    | error err => simp
    | ok a => simpa using ih

/-- An address is called what the last entry says that is about it, and else what it was called. -/
theorem nameOf_loadInto_iff (h : loadInto b es = .ok b') : b'.nameOf a = name ↔
    (∃ front e back, es = front ++ e :: back ∧ Names a e ∧ e.2 = name ∧ ∀ e ∈ back, ¬Names a e) ∨
      (∀ e ∈ es, ¬Names a e) ∧ b.nameOf a = name := by
  induction es generalizing b with
  | nil =>
    cases h
    simp
  | cons e es ih =>
    rw [loadInto] at h
    split at h
    · cases h
    next a' hkey =>
    have hkey' : Names a' e := Address.parse_eq_ok_iff.1 hkey
    rw [ih h]
    constructor
    · rintro (⟨front, e', back, rfl, hlast⟩ | ⟨hnone, hname⟩)
      · exact Or.inl ⟨e :: front, e', back, rfl, hlast⟩
      · by_cases ha : a = a'
        · subst ha
          rw [nameOf_register] at hname
          exact Or.inl ⟨[], e, es, rfl, hkey', hname, hnone⟩
        · rw [nameOf_register_of_ne ha] at hname
          have hnot : ¬Names a e := fun hnames => ha (hnames.unique hkey')
          exact Or.inr ⟨List.forall_mem_cons.2 ⟨hnot, hnone⟩, hname⟩
    · rintro (⟨_ | ⟨_, front⟩, e', back, heq, hnames, hname, hback⟩ | ⟨hnone, hname⟩)
      · cases heq
        obtain rfl := hnames.unique hkey'
        exact Or.inr ⟨hback, (nameOf_register ..).trans hname⟩
      · cases heq
        exact Or.inl ⟨front, e', back, rfl, hnames, hname, hback⟩
      · obtain ⟨hnot, hnone⟩ := List.forall_mem_cons.1 hnone
        have ha : a ≠ a' := fun ha => hnot (ha ▸ hkey')
        exact Or.inr ⟨hnone, (nameOf_register_of_ne ha).trans hname⟩

/-! ## Orders -/

/-- An entry calls an address so, or none is about it and it is unknown. -/
def Calls (es : List (String × String)) (a : Address) (name : String) : Prop :=
  (∃ e ∈ es, Names a e ∧ e.2 = name) ∨ (∀ e ∈ es, ¬Names a e) ∧ name = "unknown"

theorem calls_nameOf (h : order.Perm es) (hb : load order = .ok b) (a : Address) :
    Calls es a (b.nameOf a) := by
  rcases (nameOf_loadInto_iff (a := a) hb).1 rfl with
    ⟨front, e, back, rfl, hnames, hname, -⟩ | ⟨hnone, hname⟩
  · exact Or.inl ⟨e, h.mem_iff.1 (by simp), hnames, hname⟩
  · exact Or.inr ⟨fun e he => hnone e (h.mem_iff.2 he), hname.symm⟩

theorem exists_load (hes : ∀ e ∈ es, ∃ a, Names a e) (h : order.Perm es) :
    ∃ b, load order = .ok b :=
  exists_loadInto_iff.2 fun e he => hes e (h.mem_iff.1 he)

/-- An address has every name by some order that an entry has for it. -/
theorem exists_order (hes : ∀ e ∈ es, ∃ a, Names a e) (h : Calls es a name) :
    ∃ order b, order.Perm es ∧ load order = .ok b ∧ b.nameOf a = name := by
  rcases h with ⟨e, he, hnames, rfl⟩ | ⟨hnone, rfl⟩
  · -- the entry that is to count is entered last
    have horder : (es.erase e ++ [e]).Perm es :=
      (List.perm_append_singleton e _).trans (List.perm_cons_erase he).symm
    obtain ⟨b, hb⟩ := exists_load hes horder
    refine ⟨_, b, horder, hb, (nameOf_loadInto_iff hb).2 (Or.inl ?_)⟩
    exact ⟨_, e, [], rfl, hnames, rfl, nofun⟩
  · obtain ⟨b, hb⟩ := exists_load hes (.refl es)
    exact ⟨es, b, .refl es, hb, (nameOf_loadInto_iff hb).2 (Or.inr ⟨hnone, rfl⟩)⟩

theorem calls_unique_iff :
    (∀ a name name', Calls es a name → Calls es a name' → name = name') ↔ ¬Contested es := by
  constructor
  · rintro hunique ⟨a, e, he, e', he', hnames, hnames', hne⟩
    exact hne (hunique a _ _ (Or.inl ⟨e, he, hnames, rfl⟩) (Or.inl ⟨e', he', hnames', rfl⟩))
  · rintro hnot a _ _ (⟨e, he, hnames, rfl⟩ | ⟨hnone, rfl⟩)
      (⟨e', he', hnames', rfl⟩ | ⟨hnone', rfl⟩)
    · by_contra hne
      exact hnot ⟨a, e, he, e', he', hnames, hnames', hne⟩
    · exact absurd hnames (hnone' e he)
    · exact absurd hnames' (hnone e' he')
    · rfl

/-! ## Documents -/

theorem nodup_eraseDups {α : Type} [BEq α] [LawfulBEq α] : ∀ l : List α, l.eraseDups.Nodup
  | [] => .nil
  | a :: l => by
    rw [List.eraseDups_cons, List.nodup_cons]
    exact ⟨by simp, nodup_eraseDups _⟩
termination_by l => l.length
decreasing_by exact Nat.lt_succ_of_le (List.length_filter_le _ _)

theorem eq_map_of_mapM {fields : List (String × Json)} {all : List (String × String)}
    (h : (fields.mapM fun (k, v) => (Json.readString? v).map (k, ·)) = some all) :
    fields = all.map fun (k, v) => (k, .str v) := by
  induction fields generalizing all with
  | nil =>
    cases h
    rfl
  | cons f fields ih =>
    obtain ⟨k, v⟩ := f
    rw [List.mapM_cons] at h
    obtain ⟨e, he, h⟩ := Option.bind_eq_some_iff.1 h
    obtain ⟨rest, hrest, h⟩ := Option.bind_eq_some_iff.1 h
    obtain ⟨name, hname, rfl⟩ := Option.map_eq_some_iff.1 he
    cases h
    cases v <;> cases hname
    rw [ih hrest, List.map_cons]

theorem lookup_map_str (all : List (String × String)) (key : String) :
    (all.map fun (k, v) => (k, Json.str v)).lookup key = (all.lookup key).map .str := by
  induction all with
  | nil => rfl
  | cons e all ih =>
    obtain ⟨k, v⟩ := e
    rw [List.map_cons, List.lookup_cons, List.lookup_cons, ih]
    cases key == k <;> rfl

/-- Every key has one entry, with the last value that it is given. -/
theorem readEntries?_eq_some {j : Json} (h : readEntries? j = some es) :
    (es.map (·.1)).Nodup ∧ ∃ fields, j = .obj fields ∧
      ∀ key name, (key, name) ∈ es ↔ fields.reverse.lookup key = some (.str name) := by
  unfold readEntries? at h
  split at h
  case h_2 => cases h
  next fields =>
  obtain ⟨all, hall, h⟩ := Option.bind_eq_some_iff.1 h
  cases h
  obtain rfl := eq_map_of_mapM hall
  have hkeys : ((all.map (·.1)).eraseDups.filterMap
      fun k => (all.reverse.lookup k).map (k, ·)).map (·.1) =
        (all.map (·.1)).eraseDups.filter fun k => (all.reverse.lookup k).isSome := by
    rw [List.map_filterMap, ← List.filterMap_eq_filter]
    refine List.filterMap_congr fun k _ => ?_
    cases hk : all.reverse.lookup k <;> simp [hk, Option.guard]
  refine ⟨hkeys ▸ (nodup_eraseDups _).filter _, _, rfl, fun key name => ?_⟩
  rw [← List.map_reverse, lookup_map_str]
  constructor
  · intro h
    obtain ⟨k, -, hk⟩ := List.mem_filterMap.1 h
    obtain ⟨v, hv, heq⟩ := Option.map_eq_some_iff.1 hk
    cases heq
    rw [hv, Option.map_some]
  · intro h
    obtain ⟨v, hv, hname⟩ := Option.map_eq_some_iff.1 h
    cases hname
    refine List.mem_filterMap.2 ⟨key, ?_, by rw [hv, Option.map_some]⟩
    obtain ⟨front, back, hsplit, -⟩ := List.lookup_eq_some_iff.1 hv
    have hmem : (key, name) ∈ all := List.mem_reverse.1 (hsplit ▸ by simp)
    exact List.mem_eraseDups.2 (List.mem_map_of_mem hmem)

/-- What can come of a document: its entries are entered in some order. -/
@[mk_iff]
inductive Reads (text : String) : Except ParseError AddressBook → Prop
  | unread : (Json.parse? text).bind readEntries? = none → Reads text (.error .addressBook)
  | entered {es order : List (String × String)} :
    (Json.parse? text).bind readEntries? = some es → order.Perm es → Reads text (load order)

theorem reads_iff_of_some {text : String} {r : Except ParseError AddressBook}
    (hread : (Json.parse? text).bind readEntries? = some es) :
    Reads text r ↔ ∃ order, order.Perm es ∧ r = load order := by
  simp [reads_iff, hread]

theorem reads_iff_of_none {text : String} {r : Except ParseError AddressBook}
    (hread : (Json.parse? text).bind readEntries? = none) :
    Reads text r ↔ r = .error .addressBook := by
  simp [reads_iff, hread]

theorem reads_parse (text : String) : Reads text (parse text) := by
  rw [parse]
  cases hread : (Json.parse? text).bind readEntries? with
  | none => exact .unread hread
  | some es => exact .entered hread (.refl es)

theorem exists_ok_iff {text : String} (hread : (Json.parse? text).bind readEntries? = some es)
    {r : Except ParseError AddressBook} (h : Reads text r) :
    (∃ b, r = .ok b) ↔ ∀ e ∈ es, ∃ a, Names a e := by
  obtain ⟨order, horder, rfl⟩ := (reads_iff_of_some hread).1 h
  rw [load, exists_loadInto_iff]
  simp only [horder.mem_iff]

/-- **What is read of a document does not depend on the order of its entries, unless an address is
    contested.** In every order it can be read or in none: it can if every key is an address. Keys
    are distinct, and of a key that is repeated as it stands the last value counts, but different
    keys can write one address. By some order it has any of the names that they give it, and so
    all orders agree on all names if and only if no two keys of one address have different
    names. -/
theorem orders_agree (text : String) :
    Reads text (parse text) ∧
    (∀ r r', Reads text r → Reads text r' → ((∃ b, r = .ok b) ↔ ∃ b, r' = .ok b)) ∧
    ∀ es, (Json.parse? text).bind readEntries? = some es →
      ((es.map (·.1)).Nodup ∧ ∃ fields, Json.parse? text = some (.obj fields) ∧
        ∀ key name, (key, name) ∈ es ↔ fields.reverse.lookup key = some (.str name)) ∧
      ((∃ b, Reads text (.ok b)) ↔ ∀ e ∈ es, ∃ a, Names a e) ∧
      ((∀ e ∈ es, ∃ a, Names a e) →
        (∀ a name, (∃ b, Reads text (.ok b) ∧ b.nameOf a = name) ↔ Calls es a name) ∧
        ((∀ b b', Reads text (.ok b) → Reads text (.ok b') → ∀ a, b.nameOf a = b'.nameOf a) ↔
          ¬Contested es)) := by
  refine ⟨reads_parse text, fun r r' h h' => ?_, fun es hread => ⟨?_, ?_, fun hes => ?_⟩⟩
  · cases hread : (Json.parse? text).bind readEntries? with
    | none => rw [(reads_iff_of_none hread).1 h, (reads_iff_of_none hread).1 h']
    | some es => rw [exists_ok_iff hread h, exists_ok_iff hread h']
  · obtain ⟨j, hj, hentries⟩ := Option.bind_eq_some_iff.1 hread
    obtain ⟨hnodup, fields, rfl, hfields⟩ := readEntries?_eq_some hentries
    exact ⟨hnodup, fields, hj, hfields⟩
  · constructor
    · rintro ⟨b, hb⟩
      exact (exists_ok_iff hread hb).1 ⟨b, rfl⟩
    · intro hes
      obtain ⟨b, hb⟩ := exists_load hes (.refl es)
      exact ⟨b, (reads_iff_of_some hread).2 ⟨es, .refl es, hb.symm⟩⟩
  · have hcalls (a : Address) (name : String) :
        (∃ b, Reads text (.ok b) ∧ b.nameOf a = name) ↔ Calls es a name := by
      simp only [reads_iff_of_some hread]
      constructor
      · rintro ⟨b, ⟨order, horder, hb⟩, rfl⟩
        exact calls_nameOf horder hb.symm a
      · intro h
        obtain ⟨order, b, horder, hb, hname⟩ := exists_order hes h
        exact ⟨b, ⟨order, horder, hb.symm⟩, hname⟩
    refine ⟨hcalls, ?_⟩
    rw [← calls_unique_iff]
    constructor
    · intro hsame a name name' h h'
      obtain ⟨b, hb, rfl⟩ := (hcalls a name).2 h
      obtain ⟨b', hb', rfl⟩ := (hcalls a name').2 h'
      exact hsame b b' hb hb' a
    · intro hunique b b' hb hb' a
      exact hunique a _ _ ((hcalls a _).1 ⟨b, hb, rfl⟩) ((hcalls a _).1 ⟨b', hb', rfl⟩)

/-- One address under two keys with one name. -/
theorem orders_agree_of_one_name :
    let key := Address.zero.text
    let key' := Hex.text Address.zero.toBytes
    let text := "\x7b\"" ++ key ++ "\":\"vault\",\"" ++ key' ++ "\":\"vault\"\x7d"
    (∃ b, Reads text (.ok b)) ∧ ∀ b, Reads text (.ok b) → b.nameOf .zero = "vault" := by
  intro key key' text
  have hread : (Json.parse? text).bind readEntries? = some [(key, "vault"), (key', "vault")] := by
    decide +kernel
  obtain ⟨hnames, hnames'⟩ : Names .zero (key, "vault") ∧ Names .zero (key', "vault") :=
    ⟨Hex.writes_prefixed _, Hex.writes_text _⟩
  obtain ⟨-, -, hdocument⟩ := orders_agree text
  obtain ⟨-, hreads, hnamed⟩ := hdocument _ hread
  have hes : ∀ e ∈ [(key, "vault"), (key', "vault")], ∃ a, Names a e := by
    simpa using ⟨⟨_, hnames⟩, ⟨_, hnames'⟩⟩
  refine ⟨hreads.2 hes, fun b hb => ?_⟩
  rcases ((hnamed hes).1 .zero _).1 ⟨b, hb, rfl⟩ with ⟨e, he, -, hname⟩ | ⟨hnone, -⟩
  · simp only [List.mem_cons, List.not_mem_nil, or_false] at he
    rcases he with rfl | rfl <;> exact hname.symm
  · exact absurd hnames (hnone _ (.head _))

/-- One address under two keys with two names: there is an order for either of them. -/
theorem orders_of_two_names :
    let key := Address.zero.text
    let key' := Hex.text Address.zero.toBytes
    let text := "\x7b\"" ++ key ++ "\":\"x\",\"" ++ key' ++ "\":\"y\"\x7d"
    ∃ b b', Reads text (.ok b) ∧ Reads text (.ok b') ∧ b.nameOf .zero = "x" ∧
      b'.nameOf .zero = "y" := by
  intro key key' text
  have hread : (Json.parse? text).bind readEntries? = some [(key, "x"), (key', "y")] := by
    decide +kernel
  have hkey : Address.parse key = .ok .zero := Address.parse_eq_ok_iff.2 (Hex.writes_prefixed _)
  have hkey' : Address.parse key' = .ok .zero := Address.parse_eq_ok_iff.2 (Hex.writes_text _)
  have hload : load [(key', "y"), (key, "x")] =
      .ok ((empty.register .zero "y").register .zero "x") := by
    simp only [load, loadInto, hkey, hkey']
  have hload' : load [(key, "x"), (key', "y")] =
      .ok ((empty.register .zero "x").register .zero "y") := by
    simp only [load, loadInto, hkey, hkey']
  exact ⟨_, _, (reads_iff_of_some hread).2 ⟨_, .swap .., hload.symm⟩,
    (reads_iff_of_some hread).2 ⟨_, .refl _, hload'.symm⟩, nameOf_register .., nameOf_register ..⟩

end NodeFleet.AddressBook
