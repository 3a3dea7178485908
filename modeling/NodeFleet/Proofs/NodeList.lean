/-
  Which texts are lists of nodes.

  * `Text.Padded`, `Text.Trimmed`, `Text.Trims`: blanks around a text, and a text without them.
  * `NodeEntry.Cuts`: the pieces of a text between marks. `NodeEntry.Spells`: an item is divided by
    its first equals sign. `NodeEntry.Written`: pieces that are entries, or blank.
  * `NodeEntry.Plain`: an entry that can stand in a list.
  * `parseList_eq_ok_iff`: a list is read item by item, unless a name occurs twice.
  * `parseList_accepts`: the texts that are lists, and of what; every list of plain entries with
    distinct names is read back, however it is written, and nodes of these names make a client.
-/
import NodeFleet.Remote
import Mathlib.Data.List.DropRight
import Mathlib.Data.List.Forall2
import Mathlib.Data.List.Nodup

namespace NodeFleet

/-! ## Blanks -/

namespace Text

/-- A text with blanks around it. -/
def Padded (t cs : List Char) : Prop :=
  ∃ before after, cs = before ++ t ++ after ∧ (∀ c ∈ before, isBlank c = true) ∧
    ∀ c ∈ after, isBlank c = true

/-- A text with no blank at either end. -/
structure Trimmed (t : List Char) : Prop where
  head : ∀ c ∈ t.head?, isBlank c = false
  last : ∀ c ∈ t.getLast?, isBlank c = false

/-- What is left of a text without the blanks around it. -/
structure Trims (cs t : List Char) : Prop where
  padded : Padded t cs
  trimmed : Trimmed t

theorem Padded.notMem {t cs : List Char} {c : Char} (h : Padded t cs) (hc : isBlank c = false)
    (hnot : c ∉ t) : c ∉ cs := by
  obtain ⟨before, after, rfl, hbefore, hafter⟩ := h
  simp only [List.mem_append, not_or]
  refine ⟨⟨fun hmem => ?_, hnot⟩, fun hmem => ?_⟩
  · exact absurd (hbefore c hmem) (by simp [hc])
  · exact absurd (hafter c hmem) (by simp [hc])

theorem trims_trimChars (cs : List Char) : Trims cs (trimChars cs) := by
  have hback : trimChars cs ++ (cs.dropWhile isBlank).rtakeWhile isBlank = cs.dropWhile isBlank :=
    List.rdropWhile_append_rtakeWhile
  constructor
  · refine ⟨cs.takeWhile isBlank, (cs.dropWhile isBlank).rtakeWhile isBlank, ?_,
      fun c => List.mem_takeWhile_imp, fun c => List.mem_rtakeWhile_imp⟩
    rw [List.append_assoc, hback, List.takeWhile_append_dropWhile]
  · constructor
    · intro c hc
      have hhead : (cs.dropWhile isBlank).head? = some c := by
        rw [← hback, List.head?_append, Option.mem_def.1 hc]
        rfl
      have hnot := List.head?_dropWhile_not isBlank cs
      rwa [hhead] at hnot
    · intro c hc
      have hne : (cs.dropWhile isBlank).rdropWhile isBlank ≠ [] := by
        intro hnil
        rw [show trimChars cs = [] from hnil] at hc
        cases hc
      have hlast := List.rdropWhile_last_not isBlank _ hne
      rw [show trimChars cs = (cs.dropWhile isBlank).rdropWhile isBlank from rfl,
        List.getLast?_eq_some_getLast hne] at hc
      rw [← Option.some.inj hc]
      exact eq_false_of_ne_true hlast

/-- There is only one way to trim a text. -/
theorem Trims.eq_trimChars {cs t : List Char} (h : Trims cs t) : trimChars cs = t := by
  obtain ⟨⟨before, after, rfl, hbefore, hafter⟩, hhead, hlast⟩ := h
  have hfront : (before ++ t ++ after).dropWhile isBlank = (t ++ after).dropWhile isBlank := by
    rw [List.append_assoc, List.dropWhile_append_of_pos hbefore]
  have hback : (t ++ after).rdropWhile isBlank = t := by
    rw [List.rdropWhile, List.reverse_append,
      List.dropWhile_append_of_pos fun c hc => hafter c (List.mem_reverse.1 hc)]
    cases hlist : t.reverse with
    | nil => rw [List.reverse_eq_nil_iff.1 hlist]; rfl
    | cons c cs =>
      have hc : isBlank c = false := hlast c (by rw [List.getLast?_eq_head?_reverse, hlist]; rfl)
      rw [List.dropWhile_cons_of_neg (by simp [hc]), ← hlist, List.reverse_reverse]
  show ((before ++ t ++ after).dropWhile isBlank).rdropWhile isBlank = t
  rw [hfront]
  cases t with
  | nil => rw [List.nil_append, List.dropWhile_eq_nil_iff.2 hafter]; rfl
  | cons c cs =>
    have hc : isBlank c = false := hhead c rfl
    rw [List.cons_append, List.dropWhile_cons_of_neg (by simp [hc]), ← List.cons_append]
    exact hback

theorem Trims.mem {cs t : List Char} {c : Char} (h : Trims cs t) (hc : c ∈ t) : c ∈ cs := by
  obtain ⟨before, after, rfl, -, -⟩ := h.padded
  exact List.mem_append_left _ (List.mem_append_right _ hc)

theorem trims_iff {cs t : List Char} : Trims cs t ↔ trimChars cs = t :=
  ⟨Trims.eq_trimChars, fun h => h ▸ trims_trimChars cs⟩

theorem Trimmed.of_trimChars {t : List Char} (h : trimChars t = t) : Trimmed t :=
  (trims_iff.2 h).trimmed

end Text

/-! ## Pieces and items -/

namespace NodeEntry

/-- The pieces of a text that a mark divides. -/
structure Cuts (mark : Char) (cs : List Char) (pieces : List (List Char)) : Prop where
  joined : [mark].intercalate pieces = cs
  ne_nil : pieces ≠ []
  clean : ∀ p ∈ pieces, mark ∉ p

theorem splitAt_eq (mark : Char) (cs : List Char) : splitAt mark cs = cs.splitOn mark := by
  induction cs with
  | nil => rfl
  | cons c cs ih =>
    rw [splitAt, ih, List.splitOn_cons_eq_if_modifyHead]
    cases hpieces : cs.splitOn mark with
    | nil => exact absurd hpieces (List.splitOn_ne_nil mark cs)
    | cons piece pieces => by_cases h : c = mark <;> simp [h]

theorem notMem_of_mem_splitAt {mark : Char} {cs p : List Char} (h : p ∈ splitAt mark cs) :
    mark ∉ p := by
  induction cs generalizing p with
  | nil =>
    rw [List.mem_singleton.1 h]
    exact List.not_mem_nil
  | cons c cs ih =>
    rw [splitAt] at h
    split at h
    · next hnil => exact absurd (splitAt_eq mark cs ▸ hnil) (List.splitOn_ne_nil mark cs)
    · next piece pieces heq =>
      rw [heq] at ih
      obtain ⟨hpiece, hpieces⟩ := List.forall_mem_cons.1 fun q => @ih q
      split at h
      · rcases List.mem_cons.1 h with rfl | h
        · exact List.not_mem_nil
        · exact ih h
      · next hne =>
        rcases List.mem_cons.1 h with rfl | h
        · exact List.not_mem_cons_of_ne_of_not_mem (fun heq => hne heq.symm) hpiece
        · exact hpieces p h

theorem cuts_iff {mark : Char} {cs : List Char} {pieces : List (List Char)} :
    Cuts mark cs pieces ↔ splitAt mark cs = pieces := by
  rw [splitAt_eq]
  constructor
  · rintro ⟨rfl, hne, hclean⟩
    exact List.splitOn_intercalate mark hclean hne
  · rintro rfl
    refine ⟨List.intercalate_splitOn mark, List.splitOn_ne_nil mark cs, fun p hp => ?_⟩
    exact notMem_of_mem_splitAt (splitAt_eq mark cs ▸ hp)

/-- An item spells an entry: its first equals sign stands between name and address, of which
    neither is blank. -/
structure Spells (item : List Char) (e : NodeEntry) : Prop where
  divided : ∃ before after, item = before ++ '=' :: after ∧ '=' ∉ before ∧
    Text.Trims before e.name.toList ∧ Text.Trims after e.url.toList
  name_ne : e.name ≠ ""
  url_ne : e.url ≠ ""

theorem cut?_eq_some_iff {item before after : List Char} :
    cut? item = some (before, after) ↔ item = before ++ '=' :: after ∧ '=' ∉ before := by
  have hbefore : '=' ∉ item.takeWhile (· ≠ '=') := fun hmem =>
    absurd (List.mem_takeWhile_imp hmem) (by decide)
  constructor
  · intro h
    rw [cut?] at h
    split at h
    · cases h
    · next c rest hrest =>
      obtain ⟨rfl, rfl⟩ := Prod.mk.inj (Option.some.inj h)
      have hc : c = '=' := by
        have hnot := List.head?_dropWhile_not (· ≠ '=') item
        rw [hrest] at hnot
        simpa using hnot
      subst hc
      refine ⟨?_, hbefore⟩
      rw [← hrest, List.takeWhile_append_dropWhile]
  · rintro ⟨rfl, hnot⟩
    have hne : ∀ c ∈ before, decide (c ≠ '=') = true := fun c hc =>
      decide_eq_true fun heq => hnot (heq ▸ hc)
    rw [cut?, List.dropWhile_append_of_pos hne, List.takeWhile_append_of_pos hne]
    simp

theorem ofItem?_eq_some_iff {item : List Char} {e : NodeEntry} :
    ofItem? item = some e ↔ Spells item e := by
  constructor
  · intro h
    rw [ofItem?] at h
    split at h
    · cases h
    · next before after hcut =>
      obtain ⟨hitem, hnot⟩ := cut?_eq_some_iff.1 hcut
      dsimp only at h
      split at h
      · cases h
      · next hparts =>
        cases h
        rw [Bool.or_eq_true, not_or, List.isEmpty_iff, List.isEmpty_iff] at hparts
        refine ⟨⟨before, after, hitem, hnot, ?_, ?_⟩, ?_, ?_⟩
        · rw [String.toList_ofList]
          exact Text.trims_trimChars before
        · rw [String.toList_ofList]
          exact Text.trims_trimChars after
        · exact fun heq => hparts.1 (String.ofList_eq_empty_iff.1 heq)
        · exact fun heq => hparts.2 (String.ofList_eq_empty_iff.1 heq)
  · rintro ⟨⟨before, after, hitem, hnot, hname, hurl⟩, hname_ne, hurl_ne⟩
    rw [ofItem?, cut?_eq_some_iff.2 ⟨hitem, hnot⟩]
    have hname' : e.name.toList.isEmpty = false := by simpa using hname_ne
    have hurl' : e.url.toList.isEmpty = false := by simpa using hurl_ne
    simp only [hname.eq_trimChars, hurl.eq_trimChars, hname', hurl', String.ofList_toList,
      Bool.or_self, Bool.false_eq_true, if_false]

/-- Items are read in turn; each spells an entry, and no name is there twice. -/
theorem addItems_eq_ok_iff {before entries : List NodeEntry} {is : List (List Char)} :
    addItems before is = .ok entries ↔ ∃ es, entries = before ++ es ∧ List.Forall₂ Spells is es ∧
      (es.map (·.name)).Nodup ∧ ∀ e ∈ es, e.name ∉ before.map (·.name) := by
  induction is generalizing before with
  | nil =>
    constructor
    · intro h
      cases h
      exact ⟨[], (List.append_nil _).symm, .nil, List.nodup_nil, fun e he => by cases he⟩
    · rintro ⟨es, rfl, hes, -, -⟩
      cases hes
      rw [List.append_nil, addItems]
  | cons item rest ih =>
    constructor
    · intro h
      rw [addItems] at h
      split at h
      · cases h
      · next e he =>
        split at h
        · cases h
        · next hnew =>
          obtain ⟨es, rfl, hes, hnodup, hfresh⟩ := ih.1 h
          have hnew' : e.name ∉ before.map (·.name) := by
            rintro hmem
            obtain ⟨b, hb, heq⟩ := List.mem_map.1 hmem
            exact hnew (List.any_eq_true.2 ⟨b, hb, beq_iff_eq.2 heq⟩)
          refine ⟨e :: es, by rw [List.append_assoc, List.singleton_append],
            .cons (ofItem?_eq_some_iff.1 he) hes, ?_, ?_⟩
          · refine List.nodup_cons.2 ⟨fun hmem => ?_, hnodup⟩
            obtain ⟨b, hb, heq⟩ := List.mem_map.1 hmem
            exact hfresh b hb (by simp [heq])
          · refine List.forall_mem_cons.2 ⟨hnew', fun b hb hmem => hfresh b hb ?_⟩
            rw [List.map_append]
            exact List.mem_append_left _ hmem
    · rintro ⟨es, rfl, hes, hnodup, hfresh⟩
      obtain ⟨e, es, he, hrest, rfl⟩ := List.forall₂_cons_left_iff.1 hes
      obtain ⟨hnew, hfresh⟩ := List.forall_mem_cons.1 hfresh
      obtain ⟨hlater, hnodup⟩ := List.nodup_cons.1 hnodup
      have hany : before.any (·.name == e.name) = false := by
        rw [List.any_eq_false]
        exact fun b hb heq => hnew (List.mem_map.2 ⟨b, hb, beq_iff_eq.1 heq⟩)
      rw [addItems, ofItem?_eq_some_iff.2 he]
      simp only [hany, Bool.false_eq_true, if_false]
      refine ih.2 ⟨es, by rw [List.append_assoc, List.singleton_append], hrest, hnodup, ?_⟩
      intro b hb hmem
      rw [List.map_append, List.mem_append] at hmem
      rcases hmem with hmem | hmem
      · exact hfresh b hb hmem
      · exact hlater (List.mem_singleton.1 hmem ▸ List.mem_map_of_mem hb)

/-! ## Lists -/

/-- The items of a text: what stands between commas, without the blanks around it, unless nothing
    is left. -/
def Lists (cs : List Char) (is : List (List Char)) : Prop :=
  ∃ pieces trimmed, Cuts ',' cs pieces ∧ List.Forall₂ Text.Trims pieces trimmed ∧
    is = trimmed.filter (!·.isEmpty)

theorem lists_iff {cs : List Char} {is : List (List Char)} : Lists cs is ↔ items cs = is := by
  have htrims (ps ts : List (List Char)) :
      List.Forall₂ Text.Trims ps ts ↔ ps.map Text.trimChars = ts := by
    rw [← List.forall₂_eq_eq_eq, List.forall₂_map_left_iff]
    exact ⟨.imp fun _ _ => Text.trims_iff.1, .imp fun _ _ => Text.trims_iff.2⟩
  constructor
  · rintro ⟨pieces, trimmed, hpieces, htrimmed, rfl⟩
    rw [items, cuts_iff.1 hpieces, (htrims _ _).1 htrimmed]
  · rintro rfl
    exact ⟨_, _, cuts_iff.2 rfl, (htrims _ _).2 rfl, rfl⟩

/-- A text is read as a list if it has items, every item spells an entry, and no name is there
    twice. -/
theorem parseList_eq_ok_iff {raw : String} {entries : List NodeEntry} :
    parseList raw = .ok entries ↔ ∃ is, Lists raw.toList is ∧ is ≠ [] ∧
      List.Forall₂ Spells is entries ∧ (entries.map (·.name)).Nodup := by
  simp only [lists_iff, exists_eq_left']
  have hadd : addItems [] (items raw.toList) = .ok entries ↔
      List.Forall₂ Spells (items raw.toList) entries ∧ (entries.map (·.name)).Nodup := by
    simp [addItems_eq_ok_iff]
  constructor
  · intro h
    rw [parseList] at h
    split at h
    · cases h
    · cases h
    · next es hne hes =>
      cases h
      obtain ⟨hspells, hnodup⟩ := hadd.1 hes
      refine ⟨fun hnil => hne ?_, hspells, hnodup⟩
      rw [hnil] at hspells
      exact List.forall₂_nil_left_iff.1 hspells
  · rintro ⟨hne, hspells, hnodup⟩
    rw [parseList, hadd.2 ⟨hspells, hnodup⟩]
    cases entries with
    | nil => exact absurd (List.forall₂_nil_right_iff.1 hspells) hne
    | cons => rfl

/-! ## Writing lists -/

/-- An entry that can stand in a list. -/
structure Plain (e : NodeEntry) : Prop where
  name_trimmed : Text.Trimmed e.name.toList
  name_ne : e.name ≠ ""
  name_clean : ',' ∉ e.name.toList ∧ '=' ∉ e.name.toList
  url_trimmed : Text.Trimmed e.url.toList
  url_ne : e.url ≠ ""
  url_clean : ',' ∉ e.url.toList

/-- Pieces that write entries, with blanks around each part, and blank pieces anywhere. -/
inductive Written : List (List Char) → List NodeEntry → Prop
  | nil : Written [] []
  | blank {p : List Char} {ps : List (List Char)} {es : List NodeEntry} :
    (∀ c ∈ p, Text.isBlank c = true) → Written ps es → Written (p :: ps) es
  | entry {e : NodeEntry} {name url : List Char} {ps : List (List Char)} {es : List NodeEntry} :
    Text.Padded e.name.toList name → Text.Padded e.url.toList url → Written ps es →
    Written ((name ++ '=' :: url) :: ps) (e :: es)

/-- However an entry is written, what is left without blanks spells it. -/
theorem Plain.spells_trimChars {e : NodeEntry} (h : e.Plain) {name url : List Char}
    (hname : Text.Padded e.name.toList name) (hurl : Text.Padded e.url.toList url) :
    Spells (Text.trimChars (name ++ '=' :: url)) e := by
  obtain ⟨b, a, rfl, hb, ha⟩ := hname
  obtain ⟨b', a', rfl, hb', ha'⟩ := hurl
  have hname_ne : e.name.toList ≠ [] := by simpa using h.name_ne
  have hurl_ne : e.url.toList ≠ [] := by simpa using h.url_ne
  -- the blanks before the name and behind the address go, those around the sign stay
  have htrim : Text.trimChars (b ++ e.name.toList ++ a ++ '=' :: (b' ++ e.url.toList ++ a')) =
      e.name.toList ++ a ++ '=' :: (b' ++ e.url.toList) := by
    refine Text.Trims.eq_trimChars ⟨⟨b, a', by simp, hb, ha'⟩, ?_, ?_⟩
    · intro c hc
      rw [List.append_assoc, List.head?_append_of_ne_nil _ hname_ne] at hc
      exact h.name_trimmed.head c hc
    · intro c hc
      rw [← List.cons_append, ← List.append_assoc, List.getLast?_append_of_ne_nil _ hurl_ne] at hc
      exact h.url_trimmed.last c hc
  rw [htrim]
  refine ⟨⟨_, _, rfl, ?_, ⟨⟨[], a, rfl, nofun, ha⟩, h.name_trimmed⟩,
    ⟨⟨b', [], by simp, hb', nofun⟩, h.url_trimmed⟩⟩, h.name_ne, h.url_ne⟩
  exact Text.Padded.notMem ⟨[], a, rfl, nofun, ha⟩ (by decide) h.name_clean.2

theorem Written.clean {ps : List (List Char)} {es : List NodeEntry} (h : Written ps es)
    (hplain : ∀ e ∈ es, e.Plain) : ∀ p ∈ ps, ',' ∉ p := by
  induction h with
  | nil => exact nofun
  | @blank p ps es hblank _ ih =>
    refine List.forall_mem_cons.2 ⟨fun hmem => ?_, ih hplain⟩
    exact absurd (hblank ',' hmem) (by decide)
  | @entry e name url ps es hname hurl _ ih =>
    obtain ⟨he, hes⟩ := List.forall_mem_cons.1 hplain
    refine List.forall_mem_cons.2 ⟨?_, ih hes⟩
    have hname' : ',' ∉ name := hname.notMem (by decide) he.name_clean.1
    have hurl' : ',' ∉ url := hurl.notMem (by decide) he.url_clean
    simp [hname', hurl']

theorem Written.spells {ps : List (List Char)} {es : List NodeEntry} (h : Written ps es)
    (hplain : ∀ e ∈ es, e.Plain) :
    List.Forall₂ Spells ((ps.map Text.trimChars).filter (!·.isEmpty)) es := by
  induction h with
  | nil => exact .nil
  | @blank p ps es hblank _ ih =>
    have hnil : Text.trimChars p = [] :=
      Text.Trims.eq_trimChars ⟨⟨p, [], by simp, hblank, nofun⟩, nofun, nofun⟩
    rw [List.map_cons, hnil, List.filter_cons_of_neg (by simp)]
    exact ih hplain
  | @entry e name url ps es hname hurl _ ih =>
    obtain ⟨he, hes⟩ := List.forall_mem_cons.1 hplain
    have hspells := he.spells_trimChars hname hurl
    have hne : Text.trimChars (name ++ '=' :: url) ≠ [] := by
      obtain ⟨before, after, heq, -⟩ := hspells.divided
      rw [heq]
      exact List.append_ne_nil_of_right_ne_nil _ (List.cons_ne_nil _ _)
    rw [List.map_cons, List.filter_cons_of_pos (by simpa using hne)]
    exact .cons hspells (ih hes)

/-- A list of plain entries is read back, however it is written. -/
theorem Written.parseList {raw : String} {ps : List (List Char)} {es : List NodeEntry}
    (h : Written ps es) (hraw : raw.toList = [','].intercalate ps) (hne : es ≠ [])
    (hplain : ∀ e ∈ es, e.Plain) (hnodup : (es.map (·.name)).Nodup) :
    NodeEntry.parseList raw = .ok es := by
  have hps : ps ≠ [] := by
    rintro rfl
    cases h
    exact hne rfl
  have hspells := h.spells hplain
  refine parseList_eq_ok_iff.2 ⟨_, lists_iff.2 rfl, fun hnil => hne ?_, ?_, hnodup⟩
  all_goals rw [items, cuts_iff.1 ⟨hraw.symm, hps, h.clean hplain⟩] at *
  · rw [hnil] at hspells
    exact List.forall₂_nil_left_iff.1 hspells
  · exact hspells

theorem toList_renderList (es : List NodeEntry) :
    (renderList es).toList =
      [','].intercalate (es.map fun e => e.name.toList ++ '=' :: e.url.toList) := by
  rw [renderList, String.toList_intercalate, List.map_map]
  congr 1
  refine List.map_congr_left fun e _ => ?_
  simp [render]

theorem written_render (es : List NodeEntry) :
    Written (es.map fun e => e.name.toList ++ '=' :: e.url.toList) es := by
  induction es with
  | nil => exact .nil
  | cons e es ih => exact .entry ⟨[], [], by simp, nofun, nofun⟩ ⟨[], [], by simp, nofun, nofun⟩ ih

/-- What is read can be written as it stands. -/
theorem Spells.plain {item : List Char} {e : NodeEntry} (h : Spells item e) (hitem : ',' ∉ item) :
    e.Plain := by
  obtain ⟨⟨before, after, rfl, hnot, hname, hurl⟩, hname_ne, hurl_ne⟩ := h
  obtain ⟨hbefore, hafter⟩ : ',' ∉ before ∧ ',' ∉ after := by
    rw [List.mem_append, List.mem_cons, not_or, not_or] at hitem
    exact ⟨hitem.1, hitem.2.2⟩
  exact ⟨hname.trimmed, hname_ne, ⟨fun h => hbefore (hname.mem h), fun h => hnot (hname.mem h)⟩,
    hurl.trimmed, hurl_ne, fun h => hafter (hurl.mem h)⟩

theorem notMem_of_mem_items {cs item : List Char} (h : item ∈ items cs) : ',' ∉ item := by
  obtain ⟨piece, hpiece, rfl⟩ := List.mem_map.1 (List.mem_filter.1 h).1
  exact fun hmem => notMem_of_mem_splitAt hpiece ((Text.trims_trimChars piece).mem hmem)

theorem plain_of_parseList {raw : String} {entries : List NodeEntry}
    (h : parseList raw = .ok entries) : ∀ e ∈ entries, e.Plain := by
  obtain ⟨is, hlists, -, hspells, -⟩ := parseList_eq_ok_iff.1 h
  have hclean : ∀ item ∈ is, ',' ∉ item := fun item hitem =>
    notMem_of_mem_items (lists_iff.1 hlists ▸ hitem)
  clear hlists h
  induction hspells with
  | nil => exact nofun
  | cons he _ ih =>
    obtain ⟨hitem, hrest⟩ := List.forall_mem_cons.1 hclean
    exact List.forall_mem_cons.2 ⟨he.plain hitem, ih hrest⟩

end NodeEntry

/-! ## Clients over a list -/

theorem Node.name_of_remote? {e : NodeEntry} {n : Node} (h : remote? e = .ok n) :
    n.name = e.name := by
  rw [remote?] at h
  split at h
  · cases h
  · cases h
    rfl

/-- The nodes at the addresses of a list have the names of the list. -/
theorem Node.names_of_mapM_remote? {entries : List NodeEntry} {nodes : List Node}
    (h : entries.mapM Node.remote? = .ok nodes) :
    nodes.map (·.name) = entries.map (·.name) := by
  induction entries generalizing nodes with
  | nil =>
    cases h
    rfl
  | cons e es ih =>
    rw [List.mapM_cons] at h
    cases he : Node.remote? e with
    | error x =>
      rw [he] at h
      cases h
    | ok n =>
      cases hes : es.mapM Node.remote? with
      | error x =>
        rw [he, hes] at h
        cases h
      | ok ns =>
        rw [he, hes] at h
        cases h
        rw [List.map_cons, List.map_cons, Node.name_of_remote? he, ih hes]

namespace Client

/-- Nodes are added, each under its own name, unless two have one name. -/
theorem addNodes_eq_ok {ns : List Node} {nodes : NameMap Node} (hnodup : (ns.map (·.name)).Nodup)
    (hfresh : ∀ n ∈ ns, nodes.get? n.name = none) :
    ∃ nodes', addNodes nodes ns = .ok nodes' ∧ (∀ n ∈ ns, nodes'.get? n.name = some n) ∧
      ∀ k, k ∉ ns.map (·.name) → nodes'.get? k = nodes.get? k := by
  induction ns generalizing nodes with
  | nil => exact ⟨nodes, rfl, nofun, fun k _ => rfl⟩
  | cons n ns ih =>
    obtain ⟨hn, hns⟩ := List.forall_mem_cons.1 hfresh
    obtain ⟨hlater, hnodup⟩ := List.nodup_cons.1 hnodup
    obtain ⟨nodes', hadd, hthere, hkept⟩ := @ih (nodes.insert n.name n) hnodup fun m hm => by
      rw [NameMap.get?_insert, if_neg fun heq => hlater (List.mem_map.2 ⟨m, hm, heq⟩)]
      exact hns m hm
    refine ⟨nodes', by rw [addNodes, hn]; exact hadd, ?_, fun k hk => ?_⟩
    · refine List.forall_mem_cons.2 ⟨?_, hthere⟩
      rw [hkept _ hlater, NameMap.get?_insert, if_pos rfl]
    · rw [List.map_cons, List.mem_cons, not_or] at hk
      rw [hkept k hk.2, NameMap.get?_insert, if_neg hk.1]

/-- Nodes with distinct names make a client that knows each of them. -/
theorem ofNodes_eq_ok {nodes : List Node} (hnodup : (nodes.map (·.name)).Nodup)
    (chain : ChainConfig) (callTimeout : Millis) (oracle : GasOracle)
    (interfaces : InterfaceSource) :
    ∃ c, ofNodes chain nodes callTimeout oracle interfaces = .ok c ∧
      ∀ n ∈ nodes, c.nodes.get? n.name = some n := by
  obtain ⟨m, hadd, hthere, -⟩ := addNodes_eq_ok hnodup fun n _ => NameMap.get?_empty n.name
  rw [ofNodes]
  split
  · next heq => rw [hadd] at heq; cases heq
  · next m' heq =>
    rw [hadd] at heq
    cases heq
    exact ⟨_, rfl, hthere⟩

end Client

namespace NodeEntry

/-- **The texts that are lists of nodes.** A text is read as a list if and only if something is
    left between its commas, every item has a name and an address on the two sides of its first
    equals sign, and no name is there twice; the entries are these. Every list of plain entries
    with distinct names is read back, as it is rendered and however else it is written. Nodes with
    the names of a list that was read make a client. -/
theorem parseList_accepts :
    (∀ raw entries, parseList raw = .ok entries ↔ ∃ is, Lists raw.toList is ∧ is ≠ [] ∧
      List.Forall₂ Spells is entries ∧ (entries.map (·.name)).Nodup) ∧
    (∀ entries, entries ≠ [] → (∀ e ∈ entries, e.Plain) → (entries.map (·.name)).Nodup →
      parseList (renderList entries) = .ok entries ∧
      ∀ (raw : String) pieces, raw.toList = [','].intercalate pieces → Written pieces entries →
        parseList raw = .ok entries) ∧
    (∀ raw entries, parseList raw = .ok entries → entries ≠ [] ∧ (∀ e ∈ entries, e.Plain) ∧
      (entries.map (·.name)).Nodup) ∧
    ∀ raw entries, parseList raw = .ok entries → ∀ nodes : List Node,
      entries.mapM Node.remote? = .ok nodes ∨ nodes.map (·.name) = entries.map (·.name) →
      ∀ chain callTimeout oracle interfaces,
        ∃ c, Client.ofNodes chain nodes callTimeout oracle interfaces = .ok c ∧
          ∀ n ∈ nodes, c.nodes.get? n.name = some n := by
  refine ⟨fun raw entries => parseList_eq_ok_iff, ?_, ?_, ?_⟩
  · intro entries hne hplain hnodup
    refine ⟨?_, fun raw pieces hraw hwritten => hwritten.parseList hraw hne hplain hnodup⟩
    exact (written_render entries).parseList (toList_renderList entries) hne hplain hnodup
  · intro raw entries h
    refine ⟨?_, plain_of_parseList h, ?_⟩
    all_goals obtain ⟨is, -, hne, hspells, hnodup⟩ := parseList_eq_ok_iff.1 h
    · rintro rfl
      exact hne (List.forall₂_nil_right_iff.1 hspells)
    · exact hnodup
  · intro raw entries h nodes hnodes
    obtain ⟨-, -, -, -, hnodup⟩ := parseList_eq_ok_iff.1 h
    have hnames : nodes.map (·.name) = entries.map (·.name) :=
      hnodes.elim Node.names_of_mapM_remote? id
    exact Client.ofNodes_eq_ok (hnames ▸ hnodup)

/-- Two entries with blanks and an empty item between them. -/
theorem parseList_accepts_spaced :
    parseList " a = http://x?k=1 ,, b=http://y" = .ok [⟨"a", "http://x?k=1"⟩, ⟨"b", "http://y"⟩] ∧
      parseList "a=http://x?k=1,b=http://y" = .ok [⟨"a", "http://x?k=1"⟩, ⟨"b", "http://y"⟩] ∧
      ∀ chain callTimeout oracle interfaces, ∃ c, Client.ofNodes chain
        [.remote "a" "http://x?k=1", .remote "b" "http://y"] callTimeout oracle interfaces =
          .ok c := by
  obtain ⟨-, hwrites, -, hclients⟩ := parseList_accepts
  have hplain : ∀ e ∈ [NodeEntry.mk "a" "http://x?k=1", ⟨"b", "http://y"⟩], e.Plain := by
    refine List.forall_mem_cons.2 ⟨?_, List.forall_mem_singleton.2 ?_⟩
    · exact ⟨.of_trimChars rfl, by decide, by decide, .of_trimChars rfl, by decide, by decide⟩
    · exact ⟨.of_trimChars rfl, by decide, by decide, .of_trimChars rfl, by decide, by decide⟩
  have hwritten : Written [" a = http://x?k=1 ".toList, [], " b=http://y".toList]
      [⟨"a", "http://x?k=1"⟩, ⟨"b", "http://y"⟩] := by
    have hblank : ∀ c ∈ [' '], Text.isBlank c = true := List.forall_mem_singleton.2 rfl
    refine @Written.entry _ " a ".toList " http://x?k=1 ".toList _ _ ?_ ?_ <| .blank nofun <|
      @Written.entry _ " b".toList "http://y".toList _ _ ?_ ?_ .nil
    · exact ⟨[' '], [' '], rfl, hblank, hblank⟩
    · exact ⟨[' '], [' '], rfl, hblank, hblank⟩
    · exact ⟨[' '], [], rfl, hblank, nofun⟩
    · exact ⟨[], [], rfl, nofun, nofun⟩
  obtain ⟨hrendered, hread⟩ := hwrites _ (List.cons_ne_nil _ _) hplain (by decide)
  have hspaced := hread " a = http://x?k=1 ,, b=http://y" _ rfl hwritten
  refine ⟨hspaced, hrendered, fun chain callTimeout oracle interfaces => ?_⟩
  obtain ⟨c, hc, -⟩ := hclients _ _ hspaced [.remote "a" "http://x?k=1", .remote "b" "http://y"]
    (.inr rfl) chain callTimeout oracle interfaces
  exact ⟨c, hc⟩

end NodeEntry

end NodeFleet
