/-
  Written transactions that are sent to every node.

  * `Hex.Carries`: a text of an even number of digits, behind one of some marks and with blanks
    around it.
  * `Broadcaster.readHex_eq_ok_iff`: what is read of a text.
  * `sendHex_sends_digits`: a text that carries digits is sent as the bytes that they spell; every
    other text is refused, and no node hears of it.
-/
import NodeFleet.Proofs.Broadcast
import NodeFleet.Proofs.Effects
import NodeFleet.Proofs.HexText
import NodeFleet.Proofs.NodeList

namespace NodeFleet

/-- A text carries digits: an even number of them, and not none, behind one of the marks. -/
structure Hex.Carries (marks : List (List Char)) (text : String) (ds : List Char) : Prop where
  trimmed : ∃ mark ∈ marks, Text.Trims text.toList (mark ++ ds)
  ne_nil : ds ≠ []
  even : ds.length % 2 = 0
  digits : ∀ c ∈ ds, c ∈ digits

namespace Hex

variable {text : String} {ds : List Char} {raw : Bytes}

theorem Spells.ne_nil_iff (h : Spells ds raw) : ds ≠ [] ↔ raw ≠ [] := by
  rw [← List.length_pos_iff, ← List.length_pos_iff, h.length_eq]
  omega

/-- A text of digits has no blanks around it. -/
theorem Spells.trims (h : Spells ds raw) {mark : List Char} (hmark : mark ∈ marks) :
    Text.Trims (mark ++ ds) (mark ++ ds) := by
  have hmarks : ∀ c ∈ mark, Text.isBlank c = false := by
    simp only [marks, List.mem_cons, List.not_mem_nil, or_false] at hmark
    rcases hmark with rfl | rfl | rfl <;> simp <;> decide
  have hdigits : ∀ c ∈ digits, Text.isBlank c = false := forall_digits (by decide)
  have hsolid : ∀ c ∈ mark ++ ds, Text.isBlank c = false := fun c hc =>
    (List.mem_append.1 hc).elim (hmarks c) fun hc => hdigits c (h.mem_digits hc)
  refine ⟨⟨[], [], by simp, List.forall_mem_nil _, List.forall_mem_nil _⟩, ?_, ?_⟩
  · exact fun c hc => hsolid c (List.mem_of_head? hc)
  · exact fun c hc => hsolid c (List.mem_of_getLast? hc)

end Hex

namespace Broadcaster

variable {b : Broadcaster} {text : String} {raw : Bytes} {s : Session}

theorem readHex_eq_ok_iff :
    readHex text = .ok raw ↔ Hex.Writes (Text.trimChars text.toList) raw ∧ raw ≠ [] := by
  rw [← Hex.decodeChars_eq_ok_iff]
  have hdecode : Hex.decode (Text.trim text) = Hex.decodeChars (Text.trimChars text.toList) := by
    rw [Hex.decode, Text.trim, String.toList_ofList]
  rw [readHex, hdecode]
  rcases Hex.decodeChars (Text.trimChars text.toList) with e | _ | ⟨u, us⟩
  · simp
  · simp [eq_comm]
  · simp only [Except.ok.injEq, ne_eq, iff_self_and]
    rintro rfl
    exact List.cons_ne_nil u us

/-- Text that carries digits is read as what they spell. -/
theorem readHex_of_carries {ds : List Char} (h : Hex.Carries Hex.marks text ds)
    (hraw : Hex.Spells ds raw) : readHex text = .ok raw := by
  obtain ⟨mark, hmark, htrims⟩ := h.trimmed
  exact readHex_eq_ok_iff.2
    ⟨⟨mark, hmark, ds, htrims.eq_trimChars, hraw⟩, hraw.ne_nil_iff.1 h.ne_nil⟩

/-- Text that carries digits is read, and no other. -/
theorem exists_readHex_iff :
    (∃ raw, readHex text = .ok raw) ↔ ∃ ds, Hex.Carries Hex.marks text ds := by
  constructor
  · rintro ⟨raw, h⟩
    obtain ⟨⟨mark, hmark, ds, hcs, hraw⟩, hne⟩ := readHex_eq_ok_iff.1 h
    obtain ⟨heven, hdigits⟩ := Hex.exists_spells_iff.1 ⟨raw, hraw⟩
    exact ⟨ds, ⟨mark, hmark, Text.trims_iff.2 hcs⟩, hraw.ne_nil_iff.2 hne, heven, hdigits⟩
  · rintro ⟨ds, h⟩
    obtain ⟨raw, hraw⟩ := Hex.exists_spells_iff.2 ⟨h.even, h.digits⟩
    exact ⟨raw, readHex_of_carries h hraw⟩

theorem outcome_sendHex_of_ok (h : readHex text = .ok raw) :
    (b.sendHex text).outcome s = (.ok ((b.sendRaw raw).run s).1, ((b.sendRaw raw).run s).2) := by
  rw [sendHex, h]
  rfl

theorem outcome_sendHex_of_error {e : EncodeError} (h : readHex text = .error e) :
    (b.sendHex text).outcome s = (.error (.encode e), s) := by
  rw [sendHex, h]
  rfl

/-- **A text is sent as the bytes that its digits spell.** An even number of digits in letters of
    either case, with or without a mark in front and with blanks around them, has just the outcome
    of the bytes; they are sent once to every node, and no others are. Every other text is refused
    for what it is, and nothing has happened. All bytes but none can be sent in this way. -/
theorem sendHex_sends_digits (b : Broadcaster) (text : String) (s : Session) :
    (∀ ds, Hex.Carries Hex.marks text ds → ∃ raw, Hex.Spells ds raw ∧ raw ≠ [] ∧
      (b.sendHex text).outcome s =
        (.ok ((b.sendRaw raw).run s).1, ((b.sendRaw raw).run s).2)) ∧
    ((∀ ds, ¬Hex.Carries Hex.marks text ds) →
      ∃ e, (b.sendHex text).outcome s = (.error (.encode e), s)) ∧
    ∀ raw, raw ≠ [] → ∀ mark ∈ Hex.marks, ∀ ds, Hex.Spells ds raw → text.toList = mark ++ ds →
      (b.sendHex text).outcome s =
        (.ok ((b.sendRaw raw).run s).1, ((b.sendRaw raw).run s).2) ∧
      ((b.sendHex text).outcome s).2.events =
        s.events ++ b.nodes.map fun n => ⟨s.now, .asked n.name (.sendRaw raw)⟩ := by
  refine ⟨fun ds h => ?_, fun hnone => ?_, fun raw hne mark hmark ds hraw htext => ?_⟩
  · obtain ⟨raw, hraw⟩ := Hex.exists_spells_iff.2 ⟨h.even, h.digits⟩
    exact ⟨raw, hraw, hraw.ne_nil_iff.1 h.ne_nil, outcome_sendHex_of_ok (readHex_of_carries h hraw)⟩
  · cases hread : readHex text with
    | error e => exact ⟨e, outcome_sendHex_of_error hread⟩
    | ok raw =>
      obtain ⟨ds, h⟩ := exists_readHex_iff.1 ⟨raw, hread⟩
      exact absurd h (hnone ds)
  · obtain ⟨heven, hdigits⟩ := Hex.exists_spells_iff.1 ⟨raw, hraw⟩
    have hcarries : Hex.Carries Hex.marks text ds :=
      ⟨⟨mark, hmark, htext ▸ hraw.trims hmark⟩, hraw.ne_nil_iff.2 hne, heven, hdigits⟩
    have hsent := outcome_sendHex_of_ok (b := b) (s := s) (readHex_of_carries hcarries hraw)
    refine ⟨hsent, ?_⟩
    rw [hsent, run_sendRaw]
    simp [Session.record]

/-- Spaced digits in mixed letters are sent, and half a byte is not. -/
theorem sendHex_sends_digits_of_spaced :
    let b : Broadcaster := ⟨[.sentTo "a" 9 (some (.ok .zero))], 4000⟩
    ((∃ ds, Hex.Carries Hex.marks " 0xC0ffEe\n" ds) ∧
      (b.sendHex " 0xC0ffEe\n").outcome .start =
        (.ok ((b.sendRaw [0xc0, 0xff, 0xee]).run .start).1,
          ((b.sendRaw [0xc0, 0xff, 0xee]).run .start).2)) ∧
    (∃ e, (b.sendHex "0xabc").outcome .start = (.error (.encode e), .start)) ∧
    ((b.sendHex "0XC0").outcome .start).2.events = [⟨0, .asked "a" (.sendRaw [0xc0])⟩] := by
  intro b
  have hspells : Hex.Spells "C0ffEe".toList [0xc0, 0xff, 0xee] := by
    unfold Hex.Spells
    decide +kernel
  have htrims := hspells.trims (show ['0', 'x'] ∈ Hex.marks by decide)
  have hpadded : Text.Padded (['0', 'x'] ++ "C0ffEe".toList) " 0xC0ffEe\n".toList :=
    ⟨[' '], ['\n'], by decide, by simp; decide, by simp; decide⟩
  obtain ⟨heven, hdigits⟩ := Hex.exists_spells_iff.1 ⟨_, hspells⟩
  have hcarries : Hex.Carries Hex.marks " 0xC0ffEe\n" "C0ffEe".toList :=
    ⟨⟨['0', 'x'], by decide, hpadded, htrims.trimmed⟩, by decide, heven, hdigits⟩
  have hnone : ∀ ds, ¬Hex.Carries Hex.marks "0xabc" ds := by
    intro ds h
    obtain ⟨raw, hraw⟩ := exists_readHex_iff.2 ⟨ds, h⟩
    have hrefused : readHex "0xabc" = .error (.rawHex .oddLength) := rfl
    rw [hrefused] at hraw
    cases hraw
  refine ⟨⟨⟨_, hcarries⟩, ?_⟩, (sendHex_sends_digits b _ .start).2.1 hnone, ?_⟩
  · obtain ⟨raw, hraw, -, hsent⟩ := (sendHex_sends_digits b _ .start).1 _ hcarries
    rwa [hraw.unique hspells] at hsent
  · exact ((sendHex_sends_digits b "0XC0" .start).2.2 [0xc0] (by decide) ['0', 'X'] (by decide)
      ['C', '0'] (by unfold Hex.Spells; decide) (by decide)).2

/-- A capital mark is none if only a small one counts, and what stands behind it is sent. -/
theorem sendHex_takes_capital_mark :
    let b : Broadcaster := ⟨[.sentTo "a" 9 (some (.ok .zero))], 4000⟩
    (∀ ds, ¬Hex.Carries [[], ['0', 'x']] "0Xc0" ds) ∧
      (∃ o, ((b.sendHex "0Xc0").outcome .start).1 = .ok o) ∧
      ((b.sendHex "0Xc0").outcome .start).2.events = [⟨0, .asked "a" (.sendRaw [0xc0])⟩] := by
  intro b
  refine ⟨fun ds h => ?_, ⟨_, rfl⟩, rfl⟩
  obtain ⟨mark, hmark, htrims⟩ := h.trimmed
  have htext : "0Xc0".toList = mark ++ ds := by
    rw [← htrims.eq_trimChars]
    decide
  have hcapital : 'X' ∈ ds := by
    have hmem : 'X' ∈ mark ++ ds := htext ▸ by decide
    refine (List.mem_append.1 hmem).resolve_left fun hin => ?_
    have hmarks : ∀ m ∈ [[], ['0', 'x']], 'X' ∉ m := by decide
    exact hmarks mark hmark hin
  exact absurd (h.digits 'X' hcapital) (by decide)

end Broadcaster

end NodeFleet
