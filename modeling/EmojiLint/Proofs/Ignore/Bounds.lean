import EmojiLint.Proofs.Check
import EmojiLint.Proofs.Ignore.Canonical
import EmojiLint.Proofs.Text.Boundary
import Mathlib.Tactic.SplitIfs

/-!
# Ignored ranges can be cut out of the text

The cursor of the scanner need not stand between two characters: an escape takes one byte with it,
however long the character is, and may leave the text altogether.  No range begins or ends there,
though.  A region begins with a marker, and it ends behind a marker, before a line feed or with the
text; all of these are told by a byte of ASCII right before or behind the place, and next to such a
byte no character is cut.

* `isBoundary_start`, `isBoundary_stop` — of a region, from what `Found` says of it.
* `solid_ignoredRanges`, `separated_ignoredRanges` — of the ranges, as merging leaves them.
* `cutsOut_ignoredRanges` — all of it: every ignored range can be cut out of the text.
-/

set_option autoImplicit false

namespace EmojiLint
namespace Ignore

open Text (byteLength IsBoundary)

/-- A range holds a word of a text, and the text can be cut before and behind the word. -/
structure CutsOut (text : List Char) (r : Range) : Prop where
  start_lt_stop : r.start < r.stop
  stop_le : r.stop ≤ byteLength text
  isBoundary_start : IsBoundary text r.start
  isBoundary_stop : IsBoundary text r.stop
  cut : ∃ before word after, Text.splitAtByte? text r.stop = some (before ++ word, after) ∧
    Text.splitAtByte? (before ++ word) r.start = some (before, word)

/-! ## The ends of a region -/

section Regions

variable {markers : Markers} {flags : Flags} {cs : List Char} {r : Range}

/-- **A region begins with a byte of ASCII.** -/
theorem isBoundary_start (hascii : markers.isAscii = true)
    (h : Found markers flags (Text.bytes cs) r) : IsBoundary cs r.start := by
  obtain ⟨region, n, hopen, _⟩ := h.opens
  have hlt : r.start < (Text.bytes cs).length := Nat.lt_of_lt_of_le h.start_lt_stop h.stop_le_length
  have hbyte : Text.isWide (Text.bytes cs)[r.start] = false := by
    rw [List.drop_eq_getElem_cons hlt] at hopen
    by_contra hwide
    rw [open?_of_isWide hascii flags (Bool.not_eq_false _ ▸ hwide)] at hopen
    cases hopen
  exact (Text.isBoundary_of_getElem? (List.getElem?_eq_getElem hlt) hbyte).1

/-- A marker behind which no emoji goes on ends with a byte of ASCII. -/
theorem isBoundary_of_endsPlainly {marker : List UInt8} {n : Nat}
    (hplain : endsPlainly marker = true) (hsuffix : marker <:+ (Text.bytes cs).take n)
    (hn : n ≤ (Text.bytes cs).length) : IsBoundary cs n := by
  obtain ⟨b, hlast, hb⟩ := (Option.any_eq_true _ _).1 hplain
  have hwide : Text.isWide b = false := by
    by_contra hwide
    rw [goesOn_of_isWide (Bool.not_eq_false _ ▸ hwide)] at hb
    cases hb
  have htake := Text.mem_getLast?_of_isSuffix hsuffix hlast
  rw [Option.mem_def, List.getLast?_eq_getElem?, List.length_take_of_le hn] at htake
  have hpos : 0 < n := by
    by_contra hzero
    simp [Nat.eq_zero_of_not_pos hzero] at htake
  rw [List.getElem?_take_of_lt (Nat.sub_lt hpos Nat.one_pos)] at htake
  have hboundary := (Text.isBoundary_of_getElem? htake hwide).2
  rwa [Nat.sub_add_cancel hpos] at hboundary

/-- **A region ends behind a byte of ASCII**, or before one, or with the text. -/
theorem isBoundary_stop (hplain : ∀ pair ∈ markers.block, endsPlainly (markerBytes pair.2) = true)
    (h : Found markers flags (Text.bytes cs) r) : IsBoundary cs r.stop := by
  obtain ⟨region, n, hopen, hends⟩ := h.opens
  cases hends with
  | unclosed hstop =>
    rw [hstop, Text.length_bytes]
    exact Text.isBoundary_byteLength cs
  | lineFeed _ hstop => exact (Text.isBoundary_of_getElem? hstop rfl).1
  | ending hending hstop =>
    exact isBoundary_of_endsPlainly (endsPlainly_of_open? hplain hopen hending) hstop
      h.stop_le_length

end Regions

/-! ## The ranges of a text -/

theorem solid_regions (markers : Markers) (flags : Flags) (text : List UInt8) :
    Solid (regions markers flags text) :=
  fun _ hr => (found_of_mem_regions hr).start_lt_stop

variable (text language : String) (flags : Flags)

/-- **No ignored range is empty.** -/
theorem solid_ignoredRanges : Solid (ignoredRanges text language flags).toList := by
  have hempty : Solid Merged.empty.toList := fun r hr => absurd hr List.not_mem_nil
  rw [ignoredRanges]
  split_ifs with hlanguage hwhole hflags
  · refine solid_merge fun r hr => ?_
    rw [List.mem_singleton.1 hr]
    refine Text.byteLength_pos ?_
    simpa using (Bool.and_eq_true_iff.1 hwhole).2
  · exact hempty
  · exact hempty
  · exact solid_merge (solid_regions _ _ _)

/-- **Between two ignored ranges there is a gap.** -/
theorem separated_ignoredRanges : Separated (ignoredRanges text language flags).toList := by
  obtain ⟨rs, heq, hforward, _⟩ := exists_merge_eq_ignoredRanges text language flags
  rw [heq]
  exact separated_merge hforward

variable {text language flags} {r : Range}

/-- An ignored range ends in the text, and no character is cut at its ends. -/
theorem isBoundary_of_mem_ignoredRanges (hr : r ∈ (ignoredRanges text language flags).toList) :
    IsBoundary text.toList r.start ∧ IsBoundary text.toList r.stop ∧
      r.stop ≤ byteLength text.toList := by
  obtain ⟨rs, heq, _, hends⟩ := exists_merge_eq_ignoredRanges text language flags
  rw [heq] at hr
  obtain ⟨s, hs, hstart⟩ := exists_start_of_mem_merge hr
  obtain ⟨t, ht, hstop⟩ := exists_stop_of_mem_merge hr
  rw [← hstart, ← hstop]
  refine ⟨?_, ?_⟩
  · rcases hends s hs with rfl | hfound
    · exact Text.isBoundary_zero _
    · exact isBoundary_start (Markers.isAscii_ofLanguage language) hfound
  · rcases hends t ht with rfl | hfound
    · exact ⟨Text.isBoundary_byteLength _, Nat.le_refl _⟩
    · refine ⟨isBoundary_stop (endsPlainly_ofLanguage language) hfound, ?_⟩
      rw [← Text.length_bytes]
      exact hfound.stop_le_length

/-- **Every ignored range can be cut out of the text**: it is not empty, lies in the text and begins
and ends between two characters; and the ranges come in order with a gap between any two. -/
theorem cutsOut_ignoredRanges (text language : String) (flags : Flags) :
    (∀ r ∈ (ignoredRanges text language flags).toList, CutsOut text.toList r) ∧
      Separated (ignoredRanges text language flags).toList := by
  refine ⟨fun r hr => ?_, separated_ignoredRanges text language flags⟩
  have hlt := solid_ignoredRanges text language flags r hr
  obtain ⟨hstart, hstop, hle⟩ := isBoundary_of_mem_ignoredRanges hr
  exact ⟨hlt, hle, hstart, hstop, hstart.exists_splitAtByte? hstop (Nat.le_of_lt hlt)⟩

-- The first escape takes one of four bytes with it, and the second one leaves the text.
example : (ignoredRanges "é'\\😀\\" "rust" ⟨true, true, true⟩).toList = [⟨2, 9⟩] := by
  decide +kernel

end Ignore
end EmojiLint
