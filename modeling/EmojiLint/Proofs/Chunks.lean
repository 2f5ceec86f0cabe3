import EmojiLint.Proofs.Check
import EmojiLint.Proofs.Emoji.Append
import EmojiLint.Proofs.Ignore.Append
import EmojiLint.Proofs.Ignore.Bounds

/-!
# Checking a text chunk by chunk

Behind a line feed that is code a text can be cut in two, and what is found in it is what is found
in the two chunks: neither knows of the other.

* `EndsInCode` — the condition on the first chunk.  It speaks of the ignored ranges alone.
* `toList_ignoredRanges_append` — the ignored ranges of the two chunks.
* `reportable_append_of_endsInCode` — and the emoji that are reported.
-/

set_option autoImplicit false

namespace EmojiLint

open Ignore
open Text (byteLength)

/-- The last character of a text is a line feed, and it lies in no ignored range.  A Markdown
document that is ignored as a whole never ends so. -/
structure EndsInCode (text language : String) (flags : Flags) : Prop where
  lineFeed : text.toList.getLast? = some '\n'
  code : (ignoredRanges text language flags).contains (byteLength text.toList - 1) = false

variable {a b language : String} {flags : Flags}

/-! ## What the condition says of the scanner -/

namespace EndsInCode

theorem toList_ne_nil (h : EndsInCode a language flags) : a.toList ≠ [] := by
  intro hnil
  have hlast := h.lineFeed
  rw [hnil] at hlast
  cases hlast

/-- The last byte is a line feed as well. -/
theorem getLast?_bytes (h : EndsInCode a language flags) :
    ∀ b ∈ (Text.bytes a.toList).getLast?, b = Ignore.lineFeed := by
  intro b hb
  rw [Text.getLast?_bytes_of_isAscii rfl h.lineFeed, Option.mem_some] at hb
  exact hb.symm

/-- **A document that is ignored as a whole does not end in code.** -/
theorem markdown_eq_false (h : EndsInCode a language flags)
    (hlanguage : isMarkdown language = true) : flags.markdown = false := by
  by_contra hflag
  rw [Bool.not_eq_false] at hflag
  have hne := h.toList_ne_nil
  have hempty : a.isEmpty = false := by simpa using hne
  have hwhole : Covers [⟨0, byteLength a.toList⟩] (byteLength a.toList - 1) :=
    covers_cons.2 (Or.inl ⟨Nat.zero_le _, Nat.sub_lt (Text.byteLength_pos hne) Nat.one_pos⟩)
  have hforward : Forward [⟨0, byteLength a.toList⟩] := by simp [Forward]
  have hranges : ignoredRanges a language flags = merge [⟨0, byteLength a.toList⟩] := by
    rw [ignoredRanges, if_pos hlanguage, hflag, hempty]
    rfl
  refine absurd h.code ?_
  rw [hranges, Bool.not_eq_false, contains_merge_iff hforward]
  exact hwhole

end EndsInCode

/-- Where no two regions touch, they are the ignored ranges as they stand. -/
theorem ignoredRanges_eq_of_separated {text : String} {rs : List Range}
    (hlanguage : isMarkdown language = false) (hflags : (!flags.comments && !flags.strings) = false)
    (hregions : regions (.ofLanguage language) flags (Text.bytes text.toList) = rs)
    (hsep : Separated rs) : ignoredRanges text language flags = ⟨rs.toArray⟩ := by
  rw [ignoredRanges, hlanguage, if_neg Bool.false_ne_true, hflags, if_neg Bool.false_ne_true,
    hregions]
  exact Merged.ext_toList (toList_merge_of_separated (hregions ▸ forward_regions) hsep)

/-- **No region of a text that ends in code reaches to its end.** -/
theorem EndsInCode.stop_lt (h : EndsInCode a language flags)
    (hlanguage : isMarkdown language = false)
    (hflags : (!flags.comments && !flags.strings) = false) {r : Range}
    (hr : r ∈ regions (.ofLanguage language) flags (Text.bytes a.toList)) :
    r.stop < byteLength a.toList := by
  have hfound := found_of_mem_regions hr
  have hle := hfound.stop_le_length
  have hlt := hfound.start_lt_stop
  rw [Text.length_bytes] at hle
  have hcode := h.code
  rw [ignoredRanges, hlanguage, if_neg Bool.false_ne_true, hflags, if_neg Bool.false_ne_true,
    ← Bool.not_eq_true, contains_merge_iff forward_regions] at hcode
  by_contra hstop
  refine hcode ⟨r, hr, ?_⟩
  rw [Range.contains_iff]
  omega

/-! ## Ignored ranges -/

/-- **The ignored ranges of two chunks** are those of the first and those of the second, which lie
behind it. -/
theorem toList_ignoredRanges_append (h : EndsInCode a language flags) (b : String) :
    (ignoredRanges (a ++ b) language flags).toList = (ignoredRanges a language flags).toList ++
      (ignoredRanges b language flags).toList.map (·.shift (byteLength a.toList)) := by
  by_cases hlanguage : isMarkdown language = true
  · simp only [ignoredRanges, hlanguage, h.markdown_eq_false hlanguage, Bool.false_and, if_true]
    rfl
  by_cases hflags : (!flags.comments && !flags.strings) = true
  · simp only [ignoredRanges, hlanguage, hflags, if_true]
    rfl
  rw [Bool.not_eq_true] at hlanguage hflags
  have hstop := fun r hr => h.stop_lt (r := r) hlanguage hflags hr
  have hends : ∀ r ∈ regions (.ofLanguage language) flags (Text.bytes a.toList),
      r.stop ≠ (Text.bytes a.toList).length := fun r hr => by
    rw [Text.length_bytes]
    exact Nat.ne_of_lt (hstop r hr)
  have hregions := regions_append (Markers.isOneLine_ofLanguage language) h.getLast?_bytes hends
    (Text.bytes b.toList)
  have hsolid := solid_regions (.ofLanguage language) flags
  simp only [ignoredRanges, hlanguage, hflags, Bool.false_eq_true, if_false]
  rw [String.toList_append, Text.bytes_append, hregions, Text.length_bytes]
  rw [toList_merge_append (hsolid _) ?_ ?_, toList_merge_map_shift (hsolid _)]
  · intro r hr
    obtain ⟨s, hs, rfl⟩ := List.mem_map.1 hr
    exact Nat.add_lt_add_right (hsolid _ s hs) _
  · intro r hr s hs
    obtain ⟨t, _, rfl⟩ := List.mem_map.1 hs
    exact Nat.lt_of_lt_of_le (hstop r hr) (Nat.le_add_left _ _)

/-- An offset in an ignored range lies in the text. -/
theorem lt_byteLength_of_contains {text : String} {offset : Nat}
    (h : (ignoredRanges text language flags).contains offset = true) :
    offset < byteLength text.toList := by
  obtain ⟨rs, heq, hforward, hends⟩ := exists_merge_eq_ignoredRanges text language flags
  rw [heq, contains_merge_iff hforward] at h
  obtain ⟨r, hr, hcontains⟩ := h
  rw [Range.contains_iff] at hcontains
  rcases hends r hr with rfl | hfound
  · exact hcontains.2
  · have hle := hfound.stop_le_length
    rw [Text.length_bytes] at hle
    omega

/-- An offset is looked up in the chunk that it lies in. -/
theorem contains_ignoredRanges_append (h : EndsInCode a language flags) (offset : Nat) :
    (ignoredRanges (a ++ b) language flags).contains offset = true ↔
      (ignoredRanges a language flags).contains offset = true ∨
        byteLength a.toList ≤ offset ∧
          (ignoredRanges b language flags).contains (offset - byteLength a.toList) = true := by
  simp only [contains_ignoredRanges_iff_covers, toList_ignoredRanges_append h, covers_append,
    covers_map_shift]

/-! ## Emoji -/

/-- An emoji of a text begins in it. -/
theorem start_lt_of_mem_find {text : String} {s : Span} (hs : s ∈ Emoji.find text) :
    s.start < byteLength text.toList := by
  obtain ⟨before, word, after, htext, hword, rfl⟩ := Emoji.exists_of_mem_find hs
  have hpos : 0 < byteLength word :=
    Text.byteLength_pos fun hnil => Emoji.nil_notMem_grammar (hnil ▸ hword)
  rw [htext, Text.byteLength_append, Text.byteLength_append]
  show byteLength before < _
  omega

/-- **A text can be checked chunk by chunk.**  Behind a line feed that is code, the ignored ranges
and the reported emoji of the whole are those of the first chunk and then those of the second one,
moved behind the first. -/
theorem reportable_append_of_endsInCode (h : EndsInCode a language flags) (b : String) :
    (ignoredRanges (a ++ b) language flags).toList = (ignoredRanges a language flags).toList ++
        (ignoredRanges b language flags).toList.map (·.shift (byteLength a.toList)) ∧
      reportable (a ++ b) language flags = reportable a language flags ++
        (reportable b language flags).map (·.shift (byteLength a.toList)) := by
  refine ⟨toList_ignoredRanges_append h b, ?_⟩
  simp only [reportable]
  rw [Emoji.find_append h.lineFeed, List.filter_append, List.filter_map]
  refine congrArg₂ (· ++ ·) (List.filter_congr fun s hs => ?_)
    (congrArg _ (List.filter_congr fun s hs => ?_))
  · have hlt := start_lt_of_mem_find hs
    rw [Bool.not_inj_iff, Bool.eq_iff_iff, contains_ignoredRanges_append h]
    refine or_iff_left ?_
    rintro ⟨hle, _⟩
    exact absurd hlt (Nat.not_lt_of_le hle)
  · show (!(ignoredRanges (a ++ b) language flags).contains (s.start + byteLength a.toList)) = _
    rw [Bool.not_inj_iff, Bool.eq_iff_iff, contains_ignoredRanges_append h, Nat.add_sub_cancel,
      and_iff_right (Nat.le_add_left _ _)]
    refine or_iff_right fun hcontains => ?_
    have := lt_byteLength_of_contains hcontains
    omega

/-- A chunk with a keycap behind an escaped quote and an emoji in a comment at its end; the other
chunk begins with a string. -/
theorem reportable_append_of_endsInCode_keycap :
    EndsInCode "'\\''1\u20E3//😀\n" "rust" ⟨true, true, true⟩ ∧
    (ignoredRanges ("'\\''1\u20E3//😀\n" ++ "'😀'2\u20E3") "rust" ⟨true, true, true⟩).toList =
      [⟨0, 4⟩, ⟨8, 14⟩, ⟨15, 21⟩] ∧
    reportable ("'\\''1\u20E3//😀\n" ++ "'😀'2\u20E3") "rust" ⟨true, true, true⟩ =
      [⟨4, 4⟩, ⟨21, 4⟩] := by
  have hfirst : ignoredRanges "'\\''1\u20E3//😀\n" "rust" ⟨true, true, true⟩ =
      ⟨#[⟨0, 4⟩, ⟨8, 14⟩]⟩ :=
    ignoredRanges_eq_of_separated rfl rfl (by decide +kernel) (by simp [Separated])
  have hsecond : ignoredRanges "'😀'2\u20E3" "rust" ⟨true, true, true⟩ = ⟨#[⟨0, 6⟩]⟩ :=
    ignoredRanges_eq_of_separated rfl rfl (by decide +kernel) (by simp [Separated])
  have h : EndsInCode "'\\''1\u20E3//😀\n" "rust" ⟨true, true, true⟩ :=
    ⟨by decide, by rw [hfirst]; decide +kernel⟩
  obtain ⟨hranges, hreportable⟩ := reportable_append_of_endsInCode h "'😀'2\u20E3"
  refine ⟨h, ?_, ?_⟩
  · rw [hranges, hfirst, hsecond]
    rfl
  · rw [hreportable, reportable, reportable, hfirst, hsecond]
    decide +kernel

end EmojiLint
