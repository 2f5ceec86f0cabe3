import EmojiLint.Check
import EmojiLint.Proofs.Emoji.Tokenization
import EmojiLint.Proofs.Ignore.Opening
import EmojiLint.Proofs.Ignore.Regions

/-!
# Ignored ranges never cut an emoji

Whether an emoji is reported is decided by its first byte.  This is fair since no ignored range
begins or ends inside an emoji, although the two are found independently, and although `#` and `*`
are both markers and keycaps.

* Inside an emoji the next byte belongs to a character beyond ASCII, so nothing opens there and no
  line ends (`not_inside_start`).
* The last byte belongs to such a character as well, or a keycap frames it, and with such a byte no
  comment and no string is closed (`not_inside_stop`, `endsPlainly_of_open?`).
* `isWhole_of_mem_find` — so an emoji lies in one range or outside of all of them.
-/

set_option autoImplicit false

namespace EmojiLint

open Ignore

/-- An emoji may go on behind the byte: it is wide, or a keycap frames it. -/
def goesOn (b : UInt8) : Bool :=
  Text.isWide b || Emoji.isKeycapBase (Char.ofNat b.toNat)

/-- A marker behind which no emoji goes on. -/
def endsPlainly (marker : List UInt8) : Bool :=
  marker.getLast?.any fun b => !goesOn b

/-- An offset inside an emoji, as far as its neighbours tell. -/
structure Inside (text : List UInt8) (offset : Nat) : Prop where
  next : ∃ b bs, text.drop offset = b :: bs ∧ Text.isWide b = true
  last : ∃ b, (text.take offset).getLast? = some b ∧ goesOn b = true

/-- A span is not cut: no range begins or ends inside of it, so that it lies in one range as a whole
or has no byte in any of them. -/
structure IsWhole (rs : List Range) (s : Span) : Prop where
  start : ∀ r ∈ rs, ¬ (s.start < r.start ∧ r.start < s.stop)
  stop : ∀ r ∈ rs, ¬ (s.start < r.stop ∧ r.stop < s.stop)
  within : (∃ r ∈ rs, r.start ≤ s.start ∧ s.stop ≤ r.stop) ∨
    ∀ r ∈ rs, r.stop ≤ s.start ∨ s.stop ≤ r.start

/-! ## The bytes of an emoji -/

theorem isWide_of_mem_bytes {cs : List Char} (h : ∀ c ∈ cs, Emoji.isWide c = true) {b : UInt8}
    (hb : b ∈ Text.bytes cs) : Text.isWide b = true := by
  obtain ⟨c, hc, hb⟩ := List.mem_flatMap.1 hb
  exact Text.isWide_of_mem_utf8EncodeChar (Emoji.isWide_eq_true.1 (h c hc)) hb

theorem goesOn_of_isWide {b : UInt8} (h : Text.isWide b = true) : goesOn b = true := by
  rw [goesOn, h, Bool.true_or]

theorem goesOn_of_isKeycapBase {c : Char} (h : Emoji.isKeycapBase c = true) :
    goesOn (UInt8.ofNat c.toNat) = true := by
  have hascii := Emoji.isAscii_of_isKeycapBase h
  rw [Text.isAscii, decide_eq_true_eq] at hascii
  have hnat : (UInt8.ofNat c.toNat).toNat = c.toNat := by
    rw [UInt8.toNat_ofNat', Nat.mod_eq_of_lt (by omega)]
  rw [goesOn, hnat, Char.ofNat_toNat, h, Bool.or_true]

/-- Behind its first byte, an emoji has only wide ones. -/
theorem exists_bytes_of_mem_grammar {word : List Char} (h : word ∈ Emoji.grammar) :
    ∃ b bs, Text.bytes word = b :: bs ∧ goesOn b = true ∧ ∀ x ∈ bs, Text.isWide x = true := by
  obtain ⟨c, cs, rfl, hc, hcs⟩ := Emoji.exists_of_mem_grammar h
  have hrest : ∀ x ∈ Text.bytes cs, Text.isWide x = true := fun x hx => isWide_of_mem_bytes hcs hx
  rw [Text.bytes_cons]
  rcases hc with hc | hc
  · cases hbytes : String.utf8EncodeChar c with
    | nil => exact absurd hbytes String.utf8EncodeChar_ne_nil
    | cons b bs =>
      have hwide : ∀ x ∈ b :: bs, Text.isWide x = true := fun x hx =>
        Text.isWide_of_mem_utf8EncodeChar (Emoji.isWide_eq_true.1 hc) (hbytes ▸ hx)
      refine ⟨b, bs ++ Text.bytes cs, rfl, ?_, fun x hx => ?_⟩
      · exact goesOn_of_isWide (hwide b List.mem_cons_self)
      · rcases List.mem_append.1 hx with hx | hx
        · exact hwide x (List.mem_cons_of_mem b hx)
        · exact hrest x hx
  · rw [Text.utf8EncodeChar_of_isAscii (Emoji.isAscii_of_isKeycapBase hc)]
    exact ⟨_, _, rfl, goesOn_of_isKeycapBase hc, hrest⟩

/-- An offset behind the first byte of a stretch of bytes and not behind the last one. -/
theorem inside_of_append {before bs after : List UInt8} {b : UInt8} (hb : goesOn b = true)
    (hbs : ∀ x ∈ bs, Text.isWide x = true) {k : Nat} (hk : k < bs.length) :
    Inside (before ++ (b :: bs ++ after)) (before.length + (k + 1)) where
  next := by
    refine ⟨bs[k], bs.drop (k + 1) ++ after, ?_, hbs _ (List.getElem_mem hk)⟩
    rw [List.drop_length_add_append, List.cons_append, List.drop_succ_cons,
      List.drop_append_of_le_length (Nat.le_of_lt hk), List.drop_eq_getElem_cons hk,
      List.cons_append]
  last := by
    have htake : (before ++ (b :: bs ++ after)).take (before.length + (k + 1)) =
        before ++ b :: bs.take k := by
      rw [List.take_length_add_append, List.cons_append, List.take_succ_cons,
        List.take_append_of_le_length (Nat.le_of_lt hk)]
    have hne : b :: bs.take k ≠ [] := List.cons_ne_nil _ _
    refine ⟨(b :: bs.take k).getLast hne, ?_, ?_⟩
    · rw [htake, List.getLast?_append, List.getLast?_eq_some_getLast hne, Option.some_or]
    · rcases List.mem_cons.1 (List.getLast_mem hne) with hlast | hlast
      · rw [hlast]
        exact hb
      · exact goesOn_of_isWide (hbs _ (List.mem_of_mem_take hlast))

/-- **Inside an emoji of a text.** -/
theorem inside_of_isMunch {cs : List Char} {s : Span} (h : Emoji.IsMunch 0 cs s) {offset : Nat}
    (hstart : s.start < offset) (hstop : offset < s.stop) : Inside (Text.bytes cs) offset := by
  obtain ⟨before, word, after, rfl, hword, rfl⟩ := h.exists_mem_grammar
  obtain ⟨b, bs, hbytes, hb, hbs⟩ := exists_bytes_of_mem_grammar hword
  have hlt : 0 + Text.byteLength before < offset := hstart
  have hlt' : offset < 0 + Text.byteLength before + Text.byteLength word := hstop
  rw [← Text.length_bytes before] at hlt hlt'
  rw [← Text.length_bytes word, hbytes, List.length_cons] at hlt'
  obtain ⟨k, rfl⟩ : ∃ k, offset = (Text.bytes before).length + (k + 1) :=
    ⟨offset - (Text.bytes before).length - 1, by omega⟩
  rw [Text.bytes_append, Text.bytes_append, hbytes]
  exact inside_of_append hb hbs (by omega)

/-- No offset inside an emoji is the end of the text. -/
theorem not_inside_length (text : List UInt8) : ¬ Inside text text.length := by
  rintro ⟨⟨b, bs, hdrop, _⟩, _⟩
  rw [List.drop_length] at hdrop
  cases hdrop

/-! ## Where regions begin and end -/

section Regions

variable {markers : Markers} {flags : Flags}

theorem endsPlainly_byte (q : Quote) : endsPlainly [q.byte] = true := by
  cases q <;> decide

theorem endsPlainly_triple (q : Quote) : endsPlainly q.triple = true := by
  cases q <;> decide

/-- In no language does a block comment end with what an emoji may go on behind. -/
theorem endsPlainly_ofLanguage (language : String) :
    ∀ pair ∈ (Markers.ofLanguage language).block, endsPlainly (markerBytes pair.2) = true :=
  Markers.forall_ofLanguage
    (P := fun markers => ∀ pair ∈ markers.block, endsPlainly (markerBytes pair.2) = true)
    (by decide) (by decide) language

/-- What ends an opened region is a quote or stands in the table. -/
theorem endsPlainly_of_open? (h : ∀ pair ∈ markers.block, endsPlainly (markerBytes pair.2) = true)
    {rest marker : List UInt8} {region : Region} {n : Nat}
    (hopen : open? markers flags rest = some (region, n)) (hending : region.ending? = some marker) :
    endsPlainly marker = true := by
  cases region with
  | lineComment => cases hending
  | string q =>
    cases hending
    exact endsPlainly_byte q
  | tripleString q =>
    cases hending
    exact endsPlainly_triple q
  | blockComment close =>
    cases hending
    obtain ⟨pair, hpair, hclose⟩ := mem_block_of_open? hopen
    rw [← hclose]
    exact h pair hpair

/-- **No region begins inside an emoji.** -/
theorem not_inside_start (hascii : markers.isAscii = true) {text : List UInt8} {r : Range}
    (hfound : Found markers flags text r) : ¬ Inside text r.start := by
  rintro ⟨⟨b, bs, hdrop, hb⟩, _⟩
  obtain ⟨region, n, hopen, _⟩ := hfound.opens
  rw [hdrop, open?_of_isWide hascii flags hb] at hopen
  cases hopen

/-- **No region ends inside an emoji.** -/
theorem not_inside_stop (h : ∀ pair ∈ markers.block, endsPlainly (markerBytes pair.2) = true)
    {text : List UInt8} {r : Range} (hfound : Found markers flags text r) :
    ¬ Inside text r.stop := by
  intro hinside
  obtain ⟨b, bs, hdrop, hb⟩ := hinside.next
  obtain ⟨d, hlast, hd⟩ := hinside.last
  obtain ⟨region, n, hopen, hends⟩ := hfound.opens
  cases hends with
  | unclosed hstop => exact not_inside_length text (hstop ▸ hinside)
  | lineFeed _ hstop =>
    rw [← List.head?_drop, hdrop, List.head?_cons, Option.some_inj] at hstop
    exact ne_of_isWide (c := '\n') hb rfl hstop
  | @ending marker hending hstop =>
    have hplain := endsPlainly_of_open? h hopen hending
    obtain ⟨front, hfront⟩ := hstop
    rw [endsPlainly] at hplain
    cases hmarker : marker.getLast? with
    | none =>
      rw [hmarker] at hplain
      cases hplain
    | some e =>
      rw [← hfront, List.getLast?_append, hmarker, Option.some_or, Option.some_inj] at hlast
      rw [hmarker, hlast, Option.any_some, hd] at hplain
      cases hplain

end Regions

/-! ## The ranges of a text -/

/-- The ignored ranges are merged from regions of the text, or from the whole of it. -/
theorem exists_merge_eq_ignoredRanges (text language : String) (flags : Flags) :
    ∃ rs, ignoredRanges text language flags = merge rs ∧ Forward rs ∧ ∀ r ∈ rs,
      r = ⟨0, Text.byteLength text.toList⟩ ∨
        Found (.ofLanguage language) flags (Text.bytes text.toList) r := by
  have hempty : ∃ rs, Merged.empty = merge rs ∧ Forward rs ∧ ∀ r ∈ rs,
      r = ⟨0, Text.byteLength text.toList⟩ ∨
        Found (.ofLanguage language) flags (Text.bytes text.toList) r :=
    ⟨[], merge_nil.symm, fun r hr => absurd hr List.not_mem_nil, fun r hr =>
      absurd hr List.not_mem_nil⟩
  rw [ignoredRanges]
  split_ifs
  · refine ⟨_, rfl, fun r hr => ?_, fun r hr => Or.inl (List.mem_singleton.1 hr)⟩
    rw [List.mem_singleton.1 hr]
    exact Nat.zero_le _
  · exact hempty
  · exact hempty
  · exact ⟨_, rfl, forward_regions, fun r hr => Or.inr (found_of_mem_regions hr)⟩

/-- A list of ranges that cuts no span leaves it whole. -/
theorem isWhole_of_uncut {rs : List Range} {s : Span}
    (hstart : ∀ r ∈ rs, ¬ (s.start < r.start ∧ r.start < s.stop))
    (hstop : ∀ r ∈ rs, ¬ (s.start < r.stop ∧ r.stop < s.stop)) : IsWhole rs s := by
  refine ⟨hstart, hstop, ?_⟩
  by_cases hwithin : ∃ r ∈ rs, r.start ≤ s.start ∧ s.stop ≤ r.stop
  · exact Or.inl hwithin
  · refine Or.inr fun r hr => ?_
    have hnot : ¬ (r.start ≤ s.start ∧ s.stop ≤ r.stop) := fun h => hwithin ⟨r, hr, h⟩
    have := hstart r hr
    have := hstop r hr
    omega

/-- All bytes of a whole span are on the same side. -/
theorem IsWhole.covers_iff {rs : List Range} {s : Span} (h : IsWhole rs s) {offset : Nat}
    (hoffset : s.contains offset = true) : Covers rs offset ↔ Covers rs s.start := by
  rw [Span.contains_iff] at hoffset
  refine ⟨?_, ?_⟩ <;> rintro ⟨r, hr, hcontains⟩ <;> rw [Range.contains_iff] at hcontains
  · refine ⟨r, hr, Range.contains_iff.2 ?_⟩
    have := h.start r hr
    have := h.stop r hr
    omega
  · refine ⟨r, hr, Range.contains_iff.2 ?_⟩
    have := h.start r hr
    have := h.stop r hr
    omega

/-- No ignored range cuts an emoji. -/
theorem isWhole_ignoredRanges {text : String} {s : Span}
    (h : Emoji.IsMunch 0 text.toList s) (language : String) (flags : Flags) :
    IsWhole (ignoredRanges text language flags).toList s := by
  obtain ⟨rs, heq, _, hends⟩ := exists_merge_eq_ignoredRanges text language flags
  rw [heq]
  refine isWhole_of_uncut ?_ ?_
  · rintro r hr ⟨hlt, hlt'⟩
    obtain ⟨r', hr', hstart⟩ := exists_start_of_mem_merge hr
    have hinside := inside_of_isMunch h hlt hlt'
    rw [← hstart] at hlt hinside
    rcases hends r' hr' with rfl | hfound
    · exact Nat.not_lt_zero _ hlt
    · exact not_inside_start (Markers.isAscii_ofLanguage language) hfound hinside
  · rintro r hr ⟨hlt, hlt'⟩
    obtain ⟨r', hr', hstop⟩ := exists_stop_of_mem_merge hr
    have hinside := inside_of_isMunch h hlt hlt'
    rw [← hstop] at hinside
    rcases hends r' hr' with rfl | hfound
    · rw [← Text.length_bytes] at hinside
      exact not_inside_length _ hinside
    · exact not_inside_stop (endsPlainly_ofLanguage language) hfound hinside

/-- The ignored ranges are looked up correctly. -/
theorem contains_ignoredRanges_iff_covers (text language : String) (flags : Flags) (offset : Nat) :
    (ignoredRanges text language flags).contains offset = true ↔
      Covers (ignoredRanges text language flags).toList offset := by
  obtain ⟨rs, heq, hforward, _⟩ := exists_merge_eq_ignoredRanges text language flags
  rw [heq]
  exact Merged.contains_iff_covers (forward_merge hforward) (separated_merge hforward) offset

/-- **An emoji lies in one ignored range as a whole, or outside of all of them**, so that its first
byte decides for the others. -/
theorem isWhole_of_mem_find (text language : String) (flags : Flags) {s : Span}
    (hs : s ∈ Emoji.find text) : IsWhole (ignoredRanges text language flags).toList s ∧
      (s ∈ reportable text language flags ↔ ∀ offset, s.contains offset = true →
        (ignoredRanges text language flags).contains offset = false) := by
  have hfind := Emoji.isTokenization_spansFrom 0 text.toList
  have hwhole := isWhole_ignoredRanges (hfind.munch s hs) language flags
  have hfirst : s.contains s.start = true := by
    have hpos := hfind.nonempty s hs
    rw [Span.contains_iff, Span.stop]
    omega
  refine ⟨hwhole, ?_⟩
  rw [reportable, List.mem_filter, and_iff_right hs, Bool.not_eq_true']
  refine ⟨fun hout offset hoffset => ?_, fun hout => hout s.start hfirst⟩
  rw [← Bool.not_eq_true, contains_ignoredRanges_iff_covers] at hout ⊢
  rw [hwhole.covers_iff hoffset]
  exact hout

/-- A keycap right behind a slash, with which it opens a comment. -/
theorem isWhole_of_mem_find_keycap : ⟨1, 7⟩ ∈ Emoji.find "/*\uFE0F\u20E3*/ 1" ∧
    IsWhole (ignoredRanges "/*\uFE0F\u20E3*/ 1" "rust" ⟨true, false, true⟩).toList ⟨1, 7⟩ ∧
    (⟨1, 7⟩ ∈ reportable "/*\uFE0F\u20E3*/ 1" "rust" ⟨true, false, true⟩ ↔
      ∀ offset, Span.contains ⟨1, 7⟩ offset = true →
        (ignoredRanges "/*\uFE0F\u20E3*/ 1" "rust" ⟨true, false, true⟩).contains offset = false) :=
  have hs : ⟨1, 7⟩ ∈ Emoji.find "/*\uFE0F\u20E3*/ 1" := by
    decide +kernel
  ⟨hs, isWhole_of_mem_find _ _ _ hs⟩

end EmojiLint
