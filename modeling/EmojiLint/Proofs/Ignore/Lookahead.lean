import EmojiLint.Proofs.Ignore.Append
import EmojiLint.Proofs.Ignore.Canonical
import EmojiLint.Proofs.Ignore.Refinement

/-!
# How far ahead the scanner looks

The scanner searches for closing markers arbitrarily far ahead, but what it finds there says only
where a region ends.  Whether a byte is ignored is known a few bytes behind it: as many as the
longest marker takes, which is four (`<!--` and `--[[`).

The run over a text is compared with the run over a beginning of it, byte by byte
(`covers_regionsFrom_extend`).  As long as no marker can be cut off by the end of the beginning, the
two do the same; from there on all that counts has been decided, since a region that is open keeps
the bytes it has (`covers_regionsFrom_of_lt`).

* `Markers.isWithin` — no marker is longer than so many bytes.
* `covers_regionsFrom_extend` — more text behind changes nothing of what is ignored before.
* `contains_ignoredRanges_congr` — the same of two texts with a common beginning.
-/

set_option autoImplicit false

namespace EmojiLint
namespace Ignore

/-! ## The longest marker -/

/-- No marker, whether it opens or closes, takes more than `k` bytes. -/
def Markers.isWithin (markers : Markers) (k : Nat) : Bool :=
  (markers.openers.all fun marker => marker.length ≤ k) &&
    markers.block.all fun pair => (markerBytes pair.2).length ≤ k

/-- The marker that closes a region, if any, takes at most `k` bytes. -/
def Region.IsWithin (region : Region) (k : Nat) : Prop :=
  ∀ marker, region.closing? = some marker → marker.length ≤ k

/-- What the scanner is inside of, if anything, is closed by at most `k` bytes. -/
def Mode.IsWithin (mode : Mode) (k : Nat) : Prop :=
  ∀ region start, mode = .inside region start → region.IsWithin k

theorem Mode.isWithin_code (k : Nat) : Mode.code.IsWithin k := by
  intro region start h
  cases h

theorem Region.IsWithin.inside {region : Region} {k start : Nat} (h : region.IsWithin k) :
    (Mode.inside region start).IsWithin k := by
  intro region' start' heq
  cases heq
  exact h

namespace Markers

variable {markers : Markers} {k : Nat}

theorem isWithin_iff : markers.isWithin k = true ↔
    (∀ marker ∈ markers.openers, marker.length ≤ k) ∧
      ∀ pair ∈ markers.block, (markerBytes pair.2).length ≤ k := by
  simp only [isWithin, Bool.and_eq_true, List.all_eq_true, decide_eq_true_eq]

/-- **In no language does a marker take more than four bytes.** -/
theorem isWithin_ofLanguage (language : String) : (ofLanguage language).isWithin 4 = true :=
  forall_ofLanguage (P := (·.isWithin 4 = true)) (by decide) (by decide) language

/-- Three quotes are among the markers. -/
theorem three_le_of_isWithin (h : markers.isWithin k = true) : 3 ≤ k :=
  (isWithin_iff.1 h).1 Quote.single.triple List.mem_cons_self

/-- What opens is closed by one of the markers. -/
theorem isWithin_of_open? (h : markers.isWithin k = true) {flags : Flags} {rest : List UInt8}
    {region : Region} {n : Nat} (hopen : open? markers flags rest = some (region, n)) :
    region.IsWithin k := by
  intro marker hclosing
  cases region with
  | lineComment => cases hclosing
  | string quote => cases hclosing
  | tripleString quote =>
    cases hclosing
    exact three_le_of_isWithin h
  | blockComment close =>
    cases hclosing
    obtain ⟨pair, hpair, rfl⟩ := mem_block_of_open? hopen
    exact (isWithin_iff.1 h).2 pair hpair

end Markers

/-! ## What happens at a place that is far enough from the end -/

section Places

variable {markers : Markers} {flags : Flags} {region : Region} {rest : List UInt8} {k : Nat}

theorem isPrefix_append_of_length_le {marker : List UInt8} (h : marker.length ≤ rest.length)
    (more : List UInt8) : marker <+: rest ++ more ↔ marker <+: rest :=
  ⟨fun hpre => List.prefix_of_prefix_length_le hpre (List.prefix_append rest more) h,
    fun hpre => hpre.trans (List.prefix_append rest more)⟩

theorem open?_append_of_isWithin (hmarkers : markers.isWithin k = true) (hk : k ≤ rest.length)
    (more : List UInt8) : open? markers flags (rest ++ more) = open? markers flags rest := by
  have hthree := Markers.three_le_of_isWithin hmarkers
  have hrest : rest ≠ [] := List.ne_nil_of_length_pos (by omega)
  refine open?_append_of_isPrefix_iff hrest fun marker hmarker => ?_
  have hlength := (Markers.isWithin_iff.1 hmarkers).1 marker hmarker
  exact isPrefix_append_of_length_le (Nat.le_trans hlength hk) more

theorem Region.actsAt_append (hregion : region.IsWithin k) (hk : k ≤ rest.length)
    (hrest : rest ≠ []) (more : List UInt8) :
    region.actsAt (rest ++ more) = region.actsAt rest := by
  have hmarked : ∀ marker, region.closing? = some marker →
      region.actsAt (rest ++ more) = region.actsAt rest := by
    intro marker hclosing
    have hlength := Nat.le_trans (hregion marker hclosing) hk
    rw [actsAt_of_closing? hclosing, actsAt_of_closing? hclosing, Bool.eq_iff_iff,
      List.isPrefixOf_iff_prefix, List.isPrefixOf_iff_prefix,
      isPrefix_append_of_length_le hlength]
  cases region with
  | blockComment close => exact hmarked close rfl
  | tripleString quote => exact hmarked quote.triple rfl
  | lineComment | string quote =>
    obtain ⟨b, bs, rfl⟩ := List.exists_cons_of_ne_nil hrest
    rfl

/-- Where a region acts it ends, or passes over an escape. -/
theorem Region.advance_of_actsAt (h : region.actsAt rest = true) :
    (∃ n, region.advance rest = .close n) ∨ region.advance rest = .stay 2 := by
  have hmarked : ∀ marker, region.closing? = some marker →
      ∃ n, region.advance rest = .close n := by
    intro marker hclosing
    rw [actsAt_of_closing? hclosing] at h
    exact ⟨marker.length, advance_of_isPrefixOf hclosing h⟩
  cases region with
  | blockComment close => exact Or.inl (hmarked close rfl)
  | tripleString quote => exact Or.inl (hmarked quote.triple rfl)
  | lineComment =>
    obtain ⟨bs, rfl⟩ := List.head?_eq_some_iff.1 (beq_iff_eq.1 h)
    exact Or.inl ⟨0, advance_lineComment_of_lineFeed bs⟩
  | string quote =>
    rcases Bool.or_eq_true_iff.1 h with hescape | hquote
    · obtain ⟨bs, rfl⟩ := List.head?_eq_some_iff.1 (beq_iff_eq.1 hescape)
      exact Or.inr (advance_string_of_backslash quote bs)
    · obtain ⟨bs, rfl⟩ := List.head?_eq_some_iff.1 (beq_iff_eq.1 hquote)
      exact Or.inl ⟨1, advance_string_of_quote quote bs⟩

end Places

/-! ## Bytes before the cursor -/

section Runs

variable {markers : Markers} {flags : Flags} {size size' offset k : Nat}

/-- **A byte before the cursor is decided**: it is ignored when it belongs to the region that is
open. -/
theorem covers_regionsFrom_of_lt {s : State} (hoffset : offset < s.pos) (hsize : offset < size) :
    Covers (regionsFrom markers flags size s) offset ↔ s.mode.opened s.pos ≤ offset := by
  fun_induction regionsFrom markers flags size s with
  | case1 s hrest =>
    obtain ⟨mode, pos, rest⟩ := s
    cases mode with
    | code => exact iff_of_false (not_covers_nil offset) (Nat.not_le_of_lt hoffset)
    | inside region start =>
      refine covers_cons.trans ((or_iff_left (not_covers_nil offset)).trans ?_)
      exact and_iff_left hsize
  | case2 s hrest next ih =>
    cases hmode : s.mode with
    | code =>
      cases hopen : open? markers flags s.rest with
      | none =>
        have hstep : next = _ := State.step_of_none hmode hopen
        have hlt : offset < s.pos + 1 := Nat.lt_succ_of_lt hoffset
        rw [hstep] at ih ⊢
        exact (ih hlt).trans (iff_of_false (Nat.not_le_of_lt hlt) (Nat.not_le_of_lt hoffset))
      | some opened =>
        have hstep : next = _ := State.step_of_open hmode hopen
        rw [hstep] at ih ⊢
        exact ih (Nat.lt_add_right _ hoffset)
    | inside region start =>
      cases hadvance : region.advance s.rest with
      | close n =>
        have hstep : next = _ := State.step_of_close hmode hadvance
        have hlt : offset < s.pos + n := Nat.lt_add_right n hoffset
        rw [hstep] at ih ⊢
        have hbehind := (ih hlt).trans (iff_of_false (Nat.not_le_of_lt hlt) not_false)
        rw [Option.toList_some, List.singleton_append, covers_cons, hbehind, or_false]
        exact and_iff_left hlt
      | stay n =>
        have hstep : next = _ := State.step_of_stay hmode hadvance
        rw [hstep] at ih ⊢
        exact ih (Nat.lt_add_right n hoffset)

/-! ## More text behind -/

/-- More text behind changes nothing of what is ignored `k` bytes before it, wherever the two texts
end. -/
def State.IsStable (markers : Markers) (flags : Flags) (k : Nat) (s : State) : Prop :=
  ∀ (size size' offset : Nat) (more : List UInt8), offset + k ≤ s.pos + s.rest.length →
    offset < size → offset < size' →
      (Covers (regionsFrom markers flags size' (s.extend more)) offset ↔
        Covers (regionsFrom markers flags size s) offset)

theorem State.extend_nil (s : State) : s.extend [] = s := by
  rw [extend, List.append_nil]

namespace State.IsStable

/-- At the end of a text everything that counts lies before the cursor. -/
theorem of_length_lt {s : State} (h : s.rest.length < k) : s.IsStable markers flags k := by
  intro size size' offset more hoffset hsize hsize'
  have hlt : offset < s.pos := by omega
  rw [covers_regionsFrom_of_lt hlt hsize]
  exact covers_regionsFrom_of_lt hlt hsize'

/-- Both runs go on from the same place behind the same regions. -/
theorem of_run {s next : State} (closed : List Range) (h : next.IsStable markers flags k)
    (hlength : s.pos + s.rest.length ≤ next.pos + next.rest.length)
    (hrun : ∀ size more, regionsFrom markers flags size (s.extend more) =
      closed ++ regionsFrom markers flags size (next.extend more)) :
    s.IsStable markers flags k := by
  intro size size' offset more hoffset hsize hsize'
  have hrun' := hrun size []
  rw [s.extend_nil, next.extend_nil] at hrun'
  rw [hrun, hrun', covers_append, covers_append,
    h size size' offset more (Nat.le_trans hoffset hlength) hsize hsize']

variable {b : UInt8} {bs : List UInt8} {pos : Nat}

/-- In code, the same thing opens for both, or nothing does. -/
theorem code (hmarkers : markers.isWithin k = true) (hk : k ≤ (b :: bs).length)
    (ih : ∀ s : State, s.rest.length ≤ bs.length → s.mode.IsWithin k → s.IsStable markers flags k) :
    State.IsStable markers flags k ⟨.code, pos, b :: bs⟩ := by
  have hsame : ∀ more, open? markers flags (b :: bs ++ more) = open? markers flags (b :: bs) :=
    open?_append_of_isWithin hmarkers hk
  cases hopen : open? markers flags (b :: bs) with
  | none =>
    have hnext : State.IsStable markers flags k ⟨.code, pos + 1, bs⟩ :=
      ih _ (Nat.le_refl _) (Mode.isWithin_code k)
    refine hnext.of_run [] ?_ fun size more => regionsFrom_code_of_none ((hsame more).trans hopen)
    simp only [List.length_cons]
    omega
  | some opened =>
    obtain ⟨region, n⟩ := opened
    have hpos := open?_pos hopen
    have hn := le_length_of_open? hopen
    have hnext : State.IsStable markers flags k
        ⟨.inside region pos, pos + n, (b :: bs).drop n⟩ := by
      refine ih _ ?_ (Markers.isWithin_of_open? hmarkers hopen).inside
      simp only [List.length_drop, List.length_cons]
      omega
    refine hnext.of_run [] ?_ fun size more => ?_
    · simp only [List.length_drop]
      omega
    · have hrest : b :: bs ++ more ≠ [] := List.cons_ne_nil _ _
      refine (regionsFrom_code_of_open hrest ((hsame more).trans hopen)).trans ?_
      rw [List.drop_append_of_le_length hn]
      rfl

/-- Inside a region, both runs pass over the same byte or escape, or leave the region. -/
theorem inside {region : Region} {start : Nat} (hregion : region.IsWithin k) (hthree : 3 ≤ k)
    (hk : k ≤ (b :: bs).length)
    (ih : ∀ s : State, s.rest.length ≤ bs.length → s.mode.IsWithin k → s.IsStable markers flags k)
    (ih' : State.IsStable markers flags k ⟨.code, pos, b :: bs⟩) :
    State.IsStable markers flags k ⟨.inside region start, pos, b :: bs⟩ := by
  have hsame : ∀ more, region.actsAt (b :: bs ++ more) = region.actsAt (b :: bs) :=
    Region.actsAt_append hregion hk (List.cons_ne_nil b bs)
  have hrest : ∀ more, b :: bs ++ more ≠ [] := fun more => List.cons_ne_nil _ _
  cases hacts : region.actsAt (b :: bs) with
  | false =>
    have hnext : State.IsStable markers flags k ⟨.inside region start, pos + 1, bs⟩ :=
      ih _ (Nat.le_refl _) hregion.inside
    refine hnext.of_run [] ?_ fun size more => regionsFrom_skip ((hsame more).trans hacts)
    simp only [List.length_cons]
    omega
  | true =>
    rcases Region.advance_of_actsAt hacts with ⟨n, hadvance⟩ | hadvance
    · have hn := (endsAt_of_advance hadvance).1
      have hnext : State.IsStable markers flags k ⟨.code, pos + n, (b :: bs).drop n⟩ := by
        cases n with
        | zero => exact ih'
        | succ n =>
          refine ih _ ?_ (Mode.isWithin_code k)
          simp only [List.length_drop, List.length_cons]
          omega
      refine hnext.of_run [⟨start, pos + n⟩] ?_ fun size more => ?_
      · simp only [List.length_drop]
        omega
      · refine (regionsFrom_of_close (hrest more)
          (Region.advance_append_of_close hadvance more)).trans ?_
        rw [List.drop_append_of_le_length hn]
        rfl
    · have hn : 2 < (b :: bs).length := by omega
      have hnext : State.IsStable markers flags k
          ⟨.inside region start, pos + 2, (b :: bs).drop 2⟩ := by
        refine ih _ ?_ hregion.inside
        simp only [List.length_drop, List.length_cons]
        omega
      refine hnext.of_run [] ?_ fun size more => ?_
      · simp only [List.length_drop]
        omega
      · refine (regionsFrom_of_stay (hrest more)
          (Region.advance_append_of_stay hadvance hn more)).trans ?_
        rw [List.drop_append_of_le_length (Nat.le_of_lt hn)]
        rfl

end State.IsStable

/-- **More text behind changes nothing of what is ignored before**, up to as many bytes before it as
the longest marker takes. -/
theorem isStable_of_isWithin (hmarkers : markers.isWithin k = true) (s : State)
    (hmode : s.mode.IsWithin k) : s.IsStable markers flags k := by
  induction hn : s.rest.length using Nat.strong_induction_on generalizing s with
  | _ n ih =>
    subst hn
    obtain ⟨mode, pos, rest⟩ := s
    by_cases hk : rest.length < k
    · exact .of_length_lt hk
    have hthree := Markers.three_le_of_isWithin hmarkers
    have hk' : k ≤ rest.length := Nat.le_of_not_lt hk
    obtain ⟨b, bs, rfl⟩ := List.exists_cons_of_length_pos (show 0 < rest.length by omega)
    have ih' : ∀ s : State, s.rest.length ≤ bs.length → s.mode.IsWithin k →
        s.IsStable markers flags k := fun s hs hmode => ih _ (Nat.lt_succ_of_le hs) s hmode rfl
    -- A region may end where it stands, so the code at this place comes first.
    have hcode : State.IsStable markers flags k ⟨.code, pos, b :: bs⟩ := .code hmarkers hk' ih'
    cases mode with
    | code => exact hcode
    | inside region start => exact .inside (hmode region start rfl) hthree hk' ih' hcode

/-- **Texts with a common beginning** have the same bytes ignored in it, up to a marker's length
before its end. -/
theorem covers_regions_congr (hmarkers : markers.isWithin k = true) {text text' : List UInt8}
    {n : Nat} (hagree : text.take n = text'.take n) (hn : n ≤ text.length) (hn' : n ≤ text'.length)
    (hoffset : offset + k ≤ n) :
    Covers (regions markers flags text) offset ↔ Covers (regions markers flags text') offset := by
  have hthree := Markers.three_le_of_isWithin hmarkers
  have hbeginning : ∀ {text : List UInt8}, n ≤ text.length →
      (Covers (regions markers flags text) offset ↔
        Covers (regions markers flags (text.take n)) offset) := by
    intro text hn
    have hlength : (text.take n).length = n := List.length_take_of_le hn
    have hstable : State.IsStable markers flags k (.initial (text.take n)) :=
      isStable_of_isWithin hmarkers _ (Mode.isWithin_code k)
    have hcovers := hstable (text.take n).length text.length offset (text.drop n)
      (by rw [State.initial, hlength, Nat.zero_add]; exact hoffset) (by omega) (by omega)
    rwa [State.extend, State.initial, List.take_append_drop] at hcovers
  rw [hbeginning hn, hbeginning hn', hagree]

end Runs

/-! ## Whole texts -/

/-- A Markdown document is ignored from its first byte to its last, or not at all. -/
theorem contains_ignoredRanges_iff_lt {text language : String} {flags : Flags} {offset : Nat}
    (hlanguage : isMarkdown language = true) :
    (ignoredRanges text language flags).contains offset = true ↔
      flags.markdown = true ∧ offset < Text.byteLength text.toList := by
  rw [ignoredRanges, if_pos hlanguage]
  split
  · next hwhole =>
    have hforward : Forward [⟨0, Text.byteLength text.toList⟩] := by simp [Forward]
    rw [contains_merge_iff hforward, covers_cons, or_iff_left (not_covers_nil offset),
      and_iff_right (Nat.zero_le offset), and_iff_right (Bool.and_eq_true_iff.1 hwhole).1]
  · next hwhole =>
    refine iff_of_false (Merged.not_contains_empty offset) ?_
    rintro ⟨hflag, hlt⟩
    rw [hflag, Bool.true_and, Bool.not_eq_true', Bool.not_eq_false, String.isEmpty_iff] at hwhole
    subst hwhole
    exact Nat.not_lt_zero offset hlt

/-- **Later text never changes what is ignored before.**  When two texts begin with the same `n`
bytes, a byte is ignored in the one exactly when it is in the other, as long as four bytes from it
on are among the `n`. -/
theorem contains_ignoredRanges_congr {text text' : String} {n offset : Nat} (language : String)
    (flags : Flags) (hagree : (Text.bytes text.toList).take n = (Text.bytes text'.toList).take n)
    (hn : n ≤ Text.byteLength text.toList) (hn' : n ≤ Text.byteLength text'.toList)
    (hoffset : offset + 4 ≤ n) :
    (ignoredRanges text language flags).contains offset = true ↔
      (ignoredRanges text' language flags).contains offset = true := by
  cases hlanguage : isMarkdown language with
  | true =>
    rw [contains_ignoredRanges_iff_lt hlanguage, contains_ignoredRanges_iff_lt hlanguage]
    have hlt : offset < Text.byteLength text.toList := by omega
    have hlt' : offset < Text.byteLength text'.toList := by omega
    exact and_congr_right fun _ => iff_of_true hlt hlt'
  | false =>
    simp only [ignoredRanges, hlanguage, Bool.false_eq_true, if_false]
    split
    · exact Iff.rfl
    · rw [contains_merge_iff forward_regions, contains_merge_iff forward_regions]
      rw [← Text.length_bytes] at hn hn'
      exact covers_regions_congr (Markers.isWithin_ofLanguage language) hagree hn hn' hoffset

/-- A string behind an escaped quote, which is closed in one text and not in the other. -/
theorem contains_ignoredRanges_congr_escape :
    (Text.bytes "'\\'😀' x".toList).take 7 = (Text.bytes "'\\'😀\\".toList).take 7 ∧
    7 ≤ Text.byteLength "'\\'😀' x".toList ∧ 7 ≤ Text.byteLength "'\\'😀\\".toList ∧
    3 + 4 ≤ 7 ∧
    (ignoredRanges "'\\'😀' x" "rust" ⟨true, true, true⟩).contains 3 = true ∧
    (ignoredRanges "'\\'😀\\" "rust" ⟨true, true, true⟩).contains 3 = true := by
  have hagree : (Text.bytes "'\\'😀' x".toList).take 7 =
      (Text.bytes "'\\'😀\\".toList).take 7 := by
    decide
  have hn : 7 ≤ Text.byteLength "'\\'😀' x".toList := by
    decide
  have hn' : 7 ≤ Text.byteLength "'\\'😀\\".toList := by
    decide
  have hignored : (ignoredRanges "'\\'😀' x" "rust" ⟨true, true, true⟩).contains 3 = true := by
    decide +kernel
  have hcongr :=
    contains_ignoredRanges_congr "rust" ⟨true, true, true⟩ hagree hn hn' (Nat.le_refl 7)
  exact ⟨hagree, hn, hn', Nat.le_refl 7, hignored, hcongr.1 hignored⟩

-- Three bytes would not be enough: the fourth one opens the comment, or not.
example : (ignoredRanges "<!--" "html" {}).contains 0 ≠
    (ignoredRanges "<!-a" "html" {}).contains 0 := by
  decide +kernel

end Ignore
end EmojiLint
