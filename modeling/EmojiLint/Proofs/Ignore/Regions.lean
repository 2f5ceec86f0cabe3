import EmojiLint.Proofs.Ignore.Ranges
import EmojiLint.Proofs.Ignore.Scan
import Mathlib.Tactic.ByContra

/-!
# What a region looks like

Every region that the scanner finds in a text is `Found`: it is not empty and lies in the text,
something opens where it begins, and what opened there ends where it ends.

The scanner walks along the text, so this is an invariant of its states (`Located`) together with
what a single step closes (`located_step`).  `found_of_mem_regions` makes a statement about all
regions of a text out of the two.
-/

set_option autoImplicit false

namespace EmojiLint
namespace Ignore

/-- The bytes with which a region ends; a line comment has none. -/
def Region.ending? : Region → Option (List UInt8)
  | lineComment => none
  | blockComment close => some close
  | string quote => some [quote.byte]
  | tripleString quote => some quote.triple

/-- A region may end at a byte of the text: at the end of the text, before the line feed after a
line comment, or behind the bytes with which it ends. -/
inductive EndsAt (text : List UInt8) (region : Region) (stop : Nat) : Prop
  | unclosed (h : stop = text.length)
  | lineFeed (h : region = .lineComment) (hstop : text[stop]? = some lineFeed)
  | ending {marker : List UInt8} (h : region.ending? = some marker)
      (hstop : marker <:+ text.take stop)

/-- What a region of a text looks like. -/
structure Found (markers : Markers) (flags : Flags) (text : List UInt8) (r : Range) : Prop where
  start_lt_stop : r.start < r.stop
  stop_le_length : r.stop ≤ text.length
  opens : ∃ region n, open? markers flags (text.drop r.start) = some (region, n) ∧
    EndsAt text region r.stop

/-! ## Where a region ends -/

theorem isPrefix_of_findMarker {marker rest : List UInt8} {n : Nat}
    (h : findMarker marker rest = some n) : marker <+: rest.drop n := by
  induction rest generalizing n with
  | nil =>
    rw [findMarker] at h
    split at h
    · next hnil =>
      rw [List.isEmpty_iff.1 hnil]
      exact List.nil_prefix
    · cases h
  | cons b bs ih =>
    cases hpre : marker.isPrefixOf (b :: bs) with
    | true =>
      rw [findMarker_of_isPrefixOf hpre, Option.some_inj] at h
      rw [← h, List.drop_zero]
      exact List.isPrefixOf_iff_prefix.1 hpre
    | false =>
      rw [findMarker_cons hpre, Option.map_eq_some_iff] at h
      obtain ⟨m, hm, rfl⟩ := h
      exact ih hm

/-- A marker that begins `n` bytes further on ends where it should. -/
theorem isSuffix_take_of_isPrefix_drop {marker rest : List UInt8} {n : Nat}
    (h : marker <+: rest.drop n) (hn : n ≤ rest.length) :
    n + marker.length ≤ rest.length ∧ marker <:+ rest.take (n + marker.length) := by
  have hlen := h.length_le
  rw [List.length_drop] at hlen
  refine ⟨by omega, ?_⟩
  rw [List.take_add, ← List.prefix_iff_eq_take.1 h]
  exact List.suffix_append _ _

theorem le_length_of_findMarker {marker rest : List UInt8} {n : Nat}
    (h : findMarker marker rest = some n) : n ≤ rest.length := by
  induction rest generalizing n with
  | nil =>
    rw [findMarker] at h
    split at h
    · cases h
      exact Nat.le_refl _
    · cases h
  | cons b bs ih =>
    cases hpre : marker.isPrefixOf (b :: bs) with
    | true =>
      rw [findMarker_of_isPrefixOf hpre, Option.some_inj] at h
      rw [← h]
      exact Nat.zero_le _
    | false =>
      rw [findMarker_cons hpre, Option.map_eq_some_iff] at h
      obtain ⟨m, hm, rfl⟩ := h
      exact Nat.succ_le_succ (ih hm)

theorem endsAt_of_closing? {region : Region} {marker rest : List UInt8} {n : Nat}
    (hclosing : region.closing? = some marker) (hending : region.ending? = some marker)
    (h : region.advance rest = .close n) : n ≤ rest.length ∧ EndsAt rest region n := by
  rw [Region.advance_of_closing? hclosing] at h
  cases hfind : findMarker marker rest with
  | none =>
    rw [hfind] at h
    cases h
  | some m =>
    rw [hfind, Advance.close.injEq] at h
    obtain ⟨hle, hsuffix⟩ := isSuffix_take_of_isPrefix_drop (isPrefix_of_findMarker hfind)
      (le_length_of_findMarker hfind)
    rw [h] at hle hsuffix
    exact ⟨hle, .ending hending hsuffix⟩

theorem endsAt_lineComment {rest : List UInt8} {n : Nat}
    (h : Region.lineComment.advance rest = .close n) :
    n ≤ rest.length ∧ EndsAt rest .lineComment n := by
  rw [Region.advance] at h
  cases hfind : rest.findIdx? (· == lineFeed) with
  | none =>
    rw [hfind] at h
    cases h
  | some m =>
    rw [hfind, Advance.close.injEq] at h
    obtain ⟨hlt, hfeed, _⟩ := List.findIdx?_eq_some_iff_getElem.1 hfind
    rw [← h]
    refine ⟨Nat.le_of_lt hlt, .lineFeed rfl ?_⟩
    rw [List.getElem?_eq_getElem hlt, beq_iff_eq.1 hfeed]

theorem endsAt_string {q : Quote} {rest : List UInt8} {n : Nat}
    (h : (Region.string q).advance rest = .close n) :
    n ≤ rest.length ∧ EndsAt rest (.string q) n := by
  rw [Region.advance] at h
  cases hfind : rest.findIdx? fun b => b == backslash || b == q.byte with
  | none =>
    rw [hfind] at h
    cases h
  | some m =>
    simp only [hfind] at h
    split at h
    · cases h
    · next hescape =>
      obtain ⟨hlt, hbyte, _⟩ := List.findIdx?_eq_some_iff_getElem.1 hfind
      rw [List.getElem?_eq_getElem hlt, Option.some_inj] at hescape
      have hquote : rest[m] = q.byte := by simpa [hescape] using hbyte
      rw [Advance.close.injEq] at h
      rw [← h]
      refine ⟨hlt, .ending rfl ?_⟩
      rw [List.take_succ_eq_append_getElem hlt, hquote]
      exact List.suffix_append _ _

/-- **A region that ends, ends in the text** and behind what ends it. -/
theorem endsAt_of_advance {region : Region} {rest : List UInt8} {n : Nat}
    (h : region.advance rest = .close n) : n ≤ rest.length ∧ EndsAt rest region n := by
  cases region with
  | lineComment => exact endsAt_lineComment h
  | string q => exact endsAt_string h
  | blockComment close => exact endsAt_of_closing? rfl rfl h
  | tripleString q => exact endsAt_of_closing? rfl rfl h

/-- Where a region ends does not depend on what comes before. -/
theorem EndsAt.of_drop {text : List UInt8} {region : Region} {pos n : Nat}
    (hpos : pos ≤ text.length) (h : EndsAt (text.drop pos) region n) :
    EndsAt text region (pos + n) := by
  cases h with
  | unclosed h =>
    refine .unclosed ?_
    rw [h, List.length_drop]
    omega
  | lineFeed h hstop =>
    rw [List.getElem?_drop] at hstop
    exact .lineFeed h hstop
  | ending h hstop =>
    refine .ending h (hstop.trans ?_)
    rw [List.take_add]
    exact List.suffix_append _ _

/-! ## What opens -/

/-- What closes an opened block comment stands in the table. -/
theorem mem_block_of_open? {markers : Markers} {flags : Flags} {rest close : List UInt8} {n : Nat}
    (h : open? markers flags rest = some (.blockComment close, n)) :
    ∃ pair ∈ markers.block, markerBytes pair.2 = close := by
  simp only [open?, Option.or_eq_some_iff] at h
  rcases h with (h | ⟨_, h⟩) | ⟨_, h⟩
  · rw [Option.ite_none_right_eq_some, openTriple?] at h
    split_ifs at h <;> cases h.2
  · rw [Option.ite_none_right_eq_some, openComment?] at h
    cases hfind : markers.block.find? fun pair => opensWith (markerBytes pair.1) rest with
    | some pair =>
      rw [hfind, Option.some_inj, Prod.mk.injEq, Region.blockComment.injEq] at h
      exact ⟨pair, List.mem_of_find?_eq_some hfind, h.2.1⟩
    | none =>
      rw [hfind, Option.map_eq_some_iff] at h
      obtain ⟨_, _, _, hregion⟩ := h
      cases hregion
  · rw [Option.ite_none_right_eq_some] at h
    obtain ⟨_, h⟩ := h
    cases rest with
    | nil => cases h
    | cons b bs =>
      rw [openString?] at h
      split_ifs at h <;> cases h

/-! ## An invariant of the scanner -/

/-- The scanner stands where it says, and a region that it is inside of has opened before. -/
structure Located (markers : Markers) (flags : Flags) (text : List UInt8) (s : State) : Prop where
  rest_eq : s.rest = text.drop s.pos
  inside : ∀ {region start}, s.mode = .inside region start →
    start < s.pos ∧ start < text.length ∧
      ∃ n, open? markers flags (text.drop start) = some (region, n)

section Runs

variable {markers : Markers} {flags : Flags} {text : List UInt8}

theorem located_initial : Located markers flags text (.initial text) :=
  ⟨rfl, fun h => by cases h⟩

theorem Located.pos_lt {s : State} (h : Located markers flags text s) (hrest : s.rest ≠ []) :
    s.pos < text.length := by
  by_contra hlt
  rw [h.rest_eq, List.drop_eq_nil_iff.2 (Nat.le_of_not_lt hlt)] at hrest
  exact hrest rfl

/-- Moving the cursor keeps the scanner where it says. -/
theorem Located.rest_moveBy {s : State} (h : Located markers flags text s) (n : Nat)
    (mode : Mode) : (s.moveBy n mode).rest = text.drop (s.moveBy n mode).pos := by
  rw [State.moveBy, h.rest_eq, List.drop_drop]

theorem located_step_code {s : State} (h : Located markers flags text s) (hmode : s.mode = .code)
    (hpos : s.pos < text.length) :
    Located markers flags text (s.step markers flags).1 ∧ (s.step markers flags).2 = none := by
  cases hopen : open? markers flags s.rest with
  | none =>
    rw [State.step_of_none hmode hopen]
    exact ⟨⟨h.rest_moveBy 1 _, fun hmode' => by cases hmode'⟩, rfl⟩
  | some next =>
    obtain ⟨region, n⟩ := next
    rw [State.step_of_open hmode hopen]
    refine ⟨⟨h.rest_moveBy n _, fun hmode' => ?_⟩, rfl⟩
    cases hmode'
    rw [h.rest_eq] at hopen
    exact ⟨Nat.lt_add_of_pos_right (open?_pos hopen), hpos, n, hopen⟩

theorem located_step_inside {s : State} (h : Located markers flags text s) {region : Region}
    {start : Nat} (hmode : s.mode = .inside region start) (hpos : s.pos < text.length) :
    Located markers flags text (s.step markers flags).1 ∧
      ∀ r ∈ (s.step markers flags).2, Found markers flags text r := by
  obtain ⟨hbefore, hlt, n, hopen⟩ := h.inside hmode
  have hafter : ∀ m, start < s.pos + m := fun m => Nat.lt_of_lt_of_le hbefore (Nat.le_add_right _ m)
  cases hadvance : region.advance s.rest with
  | stay m =>
    rw [State.step_of_stay hmode hadvance]
    refine ⟨⟨h.rest_moveBy m _, fun hmode' => ?_⟩, fun r hr => by cases hr⟩
    cases hmode'
    exact ⟨hafter m, hlt, n, hopen⟩
  | close m =>
    rw [State.step_of_close hmode hadvance]
    refine ⟨⟨h.rest_moveBy m _, fun hmode' => by cases hmode'⟩, fun r hr => ?_⟩
    obtain ⟨hle, hends⟩ := endsAt_of_advance hadvance
    rw [h.rest_eq] at hle hends
    rw [List.length_drop] at hle
    cases hr
    refine ⟨hafter m, ?_, region, n, hopen, hends.of_drop (Nat.le_of_lt hpos)⟩
    show s.pos + m ≤ text.length
    omega

/-- **One step keeps the invariant**, and a region that it closes looks as it should. -/
theorem located_step {s : State} (h : Located markers flags text s) (hrest : s.rest ≠ []) :
    Located markers flags text (s.step markers flags).1 ∧
      ∀ r ∈ (s.step markers flags).2, Found markers flags text r := by
  have hpos := h.pos_lt hrest
  cases hmode : s.mode with
  | code =>
    obtain ⟨hlocated, hnone⟩ := located_step_code h hmode hpos
    refine ⟨hlocated, fun r hr => ?_⟩
    rw [hnone] at hr
    cases hr
  | inside region start => exact located_step_inside h hmode hpos

/-- The region that is open at the end of the text looks as it should. -/
theorem found_of_mem_remainder {s : State} (h : Located markers flags text s) {r : Range}
    (hr : r ∈ s.remainder text.length) : Found markers flags text r := by
  rw [State.remainder] at hr
  cases hmode : s.mode with
  | code =>
    rw [hmode] at hr
    exact absurd hr List.not_mem_nil
  | inside region start =>
    obtain ⟨_, hlt, n, hopen⟩ := h.inside hmode
    rw [hmode, List.mem_singleton] at hr
    rw [hr]
    exact ⟨hlt, Nat.le_refl _, region, n, hopen, .unclosed rfl⟩

/-- **What holds of every step holds of the run.** -/
theorem found_of_mem_regionsFrom {s : State} (h : Located markers flags text s) {r : Range}
    (hr : r ∈ regionsFrom markers flags text.length s) : Found markers flags text r := by
  fun_induction regionsFrom markers flags text.length s with
  | case1 s hrest => exact found_of_mem_remainder h hr
  | case2 s hrest next ih =>
    obtain ⟨hnext, hfound⟩ := located_step h hrest
    rcases List.mem_append.1 hr with hr | hr
    · exact hfound r (Option.mem_toList.1 hr)
    · exact ih hnext hr

/-- **Every region of a text is as it should be.** -/
theorem found_of_mem_regions {r : Range} (hr : r ∈ regions markers flags text) :
    Found markers flags text r :=
  found_of_mem_regionsFrom located_initial hr

theorem forward_regions : Forward (regions markers flags text) :=
  fun _ hr => Nat.le_of_lt (found_of_mem_regions hr).start_lt_stop

end Runs

end Ignore
end EmojiLint
