import EmojiLint.Proofs.Ignore.Regions
import EmojiLint.Proofs.Text.Boundary
import Mathlib.Data.List.Find
import Mathlib.Tactic.SplitIfs

/-!
# Scanning a text chunk by chunk

When the scanner is in code behind a line feed, nothing it did so far depends on what follows, and
what follows is scanned as a text of its own.  The searches of the scanner look beyond the line
feed, but what they find before it they would find without the rest as well
(`Region.advance_append_of_close`), and no marker reaches across it (`open?_append`).

* `State.step_extend` — one step is the same with more text behind.
* `regionsFrom_extend` — a run that ends in code is the same run, and goes on in code.
* `regionsFrom_shift` — a run that starts further to the right finds the same regions there.
* `regions_append` — both together.
-/

set_option autoImplicit false

namespace EmojiLint
namespace Ignore

/-! ## Moving and extending states -/

/-- The same place in a text that goes on with `more`. -/
def State.extend (s : State) (more : List UInt8) : State :=
  ⟨s.mode, s.pos, s.rest ++ more⟩

/-- The same mode `n` bytes to the right. -/
def Mode.shift (mode : Mode) (n : Nat) : Mode :=
  match mode with
  | .code => .code
  | .inside region start => .inside region (start + n)

/-- The same state `n` bytes to the right. -/
def State.shift (s : State) (n : Nat) : State :=
  ⟨s.mode.shift n, s.pos + n, s.rest⟩

theorem State.moveBy_extend {s : State} {n : Nat} (hn : n ≤ s.rest.length) (mode : Mode)
    (more : List UInt8) : (s.extend more).moveBy n mode = (s.moveBy n mode).extend more := by
  simp only [extend, moveBy, List.drop_append_of_le_length hn]

theorem State.moveBy_shift (s : State) (n k : Nat) (mode : Mode) :
    (s.shift k).moveBy n (mode.shift k) = (s.moveBy n mode).shift k := by
  simp only [shift, moveBy, Nat.add_right_comm]

/-! ## What opens -/

namespace Markers

/-- No opener holds a line feed. -/
def isOneLine (markers : Markers) : Bool :=
  (markers.line.all fun opener => !(markerBytes opener).contains lineFeed) &&
    markers.block.all fun pair => !(markerBytes pair.1).contains lineFeed

/-- Whatever opens something, except for a quote by itself. -/
def openers (markers : Markers) : List (List UInt8) :=
  Quote.single.triple :: Quote.double.triple ::
    (markers.block.map (fun pair => markerBytes pair.1) ++ markers.line.map markerBytes)

theorem lineFeed_notMem_of_mem_openers {markers : Markers} (h : markers.isOneLine = true)
    {marker : List UInt8} (hmarker : marker ∈ markers.openers) : lineFeed ∉ marker := by
  simp only [isOneLine, Bool.and_eq_true, List.all_eq_true, Bool.not_eq_true',
    List.contains_eq_mem, decide_eq_false_iff_not] at h
  simp only [openers, List.mem_cons, List.mem_append, List.mem_map] at hmarker
  rcases hmarker with rfl | rfl | ⟨pair, hpair, rfl⟩ | ⟨opener, hopener, rfl⟩
  · decide
  · decide
  · exact h.2 pair hpair
  · exact h.1 opener hopener

/-- **In no language does an opener hold a line feed.** -/
theorem isOneLine_ofLanguage (language : String) : (ofLanguage language).isOneLine = true :=
  forall_ofLanguage (P := (·.isOneLine = true)) (by decide) (by decide) language

end Markers

section Opening

variable {markers : Markers} {flags : Flags} {rest : List UInt8}

/-- What follows changes nothing of what opens, where no opener is cut off by the end. -/
theorem open?_append_of_isPrefix_iff (hrest : rest ≠ []) {more : List UInt8}
    (h : ∀ marker ∈ markers.openers, marker <+: rest ++ more ↔ marker <+: rest) :
    open? markers flags (rest ++ more) = open? markers flags rest := by
  have hopens : ∀ marker ∈ markers.openers,
      opensWith marker (rest ++ more) = opensWith marker rest := by
    intro marker hmarker
    rw [opensWith, opensWith, Bool.eq_iff_iff, Bool.and_eq_true, Bool.and_eq_true,
      List.isPrefixOf_iff_prefix, List.isPrefixOf_iff_prefix, h marker hmarker]
  have htriple : openTriple? (rest ++ more) = openTriple? rest := by
    rw [openTriple?, openTriple?, hopens _ (by simp [Markers.openers]),
      hopens _ (by simp [Markers.openers])]
  have hcomment : openComment? markers (rest ++ more) = openComment? markers rest := by
    have hblock : (markers.block.find? fun pair => opensWith (markerBytes pair.1) (rest ++ more)) =
        markers.block.find? fun pair => opensWith (markerBytes pair.1) rest := by
      refine List.find?_congr fun pair hpair => hopens _ ?_
      exact List.mem_cons_of_mem _ (List.mem_cons_of_mem _
        (List.mem_append_left _ (List.mem_map_of_mem hpair)))
    have hline : (markers.line.find? fun opener => opensWith (markerBytes opener) (rest ++ more)) =
        markers.line.find? fun opener => opensWith (markerBytes opener) rest := by
      refine List.find?_congr fun opener hopener => hopens _ ?_
      exact List.mem_cons_of_mem _ (List.mem_cons_of_mem _
        (List.mem_append_right _ (List.mem_map_of_mem hopener)))
    rw [openComment?, openComment?, hblock, hline]
  have hstring : openString? markers (rest ++ more) = openString? markers rest := by
    cases rest with
    | nil => exact absurd rfl hrest
    | cons b bs => rfl
  rw [open?, open?, htriple, hcomment, hstring]

/-- **No marker reaches across a line feed**, so what follows it changes nothing of what opens
before. -/
theorem open?_append (hmarkers : markers.isOneLine = true)
    (hlast : rest.getLast? = some lineFeed) (more : List UInt8) :
    open? markers flags (rest ++ more) = open? markers flags rest := by
  refine open?_append_of_isPrefix_iff ?_ fun marker hmarker => ?_
  · rintro rfl
    cases hlast
  · exact Text.isPrefix_append_iff hlast
      (Markers.lineFeed_notMem_of_mem_openers hmarkers hmarker) more

/-- What opens begins with a marker. -/
theorem exists_opensWith_of_open? {region : Region} {n : Nat}
    (h : open? markers flags rest = some (region, n)) :
    ∃ marker, opensWith marker rest = true ∧ marker.length = n := by
  simp only [open?, Option.or_eq_some_iff, Option.ite_none_right_eq_some] at h
  rcases h with (⟨_, h⟩ | ⟨_, _, h⟩) | ⟨_, _, h⟩
  · rw [openTriple?] at h
    split at h
    · next hopens =>
      cases h
      exact ⟨_, hopens, rfl⟩
    · rw [Option.ite_none_right_eq_some] at h
      obtain ⟨hopens, h⟩ := h
      cases h
      exact ⟨_, hopens, rfl⟩
  · rw [openComment?] at h
    split at h
    · next pair hfind =>
      cases h
      have hopens := List.find?_some hfind
      exact ⟨_, hopens, rfl⟩
    · rw [Option.map_eq_some_iff] at h
      obtain ⟨opener, hfind, h⟩ := h
      cases h
      have hopens := List.find?_some hfind
      exact ⟨_, hopens, rfl⟩
  · cases rest with
    | nil => cases h
    | cons b bs =>
      refine ⟨[b], by simp [opensWith], ?_⟩
      rw [openString?] at h
      split_ifs at h <;> cases h <;> rfl

theorem le_length_of_open? {region : Region} {n : Nat}
    (h : open? markers flags rest = some (region, n)) : n ≤ rest.length := by
  obtain ⟨marker, hopens, rfl⟩ := exists_opensWith_of_open? h
  rw [opensWith, Bool.and_eq_true, List.isPrefixOf_iff_prefix] at hopens
  exact hopens.2.length_le

end Opening

/-! ## What closes -/

section Closing

variable {region : Region} {rest : List UInt8} {n : Nat}

/-- The first occurrence of a marker is the first one whatever follows. -/
theorem findMarker_append {marker : List UInt8} (h : findMarker marker rest = some n)
    (more : List UInt8) : findMarker marker (rest ++ more) = some n := by
  induction rest generalizing n with
  | nil =>
    rw [findMarker, Option.ite_none_right_eq_some] at h
    obtain ⟨hnil, h⟩ := h
    rw [← h, List.isEmpty_iff.1 hnil]
    exact findMarker_of_isPrefixOf rfl
  | cons b bs ih =>
    cases hpre : marker.isPrefixOf (b :: bs) with
    | true =>
      rw [findMarker_of_isPrefixOf hpre] at h
      rw [List.isPrefixOf_iff_prefix] at hpre
      rw [← h]
      refine findMarker_of_isPrefixOf ?_
      rw [List.isPrefixOf_iff_prefix]
      exact hpre.trans (List.prefix_append _ _)
    | false =>
      rw [findMarker_cons hpre, Option.map_eq_some_iff] at h
      obtain ⟨m, hm, rfl⟩ := h
      -- The marker fits behind the first byte, so it is short enough to be compared with `b :: bs`.
      have hfits := (isSuffix_take_of_isPrefix_drop (isPrefix_of_findMarker hm)
        (le_length_of_findMarker hm)).1
      have hpre' : marker.isPrefixOf (b :: (bs ++ more)) = false := by
        rw [Bool.eq_false_iff] at hpre ⊢
        refine fun hlong => hpre ?_
        rw [List.isPrefixOf_iff_prefix] at hlong ⊢
        refine List.prefix_of_prefix_length_le hlong (List.prefix_append (b :: bs) more) ?_
        rw [List.length_cons]
        omega
      rw [List.cons_append, findMarker_cons hpre', ih hm]
      rfl

/-- **A region that ends, ends there whatever follows.** -/
theorem Region.advance_append_of_close (h : region.advance rest = .close n)
    (more : List UInt8) : region.advance (rest ++ more) = .close n := by
  have hmarked : ∀ marker, region.closing? = some marker →
      region.advance (rest ++ more) = .close n := by
    intro marker hclosing
    rw [advance_of_closing? hclosing] at h ⊢
    cases hfind : findMarker marker rest with
    | none =>
      rw [hfind] at h
      cases h
    | some m =>
      rw [hfind] at h
      rw [findMarker_append hfind]
      exact h
  cases region with
  | blockComment close => exact hmarked close rfl
  | tripleString quote => exact hmarked quote.triple rfl
  | lineComment =>
    rw [advance] at h ⊢
    cases hfind : rest.findIdx? (· == lineFeed) with
    | none =>
      rw [hfind] at h
      cases h
    | some m =>
      rw [hfind] at h
      rw [List.findIdx?_append, hfind]
      exact h
  | string quote =>
    rw [advance] at h ⊢
    cases hfind : rest.findIdx? fun b => b == backslash || b == quote.byte with
    | none =>
      rw [hfind] at h
      cases h
    | some m =>
      have hm : m < rest.length := (List.findIdx?_eq_some_iff_getElem.1 hfind).1
      simp only [hfind] at h
      simp only [List.findIdx?_append, hfind, Option.some_or, List.getElem?_append_left hm]
      exact h

/-- A move that leaves some of the text is the same whatever follows. -/
theorem Region.advance_append_of_stay (h : region.advance rest = .stay n)
    (hn : n < rest.length) (more : List UInt8) : region.advance (rest ++ more) = .stay n := by
  have hmarked : ∀ marker, region.closing? = some marker → region.advance rest ≠ .stay n := by
    intro marker hclosing hstay
    rw [advance_of_closing? hclosing] at hstay
    split at hstay
    · cases hstay
    · cases hstay
      exact Nat.lt_irrefl _ hn
  cases region with
  | blockComment close => exact absurd h (hmarked close rfl)
  | tripleString quote => exact absurd h (hmarked quote.triple rfl)
  | lineComment =>
    rw [advance] at h
    split at h
    · cases h
    · cases h
      exact absurd hn (Nat.lt_irrefl _)
  | string quote =>
    rw [advance] at h ⊢
    cases hfind : rest.findIdx? fun b => b == backslash || b == quote.byte with
    | none =>
      rw [hfind] at h
      cases h
      exact absurd hn (Nat.lt_irrefl _)
    | some m =>
      have hm : m < rest.length := (List.findIdx?_eq_some_iff_getElem.1 hfind).1
      simp only [hfind] at h
      simp only [List.findIdx?_append, hfind, Option.some_or, List.getElem?_append_left hm]
      exact h

end Closing

/-! ## Steps -/

section Runs

variable {markers : Markers} {flags : Flags}

/-- A step cuts off a beginning of what is left. -/
theorem State.rest_step_isSuffix (s : State) : (s.step markers flags).1.rest <:+ s.rest := by
  rw [step]
  split
  · split <;> exact List.drop_suffix _ _
  · split <;> exact List.drop_suffix _ _

/-- A step that moves within the text, with and without more text behind. -/
theorem State.step_extend_of_moveBy {s : State} {n : Nat} {mode : Mode} {found : Option Range}
    {more : List UInt8} (hn : n ≤ s.rest.length)
    (h : s.step markers flags = (s.moveBy n mode, found))
    (hmore : (s.extend more).step markers flags = ((s.extend more).moveBy n mode, found)) :
    (s.extend more).step markers flags =
        ((s.step markers flags).1.extend more, (s.step markers flags).2) ∧
      (s.step markers flags).1.pos + (s.step markers flags).1.rest.length =
        s.pos + s.rest.length := by
  rw [hmore, h, moveBy_extend hn]
  refine ⟨rfl, ?_⟩
  simp only [moveBy, List.length_drop]
  omega

/-- **A step is the same with more text behind**, unless it swallows all the rest of a region that
goes on. -/
theorem State.step_extend {s : State} (hmarkers : markers.isOneLine = true)
    (hlast : s.rest.getLast? = some lineFeed)
    (halive : (s.step markers flags).1.rest = [] → (s.step markers flags).1.mode = .code)
    (more : List UInt8) :
    (s.extend more).step markers flags =
        ((s.step markers flags).1.extend more, (s.step markers flags).2) ∧
      (s.step markers flags).1.pos + (s.step markers flags).1.rest.length =
        s.pos + s.rest.length := by
  have hsame : (s.extend more).mode = s.mode := rfl
  cases hmode : s.mode with
  | code =>
    have hmode' := hsame.trans hmode
    have hopen' : open? markers flags (s.extend more).rest = open? markers flags s.rest :=
      open?_append hmarkers hlast more
    cases hopen : open? markers flags s.rest with
    | none =>
      have hpos : 0 < s.rest.length := List.length_pos_of_mem (List.mem_of_getLast? hlast)
      exact step_extend_of_moveBy hpos (step_of_none hmode hopen)
        (step_of_none hmode' (hopen'.trans hopen))
    | some next =>
      obtain ⟨region, n⟩ := next
      exact step_extend_of_moveBy (le_length_of_open? hopen) (step_of_open hmode hopen)
        (step_of_open hmode' (hopen'.trans hopen))
  | inside region start =>
    have hmode' := hsame.trans hmode
    cases hadvance : region.advance s.rest with
    | close n =>
      have hn := (endsAt_of_advance hadvance).1
      have hadvance' : region.advance (s.extend more).rest = .close n :=
        Region.advance_append_of_close hadvance more
      exact step_extend_of_moveBy hn (step_of_close hmode hadvance)
        (step_of_close hmode' hadvance')
    | stay n =>
      rw [step_of_stay hmode hadvance] at halive
      have hn : n < s.rest.length := by
        by_contra hle
        exact absurd (halive (List.drop_eq_nil_iff.2 (Nat.le_of_not_lt hle))) (by simp [moveBy])
      have hadvance' : region.advance (s.extend more).rest = .stay n :=
        Region.advance_append_of_stay hadvance hn more
      exact step_extend_of_moveBy (Nat.le_of_lt hn) (step_of_stay hmode hadvance)
        (step_of_stay hmode' hadvance')

/-- **A step further to the right** does the same there. -/
theorem State.step_shift (s : State) (k : Nat) : (s.shift k).step markers flags =
    ((s.step markers flags).1.shift k, (s.step markers flags).2.map (·.shift k)) := by
  cases hmode : s.mode with
  | code =>
    have hmode' : (s.shift k).mode = .code := by rw [shift, hmode, Mode.shift]
    cases hopen : open? markers flags s.rest with
    | none =>
      rw [step_of_none hmode hopen, step_of_none hmode' hopen, ← moveBy_shift]
      rfl
    | some next =>
      rw [step_of_open hmode hopen, step_of_open hmode' hopen, ← moveBy_shift]
      rfl
  | inside region start =>
    have hmode' : (s.shift k).mode = .inside region (start + k) := by
      rw [shift, hmode, Mode.shift]
    cases hadvance : region.advance s.rest with
    | close n =>
      rw [step_of_close hmode hadvance, step_of_close hmode' hadvance, ← moveBy_shift]
      simp only [Mode.shift, shift, Option.map_some, Range.shift, Nat.add_right_comm]
    | stay n =>
      rw [step_of_stay hmode hadvance, step_of_stay hmode' hadvance, ← moveBy_shift]
      rfl

/-! ## Runs -/

variable {size : Nat}

/-- **A run that ends in code goes on in code** when more text follows.  The text ends with a line
feed, and no region of the run reaches to its end. -/
theorem regionsFrom_extend {s : State} (hmarkers : markers.isOneLine = true)
    (hlast : ∀ b ∈ s.rest.getLast?, b = lineFeed)
    (hends : ∀ r ∈ regionsFrom markers flags size s, r.stop ≠ size) (size' : Nat)
    (more : List UInt8) :
    regionsFrom markers flags size' (s.extend more) = regionsFrom markers flags size s ++
      regionsFrom markers flags size' ⟨.code, s.pos + s.rest.length, more⟩ := by
  fun_induction regionsFrom markers flags size s with
  | case1 s hrest =>
    obtain ⟨mode, pos, rest⟩ := s
    obtain rfl : rest = [] := hrest
    cases mode with
    | code => rfl
    | inside region start => exact absurd rfl (hends ⟨start, size⟩ List.mem_cons_self)
  | case2 s hrest next ih =>
    have hfeed : s.rest.getLast? = some lineFeed := by
      rw [List.getLast?_eq_some_getLast hrest] at hlast ⊢
      rw [hlast _ rfl]
    have halive : next.1.rest = [] → next.1.mode = .code := by
      intro hnil
      cases hmode : next.1.mode with
      | code => rfl
      | inside region start =>
        refine absurd rfl (hends ⟨start, size⟩ (List.mem_append_right _ ?_))
        rw [regionsFrom, if_pos hnil, State.remainder, hmode]
        exact List.mem_singleton_self _
    obtain ⟨hstep, hsum⟩ := State.step_extend hmarkers hfeed halive more
    have hsuffix : next.1.rest <:+ s.rest := s.rest_step_isSuffix
    have hnext := ih (fun b hb => hlast b (Text.mem_getLast?_of_isSuffix hsuffix hb))
      fun r hr => hends r (List.mem_append_right _ hr)
    have hne : (s.extend more).rest ≠ [] := List.append_ne_nil_of_left_ne_nil hrest more
    rw [regionsFrom_of_step hne hstep, hnext, hsum, List.append_assoc]

/-- **A run further to the right** finds the same regions there. -/
theorem regionsFrom_shift (s : State) (k : Nat) :
    regionsFrom markers flags (size + k) (s.shift k) =
      (regionsFrom markers flags size s).map (·.shift k) := by
  fun_induction regionsFrom markers flags size s with
  | case1 s hrest =>
    obtain ⟨mode, pos, rest⟩ := s
    obtain rfl : rest = [] := hrest
    cases mode <;> rw [State.shift, regionsFrom_nil] <;> rfl
  | case2 s hrest next ih =>
    rw [regionsFrom_of_step (s := s.shift k) hrest (s.step_shift k), ih, List.map_append]
    cases next.2 <;> rfl

/-- **A text may be scanned chunk by chunk** where a chunk ends with a line feed that is code. -/
theorem regions_append {a : List UInt8} (hmarkers : markers.isOneLine = true)
    (hlast : ∀ b ∈ a.getLast?, b = lineFeed)
    (hends : ∀ r ∈ regions markers flags a, r.stop ≠ a.length) (b : List UInt8) :
    regions markers flags (a ++ b) =
      regions markers flags a ++ (regions markers flags b).map (·.shift a.length) := by
  calc regions markers flags (a ++ b)
      = regionsFrom markers flags (b.length + a.length) (State.extend (.initial a) b) := by
        rw [regions, List.length_append, Nat.add_comm]
        rfl
    _ = regions markers flags a ++
          regionsFrom markers flags (b.length + a.length) (State.shift (.initial b) a.length) :=
        regionsFrom_extend hmarkers hlast hends _ b
    _ = regions markers flags a ++ (regions markers flags b).map (·.shift a.length) := by
        rw [regionsFrom_shift, regions, regions]

end Runs

end Ignore
end EmojiLint
