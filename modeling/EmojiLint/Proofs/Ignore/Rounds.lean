import EmojiLint.Proofs.Ignore.Append
import EmojiLint.Proofs.Ignore.Refinement

/-!
# How many rounds the scanner needs

The steps of the scanner carry the rest of the text with them, and nothing of a list can be looked
at that is not there.  Here the scanner is a loop that knows its place in the text only: a round
cuts the rest of the text off and looks at bytes of it, and fails where there is no such piece or no
such byte.  Any markers are allowed, empty ones too.

The cursor alone does not show that the loop ends.  A round may leave it where it is
(`Cursor.Stalls`) or push it past the end (`Cursor.Overshoots`).  What falls with every round is
`State.measure`, and a round is a step as long as there is text left (`round?_eq`).

* `rounds?_of_measure_le` — as many rounds suffice as the measure says.
* `exists_round?_eq` — how far a round moves the cursor.
* `pairwise_regions` — a region ends before the next one begins.
* `rounds?_eq_regions` — all of it, about a whole text.
-/

set_option autoImplicit false

namespace EmojiLint
namespace Ignore

/-! ## Rounds that may fail -/

/-- The rest of a text from a place on.  Behind the end of the text there is none. -/
def cutAt? (text : List UInt8) (pos : Nat) : Option (List UInt8) :=
  if pos ≤ text.length then some (text.drop pos) else none

/-- What opens at the start of `rest`.  A quotation mark is looked for in its first byte. -/
def tryOpen? (markers : Markers) (flags : Flags) (rest : List UInt8) :
    Option (Option (Region × Nat)) :=
  match (if markers.tripleQuotes && flags.strings then openTriple? rest else none).or
      (if flags.comments then openComment? markers rest else none) with
  | some opened => some (some opened)
  | none => if flags.strings then rest[0]?.map fun b => openString? markers [b] else some none

/-- The next move inside a region.  In a string, the byte that was found is looked at again. -/
def Region.tryAdvance? (region : Region) (rest : List UInt8) : Option Advance :=
  match region with
  | .string quote =>
    match rest.findIdx? fun b => b == backslash || b == quote.byte with
    | some n => rest[n]?.map fun b => if b = backslash then .stay (n + 2) else .close (n + 1)
    | none => some (.stay rest.length)
  | region => some (region.advance rest)

/-- The scanner between two rounds: all it knows of the text is its place in it. -/
@[ext]
structure Cursor where
  mode : Mode
  pos : Nat
deriving DecidableEq, Repr

/-- The region that is open at the end of a text of `size` bytes. -/
def Cursor.remainder (c : Cursor) (size : Nat) : List Range :=
  State.remainder ⟨c.mode, c.pos, []⟩ size

def State.cursor (s : State) : Cursor :=
  ⟨s.mode, s.pos⟩

/-- One round: the cursor after it, and the region that it closed. -/
def round? (markers : Markers) (flags : Flags) (text : List UInt8) (c : Cursor) :
    Option (Cursor × Option Range) :=
  (cutAt? text c.pos).bind fun rest =>
    match c.mode with
    | .code =>
      (tryOpen? markers flags rest).map fun
        | some (region, n) => (⟨.inside region c.pos, c.pos + n⟩, none)
        | none => (⟨.code, c.pos + 1⟩, none)
    | .inside region start =>
      (region.tryAdvance? rest).map fun
        | .close n => (⟨.code, c.pos + n⟩, some ⟨start, c.pos + n⟩)
        | .stay n => (⟨.inside region start, c.pos + n⟩, none)

/-- The regions that the loop finds from a cursor on in so many rounds at most.  There are none when
a round fails or the rounds do not suffice. -/
def rounds? (markers : Markers) (flags : Flags) (text : List UInt8) :
    Nat → Cursor → Option (List Range)
  | 0, c =>
    if c.pos < text.length then none else some (c.remainder text.length)
  | n + 1, c =>
    if c.pos < text.length then
      (round? markers flags text c).bind fun next =>
        (rounds? markers flags text n next.1).map (next.2.toList ++ ·)
    else some (c.remainder text.length)

/-- The cursor stands where a region ends with no byte of its own: in a line comment before the
line feed, or in a block comment that ends with nothing. -/
def Cursor.Stalls (text : List UInt8) (c : Cursor) : Prop :=
  ∃ region start, c.mode = .inside region start ∧
    ((region = .lineComment ∧ text[c.pos]? = some lineFeed) ∨ region = .blockComment [])

/-- The cursor stands in a string in which nothing happens any more before the last byte of the
text, and that is a backslash. -/
def Cursor.Overshoots (text : List UInt8) (c : Cursor) : Prop :=
  ∃ quote start, c.mode = .inside (.string quote) start ∧ text.getLast? = some backslash ∧
    ∀ i, c.pos ≤ i → i + 1 < text.length → text[i]? ≠ some backslash ∧ text[i]? ≠ some quote.byte

/-! ## A round is a step -/

section Steps

variable {markers : Markers} {flags : Flags} {text rest : List UInt8}

/-- There is a first byte as long as there is text left. -/
theorem tryOpen?_eq (hrest : rest ≠ []) :
    tryOpen? markers flags rest = some (open? markers flags rest) := by
  obtain ⟨b, bs, rfl⟩ := List.exists_cons_of_ne_nil hrest
  rw [tryOpen?, open?]
  split
  · next opened hopened => rw [hopened, Option.some_or]
  · next hopened =>
    rw [hopened, Option.none_or]
    split <;> rfl

/-- A byte that was found is there. -/
theorem Region.tryAdvance?_eq (region : Region) :
    region.tryAdvance? rest = some (region.advance rest) := by
  cases region with
  | string quote =>
    rw [tryAdvance?, advance]
    cases hfind : rest.findIdx? fun b => b == backslash || b == quote.byte with
    | none => rfl
    | some n =>
      have hn : n < rest.length := (List.findIdx?_eq_some_iff_getElem.1 hfind).1
      simp [hn]
  | _ => rfl

theorem rest_ne_nil_iff {s : State} (hs : s.rest = text.drop s.pos) :
    s.rest ≠ [] ↔ s.pos < text.length := by
  rw [hs, ne_eq, List.drop_eq_nil_iff, Nat.not_le]

/-- **A round is a step** as long as there is text left. -/
theorem round?_eq {s : State} (hs : s.rest = text.drop s.pos) (hrest : s.rest ≠ []) :
    round? markers flags text s.cursor =
      some ((s.step markers flags).1.cursor, (s.step markers flags).2) := by
  have hpos : s.pos ≤ text.length := Nat.le_of_lt ((rest_ne_nil_iff hs).1 hrest)
  simp only [round?, State.cursor, cutAt?, if_pos hpos, Option.bind_some, ← hs]
  cases hmode : s.mode with
  | code =>
    simp only [tryOpen?_eq hrest, Option.map_some]
    cases hopen : open? markers flags s.rest with
    | none => simp [State.step_of_none hmode hopen, State.moveBy]
    | some next => simp [State.step_of_open hmode hopen, State.moveBy]
  | inside region start =>
    simp only [region.tryAdvance?_eq, Option.map_some]
    cases hadvance : region.advance s.rest with
    | close n => simp [State.step_of_close hmode hadvance, State.moveBy]
    | stay n => simp [State.step_of_stay hmode hadvance, State.moveBy]

/-- **As many rounds suffice as the measure says**, and none of them fails. -/
theorem rounds?_of_measure_le {s : State} (hs : Located markers flags text s) {n : Nat}
    (hn : s.measure ≤ n) :
    rounds? markers flags text n s.cursor = some (regionsFrom markers flags text.length s) := by
  fun_induction regionsFrom markers flags text.length s generalizing n with
  | case1 s hrest =>
    have hpos : ¬ s.cursor.pos < text.length := by
      rwa [State.cursor, ← rest_ne_nil_iff hs.rest_eq, not_not]
    cases n <;> rw [rounds?, if_neg hpos] <;> rfl
  | case2 s hrest next ih =>
    have hpos : s.cursor.pos < text.length := (rest_ne_nil_iff hs.rest_eq).1 hrest
    have hlt : next.1.measure < s.measure := State.measure_step_lt markers flags hrest
    have hnext := ih (located_step hs hrest).1 (n := n - 1) (by omega)
    obtain ⟨n, rfl⟩ : ∃ m, n = m + 1 := ⟨n - 1, by omega⟩
    rw [rounds?, if_pos hpos, round?_eq hs.rest_eq hrest, Option.bind_some]
    exact (congrArg _ hnext).trans rfl

end Steps

/-! ## How far a round moves -/

section Moves

variable {region : Region} {rest : List UInt8} {n : Nat}

/-- Where a region ends with no byte of its own. -/
theorem Region.advance_eq_close_zero_iff (hrest : rest ≠ []) :
    region.advance rest = .close 0 ↔
      (region = .lineComment ∧ rest[0]? = some lineFeed) ∨ region = .blockComment [] := by
  obtain ⟨b, bs, rfl⟩ := List.exists_cons_of_ne_nil hrest
  cases hacts : region.actsAt (b :: bs) with
  | false =>
    have hsucc : (region.advance bs).succ ≠ .close 0 := by
      cases region.advance bs <;> simp [Advance.succ]
    rw [advance_cons hacts]
    refine iff_of_false hsucc ?_
    rintro (⟨rfl, hfeed⟩ | rfl)
    · simp_all [actsAt]
    · simp [actsAt] at hacts
  | true =>
    cases region with
    | lineComment =>
      obtain rfl : b = lineFeed := by simpa [actsAt] using hacts
      simp [advance_lineComment_of_lineFeed]
    | blockComment close =>
      have hclose : (blockComment close).advance (b :: bs) = .close close.length :=
        advance_of_isPrefixOf rfl hacts
      simp [hclose]
    | tripleString quote =>
      have hclose : (tripleString quote).advance (b :: bs) = .close quote.triple.length :=
        advance_of_isPrefixOf rfl hacts
      simp [hclose, Quote.triple]
    | string quote =>
      obtain rfl | rfl : b = backslash ∨ b = quote.byte := by simpa [actsAt] using hacts
      · simp [advance_string_of_backslash]
      · simp [advance_string_of_quote]

/-- A move that does not leave the region ends one byte behind the end of the text at most. -/
theorem Region.le_of_advance_eq_stay (h : region.advance rest = .stay n) :
    n ≤ rest.length + 1 := by
  cases region with
  | string quote =>
    rw [advance] at h
    split at h
    · next m hfind =>
      have hm : m < rest.length := (List.findIdx?_eq_some_iff_getElem.1 hfind).1
      split at h <;> cases h
      omega
    · cases h
      omega
  | lineComment | blockComment close | tripleString quote =>
    rw [advance] at h
    split at h <;> cases h
    omega

/-- A string takes a byte that is not there when a backslash is the first byte that counts in it,
and the last byte of all. -/
theorem advance_string_eq_stay_succ_iff {quote : Quote} :
    (Region.string quote).advance rest = .stay (rest.length + 1) ↔
      rest.getLast? = some backslash ∧
        ∀ i, i + 1 < rest.length → rest[i]? ≠ some backslash ∧ rest[i]? ≠ some quote.byte := by
  rw [Region.advance, List.getLast?_eq_getElem?]
  cases hfind : rest.findIdx? fun b => b == backslash || b == quote.byte with
  | none =>
    refine iff_of_false (by simp) fun h => ?_
    simpa using List.findIdx?_eq_none_iff.1 hfind _ (List.mem_of_getElem? h.1)
  | some m =>
    obtain ⟨hm, hbyte, hbefore⟩ := List.findIdx?_eq_some_iff_getElem.1 hfind
    dsimp only
    constructor
    · intro h
      split at h
      · next hescape =>
        obtain rfl : m = rest.length - 1 := by
          rw [Advance.stay.injEq] at h
          omega
        refine ⟨hescape, fun i hi => ?_⟩
        rw [List.getElem?_eq_getElem (by omega)]
        simpa using hbefore i (by omega)
      · cases h
    · rintro ⟨hlast, hclear⟩
      obtain rfl : m = rest.length - 1 := by
        by_contra hne
        have hclear := hclear m (by omega)
        rw [List.getElem?_eq_getElem hm] at hclear
        simp_all
      rw [if_pos hlast, Advance.stay.injEq]
      omega

/-- Only a string takes a byte that is not there. -/
theorem Region.advance_eq_stay_succ_iff :
    region.advance rest = .stay (rest.length + 1) ↔
      ∃ quote, region = .string quote ∧ rest.getLast? = some backslash ∧
        ∀ i, i + 1 < rest.length → rest[i]? ≠ some backslash ∧ rest[i]? ≠ some quote.byte := by
  cases region with
  | string quote => simp [advance_string_eq_stay_succ_iff]
  | lineComment | blockComment close | tripleString quote =>
    rw [advance]
    split <;> simp

end Moves

section Cursors

variable {markers : Markers} {flags : Flags} {text : List UInt8} {pos : Nat}

theorem stalls_inside_iff (hpos : pos < text.length) {region : Region} {start : Nat} :
    Cursor.Stalls text ⟨.inside region start, pos⟩ ↔ region.advance (text.drop pos) = .close 0 := by
  rw [Region.advance_eq_close_zero_iff (by simpa using hpos), List.getElem?_drop]
  simp [Cursor.Stalls]

theorem overshoots_inside_iff (hpos : pos < text.length) {region : Region} {start : Nat} :
    Cursor.Overshoots text ⟨.inside region start, pos⟩ ↔
      region.advance (text.drop pos) = .stay ((text.drop pos).length + 1) := by
  have hshift : ∀ quote : Quote, (∀ i, pos ≤ i → i + 1 < text.length →
        text[i]? ≠ some backslash ∧ text[i]? ≠ some quote.byte) ↔
      ∀ i, i + 1 < text.length - pos →
        text[pos + i]? ≠ some backslash ∧ text[pos + i]? ≠ some quote.byte := by
    refine fun quote => ⟨fun h i hi => h (pos + i) (by omega) (by omega), fun h i hle hi => ?_⟩
    simpa [Nat.add_sub_cancel' hle] using h (i - pos) (by omega)
  rw [Region.advance_eq_stay_succ_iff, List.getLast?_drop, if_neg (Nat.not_le_of_lt hpos)]
  simp only [Cursor.Overshoots, Mode.inside.injEq, hshift, and_assoc, exists_and_left,
    exists_eq_left', List.length_drop, List.getElem?_drop]

theorem not_stalls_code : ¬ Cursor.Stalls text ⟨.code, pos⟩ := by
  simp [Cursor.Stalls]

theorem not_overshoots_code : ¬ Cursor.Overshoots text ⟨.code, pos⟩ := by
  simp [Cursor.Overshoots]

/-- **How far a round moves the cursor.**  No round fails where there is text left. -/
theorem exists_round?_eq {c : Cursor} (hpos : c.pos < text.length) :
    ∃ next closed, round? markers flags text c = some (next, closed) ∧
      c.pos ≤ next.pos ∧ next.pos ≤ text.length + 1 ∧
      (next.pos = c.pos ↔ c.Stalls text) ∧ (c.Stalls text → next.mode = .code) ∧
      (next.pos = text.length + 1 ↔ c.Overshoots text) := by
  obtain ⟨mode, pos⟩ := c
  change pos < text.length at hpos
  have hrest : text.drop pos ≠ [] := by simpa using hpos
  have hlength : (text.drop pos).length = text.length - pos := List.length_drop
  refine ⟨_, _, round?_eq (s := ⟨mode, pos, text.drop pos⟩) rfl hrest, ?_⟩
  cases mode with
  | code =>
    simp only [not_stalls_code, not_overshoots_code, iff_false, false_imp_iff, true_and]
    cases hopen : open? markers flags (text.drop pos) with
    | none =>
      rw [State.step_of_none rfl hopen]
      simp only [State.cursor, State.moveBy]
      omega
    | some next =>
      have hn := open?_pos hopen
      have hle := le_length_of_open? hopen
      rw [State.step_of_open rfl hopen]
      simp only [State.cursor, State.moveBy]
      omega
  | inside region start =>
    rw [stalls_inside_iff hpos, overshoots_inside_iff hpos]
    cases hadvance : region.advance (text.drop pos) with
    | close n =>
      have hle := (endsAt_of_advance hadvance).1
      rw [State.step_of_close rfl hadvance]
      simp only [State.cursor, State.moveBy, Advance.close.injEq, reduceCtorEq, iff_false,
        implies_true, true_and]
      omega
    | stay n =>
      have hn := Region.advance_stay_pos hrest hadvance
      have hle := Region.le_of_advance_eq_stay hadvance
      rw [State.step_of_stay rfl hadvance]
      simp only [State.cursor, State.moveBy, Advance.stay.injEq, reduceCtorEq, iff_false,
        false_imp_iff, true_and]
      omega

end Cursors

/-! ## The order of the regions -/

section Runs

variable {markers : Markers} {flags : Flags} {text : List UInt8}

/-- What is open never begins further to the left, and a region that is closed lies before it. -/
theorem opened_step {s : State} (h : Located markers flags text s) :
    s.mode.opened s.pos ≤ (s.step markers flags).1.mode.opened (s.step markers flags).1.pos ∧
      ∀ r ∈ (s.step markers flags).2, s.mode.opened s.pos ≤ r.start ∧
        r.stop ≤ (s.step markers flags).1.mode.opened (s.step markers flags).1.pos := by
  cases hmode : s.mode with
  | code =>
    cases hopen : open? markers flags s.rest with
    | none => simp [State.step_of_none hmode hopen, State.moveBy]
    | some next => simp [State.step_of_open hmode hopen, State.moveBy]
  | inside region start =>
    have hbefore : start < s.pos := (h.inside hmode).1
    cases hadvance : region.advance s.rest with
    | close n =>
      rw [State.step_of_close hmode hadvance]
      simp only [State.moveBy, opened_code, opened_inside, Option.mem_some, forall_eq', Nat.le_refl,
        and_true]
      omega
    | stay n => simp [State.step_of_stay hmode hadvance, State.moveBy]

/-- No region that is found later begins further to the left than what is open. -/
theorem opened_le_start {s : State} (h : Located markers flags text s) {r : Range}
    (hr : r ∈ regionsFrom markers flags text.length s) : s.mode.opened s.pos ≤ r.start := by
  fun_induction regionsFrom markers flags text.length s with
  | case1 s hrest =>
    rw [State.remainder] at hr
    cases hmode : s.mode with
    | code => simp [hmode] at hr
    | inside region start =>
      rw [hmode, List.mem_singleton] at hr
      simp [hr]
  | case2 s hrest next ih =>
    obtain ⟨hopened, hclosed⟩ : s.mode.opened s.pos ≤ next.1.mode.opened next.1.pos ∧ _ :=
      opened_step h
    rcases List.mem_append.1 hr with hr | hr
    · exact (hclosed r (Option.mem_toList.1 hr)).1
    · exact hopened.trans (ih (located_step h hrest).1 hr)

theorem pairwise_regionsFrom {s : State} (h : Located markers flags text s) :
    (regionsFrom markers flags text.length s).Pairwise fun r r' => r.stop ≤ r'.start := by
  fun_induction regionsFrom markers flags text.length s with
  | case1 s hrest =>
    rw [State.remainder]
    cases s.mode <;> simp
  | case2 s hrest next ih =>
    have hnext := (located_step h hrest).1
    refine List.pairwise_append.2 ⟨?_, ih hnext, fun r hr r' hr' => ?_⟩
    · cases next.2 <;> simp
    · exact ((opened_step h).2 r (Option.mem_toList.1 hr)).2.trans (opened_le_start hnext hr')

/-- **A region ends before the next one begins.** -/
theorem pairwise_regions :
    (regions markers flags text).Pairwise fun r r' => r.stop ≤ r'.start :=
  pairwise_regionsFrom located_initial

end Runs

/-- **The scanner ends after at most two rounds for every byte** and none of them fails, whatever
the markers are, although a round may leave the cursor where it is or push it past the end.  The
regions that it finds are not empty, lie in the text, and each of them ends before the next one
begins. -/
theorem rounds?_eq_regions (markers : Markers) (flags : Flags) (text : List UInt8) :
    rounds? markers flags text (2 * text.length) ⟨.code, 0⟩ = some (regions markers flags text) ∧
    (∀ c : Cursor, c.pos < text.length →
      ∃ next closed, round? markers flags text c = some (next, closed) ∧
        c.pos ≤ next.pos ∧ next.pos ≤ text.length + 1 ∧
        (next.pos = c.pos ↔ c.Stalls text) ∧ (c.Stalls text → next.mode = .code) ∧
        (next.pos = text.length + 1 ↔ c.Overshoots text)) ∧
    (∀ r ∈ regions markers flags text, r.start < r.stop ∧ r.stop ≤ text.length) ∧
    (regions markers flags text).Pairwise fun r r' => r.stop ≤ r'.start :=
  ⟨rounds?_of_measure_le located_initial (Nat.le_refl _), fun _ hpos => exists_round?_eq hpos,
    fun _ hr => ⟨(found_of_mem_regions hr).start_lt_stop, (found_of_mem_regions hr).stop_le_length⟩,
    pairwise_regions⟩

/-- A line comment that opens directly before a line feed. -/
theorem rounds?_eq_regions_stalling :
    (2 < (Text.bytes "//\n".toList).length ∧
      Cursor.Stalls (Text.bytes "//\n".toList) ⟨.inside .lineComment 0, 2⟩) ∧
    ∃ closed, round? (.ofLanguage "rust") {} (Text.bytes "//\n".toList)
      ⟨.inside .lineComment 0, 2⟩ = some (⟨.code, 2⟩, closed) := by
  have hlt : 2 < (Text.bytes "//\n".toList).length := by decide
  have hstalls : Cursor.Stalls (Text.bytes "//\n".toList) ⟨.inside .lineComment 0, 2⟩ :=
    ⟨.lineComment, 0, rfl, Or.inl ⟨rfl, by decide⟩⟩
  obtain ⟨next, closed, hround, -, -, hpos, hmode, -⟩ :=
    (rounds?_eq_regions (.ofLanguage "rust") {} (Text.bytes "//\n".toList)).2.1
      ⟨.inside .lineComment 0, 2⟩ hlt
  have hnext : next = ⟨.code, 2⟩ := Cursor.ext (hmode hstalls) (hpos.2 hstalls)
  exact ⟨⟨hlt, hstalls⟩, closed, hnext ▸ hround⟩

-- Where a comment ends with nothing, one round opens it and one ends it, but for the last of all.
example :
    rounds? ⟨[], [("a", "")], false, false⟩ {} (Text.bytes "aa".toList) 2 ⟨.code, 0⟩ = none := by
  decide +kernel

example :
    rounds? ⟨[], [("a", "")], false, false⟩ {} (Text.bytes "aa".toList) 3 ⟨.code, 0⟩ =
      some [⟨0, 1⟩, ⟨1, 2⟩] := by
  decide +kernel

end Ignore
end EmojiLint
