import EmojiLint.Proofs.Ignore.Steps

/-!
# The scanner finds what the automaton ignores

The scanner jumps over bytes and the automaton walks over characters, so the two are compared where
both stand before the same character.  In between the scanner may stand inside a character — an
escape takes one byte with it, however long the character is — or past the end of the text; from
there nothing happens until the next character begins (`regionsFrom_escape`, `regionsFrom_char`).

* `simulates` — from any such place on, the regions of the scanner hold exactly the bytes of the
  characters that the automaton ignores.
* `contains_ignoredRanges_iff` — the same of a whole text, with the ranges merged.
-/

set_option autoImplicit false

namespace EmojiLint
namespace Ignore

/-! ## From any place on -/

/-- Where the region that the scanner is inside of began; in code, that is here. -/
def Mode.opened (mode : Mode) (pos : Nat) : Nat :=
  match mode with
  | .code => pos
  | .inside _ start => start

@[simp]
theorem opened_code (pos : Nat) : Mode.code.opened pos = pos :=
  rfl

@[simp]
theorem opened_inside (region : Region) (start pos : Nat) :
    (Mode.inside region start).opened pos = start :=
  rfl

/-- Before the characters `cs`, the regions that the scanner will find in a mode hold what is
ignored already and what the automaton will ignore in a phase. -/
def Agrees (markers : Markers) (flags : Flags) (mode : Mode) (phase : Phase) (pos : Nat)
    (cs : List Char) : Prop :=
  ∀ offset,
    Covers (regionsFrom markers flags (pos + Text.byteLength cs) ⟨mode, pos, Text.bytes cs⟩)
        offset ↔
      (mode.opened pos ≤ offset ∧ offset < pos) ∨
        (pos ≤ offset ∧ Reader.IgnoredAt markers flags ⟨phase, 0⟩ cs (offset - pos))

/-- The scanner and the automaton agree before the characters `cs`, whatever they are inside of. -/
def Simulates (markers : Markers) (flags : Flags) (cs : List Char) : Prop :=
  ∀ {mode : Mode} {phase : Phase} {pos : Nat}, mode.Means phase → mode.opened pos ≤ pos →
    Agrees markers flags mode phase pos cs

section Simulation

variable {markers : Markers} {flags : Flags}

/-- At the end of the text, a region that is open reaches to that end. -/
theorem simulates_nil : Simulates markers flags [] := by
  intro mode phase pos hmeans hopened offset
  have hremainder : Covers (regionsFrom markers flags (pos + 0) ⟨mode, pos, []⟩) offset ↔
      mode.opened pos ≤ offset ∧ offset < pos := by
    rw [regionsFrom_nil]
    cases mode with
    | code => exact iff_of_false (not_covers_nil offset) fun h => absurd h.2 (Nat.not_lt_of_le h.1)
    | inside region start => exact covers_cons.trans (or_iff_left (not_covers_nil offset))
  refine hremainder.trans (or_iff_left ?_).symm
  rintro ⟨_, hignored⟩
  exact Reader.not_ignoredAt_nil _ _ hignored

/-- The two go on to agree when both go on behind the same characters, still inside of what began
where it began. -/
theorem agrees_of_goesOn {mode mode' : Mode} {phase phase' : Phase} {pos n : Nat}
    {cs : List Char} (hn : 0 < n) (hmeans : mode'.Means phase') (hopened : mode.opened pos ≤ pos)
    (hstart : mode'.opened (pos + Text.byteLength (cs.take n)) = mode.opened pos)
    (hstep : Reader.step markers flags ⟨phase, 0⟩ cs = (true, ⟨phase', n - 1⟩))
    (hrun : regionsFrom markers flags (pos + Text.byteLength cs) ⟨mode, pos, Text.bytes cs⟩ =
      regionsFrom markers flags (pos + Text.byteLength cs)
        ⟨mode', pos + Text.byteLength (cs.take n), Text.bytes (cs.drop n)⟩)
    (ih : Simulates markers flags (cs.drop n)) : Agrees markers flags mode phase pos cs := by
  intro offset
  rw [hrun, ignoredAt_behind hn hstep hopened, ← Text.byteLength_take_add_drop cs n,
    ← Nat.add_assoc, ih hmeans (by omega) offset, hstart]

/-- The two go on to agree when the region ends behind some characters for both. -/
theorem agrees_of_closes {region : Region} {phase : Phase} {start pos n : Nat} {cs : List Char}
    (hn : 0 < n) (hstart : start ≤ pos) (hcs : cs ≠ [])
    (hstep : Reader.step markers flags ⟨phase, 0⟩ cs = (true, ⟨.code, n - 1⟩))
    (hadvance : region.advance (Text.bytes cs) = .close (Text.byteLength (cs.take n)))
    (ih : Simulates markers flags (cs.drop n)) :
    Agrees markers flags (.inside region start) phase pos cs := by
  intro offset
  have hbytes : Text.bytes cs ≠ [] := by
    obtain ⟨c, cs, rfl⟩ := List.exists_cons_of_ne_nil hcs
    simp [Text.bytes_cons, String.utf8EncodeChar_ne_nil]
  have hcode := ih .code (Nat.le_refl (pos + Text.byteLength (cs.take n))) offset
  rw [Nat.add_assoc, Text.byteLength_take_add_drop] at hcode
  rw [opened_inside, ignoredAt_behind hn hstep hstart, regionsFrom_of_close hbytes hadvance,
    Text.drop_bytes, covers_cons, hcode, opened_code]
  refine or_congr_right (or_iff_right ?_)
  rintro ⟨hle, hlt⟩
  exact absurd hlt (Nat.not_lt_of_le hle)

/-- Behind a first character that is not ignored, in code. -/
theorem agrees_code_of_none (hascii : markers.isAscii = true) {c : Char} {cs : List Char}
    {pos : Nat} (hopen : open? markers flags (Text.bytes (c :: cs)) = none)
    (hopening : opening? markers flags (c :: cs) = none) (ih : Simulates markers flags cs) :
    Agrees markers flags .code .code pos (c :: cs) := by
  intro offset
  have hquiet : Mode.isQuiet markers flags .code (Text.bytes (c :: cs)) = true := by
    rw [Mode.isQuiet, hopen, Option.isNone_none]
  have hcode := ih .code (Nat.le_refl (pos + c.utf8Size)) offset
  rw [Nat.add_assoc] at hcode
  rw [regionsFrom_char hascii .code hquiet, Reader.ignoredAt_cons, step_code_of_none hopening,
    Text.byteLength, hcode, opened_code, opened_code, Nat.sub_sub]
  constructor
  · rintro (⟨hle, hlt⟩ | ⟨hle, hignored⟩)
    · omega
    · exact Or.inr ⟨by omega, Or.inr ⟨by omega, hignored⟩⟩
  · rintro (⟨hle, hlt⟩ | ⟨hle, ⟨hlt, hfalse⟩ | ⟨hle', hignored⟩⟩)
    · omega
    · exact absurd hfalse Bool.false_ne_true
    · exact Or.inr ⟨by omega, hignored⟩

/-- **In code**, the same thing opens for both, or nothing does. -/
theorem agrees_code (hascii : markers.isAscii = true) {c : Char} {cs : List Char}
    (ih : ∀ ds : List Char, ds.length ≤ cs.length → Simulates markers flags ds) (pos : Nat) :
    Agrees markers flags .code .code pos (c :: cs) := by
  have hrel := rel_open? hascii flags c cs
  cases hopen : open? markers flags (Text.bytes (c :: cs)) with
  | none =>
    cases hopening : opening? markers flags (c :: cs) with
    | some p =>
      rw [hopen, hopening] at hrel
      cases hrel
    | none => exact agrees_code_of_none hascii hopen hopening (ih cs (Nat.le_refl _))
  | some r =>
    cases hopening : opening? markers flags (c :: cs) with
    | none =>
      rw [hopen, hopening] at hrel
      cases hrel
    | some p =>
      obtain ⟨region, n⟩ := r
      obtain ⟨phase, m⟩ := p
      rw [hopen, hopening] at hrel
      obtain ⟨hmeans, rfl, hpos, hle, hpre⟩ : Opens (c :: cs) (region, n) (phase, m) := by
        cases hrel with
        | some h => exact h
      have hbytes : Text.bytes (c :: cs) ≠ [] := by
        simp [Text.bytes_cons, String.utf8EncodeChar_ne_nil]
      have hlen : Text.byteLength ((c :: cs).take n) = n :=
        Text.byteLength_take_of_isAscii hle hpre
      refine agrees_of_goesOn hpos (.inside hmeans pos) (Nat.le_refl _) rfl
        (step_code_of_opening? hopening) ?_ (ih _ ?_)
      · rw [regionsFrom_code_of_open hbytes hopen, ← Text.drop_bytes, hlen]
      · have : 0 < n := hpos
        rw [List.length_drop, List.length_cons]
        omega

/-- A character that does nothing inside a region is ignored. -/
theorem agrees_of_quiet (hascii : markers.isAscii = true) {region : Region} {phase : Phase}
    {start pos : Nat} (hmeans : region.Means phase) (hstart : start ≤ pos) {c : Char}
    {cs : List Char} (hquiet : region.actsAt (Text.bytes (c :: cs)) = false)
    (hstep : Reader.step markers flags ⟨phase, 0⟩ (c :: cs) = (true, ⟨phase, 0⟩))
    (ih : Simulates markers flags cs) :
    Agrees markers flags (.inside region start) phase pos (c :: cs) := by
  have hmode := Mode.Means.inside hmeans start
  have hmodeQuiet : Mode.isQuiet markers flags (.inside region start) (Text.bytes (c :: cs)) =
      true := by
    rw [Mode.isQuiet, hquiet, Bool.not_false]
  have htake : Text.byteLength ((c :: cs).take 1) = c.utf8Size := by
    rw [List.take_succ_cons, List.take_zero, Text.byteLength, Text.byteLength, Nat.add_zero]
  refine agrees_of_goesOn Nat.one_pos hmode hstart rfl hstep ?_ ih
  rw [regionsFrom_char hascii hmode hmodeQuiet, htake]
  rfl

/-- **In a line comment**, which ends before the line feed. -/
theorem agrees_lineComment (hascii : markers.isAscii = true) {start pos : Nat}
    (hstart : start ≤ pos) {c : Char} {cs : List Char}
    (ih : ∀ ds : List Char, ds.length ≤ cs.length → Simulates markers flags ds) :
    Agrees markers flags (.inside .lineComment start) .lineComment pos (c :: cs) := by
  by_cases hc : c = '\n'
  · subst hc
    intro offset
    have hbytes : Text.bytes ('\n' :: cs) = lineFeed :: Text.bytes cs := by
      rw [Text.bytes_cons, Text.utf8EncodeChar_of_isAscii rfl]
      rfl
    have hadvance : Region.lineComment.advance (Text.bytes ('\n' :: cs)) = .close 0 := by
      rw [hbytes, advance_lineComment_of_lineFeed]
    have hignored : Reader.IgnoredAt markers flags ⟨.lineComment, 0⟩ ('\n' :: cs) (offset - pos) ↔
        Reader.IgnoredAt markers flags ⟨.code, 0⟩ ('\n' :: cs) (offset - pos) := by
      rw [Reader.ignoredAt_cons, step_lineComment_lineFeed, ← Reader.ignoredAt_cons]
    have hnil : Text.bytes ('\n' :: cs) ≠ [] := by simp [hbytes]
    have hcode : Agrees markers flags .code .code pos ('\n' :: cs) := agrees_code hascii ih pos
    rw [regionsFrom_of_close hnil hadvance, covers_cons, hignored, List.drop_zero, Nat.add_zero,
      hcode offset, opened_code, opened_inside]
    refine or_congr_right (or_iff_right ?_)
    rintro ⟨hle, hlt⟩
    exact absurd hlt (Nat.not_lt_of_le hle)
  · have hquiet : Region.lineComment.actsAt (Text.bytes (c :: cs)) = false :=
      Bool.eq_false_iff.2 fun hacts => hc ((actsAt_lineComment c cs).1 hacts)
    exact agrees_of_quiet hascii .lineComment hstart hquiet (step_lineComment hc cs)
      (ih cs (Nat.le_refl _))

/-- **In a region that ends with a marker**, which belongs to it. -/
theorem agrees_marked (hascii : markers.isAscii = true) {region : Region} {phase : Phase}
    {marker : List Char} (hregion : region.closing? = some (Text.bytes marker))
    (hphase : phase.closing? = some marker) (hmarker : isMarker marker = true) {start pos : Nat}
    (hstart : start ≤ pos) {c : Char} {cs : List Char}
    (ih : ∀ ds : List Char, ds.length ≤ cs.length → Simulates markers flags ds) :
    Agrees markers flags (.inside region start) phase pos (c :: cs) := by
  obtain ⟨hne, hall⟩ := isMarker_iff.1 hmarker
  have hpos : 0 < marker.length := List.length_pos_iff.2 hne
  have hacts := Region.actsAt_of_closing? hregion (Text.bytes (c :: cs))
  rw [Text.isPrefixOf_bytes hall] at hacts
  have hstep : Reader.step markers flags ⟨phase, 0⟩ (c :: cs) =
      Reader.untilMarker phase marker (c :: cs) := step_of_closing? hphase _
  rw [Reader.untilMarker] at hstep
  cases hpre : marker.isPrefixOf (c :: cs) with
  | false =>
    rw [hpre] at hacts hstep
    exact agrees_of_quiet hascii (.marked hregion hphase hmarker) hstart hacts hstep
      (ih cs (Nat.le_refl _))
  | true =>
    rw [hpre, if_pos rfl] at hstep
    have hlist : marker <+: c :: cs := List.isPrefixOf_iff_prefix.1 hpre
    have htake : (c :: cs).take marker.length = marker := (List.prefix_iff_eq_take.1 hlist).symm
    have hlen : Text.byteLength ((c :: cs).take marker.length) = (Text.bytes marker).length := by
      rw [htake, Text.length_bytes]
    refine agrees_of_closes hpos hstart (List.cons_ne_nil c cs) hstep ?_ (ih _ ?_)
    · rw [hlen]
      refine Region.advance_of_isPrefixOf hregion ?_
      rw [Text.isPrefixOf_bytes hall, hpre]
    · rw [List.length_drop, List.length_cons]
      omega

/-- **In a string that ends with one quote**, where a backslash takes the next character with it. -/
theorem agrees_quoted (hascii : markers.isAscii = true) {q : Quote} {phase : Phase}
    (hphase : phase.quote? = some q) {start pos : Nat} (hstart : start ≤ pos) {c : Char}
    {cs : List Char}
    (ih : ∀ ds : List Char, ds.length ≤ cs.length → Simulates markers flags ds) :
    Agrees markers flags (.inside (.string q) start) phase pos (c :: cs) := by
  have hmeans : (Region.string q).Means phase := .quoted hphase
  by_cases hescape : c = '\\'
  · subst hescape
    refine agrees_of_goesOn Nat.two_pos (.inside hmeans start) hstart rfl (step_escape hphase cs)
      (regionsFrom_escape hascii q cs hmeans) (ih _ ?_)
    rw [List.length_drop, List.length_cons]
    omega
  by_cases hquote : c = q.char
  · subst hquote
    have hbytes : Text.bytes (q.char :: cs) = q.byte :: Text.bytes cs := by
      rw [Text.bytes_cons, Text.utf8EncodeChar_of_isAscii q.isAscii_char, ← q.byte_eq]
      rfl
    have htake : Text.byteLength ((q.char :: cs).take 1) = 1 := by
      rw [List.take_succ_cons, List.take_zero, Text.byteLength, Text.byteLength,
        Text.utf8Size_of_isAscii q.isAscii_char]
    refine agrees_of_closes Nat.one_pos hstart (List.cons_ne_nil _ cs) (step_quote hphase cs) ?_
      (ih cs (Nat.le_refl _))
    rw [hbytes, advance_string_of_quote, htake]
  · have hquiet : (Region.string q).actsAt (Text.bytes (c :: cs)) = false :=
      Bool.eq_false_iff.2 fun hacts => ((actsAt_string q c cs).1 hacts).elim hescape hquote
    exact agrees_of_quiet hascii hmeans hstart hquiet (step_inString hphase hescape hquote cs)
      (ih cs (Nat.le_refl _))

/-- **The scanner and the automaton agree before every text.** -/
theorem simulates (hascii : markers.isAscii = true) (cs : List Char) :
    Simulates markers flags cs := by
  induction hn : cs.length using Nat.strong_induction_on generalizing cs with
  | _ n ih =>
    cases cs with
    | nil => exact simulates_nil
    | cons c cs =>
      have ih' : ∀ ds : List Char, ds.length ≤ cs.length → Simulates markers flags ds := by
        intro ds hds
        exact ih ds.length (by rw [← hn, List.length_cons]; omega) ds rfl
      intro mode phase pos hmeans hopened
      cases hmeans with
      | code => exact agrees_code hascii ih' pos
      | inside hregion start =>
        cases hregion with
        | lineComment => exact agrees_lineComment hascii hopened ih'
        | marked hregion hphase hmarker =>
          exact agrees_marked hascii hregion hphase hmarker hopened ih'
        | quoted hphase => exact agrees_quoted hascii hphase hopened ih'

end Simulation

/-! ## A whole text -/

/-- The regions of a text hold exactly the bytes of the characters that the automaton ignores. -/
theorem covers_regions {markers : Markers} (hascii : markers.isAscii = true) (flags : Flags)
    (cs : List Char) (offset : Nat) :
    Covers (regions markers flags (Text.bytes cs)) offset ↔
      IgnoredAt markers flags cs offset := by
  have hagrees : Agrees markers flags .code .code 0 cs := simulates hascii cs .code (Nat.le_refl 0)
  have hoffset := hagrees offset
  rw [opened_code, Nat.zero_add, ← Text.length_bytes, Nat.sub_zero] at hoffset
  rw [regions, State.initial, hoffset, IgnoredAt]
  refine ⟨?_, fun hignored => Or.inr ⟨Nat.zero_le offset, hignored⟩⟩
  rintro (⟨_, hlt⟩ | ⟨_, hignored⟩)
  · exact absurd hlt offset.not_lt_zero
  · exact hignored

/-- When neither comments nor strings are ignored, the automaton never leaves the code. -/
theorem not_ignoredAt_of_flags (markers : Markers) {flags : Flags}
    (hcomments : flags.comments = false) (hstrings : flags.strings = false) (cs : List Char)
    (offset : Nat) :
    ¬ IgnoredAt markers flags cs offset := by
  have hopening : ∀ rest, opening? markers flags rest = none := by
    intro rest
    rw [opening?, hcomments, hstrings, Bool.and_false]
    rfl
  induction cs generalizing offset with
  | nil => exact Reader.not_ignoredAt_nil _ _
  | cons c cs ih =>
    rw [IgnoredAt, Reader.ignoredAt_cons, step_code_of_none (hopening _)]
    rintro (⟨_, hfalse⟩ | ⟨_, hignored⟩)
    · exact Bool.false_ne_true hfalse
    · exact ih _ hignored

/-- **The scanner refines the automaton.**  In every language but Markdown, an offset lies in the
ignored ranges of a text exactly when the automaton ignores the character that holds it. -/
theorem contains_ignoredRanges_iff (text language : String) (flags : Flags) (offset : Nat)
    (hlanguage : isMarkdown language = false) :
    (ignoredRanges text language flags).contains offset = true ↔
      IgnoredAt (.ofLanguage language) flags text.toList offset := by
  rw [ignoredRanges, hlanguage, if_neg Bool.false_ne_true]
  split
  · next hflags =>
    rw [Bool.and_eq_true, Bool.not_eq_true', Bool.not_eq_true'] at hflags
    exact iff_of_false (Merged.not_contains_empty offset)
      (not_ignoredAt_of_flags _ hflags.1 hflags.2 _ _)
  · rw [contains_merge_iff forward_regions]
    exact covers_regions (Markers.isAscii_ofLanguage language) flags text.toList offset

/-- A byte in the middle of a character that a backslash takes with it. -/
theorem contains_ignoredRanges_iff_escape : isMarkdown "rust" = false ∧
    (ignoredRanges "\"\\😀\"1" "rust" ⟨true, true, true⟩).contains 4 = true :=
  have hlanguage : isMarkdown "rust" = false := by decide
  have hignored : IgnoredAt (.ofLanguage "rust") ⟨true, true, true⟩ "\"\\😀\"1".toList 4 :=
    ⟨['"', '\\'], '😀', ['"', '1'], by decide, by decide, by decide, by decide +kernel⟩
  ⟨hlanguage, (contains_ignoredRanges_iff _ _ _ _ hlanguage).2 hignored⟩

end Ignore
end EmojiLint
