import EmojiLint.Ignore.Scan

/-!
# Reading comments and strings character by character

The scanner jumps from marker to marker among bytes.  This file says what it is meant to find in the
plainest way: an automaton that walks over the characters of a text one at a time and says of each
whether it is ignored.  It has no offsets, no searches and no bytes.

A `Reader` is the automaton between two characters.  It is in one of the eight `Phase`s, and it may
have found that the next few characters belong together with the one it has just read: the rest of a
marker, or the character that a backslash takes with it.  These are `owed`, and they are ignored
whatever they are.

* `Reader.step` reads one character.
* `Reader.verdicts` reads a whole text.
* `IgnoredAt` speaks of the character that holds a byte.
-/

set_option autoImplicit false

namespace EmojiLint
namespace Ignore

/-- What the automaton is inside of. -/
inductive Phase
  | code
  | lineComment
  /-- A block comment, with the marker that closes it. -/
  | blockComment (close : List Char)
  | singleQuoteString
  | doubleQuoteString
  | backtickString
  | tripleSingleQuoteString
  | tripleDoubleQuoteString
deriving DecidableEq, Repr

/-- The mark around a string of three single quotes. -/
def tripleSingleQuote : List Char :=
  ['\'', '\'', '\'']

/-- The mark around a string of three double quotes. -/
def tripleDoubleQuote : List Char :=
  ['"', '"', '"']

/-! ## What opens in code -/

/-- Whether a marker stands at the start of a text.  An empty marker stands nowhere. -/
def beginsWith (marker rest : List Char) : Bool :=
  !marker.isEmpty && marker.isPrefixOf rest

/-- The string that three quotes open, with the length of the marker. -/
def tripleOpening? (rest : List Char) : Option (Phase × Nat) :=
  if beginsWith tripleSingleQuote rest then some (.tripleSingleQuoteString, 3)
  else if beginsWith tripleDoubleQuote rest then some (.tripleDoubleQuoteString, 3)
  else none

/-- The block comment that opens, with the length of its marker. -/
def blockOpening? (markers : Markers) (rest : List Char) : Option (Phase × Nat) :=
  (markers.block.find? fun pair => beginsWith pair.1.toList rest).map
    fun pair => (.blockComment pair.2.toList, pair.1.toList.length)

/-- The line comment that opens, with the length of its marker. -/
def lineOpening? (markers : Markers) (rest : List Char) : Option (Phase × Nat) :=
  (markers.line.find? fun opener => beginsWith opener.toList rest).map
    fun opener => (.lineComment, opener.toList.length)

/-- The string that one quote opens. -/
def quoteOpening? (markers : Markers) (rest : List Char) : Option (Phase × Nat) :=
  if rest.head? = some '\'' then some (.singleQuoteString, 1)
  else if rest.head? = some '"' then some (.doubleQuoteString, 1)
  else if rest.head? = some '`' ∧ markers.backtick = true then some (.backtickString, 1)
  else none

/-- What opens in code, with the length of its marker: triple quotes come first, then block
comments, then line comments, then single quotes. -/
def opening? (markers : Markers) (flags : Flags) (rest : List Char) : Option (Phase × Nat) :=
  ((if markers.tripleQuotes && flags.strings then tripleOpening? rest else none).or
    (if flags.comments then (blockOpening? markers rest).or (lineOpening? markers rest)
      else none)).or
    (if flags.strings then quoteOpening? markers rest else none)

/-! ## One character at a time -/

/-- The automaton between two characters. -/
structure Reader where
  phase : Phase
  /-- How many of the next characters are ignored together with the ones before them. -/
  owed : Nat := 0
deriving DecidableEq, Repr

namespace Reader

/-- Read a character in code, the first one of `rest`. -/
def inCode (markers : Markers) (flags : Flags) (rest : List Char) : Bool × Reader :=
  match opening? markers flags rest with
  | some (phase, length) => (true, ⟨phase, length - 1⟩)
  | none => (false, ⟨.code, 0⟩)

/-- Read a character of a region that ends with a marker, which belongs to the region. -/
def untilMarker (phase : Phase) (close rest : List Char) : Bool × Reader :=
  if close.isPrefixOf rest then (true, ⟨.code, close.length - 1⟩) else (true, ⟨phase, 0⟩)

/-- Read a character of a string that ends with a quote.  A backslash takes the next character with
it. -/
def untilQuote (phase : Phase) (quote : Char) (rest : List Char) : Bool × Reader :=
  if rest.head? = some '\\' then (true, ⟨phase, 1⟩)
  else if rest.head? = some quote then (true, ⟨.code, 0⟩)
  else (true, ⟨phase, 0⟩)

/-- Read the first character of `rest`: whether it is ignored, and the automaton after it.  A line
feed is not part of the line comment that it ends: it is code. -/
def step (markers : Markers) (flags : Flags) (r : Reader) (rest : List Char) : Bool × Reader :=
  if 0 < r.owed then (true, ⟨r.phase, r.owed - 1⟩)
  else
    match r.phase with
    | .code => inCode markers flags rest
    | .lineComment =>
      if rest.head? = some '\n' then inCode markers flags rest else (true, ⟨.lineComment, 0⟩)
    | .blockComment close => untilMarker r.phase close rest
    | .tripleSingleQuoteString => untilMarker r.phase tripleSingleQuote rest
    | .tripleDoubleQuoteString => untilMarker r.phase tripleDoubleQuote rest
    | .singleQuoteString => untilQuote r.phase '\'' rest
    | .doubleQuoteString => untilQuote r.phase '"' rest
    | .backtickString => untilQuote r.phase '`' rest

/-- Whether each character of a text is ignored, when the automaton is `r` before the first. -/
def verdicts (markers : Markers) (flags : Flags) : Reader → List Char → List Bool
  | _, [] => []
  | r, c :: cs =>
    let next := r.step markers flags (c :: cs)
    next.1 :: next.2.verdicts markers flags cs

/-- The character that holds a byte of the text is ignored, when the automaton is `r` before the
first character. -/
def IgnoredAt (markers : Markers) (flags : Flags) (r : Reader) (text : List Char)
    (offset : Nat) : Prop :=
  ∃ before c after, text = before ++ c :: after ∧
    Text.byteLength before ≤ offset ∧ offset < Text.byteLength before + c.utf8Size ∧
    (r.verdicts markers flags text)[before.length]? = some true

/-! ## The reader and the bytes -/

section Bytes

variable {markers : Markers} {flags : Flags}

theorem not_ignoredAt_nil (r : Reader) (offset : Nat) :
    ¬ r.IgnoredAt markers flags [] offset := by
  rintro ⟨before, c, after, htext, _⟩
  exact absurd htext (by simp)

/-- A byte belongs to the first character, or to one of those that are read after it. -/
theorem ignoredAt_cons (r : Reader) (c : Char) (cs : List Char) (offset : Nat) :
    r.IgnoredAt markers flags (c :: cs) offset ↔
      (offset < c.utf8Size ∧ (r.step markers flags (c :: cs)).1 = true) ∨
        (c.utf8Size ≤ offset ∧
          (r.step markers flags (c :: cs)).2.IgnoredAt markers flags cs (offset - c.utf8Size)) := by
  constructor
  · rintro ⟨before, d, after, htext, hlo, hhi, hverdict⟩
    cases before with
    | nil =>
      obtain ⟨rfl, rfl⟩ : c = d ∧ cs = after := by simpa using htext
      refine Or.inl ⟨by simpa [Text.byteLength] using hhi, ?_⟩
      simpa [verdicts] using hverdict
    | cons e before =>
      obtain ⟨rfl, rfl⟩ : c = e ∧ cs = before ++ d :: after := by simpa using htext
      rw [Text.byteLength] at hlo hhi
      refine Or.inr ⟨by omega, before, d, after, rfl, by omega, by omega, ?_⟩
      simpa [verdicts] using hverdict
  · rintro (⟨hhi, hverdict⟩ | ⟨hlo, before, d, after, rfl, hlo', hhi, hverdict⟩)
    · refine ⟨[], c, cs, rfl, Nat.zero_le _, by simpa [Text.byteLength] using hhi, ?_⟩
      simpa [verdicts] using hverdict
    · refine ⟨c :: before, d, after, rfl, ?_, ?_, by simpa [verdicts] using hverdict⟩
      · rw [Text.byteLength]
        omega
      · rw [Text.byteLength]
        omega

theorem step_of_owed {r : Reader} (h : 0 < r.owed) (rest : List Char) :
    r.step markers flags rest = (true, ⟨r.phase, r.owed - 1⟩) := by
  rw [step, if_pos h]

/-- The characters that are owed are ignored, and then the reader goes on. -/
theorem ignoredAt_owed (phase : Phase) (n : Nat) (cs : List Char) (offset : Nat) :
    IgnoredAt markers flags ⟨phase, n⟩ cs offset ↔
      offset < Text.byteLength (cs.take n) ∨
        (Text.byteLength (cs.take n) ≤ offset ∧
          IgnoredAt markers flags ⟨phase, 0⟩ (cs.drop n)
            (offset - Text.byteLength (cs.take n))) := by
  induction n generalizing cs offset with
  | zero => simp [Text.byteLength]
  | succ n ih =>
    cases cs with
    | nil =>
      rw [List.take_nil, List.drop_nil, Text.byteLength]
      simp [not_ignoredAt_nil]
    | cons c cs =>
      have hstep : step markers flags ⟨phase, n + 1⟩ (c :: cs) = (true, ⟨phase, n⟩) :=
        step_of_owed (Nat.succ_pos n) _
      rw [ignoredAt_cons, hstep, ih, List.take_succ_cons, List.drop_succ_cons, Text.byteLength,
        Nat.sub_sub]
      constructor
      · rintro (⟨hlt, -⟩ | ⟨hle, hlt | ⟨hle', hrest⟩⟩)
        · exact Or.inl (by omega)
        · exact Or.inl (by omega)
        · exact Or.inr ⟨by omega, hrest⟩
      · rintro (hlt | ⟨hle, hrest⟩)
        · rcases Nat.lt_or_ge offset c.utf8Size with hc | hc
          · exact Or.inl ⟨hc, rfl⟩
          · exact Or.inr ⟨hc, Or.inl (by omega)⟩
        · exact Or.inr ⟨by omega, Or.inr ⟨by omega, hrest⟩⟩

/-- A reader that ignores a character and then owes some is a reader that owes one more. -/
theorem ignoredAt_of_step {r : Reader} {phase : Phase} {n : Nat} {rest : List Char} (hn : 0 < n)
    (h : r.step markers flags rest = (true, ⟨phase, n - 1⟩)) (offset : Nat) :
    r.IgnoredAt markers flags rest offset ↔ IgnoredAt markers flags ⟨phase, n⟩ rest offset := by
  cases rest with
  | nil => exact iff_of_false (not_ignoredAt_nil _ _) (not_ignoredAt_nil _ _)
  | cons c cs =>
    have howed : step markers flags ⟨phase, n⟩ (c :: cs) = (true, ⟨phase, n - 1⟩) :=
      step_of_owed hn _
    rw [ignoredAt_cons, ignoredAt_cons, h, howed]

end Bytes

end Reader

/-- The character that holds a byte of a text is ignored by the automaton. -/
def IgnoredAt (markers : Markers) (flags : Flags) (text : List Char) (offset : Nat) : Prop :=
  Reader.IgnoredAt markers flags ⟨.code, 0⟩ text offset

end Ignore
end EmojiLint
