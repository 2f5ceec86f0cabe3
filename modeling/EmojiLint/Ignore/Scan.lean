import EmojiLint.Ignore.Markers
import EmojiLint.Text.Utf8
import EmojiLint.Text.Span

/-!
# Scanning for comments and strings

One pass over the bytes of a text finds its comments and strings.  All markers are ASCII, and no
byte of a longer character is, so it is safe to work on bytes.

* In code, the markers are tried in a fixed order: triple quotes, block comments, line comments,
  single quotes.
* A line comment ends before the line feed, which stays code.  Everything else ends with its
  closing marker, and whatever is not closed reaches to the end of the text.
* A backslash in a string takes the next byte with it, even past the end of the text.

A `State` is what the scanner knows between two steps.  `step` may leave the cursor where it is,
but only when it returns to code, so `State.measure` falls with every step and `regions` ends.
-/

set_option autoImplicit false

namespace EmojiLint
namespace Ignore

/-- Which kinds of text are left out of reports. -/
structure Flags where
  comments : Bool := true
  strings : Bool := false
  /-- Markdown documents are left out as a whole, or not at all. -/
  markdown : Bool := true
deriving DecidableEq, Repr

inductive Quote
  | single
  | double
  | backtick
deriving DecidableEq, Repr

/-- The byte of a quotation mark. -/
def Quote.byte : Quote → UInt8
  | single => 0x27
  | double => 0x22
  | backtick => 0x60

/-- Three quotation marks. -/
def Quote.triple (q : Quote) : List UInt8 :=
  [q.byte, q.byte, q.byte]

/-- What the scanner is inside of. -/
inductive Region
  | lineComment
  /-- A block comment, with the marker that closes it. -/
  | blockComment (close : List UInt8)
  | string (quote : Quote)
  | tripleString (quote : Quote)
deriving DecidableEq, Repr

inductive Mode
  | code
  /-- Inside a region that began at byte `start`. -/
  | inside (region : Region) (start : Nat)
deriving DecidableEq, Repr

/-- The scanner between two steps. -/
structure State where
  mode : Mode
  /-- The cursor, which a last escape can push one past the end of the text. -/
  pos : Nat
  /-- The bytes of the text from the cursor on. -/
  rest : List UInt8
deriving DecidableEq, Repr

def lineFeed : UInt8 := 0x0A

def backslash : UInt8 := 0x5C

/-- The bytes of a marker. -/
def markerBytes (marker : String) : List UInt8 :=
  Text.bytes marker.toList

/-- The place of the first occurrence of a marker. -/
def findMarker (marker : List UInt8) : List UInt8 → Option Nat
  | [] => if marker.isEmpty then some 0 else none
  | b :: bs => if marker.isPrefixOf (b :: bs) then some 0 else (findMarker marker bs).map (· + 1)

/-- Whether a marker opens something here.  An empty marker opens nothing. -/
def opensWith (marker : List UInt8) (rest : List UInt8) : Bool :=
  !marker.isEmpty && marker.isPrefixOf rest

/-- The string opened by three quotes at the start of `rest`. -/
def openTriple? (rest : List UInt8) : Option (Region × Nat) :=
  if opensWith Quote.single.triple rest then some (.tripleString .single, 3)
  else if opensWith Quote.double.triple rest then some (.tripleString .double, 3)
  else none

/-- The comment opened at the start of `rest`: block comments first, in the order of the table. -/
def openComment? (markers : Markers) (rest : List UInt8) : Option (Region × Nat) :=
  match markers.block.find? fun pair => opensWith (markerBytes pair.1) rest with
  | some pair => some (.blockComment (markerBytes pair.2), (markerBytes pair.1).length)
  | none =>
    (markers.line.find? fun opener => opensWith (markerBytes opener) rest).map
      fun opener => (.lineComment, (markerBytes opener).length)

/-- The string opened by one quotation mark at the start of `rest`. -/
def openString? (markers : Markers) (rest : List UInt8) : Option (Region × Nat) :=
  match rest with
  | [] => none
  | b :: _ =>
    if b = Quote.single.byte then some (.string .single, 1)
    else if b = Quote.double.byte then some (.string .double, 1)
    else if b = Quote.backtick.byte ∧ markers.backtick = true then some (.string .backtick, 1)
    else none

/-- What opens at the start of `rest`, with the length of its opening marker. -/
def open? (markers : Markers) (flags : Flags) (rest : List UInt8) : Option (Region × Nat) :=
  ((if markers.tripleQuotes && flags.strings then openTriple? rest else none).or
    (if flags.comments then openComment? markers rest else none)).or
    (if flags.strings then openString? markers rest else none)

/-- How far a step moves inside a region. -/
inductive Advance
  /-- The region ends after so many bytes. -/
  | close (n : Nat)
  /-- The region goes on after so many bytes. -/
  | stay (n : Nat)
deriving DecidableEq, Repr

/-- The next move inside a region.  A region that is not closed takes the whole rest. -/
def Region.advance (region : Region) (rest : List UInt8) : Advance :=
  match region with
  | .lineComment =>
    match rest.findIdx? (· == lineFeed) with
    | some n => .close n
    | none => .stay rest.length
  | .blockComment marker =>
    match findMarker marker rest with
    | some n => .close (n + marker.length)
    | none => .stay rest.length
  | .tripleString quote =>
    match findMarker quote.triple rest with
    | some n => .close (n + 3)
    | none => .stay rest.length
  | .string quote =>
    match rest.findIdx? fun b => b == backslash || b == quote.byte with
    | some n => if rest[n]? = some backslash then .stay (n + 2) else .close (n + 1)
    | none => .stay rest.length

namespace State

/-- The scanner before the first byte. -/
def initial (text : List UInt8) : State :=
  ⟨.code, 0, text⟩

/-- Move the cursor. -/
def moveBy (s : State) (n : Nat) (mode : Mode) : State :=
  ⟨mode, s.pos + n, s.rest.drop n⟩

/-- One step of the scanner: the state after it, and the region that it closed. -/
def step (markers : Markers) (flags : Flags) (s : State) : State × Option Range :=
  match s.mode with
  | .code =>
    match open? markers flags s.rest with
    | some (region, n) => (s.moveBy n (.inside region s.pos), none)
    | none => (s.moveBy 1 .code, none)
  | .inside region start =>
    match region.advance s.rest with
    | .close n => (s.moveBy n .code, some ⟨start, s.pos + n⟩)
    | .stay n => (s.moveBy n (.inside region start), none)

/-- Bounds the number of steps that are left. -/
def measure (s : State) : Nat :=
  2 * s.rest.length + if s.mode = .code then 0 else 1

/-- The region that is open at the end of a text of `size` bytes reaches to that end. -/
def remainder (s : State) (size : Nat) : List Range :=
  match s.mode with
  | .code => []
  | .inside _ start => [⟨start, size⟩]

end State

/-! ## Every step makes progress -/

theorem opensWith_length {marker rest : List UInt8} (h : opensWith marker rest = true) :
    0 < marker.length := by
  cases marker with
  | nil => simp [opensWith] at h
  | cons b bs => simp

theorem openComment?_pos {markers : Markers} {rest : List UInt8} {region : Region} {n : Nat}
    (h : openComment? markers rest = some (region, n)) : 0 < n := by
  unfold openComment? at h
  split at h
  · next pair hfind =>
    simp only [Option.some.injEq, Prod.mk.injEq] at h
    have := List.find?_some hfind
    exact h.2 ▸ opensWith_length this
  · simp only [Option.map_eq_some_iff, Prod.mk.injEq] at h
    obtain ⟨opener, hfind, _, rfl⟩ := h
    have := List.find?_some hfind
    exact opensWith_length this

theorem openTriple?_pos {rest : List UInt8} {region : Region} {n : Nat}
    (h : openTriple? rest = some (region, n)) : 0 < n := by
  unfold openTriple? at h
  split at h
  · simp at h; omega
  · split at h
    · simp at h; omega
    · simp at h

theorem openString?_pos {markers : Markers} {rest : List UInt8} {region : Region} {n : Nat}
    (h : openString? markers rest = some (region, n)) : 0 < n := by
  unfold openString? at h
  repeat' split at h
  all_goals simp at h
  all_goals omega

/-- An opening marker is never empty. -/
theorem open?_pos {markers : Markers} {flags : Flags} {rest : List UInt8} {region : Region}
    {n : Nat} (h : open? markers flags rest = some (region, n)) : 0 < n := by
  simp only [open?, Option.or_eq_some_iff] at h
  rcases h with (h | ⟨_, h⟩) | ⟨_, h⟩
  · split at h
    · exact openTriple?_pos h
    · cases h
  · split at h
    · exact openComment?_pos h
    · cases h
  · split at h
    · exact openString?_pos h
    · cases h

/-- A move that does not leave the region takes at least one byte. -/
theorem Region.advance_stay_pos {region : Region} {rest : List UInt8} {n : Nat}
    (hrest : rest ≠ []) (h : region.advance rest = .stay n) : 0 < n := by
  have hlen : 0 < rest.length := List.length_pos_iff.2 hrest
  unfold Region.advance at h
  repeat' split at h
  all_goals simp at h
  all_goals omega

theorem State.measure_step_lt (markers : Markers) (flags : Flags) {s : State}
    (hrest : s.rest ≠ []) : (s.step markers flags).1.measure < s.measure := by
  have hlen : 0 < s.rest.length := List.length_pos_iff.2 hrest
  unfold State.step
  split
  · next hmode =>
    split
    · next region n hopen =>
      have := open?_pos hopen
      simp only [State.measure, State.moveBy, hmode, List.length_drop, reduceCtorEq, ↓reduceIte]
      omega
    · simp only [State.measure, State.moveBy, hmode, List.length_drop, ↓reduceIte]
      omega
  · next region start hmode =>
    split
    · next n hadv =>
      simp only [State.measure, State.moveBy, hmode, List.length_drop, reduceCtorEq, ↓reduceIte]
      omega
    · next n hadv =>
      have := Region.advance_stay_pos hrest hadv
      simp only [State.measure, State.moveBy, hmode, List.length_drop, reduceCtorEq, ↓reduceIte]
      omega

/-! ## The whole pass -/

/-- The regions that the scanner finds from a state on, in a text of `size` bytes. -/
def regionsFrom (markers : Markers) (flags : Flags) (size : Nat) (s : State) : List Range :=
  if s.rest = [] then s.remainder size
  else
    let next := s.step markers flags
    next.2.toList ++ regionsFrom markers flags size next.1
termination_by s.measure
decreasing_by
  next hrest => exact State.measure_step_lt markers flags hrest

/-- The comments and strings of a text, in order. -/
def regions (markers : Markers) (flags : Flags) (text : List UInt8) : List Range :=
  regionsFrom markers flags text.length (.initial text)

end Ignore
end EmojiLint
