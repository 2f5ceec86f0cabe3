import EmojiLint.Proofs.Ignore.Automaton
import EmojiLint.Proofs.Ignore.Scan
import EmojiLint.Proofs.Text.Ascii
import Mathlib.Data.List.Find

/-!
# What opens, among bytes and among characters

The scanner and the automaton keep what they are inside of in two forms, a `Region` with markers of
bytes and a `Phase` with markers of characters.  `Region.Means` says when the two stand for the same
thing.  Since all markers of all languages are ASCII (`isAscii_ofLanguage`), the same things open at
the same places for both (`rel_open?`).
-/

set_option autoImplicit false

namespace EmojiLint
namespace Ignore

/-! ## Markers -/

/-- A marker that closes something: not empty, and ASCII throughout. -/
def isMarker (marker : List Char) : Bool :=
  !marker.isEmpty && marker.all Text.isAscii

theorem isMarker_iff {marker : List Char} :
    isMarker marker = true ↔ marker ≠ [] ∧ ∀ c ∈ marker, Text.isAscii c = true := by
  rw [isMarker, Bool.and_eq_true, List.all_eq_true, Bool.not_eq_true', List.isEmpty_eq_false_iff]

namespace Markers

/-- All openers are ASCII, and so is what closes a block comment, which moreover is not empty. -/
def isAscii (markers : Markers) : Bool :=
  (markers.line.all fun opener => opener.toList.all Text.isAscii) &&
    markers.block.all fun pair => pair.1.toList.all Text.isAscii && isMarker pair.2.toList

theorem isAscii_line {markers : Markers} (h : markers.isAscii = true) {opener : String}
    (hopener : opener ∈ markers.line) : ∀ c ∈ opener.toList, Text.isAscii c = true := by
  rw [isAscii, Bool.and_eq_true, List.all_eq_true] at h
  exact List.all_eq_true.1 (h.1 opener hopener)

theorem isAscii_block {markers : Markers} (h : markers.isAscii = true) {pair : String × String}
    (hpair : pair ∈ markers.block) :
    (∀ c ∈ pair.1.toList, Text.isAscii c = true) ∧ isMarker pair.2.toList = true := by
  rw [isAscii, Bool.and_eq_true, List.all_eq_true, List.all_eq_true] at h
  have hboth := h.2 pair hpair
  rw [Bool.and_eq_true, List.all_eq_true] at hboth
  exact hboth

/-- **The markers of every language are ASCII.** -/
theorem isAscii_ofLanguage (language : String) : (ofLanguage language).isAscii = true :=
  forall_ofLanguage (P := (·.isAscii = true)) (by decide) (by decide) language

end Markers

/-- The bytes of a marker stand where the marker stands. -/
theorem opensWith_bytes {marker : List Char} (h : ∀ c ∈ marker, Text.isAscii c = true)
    (rest : List Char) :
    opensWith (Text.bytes marker) (Text.bytes rest) = beginsWith marker rest := by
  have hempty : (Text.bytes marker).isEmpty = marker.isEmpty := by
    rw [Bool.eq_iff_iff, List.isEmpty_iff_length_eq_zero, List.isEmpty_iff_length_eq_zero,
      Text.length_bytes_of_isAscii h]
  rw [opensWith, beginsWith, hempty, Text.isPrefixOf_bytes h]

/-! ## Regions and phases -/

/-- The character of a quotation mark. -/
def Quote.char : Quote → Char
  | single => '\''
  | double => '"'
  | backtick => '`'

theorem Quote.byte_eq (q : Quote) : q.byte = UInt8.ofNat q.char.toNat := by
  cases q <;> rfl

theorem Quote.isAscii_char (q : Quote) : Text.isAscii q.char = true := by
  cases q <;> rfl

/-- The marker that ends a phase, where it is more than one character. -/
def Phase.closing? : Phase → Option (List Char)
  | blockComment close => some close
  | tripleSingleQuoteString => some tripleSingleQuote
  | tripleDoubleQuoteString => some tripleDoubleQuote
  | code | lineComment | singleQuoteString | doubleQuoteString | backtickString => none

/-- The quote that ends a phase, where one is enough. -/
def Phase.quote? : Phase → Option Quote
  | singleQuoteString => some .single
  | doubleQuoteString => some .double
  | backtickString => some .backtick
  | code | lineComment | blockComment _ | tripleSingleQuoteString | tripleDoubleQuoteString => none

/-- What the scanner and the automaton are inside of is the same thing. -/
inductive Region.Means : Region → Phase → Prop
  | lineComment : Means .lineComment .lineComment
  | marked {region : Region} {phase : Phase} {marker : List Char}
      (hregion : region.closing? = some (Text.bytes marker))
      (hphase : phase.closing? = some marker) (hmarker : isMarker marker = true) :
      Means region phase
  | quoted {quote : Quote} {phase : Phase} (hphase : phase.quote? = some quote) :
      Means (.string quote) phase

/-- The same thing opens at the start of `rest` for the scanner and for the automaton, and its
opening marker is ASCII and equally long for both. -/
structure Opens (rest : List Char) (r : Region × Nat) (p : Phase × Nat) : Prop where
  means : r.1.Means p.1
  length_eq : r.2 = p.2
  pos : 0 < p.2
  le_length : p.2 ≤ rest.length
  isAscii : ∀ c ∈ rest.take p.2, Text.isAscii c = true

/-- A marker at the start of a text is cut off with its length. -/
theorem opens_of_beginsWith {marker rest : List Char} {region : Region} {phase : Phase}
    (hmeans : region.Means phase) (hascii : ∀ c ∈ marker, Text.isAscii c = true)
    (h : beginsWith marker rest = true) :
    Opens rest (region, marker.length) (phase, marker.length) := by
  rw [beginsWith, Bool.and_eq_true, List.isPrefixOf_iff_prefix] at h
  obtain ⟨hne, hpre⟩ := h
  refine ⟨hmeans, rfl, ?_, hpre.length_le, ?_⟩
  · exact List.length_pos_iff.2 fun hnil => by simp [hnil] at hne
  · show ∀ c ∈ rest.take marker.length, Text.isAscii c = true
    rw [← List.prefix_iff_eq_take.1 hpre]
    exact hascii

theorem Option.Rel.or {α β : Type} {r : α → β → Prop} {a a' : Option α} {b b' : Option β}
    (h : Option.Rel r a b) (h' : Option.Rel r a' b') : Option.Rel r (a.or a') (b.or b') := by
  cases h with
  | some h => exact .some h
  | none => exact h'

section Opening

variable {markers : Markers} {rest : List Char}

theorem rel_openTriple? (rest : List Char) :
    Option.Rel (Opens rest) (openTriple? (Text.bytes rest)) (tripleOpening? rest) := by
  have hsingle : ∀ c ∈ tripleSingleQuote, Text.isAscii c = true := List.all_eq_true.1 rfl
  have hdouble : ∀ c ∈ tripleDoubleQuote, Text.isAscii c = true := List.all_eq_true.1 rfl
  rw [openTriple?, tripleOpening?,
    show Quote.single.triple = Text.bytes tripleSingleQuote from rfl,
    show Quote.double.triple = Text.bytes tripleDoubleQuote from rfl,
    opensWith_bytes hsingle, opensWith_bytes hdouble]
  split_ifs with h h'
  · exact .some (opens_of_beginsWith (.marked rfl rfl rfl) hsingle h)
  · exact .some (opens_of_beginsWith (.marked rfl rfl rfl) hdouble h')
  · exact .none

theorem rel_openComment? (h : markers.isAscii = true) :
    Option.Rel (Opens rest) (openComment? markers (Text.bytes rest))
      ((blockOpening? markers rest).or (lineOpening? markers rest)) := by
  have hblock : (markers.block.find? fun pair => opensWith (markerBytes pair.1) (Text.bytes rest)) =
      markers.block.find? fun pair => beginsWith pair.1.toList rest :=
    List.find?_congr fun pair hpair => opensWith_bytes (Markers.isAscii_block h hpair).1 rest
  have hline : (markers.line.find? fun opener => opensWith (markerBytes opener) (Text.bytes rest)) =
      markers.line.find? fun opener => beginsWith opener.toList rest :=
    List.find?_congr fun opener hopener => opensWith_bytes (Markers.isAscii_line h hopener) rest
  rw [openComment?, blockOpening?, lineOpening?, hblock, hline]
  cases hfind : markers.block.find? fun pair => beginsWith pair.1.toList rest with
  | some pair =>
    obtain ⟨hopen, hclose⟩ := Markers.isAscii_block h (List.mem_of_find?_eq_some hfind)
    have hbegins : beginsWith pair.1.toList rest = true := by simpa using List.find?_some hfind
    show Option.Rel _ (some (_, (Text.bytes pair.1.toList).length)) (some _)
    rw [Text.length_bytes_of_isAscii hopen]
    exact .some (opens_of_beginsWith (.marked rfl rfl hclose) hopen hbegins)
  | none =>
    show Option.Rel _ (Option.map _ _) (Option.map _ _)
    cases hfind' : markers.line.find? fun opener => beginsWith opener.toList rest with
    | none => exact .none
    | some opener =>
      have hopen := Markers.isAscii_line h (List.mem_of_find?_eq_some hfind')
      have hbegins : beginsWith opener.toList rest = true := by simpa using List.find?_some hfind'
      show Option.Rel _ (some (_, (Text.bytes opener.toList).length)) (some _)
      rw [Text.length_bytes_of_isAscii hopen]
      exact .some (opens_of_beginsWith .lineComment hopen hbegins)

/-- A single quote of a kind stands at the start of the bytes where it stands in the text. -/
theorem head?_bytes_eq_byte (q : Quote) (c : Char) (cs : List Char) :
    (Text.bytes (c :: cs)).head? = some q.byte ↔ c = q.char := by
  rw [q.byte_eq]
  exact Text.head?_bytes_cons q.isAscii_char cs

theorem opens_quote {c : Char} {cs : List Char} {q : Quote} {phase : Phase} (hc : c = q.char)
    (hphase : phase.quote? = some q) : Opens (c :: cs) (.string q, 1) (phase, 1) := by
  refine ⟨.quoted hphase, rfl, Nat.one_pos, ?_, fun d hd => ?_⟩
  · exact Nat.succ_le_succ (Nat.zero_le _)
  · rw [List.take_succ_cons, List.take_zero, List.mem_singleton] at hd
    rw [hd, hc]
    exact q.isAscii_char

theorem rel_openString? (c : Char) (cs : List Char) :
    Option.Rel (Opens (c :: cs)) (openString? markers (Text.bytes (c :: cs)))
      (quoteOpening? markers (c :: cs)) := by
  have hbyte : ∀ q : Quote, (Text.bytes (c :: cs)).head? = some q.byte ↔ c = q.char :=
    fun q => head?_bytes_eq_byte q c cs
  cases hbytes : Text.bytes (c :: cs) with
  | nil => exact absurd (Text.bytes_cons c cs ▸ hbytes) (by simp [String.utf8EncodeChar_ne_nil])
  | cons b bs =>
    simp only [hbytes, List.head?_cons, Option.some_inj] at hbyte
    simp only [openString?, quoteOpening?, hbyte, List.head?_cons, Option.some_inj, Quote.char]
    by_cases hsingle : c = '\''
    · rw [if_pos hsingle, if_pos hsingle]
      exact .some (opens_quote hsingle rfl)
    rw [if_neg hsingle, if_neg hsingle]
    by_cases hdouble : c = '"'
    · rw [if_pos hdouble, if_pos hdouble]
      exact .some (opens_quote hdouble rfl)
    rw [if_neg hdouble, if_neg hdouble]
    by_cases hbacktick : c = '`' ∧ markers.backtick = true
    · rw [if_pos hbacktick, if_pos hbacktick]
      exact .some (opens_quote hbacktick.1 rfl)
    · rw [if_neg hbacktick, if_neg hbacktick]
      exact .none

/-- **The same things open for the scanner and for the automaton.** -/
theorem rel_open? (h : markers.isAscii = true) (flags : Flags) (c : Char) (cs : List Char) :
    Option.Rel (Opens (c :: cs)) (open? markers flags (Text.bytes (c :: cs)))
      (opening? markers flags (c :: cs)) := by
  rw [open?, opening?]
  refine Option.Rel.or (Option.Rel.or ?_ ?_) ?_
  · split_ifs
    · exact rel_openTriple? _
    · exact .none
  · split_ifs
    · exact rel_openComment? h
    · exact .none
  · split_ifs
    · exact rel_openString? c cs
    · exact .none

/-! ## Wide bytes -/

theorem ne_of_isWide {b : UInt8} (hb : Text.isWide b = true) {c : Char}
    (hc : Text.isAscii c = true) : b ≠ UInt8.ofNat c.toNat := by
  rintro rfl
  rw [Text.isWide_ofNat_toNat hc] at hb
  exact Bool.false_ne_true hb

theorem not_isPrefixOf_of_isWide {marker : List Char} (h : isMarker marker = true) {b : UInt8}
    (hb : Text.isWide b = true) (bs : List UInt8) :
    (Text.bytes marker).isPrefixOf (b :: bs) = false := by
  obtain ⟨hne, hascii⟩ := isMarker_iff.1 h
  obtain ⟨c, cs, rfl⟩ := List.exists_cons_of_ne_nil hne
  have hc : Text.isAscii c = true := hascii c List.mem_cons_self
  have hcb : (UInt8.ofNat c.toNat == b) = false :=
    beq_eq_false_iff_ne.2 (ne_of_isWide hb hc).symm
  rw [Text.bytes_cons, Text.utf8EncodeChar_of_isAscii hc, List.singleton_append, List.isPrefixOf,
    hcb, Bool.false_and]

theorem opensWith_of_isWide (marker : List Char) (h : ∀ c ∈ marker, Text.isAscii c = true)
    {b : UInt8} (hb : Text.isWide b = true) (bs : List UInt8) :
    opensWith (Text.bytes marker) (b :: bs) = false := by
  cases marker with
  | nil => rfl
  | cons c cs =>
    rw [opensWith, not_isPrefixOf_of_isWide (isMarker_iff.2 ⟨List.cons_ne_nil c cs, h⟩) hb,
      Bool.and_false]

theorem Quote.byte_ne_of_isWide (q : Quote) {b : UInt8} (hb : Text.isWide b = true) :
    b ≠ q.byte :=
  q.byte_eq ▸ ne_of_isWide hb q.isAscii_char

/-- **Nothing opens inside a character beyond ASCII.** -/
theorem open?_of_isWide (h : markers.isAscii = true) (flags : Flags) {b : UInt8}
    (hb : Text.isWide b = true) (bs : List UInt8) : open? markers flags (b :: bs) = none := by
  have htriple : openTriple? (b :: bs) = none := by
    rw [openTriple?, show Quote.single.triple = Text.bytes tripleSingleQuote from rfl,
      show Quote.double.triple = Text.bytes tripleDoubleQuote from rfl,
      opensWith_of_isWide tripleSingleQuote (List.all_eq_true.1 rfl) hb,
      opensWith_of_isWide tripleDoubleQuote (List.all_eq_true.1 rfl) hb]
    rfl
  have hcomment : openComment? markers (b :: bs) = none := by
    have hblock : (markers.block.find? fun pair => opensWith (markerBytes pair.1) (b :: bs)) =
        none := by
      refine List.find?_eq_none.2 fun pair hpair => ?_
      rw [markerBytes, opensWith_of_isWide _ (Markers.isAscii_block h hpair).1 hb]
      exact Bool.false_ne_true
    have hline : (markers.line.find? fun opener => opensWith (markerBytes opener) (b :: bs)) =
        none := by
      refine List.find?_eq_none.2 fun opener hopener => ?_
      rw [markerBytes, opensWith_of_isWide _ (Markers.isAscii_line h hopener) hb]
      exact Bool.false_ne_true
    rw [openComment?, hblock, hline]
    rfl
  have hstring : openString? markers (b :: bs) = none := by
    rw [openString?, if_neg (Quote.single.byte_ne_of_isWide hb),
      if_neg (Quote.double.byte_ne_of_isWide hb),
      if_neg fun hbacktick => Quote.backtick.byte_ne_of_isWide hb hbacktick.1]
  rw [open?, htriple, hcomment, hstring]
  simp only [ite_self, Option.or_none]

end Opening

/-- The scanner in a mode is inside of the same thing as the automaton in a phase. -/
inductive Mode.Means : Mode → Phase → Prop
  | code : Means .code .code
  | inside {region : Region} {phase : Phase} (h : region.Means phase) (start : Nat) :
      Means (.inside region start) phase

/-- **Nothing happens inside a character beyond ASCII.** -/
theorem isQuiet_of_isWide {markers : Markers} (h : markers.isAscii = true) (flags : Flags)
    {mode : Mode} {phase : Phase} (hmeans : mode.Means phase) {b : UInt8}
    (hb : Text.isWide b = true) (bs : List UInt8) :
    mode.isQuiet markers flags (b :: bs) = true := by
  cases hmeans with
  | code => rw [Mode.isQuiet, open?_of_isWide h flags hb, Option.isNone_none]
  | inside hregion start =>
    rw [Mode.isQuiet, Bool.not_eq_true']
    cases hregion with
    | lineComment =>
      have hne : b ≠ lineFeed := ne_of_isWide (c := '\n') hb rfl
      rw [Region.actsAt, List.head?_cons, Option.some_beq_some, beq_eq_false_iff_ne]
      exact hne
    | marked hclosing _ hmarker =>
      rw [Region.actsAt_of_closing? hclosing, not_isPrefixOf_of_isWide hmarker hb]
    | @quoted quote _ _ =>
      have hne : b ≠ backslash := ne_of_isWide (c := '\\') hb rfl
      rw [Region.actsAt, List.head?_cons, Option.some_beq_some, Option.some_beq_some,
        Bool.or_eq_false_iff, beq_eq_false_iff_ne, beq_eq_false_iff_ne]
      exact ⟨hne, quote.byte_ne_of_isWide hb⟩

end Ignore
end EmojiLint
