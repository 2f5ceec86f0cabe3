import EmojiLint.Ignore.Basic
import EmojiLint.Proofs.Ignore.Opening
import EmojiLint.Proofs.Ignore.Regions

/-!
# Steps of the automaton and of the scanner

The automaton walks over characters and the scanner jumps over bytes.  What either does before one
character is said here.

* `step_of_closing?`, … — one step of the automaton.
* `regionsFrom_char` — a character at whose first byte nothing happens can be passed over.
* `regionsFrom_escape` — an escape takes the next character with it, however long that is.
-/

set_option autoImplicit false

namespace EmojiLint
namespace Ignore

/-! ## Steps of the automaton -/

section Steps

variable {markers : Markers} {flags : Flags}

theorem step_of_closing? {phase : Phase} {close : List Char} (h : phase.closing? = some close)
    (rest : List Char) :
    Reader.step markers flags ⟨phase, 0⟩ rest = Reader.untilMarker phase close rest := by
  cases phase <;> cases h <;> rfl

theorem step_of_quote? {phase : Phase} {q : Quote} (h : phase.quote? = some q)
    (rest : List Char) :
    Reader.step markers flags ⟨phase, 0⟩ rest = Reader.untilQuote phase q.char rest := by
  cases phase <;> cases h <;> rfl

theorem step_escape {phase : Phase} {q : Quote} (h : phase.quote? = some q) (cs : List Char) :
    Reader.step markers flags ⟨phase, 0⟩ ('\\' :: cs) = (true, ⟨phase, 1⟩) := by
  rw [step_of_quote? h]
  rfl

theorem step_quote {phase : Phase} {q : Quote} (h : phase.quote? = some q) (cs : List Char) :
    Reader.step markers flags ⟨phase, 0⟩ (q.char :: cs) = (true, ⟨.code, 0⟩) := by
  rw [step_of_quote? h]
  cases q <;> rfl

theorem step_inString {phase : Phase} {q : Quote} (h : phase.quote? = some q) {c : Char}
    (hescape : c ≠ '\\') (hquote : c ≠ q.char) (cs : List Char) :
    Reader.step markers flags ⟨phase, 0⟩ (c :: cs) = (true, ⟨phase, 0⟩) := by
  rw [step_of_quote? h]
  refine (if_neg fun hhead => ?_).trans (if_neg fun hhead => ?_)
  · exact hescape (Option.some_inj.1 hhead)
  · exact hquote (Option.some_inj.1 hhead)

theorem step_code_of_opening? {rest : List Char} {phase : Phase} {n : Nat}
    (h : opening? markers flags rest = some (phase, n)) :
    Reader.step markers flags ⟨.code, 0⟩ rest = (true, ⟨phase, n - 1⟩) := by
  show Reader.inCode markers flags rest = _
  rw [Reader.inCode, h]

theorem step_code_of_none {rest : List Char} (h : opening? markers flags rest = none) :
    Reader.step markers flags ⟨.code, 0⟩ rest = (false, ⟨.code, 0⟩) := by
  show Reader.inCode markers flags rest = _
  rw [Reader.inCode, h]

/-- The line feed that ends a line comment is read as code. -/
theorem step_lineComment_lineFeed (cs : List Char) :
    Reader.step markers flags ⟨.lineComment, 0⟩ ('\n' :: cs) =
      Reader.step markers flags ⟨.code, 0⟩ ('\n' :: cs) :=
  rfl

theorem step_lineComment {c : Char} (hc : c ≠ '\n') (cs : List Char) :
    Reader.step markers flags ⟨.lineComment, 0⟩ (c :: cs) = (true, ⟨.lineComment, 0⟩) := by
  show (if (c :: cs).head? = some '\n' then _ else _) = _
  exact if_neg fun hhead => hc (Option.some_inj.1 hhead)

/-- When a character is ignored, with it the characters it makes the automaton owe, then everything
from `start` to the end of these is ignored, and the automaton goes on behind them. -/
theorem ignoredAt_behind {phase phase' : Phase} {rest : List Char} {n : Nat} (hn : 0 < n)
    (hstep : Reader.step markers flags ⟨phase, 0⟩ rest = (true, ⟨phase', n - 1⟩))
    {start pos : Nat} (hstart : start ≤ pos) (offset : Nat) :
    (start ≤ offset ∧ offset < pos) ∨
        (pos ≤ offset ∧ Reader.IgnoredAt markers flags ⟨phase, 0⟩ rest (offset - pos)) ↔
      (start ≤ offset ∧ offset < pos + Text.byteLength (rest.take n)) ∨
        (pos + Text.byteLength (rest.take n) ≤ offset ∧
          Reader.IgnoredAt markers flags ⟨phase', 0⟩ (rest.drop n)
            (offset - (pos + Text.byteLength (rest.take n)))) := by
  rw [Reader.ignoredAt_of_step hn hstep, Reader.ignoredAt_owed, Nat.sub_sub]
  constructor
  · rintro (⟨hlo, hhi⟩ | ⟨hlo, hhi | ⟨hhi, hrest⟩⟩)
    · exact Or.inl ⟨hlo, by omega⟩
    · exact Or.inl ⟨by omega, by omega⟩
    · exact Or.inr ⟨by omega, hrest⟩
  · rintro (⟨hlo, hhi⟩ | ⟨hlo, hrest⟩)
    · rcases Nat.lt_or_ge offset pos with hpos | hpos
      · exact Or.inl ⟨hlo, hpos⟩
      · exact Or.inr ⟨hpos, Or.inl (by omega)⟩
    · exact Or.inr ⟨by omega, Or.inr ⟨by omega, hrest⟩⟩

end Steps

/-! ## Steps of the scanner -/

theorem actsAt_lineComment (c : Char) (cs : List Char) :
    Region.lineComment.actsAt (Text.bytes (c :: cs)) = true ↔ c = '\n' := by
  show ((Text.bytes (c :: cs)).head? == some lineFeed) = true ↔ _
  rw [beq_iff_eq, show lineFeed = UInt8.ofNat '\n'.toNat from rfl]
  exact Text.head?_bytes_cons rfl cs

theorem actsAt_string (q : Quote) (c : Char) (cs : List Char) :
    (Region.string q).actsAt (Text.bytes (c :: cs)) = true ↔ c = '\\' ∨ c = q.char := by
  show ((Text.bytes (c :: cs)).head? == some backslash ||
    (Text.bytes (c :: cs)).head? == some q.byte) = true ↔ _
  rw [Bool.or_eq_true, beq_iff_eq, beq_iff_eq, head?_bytes_eq_byte,
    show backslash = UInt8.ofNat '\\'.toNat from rfl]
  exact or_congr_left (Text.head?_bytes_cons rfl cs)

section Scanner

variable {markers : Markers} {flags : Flags} {size pos start : Nat}

/-- A character at whose first byte nothing happens can be passed over as a whole. -/
theorem regionsFrom_char (hascii : markers.isAscii = true) {mode : Mode} {phase : Phase}
    (hmeans : mode.Means phase) {c : Char} {cs : List Char}
    (h : mode.isQuiet markers flags (Text.bytes (c :: cs)) = true) :
    regionsFrom markers flags size ⟨mode, pos, Text.bytes (c :: cs)⟩ =
      regionsFrom markers flags size ⟨mode, pos + c.utf8Size, Text.bytes cs⟩ := by
  rw [Text.bytes_cons] at h ⊢
  cases hc : Text.isAscii c with
  | true =>
    rw [Text.utf8EncodeChar_of_isAscii hc, List.singleton_append] at h ⊢
    rw [regionsFrom_of_isQuiet h, Text.utf8Size_of_isAscii hc]
  | false =>
    rw [regionsFrom_append fun b hb bs =>
      isQuiet_of_isWide hascii flags hmeans (Text.isWide_of_mem_utf8EncodeChar hc hb) bs,
      String.length_utf8EncodeChar]

/-- **An escape takes a whole character with it.**  The scanner passes over the backslash and one
byte; the other bytes of the character do nothing. -/
theorem regionsFrom_escape (hascii : markers.isAscii = true) (q : Quote) (cs : List Char)
    {phase : Phase} (hmeans : (Region.string q).Means phase) :
    regionsFrom markers flags size ⟨.inside (.string q) start, pos, Text.bytes ('\\' :: cs)⟩ =
      regionsFrom markers flags size ⟨.inside (.string q) start,
        pos + Text.byteLength (('\\' :: cs).take 2), Text.bytes (('\\' :: cs).drop 2)⟩ := by
  have hbytes : Text.bytes ('\\' :: cs) = backslash :: Text.bytes cs := by
    rw [Text.bytes_cons, Text.utf8EncodeChar_of_isAscii rfl]
    rfl
  rw [hbytes, regionsFrom_of_stay (List.cons_ne_nil _ _) (advance_string_of_backslash q _),
    List.drop_succ_cons, List.take_succ_cons, List.drop_succ_cons]
  cases cs with
  | nil =>
    show regionsFrom markers flags size ⟨_, _, []⟩ = regionsFrom markers flags size ⟨_, _, []⟩
    rw [regionsFrom_nil, regionsFrom_nil, State.remainder, State.remainder]
  | cons c cs =>
    rw [List.take_succ_cons, List.take_zero, List.drop_succ_cons, List.drop_zero, Text.bytes_cons]
    obtain ⟨b, bs, hbs⟩ := List.exists_cons_of_ne_nil (String.utf8EncodeChar_ne_nil (c := c))
    have hsize : c.utf8Size = bs.length + 1 := by
      rw [← String.length_utf8EncodeChar, hbs, List.length_cons]
    have hquiet : ∀ d ∈ bs, ∀ ds,
        Mode.isQuiet markers flags (.inside (.string q) start) (d :: ds) = true := by
      intro d hd ds
      cases hc : Text.isAscii c with
      | true =>
        rw [Text.utf8EncodeChar_of_isAscii hc, List.cons.injEq] at hbs
        exact absurd (hbs.2 ▸ hd) List.not_mem_nil
      | false =>
        refine isQuiet_of_isWide hascii flags (.inside hmeans start) ?_ ds
        exact Text.isWide_of_mem_utf8EncodeChar hc (hbs ▸ List.mem_cons_of_mem b hd)
    rw [hbs, List.cons_append, List.drop_succ_cons, List.drop_zero, regionsFrom_append hquiet]
    congr 2
    rw [Text.byteLength, Text.byteLength, Text.byteLength, hsize, Text.utf8Size_of_isAscii rfl]
    omega

end Scanner

end Ignore
end EmojiLint
