import EmojiLint.Ignore.Scan
import Mathlib.Tactic.SplitIfs

/-!
# The scanner, one byte at a time

`State.step` jumps: inside a region it goes to the next marker at once.  The equations of this file
say that `regionsFrom` may as well stop at every byte on the way, because a byte where the region
does not act (`Region.actsAt`) can be skipped.

* `State.step_of_open` and the three lemmas beside it — all that a step can do.
* `regionsFrom_code_of_open`, `regionsFrom_code_of_none` — in code.
* `regionsFrom_of_close`, `regionsFrom_of_stay`, `regionsFrom_skip` — inside a region.
* `regionsFrom_append` — bytes at which nothing happens.
-/

set_option autoImplicit false

namespace EmojiLint
namespace Ignore

/-- The marker that closes a region, where it is more than one byte. -/
def Region.closing? : Region → Option (List UInt8)
  | lineComment => none
  | blockComment close => some close
  | string _ => none
  | tripleString quote => some quote.triple

/-- Whether a region ends, or has an escape, at the start of `rest`. -/
def Region.actsAt (region : Region) (rest : List UInt8) : Bool :=
  match region with
  | .lineComment => rest.head? == some lineFeed
  | .blockComment close => close.isPrefixOf rest
  | .tripleString quote => quote.triple.isPrefixOf rest
  | .string quote => rest.head? == some backslash || rest.head? == some quote.byte

/-- The same move, counted from a byte earlier. -/
def Advance.succ : Advance → Advance
  | close n => close (n + 1)
  | stay n => stay (n + 1)

/-! ## Moves -/

theorem findMarker_of_isPrefixOf {marker rest : List UInt8}
    (h : marker.isPrefixOf rest = true) : findMarker marker rest = some 0 := by
  cases rest with
  | nil =>
    have hnil : marker = [] := by simpa using h
    rw [hnil, findMarker]
    rfl
  | cons b bs => rw [findMarker, if_pos h]

theorem findMarker_cons {marker : List UInt8} {b : UInt8} {bs : List UInt8}
    (h : marker.isPrefixOf (b :: bs) = false) :
    findMarker marker (b :: bs) = (findMarker marker bs).map (· + 1) := by
  rw [findMarker, h, if_neg Bool.false_ne_true]

/-- The move inside a region that ends with a marker. -/
theorem Region.advance_of_closing? {region : Region} {marker : List UInt8}
    (h : region.closing? = some marker) (rest : List UInt8) :
    region.advance rest =
      match findMarker marker rest with
      | some n => .close (n + marker.length)
      | none => .stay rest.length := by
  cases region with
  | lineComment => cases h
  | string quote => cases h
  | blockComment close =>
    cases h
    rfl
  | tripleString quote =>
    cases h
    rfl

theorem Region.actsAt_of_closing? {region : Region} {marker : List UInt8}
    (h : region.closing? = some marker) (rest : List UInt8) :
    region.actsAt rest = marker.isPrefixOf rest := by
  cases region with
  | lineComment => cases h
  | string quote => cases h
  | blockComment close =>
    cases h
    rfl
  | tripleString quote =>
    cases h
    rfl

/-- Where a marker stands, the region ends behind it. -/
theorem Region.advance_of_isPrefixOf {region : Region} {marker rest : List UInt8}
    (h : region.closing? = some marker) (hrest : marker.isPrefixOf rest = true) :
    region.advance rest = .close marker.length := by
  rw [advance_of_closing? h, findMarker_of_isPrefixOf hrest]
  simp only [Nat.zero_add]

theorem advance_lineComment_of_lineFeed (bs : List UInt8) :
    Region.lineComment.advance (lineFeed :: bs) = .close 0 := by
  simp [Region.advance, List.findIdx?_cons]

theorem advance_string_of_backslash (quote : Quote) (bs : List UInt8) :
    (Region.string quote).advance (backslash :: bs) = .stay 2 := by
  simp [Region.advance, List.findIdx?_cons]

theorem advance_string_of_quote (quote : Quote) (bs : List UInt8) :
    (Region.string quote).advance (quote.byte :: bs) = .close 1 := by
  have hne : ¬ quote.byte = backslash := by cases quote <;> decide
  simp [Region.advance, List.findIdx?_cons, hne]

/-- At the end of the text a region stays open, unless an empty marker closes it. -/
theorem Region.advance_nil {region : Region} {b : UInt8} (h : region.actsAt [b] = false) :
    region.advance [] = .stay 0 := by
  cases region with
  | lineComment => rfl
  | string quote => rfl
  | tripleString quote => rfl
  | blockComment close =>
    cases close with
    | nil => cases h
    | cons c cs => rfl

/-- **A byte where the region does not act changes nothing but the count.** -/
theorem Region.advance_cons {region : Region} {b : UInt8} {bs : List UInt8}
    (h : region.actsAt (b :: bs) = false) :
    region.advance (b :: bs) = (region.advance bs).succ := by
  cases region with
  | lineComment =>
    have hb : (b == lineFeed) = false := by simpa [actsAt] using h
    simp only [advance, List.findIdx?_cons, hb, Bool.false_eq_true, if_false]
    cases bs.findIdx? (· == lineFeed) <;> rfl
  | string quote =>
    have hb : (b == backslash || b == quote.byte) = false := by simpa [actsAt] using h
    simp only [advance, List.findIdx?_cons, hb, Bool.false_eq_true, if_false]
    cases bs.findIdx? fun b => b == backslash || b == quote.byte with
    | none => rfl
    | some n =>
      simp only [Option.map_some, List.getElem?_cons_succ]
      split_ifs <;> rfl
  | blockComment close =>
    rw [actsAt] at h
    simp only [advance, findMarker_cons h]
    cases findMarker close bs with
    | none => rfl
    | some n =>
      simp only [Option.map_some, Advance.succ]
      rw [Nat.add_right_comm]
  | tripleString quote =>
    rw [actsAt] at h
    simp only [advance, findMarker_cons h]
    cases findMarker quote.triple bs with
    | none => rfl
    | some n => rfl

/-! ## Steps -/

section Steps

variable {markers : Markers} {flags : Flags} {s : State}

theorem State.step_of_none (hmode : s.mode = .code) (h : open? markers flags s.rest = none) :
    s.step markers flags = (s.moveBy 1 .code, none) := by
  rw [step, hmode]
  simp only [h]

theorem State.step_of_open {region : Region} {n : Nat} (hmode : s.mode = .code)
    (h : open? markers flags s.rest = some (region, n)) :
    s.step markers flags = (s.moveBy n (.inside region s.pos), none) := by
  rw [step, hmode]
  simp only [h]

theorem State.step_of_stay {region : Region} {start n : Nat} (hmode : s.mode = .inside region start)
    (h : region.advance s.rest = .stay n) :
    s.step markers flags = (s.moveBy n (.inside region start), none) := by
  rw [step, hmode]
  simp only [h]

theorem State.step_of_close {region : Region} {start n : Nat}
    (hmode : s.mode = .inside region start) (h : region.advance s.rest = .close n) :
    s.step markers flags = (s.moveBy n .code, some ⟨start, s.pos + n⟩) := by
  rw [step, hmode]
  simp only [h]

end Steps

/-! ## Runs -/

section Runs

variable {markers : Markers} {flags : Flags} {size pos start : Nat}

theorem regionsFrom_nil (mode : Mode) :
    regionsFrom markers flags size ⟨mode, pos, []⟩ = State.remainder ⟨mode, pos, []⟩ size := by
  rw [regionsFrom, if_pos rfl]

/-- One step, and the rest of the run. -/
theorem regionsFrom_of_step {s next : State} {closed : Option Range} (hrest : s.rest ≠ [])
    (h : s.step markers flags = (next, closed)) :
    regionsFrom markers flags size s = closed.toList ++ regionsFrom markers flags size next := by
  rw [regionsFrom, if_neg hrest, h]

theorem regionsFrom_code_of_none {b : UInt8} {bs : List UInt8}
    (h : open? markers flags (b :: bs) = none) :
    regionsFrom markers flags size ⟨.code, pos, b :: bs⟩ =
      regionsFrom markers flags size ⟨.code, pos + 1, bs⟩ :=
  regionsFrom_of_step (List.cons_ne_nil b bs) (State.step_of_none rfl h)

theorem regionsFrom_code_of_open {rest : List UInt8} {region : Region} {n : Nat}
    (hrest : rest ≠ []) (h : open? markers flags rest = some (region, n)) :
    regionsFrom markers flags size ⟨.code, pos, rest⟩ =
      regionsFrom markers flags size ⟨.inside region pos, pos + n, rest.drop n⟩ :=
  regionsFrom_of_step hrest (State.step_of_open rfl h)

theorem regionsFrom_of_close {region : Region} {rest : List UInt8} {n : Nat} (hrest : rest ≠ [])
    (h : region.advance rest = .close n) :
    regionsFrom markers flags size ⟨.inside region start, pos, rest⟩ =
      ⟨start, pos + n⟩ :: regionsFrom markers flags size ⟨.code, pos + n, rest.drop n⟩ :=
  regionsFrom_of_step hrest (State.step_of_close rfl h)

theorem regionsFrom_of_stay {region : Region} {rest : List UInt8} {n : Nat} (hrest : rest ≠ [])
    (h : region.advance rest = .stay n) :
    regionsFrom markers flags size ⟨.inside region start, pos, rest⟩ =
      regionsFrom markers flags size ⟨.inside region start, pos + n, rest.drop n⟩ :=
  regionsFrom_of_step hrest (State.step_of_stay rfl h)

/-- **The scanner may as well stop at every byte.** -/
theorem regionsFrom_skip {region : Region} {b : UInt8} {bs : List UInt8}
    (h : region.actsAt (b :: bs) = false) :
    regionsFrom markers flags size ⟨.inside region start, pos, b :: bs⟩ =
      regionsFrom markers flags size ⟨.inside region start, pos + 1, bs⟩ := by
  have hadvance := Region.advance_cons h
  cases hbs : region.advance bs with
  | stay n =>
    rw [hbs, Advance.succ] at hadvance
    rw [regionsFrom_of_stay (List.cons_ne_nil b bs) hadvance, List.drop_succ_cons, ← Nat.add_assoc,
      Nat.add_right_comm]
    cases bs with
    | nil => rw [List.drop_nil, regionsFrom_nil, regionsFrom_nil, State.remainder, State.remainder]
    | cons c cs => rw [regionsFrom_of_stay (List.cons_ne_nil c cs) hbs]
  | close n =>
    rw [hbs, Advance.succ] at hadvance
    rw [regionsFrom_of_close (List.cons_ne_nil b bs) hadvance, List.drop_succ_cons, ← Nat.add_assoc,
      Nat.add_right_comm]
    cases bs with
    | nil =>
      rw [Region.advance_nil h] at hbs
      cases hbs
    | cons c cs => rw [regionsFrom_of_close (List.cons_ne_nil c cs) hbs]

/-- Whether nothing happens at the start of `rest`: in code nothing opens there, and inside a region
the region does not act. -/
def Mode.isQuiet (markers : Markers) (flags : Flags) (mode : Mode) (rest : List UInt8) : Bool :=
  match mode with
  | .code => (open? markers flags rest).isNone
  | .inside region _ => !region.actsAt rest

theorem regionsFrom_of_isQuiet {mode : Mode} {b : UInt8} {bs : List UInt8}
    (h : mode.isQuiet markers flags (b :: bs) = true) :
    regionsFrom markers flags size ⟨mode, pos, b :: bs⟩ =
      regionsFrom markers flags size ⟨mode, pos + 1, bs⟩ := by
  cases mode with
  | code => exact regionsFrom_code_of_none (Option.isNone_iff_eq_none.1 h)
  | inside region start => exact regionsFrom_skip (Bool.not_eq_true' _ ▸ h)

/-- Bytes at which nothing happens, whatever follows them, can be passed over. -/
theorem regionsFrom_append {mode : Mode} {skipped : List UInt8}
    (h : ∀ b ∈ skipped, ∀ bs, mode.isQuiet markers flags (b :: bs) = true) (rest : List UInt8) :
    regionsFrom markers flags size ⟨mode, pos, skipped ++ rest⟩ =
      regionsFrom markers flags size ⟨mode, pos + skipped.length, rest⟩ := by
  induction skipped generalizing pos with
  | nil => rfl
  | cons b bs ih =>
    rw [List.cons_append, regionsFrom_of_isQuiet (h b List.mem_cons_self _),
      ih fun d hd => h d (List.mem_cons_of_mem b hd), List.length_cons, Nat.add_assoc,
      Nat.add_comm 1]

end Runs

end Ignore
end EmojiLint
