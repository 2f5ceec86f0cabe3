import EmojiLint.Emoji.Occurrence
import EmojiLint.Proofs.Emoji.Pattern
import EmojiLint.Proofs.Text.Boundary
import Mathlib.Data.List.Pairwise

/-!
# Cutting a text into emoji

The emoji of a text are found from left to right, each as long as it can be, and nothing that could
be one is passed over.

* `IsMunch` — a span holds the longest emoji that begins where it starts.
* `IsTokenization` — spans hold the emoji of a text, all of them and one after the other.
* `isTokenization_spansFrom` — the spans of the pieces of a text do.
* `isTokenization_find` — and so every emoji by itself lies in exactly one span.
-/

set_option autoImplicit false

open Computability

namespace EmojiLint
namespace Emoji

open Text (byteLength)

/-- A span of a text that begins at byte `offset` holds the longest emoji that begins where the span
starts, which is also the first match of the pattern there. -/
def IsMunch (offset : Nat) (cs : List Char) (s : Span) : Prop :=
  ∃ before word after, cs = before ++ (word ++ after) ∧
    s = ⟨offset + byteLength before, byteLength word⟩ ∧
    IsLongest grammar (word ++ after) word.length ∧ pattern.first? (word ++ after) = some after

/-- The spans hold the emoji of a text that begins at byte `offset`. -/
structure IsTokenization (offset : Nat) (cs : List Char) (spans : List Span) : Prop where
  nonempty : ∀ s ∈ spans, 0 < s.length
  ordered : spans.Pairwise fun s t => s.start < t.start ∧ s.stop ≤ t.start
  munch : ∀ s ∈ spans, IsMunch offset cs s
  /-- No emoji begins at a character that is in no span. -/
  outside : ∀ before after, cs = before ++ after →
    (∀ s ∈ spans, s.contains (offset + byteLength before) = false) →
    (∀ w, w <+: after → w ∉ grammar) ∧ pattern.first? after = none

variable {offset : Nat} {cs : List Char} {spans : List Span}

/-! ## Spans -/

/-- What a span holds does not depend on what stands before. -/
theorem IsMunch.append {s : Span} (before : List Char)
    (h : IsMunch (offset + byteLength before) cs s) : IsMunch offset (before ++ cs) s := by
  obtain ⟨between, word, after, rfl, hs, hlongest, hfirst⟩ := h
  refine ⟨before ++ between, word, after, ?_, ?_, hlongest, hfirst⟩
  · rw [List.append_assoc]
  · rw [hs, Text.byteLength_append, Nat.add_assoc]

theorem IsMunch.exists_mem_grammar {s : Span} (h : IsMunch offset cs s) :
    ∃ before word after, cs = before ++ (word ++ after) ∧ word ∈ grammar ∧
      s = ⟨offset + byteLength before, byteLength word⟩ := by
  obtain ⟨before, word, after, hcs, hs, hlongest, _⟩ := h
  have hword := hlongest.take_mem
  rw [List.take_left] at hword
  exact ⟨before, word, after, hcs, hword, hs⟩

theorem IsMunch.le_start {s : Span} (h : IsMunch offset cs s) : offset ≤ s.start := by
  obtain ⟨before, word, after, _, rfl, _⟩ := h
  exact Nat.le_add_right _ _

/-- The characters of an emoji, the first one and those that follow. -/
theorem length_cons_take {c : Char} {n : Nat} (hc : tail? c cs = some n) :
    (c :: cs.take n).length = n + 1 := by
  have hle := (isLongest_grammar hc).le_length
  rw [List.length_cons] at hle
  rw [List.length_cons, List.length_take, Nat.min_eq_left (by omega)]

/-- A place in a text that is not in a word at its start is behind it. -/
theorem exists_eq_append_of_not_contains {word before : List Char} (hword : word <+: cs)
    (hbefore : before <+: cs)
    (h : Span.contains ⟨offset, byteLength word⟩ (offset + byteLength before) = false) :
    ∃ between, before = word ++ between := by
  have hle : byteLength word ≤ byteLength before := by
    rcases Span.contains_eq_false_iff.1 h with hlt | hle
    · exact absurd hlt (Nat.not_lt_of_le (Nat.le_add_right _ _))
    · exact Nat.le_of_add_le_add_left hle
  obtain ⟨between, hbetween⟩ := Text.isPrefix_of_byteLength_le hword hbefore hle
  exact ⟨between, hbetween.symm⟩

namespace IsTokenization

theorem nil : IsTokenization offset [] [] where
  nonempty _ hs := absurd hs List.not_mem_nil
  ordered := List.Pairwise.nil
  munch _ hs := absurd hs List.not_mem_nil
  outside before after hcs _ := by
    rw [(List.append_eq_nil_iff.1 hcs.symm).2]
    refine ⟨fun w hw => ?_, first?_pattern_nil⟩
    rw [List.prefix_nil.1 hw]
    exact nil_notMem_grammar

/-- A character with which no emoji begins. -/
theorem plain {c : Char} (hc : tail? c cs = none)
    (h : IsTokenization (offset + byteLength [c]) cs spans) :
    IsTokenization offset (c :: cs) spans where
  nonempty := h.nonempty
  ordered := h.ordered
  munch s hs := (h.munch s hs).append [c]
  outside before after hcs hout := by
    cases before with
    | nil =>
      rw [← hcs.trans (List.nil_append after), first?_pattern, hc]
      exact ⟨fun _ => notMem_grammar hc, rfl⟩
    | cons d before =>
      rw [List.cons_append, List.cons.injEq] at hcs
      refine h.outside before after hcs.2 fun s hs => ?_
      rw [hcs.1, Nat.add_assoc, ← Text.byteLength_append]
      exact hout s hs

/-- An emoji, which is the longest one that begins there. -/
theorem emoji {c : Char} {n : Nat} (hc : tail? c cs = some n)
    (h : IsTokenization (offset + byteLength (c :: cs.take n)) (cs.drop n) spans) :
    IsTokenization offset (c :: cs) (⟨offset, byteLength (c :: cs.take n)⟩ :: spans) := by
  have hpos : 0 < byteLength (c :: cs.take n) := Text.byteLength_pos (List.cons_ne_nil _ _)
  have hsplit : c :: cs = c :: cs.take n ++ cs.drop n := by
    rw [List.cons_append, List.take_append_drop]
  refine ⟨?_, ?_, ?_, ?_⟩
  · intro s hs
    rcases List.mem_cons.1 hs with rfl | hs
    · exact hpos
    · exact h.nonempty s hs
  · refine h.ordered.cons fun s hs => ?_
    have hle := (h.munch s hs).le_start
    refine ⟨?_, hle⟩
    show offset < s.start
    omega
  · intro s hs
    rcases List.mem_cons.1 hs with rfl | hs
    · refine ⟨[], c :: cs.take n, cs.drop n, hsplit, rfl, ?_, ?_⟩
      · rw [← hsplit, length_cons_take hc]
        exact isLongest_grammar hc
      · rw [← hsplit, first?_pattern, hc]
        rfl
    · rw [hsplit]
      exact (h.munch s hs).append _
  · intro before after hcs hout
    -- A place outside the first emoji is behind it.
    obtain ⟨before', rfl⟩ := exists_eq_append_of_not_contains ⟨cs.drop n, hsplit.symm⟩
      ⟨after, hcs.symm⟩ (hout _ List.mem_cons_self)
    rw [hsplit, List.append_assoc, List.append_cancel_left_eq] at hcs
    refine h.outside before' after hcs fun s hs => ?_
    rw [Nat.add_assoc, ← Text.byteLength_append]
    exact hout s (List.mem_cons_of_mem _ hs)

/-- Two spans that share a byte are the same. -/
theorem eq_of_contains (h : IsTokenization offset cs spans) {s t : Span} (hs : s ∈ spans)
    (ht : t ∈ spans) {n : Nat} (hsn : s.contains n = true) (htn : t.contains n = true) : s = t := by
  by_contra hne
  have hordered : spans.Pairwise fun s t => s.stop ≤ t.start ∨ t.stop ≤ s.start :=
    h.ordered.imp fun h => Or.inl h.2
  have hsymm : Std.Symm fun s t : Span => s.stop ≤ t.start ∨ t.stop ≤ s.start :=
    ⟨fun _ _ h => h.symm⟩
  have hapart := hordered.forall hs ht hne
  rw [Span.contains_iff] at hsn htn
  omega

/-- A character of a span lies in it as a whole. -/
theorem stop_of_contains (h : IsTokenization offset cs spans) {s : Span} (hs : s ∈ spans)
    {before after : List Char} {c : Char} (hcs : cs = before ++ c :: after)
    (hc : s.contains (offset + byteLength before) = true) :
    offset + byteLength (before ++ [c]) ≤ s.stop := by
  obtain ⟨start, word, rest, hword, rfl, _⟩ := h.munch s hs
  rw [Span.contains_iff] at hc
  have hbyte : offset + byteLength before < offset + byteLength start + byteLength word := hc.2
  have hlt : byteLength before < byteLength (start ++ word) := by
    rw [Text.byteLength_append]
    omega
  have hbefore : before ++ [c] <+: cs := ⟨after, by rw [hcs, List.append_assoc]; rfl⟩
  have hbehind : start ++ word <+: cs := ⟨rest, by rw [hword, List.append_assoc]⟩
  obtain ⟨ds, hds⟩ := Text.isPrefix_of_byteLength_lt hbefore hbehind hlt
  have hlength : byteLength (before ++ [c]) ≤ byteLength (start ++ word) := by
    rw [← hds, Text.byteLength_append (before ++ [c])]
    exact Nat.le_add_right _ _
  rw [Text.byteLength_append start word] at hlength
  show _ ≤ offset + byteLength start + byteLength word
  omega

/-- **Every emoji by itself lies in exactly one span.** -/
theorem existsUnique_of_isBase (h : IsTokenization offset cs spans) {before after : List Char}
    {c : Char} (hcs : cs = before ++ c :: after) (hc : isBase c = true) :
    ∃! s, s ∈ spans ∧ s.start ≤ offset + byteLength before ∧
      offset + byteLength (before ++ [c]) ≤ s.stop := by
  obtain ⟨s, hs, hcontains⟩ : ∃ s ∈ spans, s.contains (offset + byteLength before) = true := by
    by_contra hnone
    have hout : ∀ s ∈ spans, s.contains (offset + byteLength before) = false :=
      fun s hs => Bool.eq_false_iff.2 fun hcontains => hnone ⟨s, hs, hcontains⟩
    exact (h.outside before (c :: after) hcs hout).1 [c] ⟨after, rfl⟩ (singleton_mem_grammar hc)
  have hlt : byteLength before < byteLength (before ++ [c]) := by
    rw [Text.byteLength_append]
    exact Nat.lt_add_of_pos_right (Text.byteLength_pos (List.cons_ne_nil c []))
  refine ⟨s, ⟨hs, ?_, h.stop_of_contains hs hcs hcontains⟩, ?_⟩
  · exact (Span.contains_iff.1 hcontains).1
  · rintro t ⟨ht, hstart, hstop⟩
    refine h.eq_of_contains ht hs ?_ hcontains
    rw [Span.contains_iff]
    omega

end IsTokenization

/-- **The spans of the pieces of a text hold its emoji.** -/
theorem isTokenization_spansFrom (offset : Nat) (cs : List Char) :
    IsTokenization offset cs (spansFrom offset (pieces cs)) := by
  fun_induction pieces cs generalizing offset with
  | case1 => exact .nil
  | case2 c cs n h ih => exact .emoji h (ih _)
  | case3 c cs h ih => exact .plain h (ih _)

/-- What is found in a text stands there and is an emoji. -/
theorem exists_of_mem_find {text : String} {s : Span} (hs : s ∈ find text) :
    ∃ before word after, text.toList = before ++ (word ++ after) ∧ word ∈ grammar ∧
      s = ⟨byteLength before, byteLength word⟩ := by
  obtain ⟨before, word, after, htext, hword, hspan⟩ :=
    ((isTokenization_spansFrom 0 text.toList).munch s hs).exists_mem_grammar
  rw [Nat.zero_add] at hspan
  exact ⟨before, word, after, htext, hword, hspan⟩

/-- **The emoji found in a text are all there are**, each the longest where it begins, and every
character that is an emoji by itself lies in exactly one of them. -/
theorem isTokenization_find (text : String) : IsTokenization 0 text.toList (find text) ∧
    ∀ before c after, text.toList = before ++ c :: after → isBase c = true →
      ∃! s, s ∈ find text ∧ s.start ≤ byteLength before ∧
        byteLength (before ++ [c]) ≤ s.stop := by
  have h := isTokenization_spansFrom 0 text.toList
  refine ⟨h, fun before c after htext hc => ?_⟩
  have hunique := h.existsUnique_of_isBase htext hc
  rw [Nat.zero_add, Nat.zero_add] at hunique
  exact hunique

end Emoji
end EmojiLint
