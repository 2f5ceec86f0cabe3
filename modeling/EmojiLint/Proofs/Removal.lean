import EmojiLint.Check
import EmojiLint.Edit
import EmojiLint.Project.File
import EmojiLint.Proofs.Emoji.Append
import EmojiLint.Proofs.Ignore.Ranges
import Mathlib.Data.List.Flatten
import Mathlib.Tactic.TFAE

/-!
# What is left when every emoji is removed

Emoji are removed in one pass: those of the text are left out and the other characters are put
together as they stand.  Characters meet that way that did not meet before, and there is one kind of
emoji that they can make.  An emoji by itself never is among them, and without one only a keycap is
an emoji.

* `IsSplitKeycap` — a keycap that emoji keep apart.
* `mem_find_of_mem_keycap` — whatever stands around it, a keycap is found.
* `mem_find_remove_iff` — the emoji of a text without its emoji are the split keycaps of the text.
* `remove_leaves_splitKeycaps` — without one, removing is complete: nothing is found, reported or
  removed again.
-/

set_option autoImplicit false

namespace EmojiLint
namespace Emoji

open Text (byteLength)

variable {cs w : List Char} {c : Char} {ps : List Piece}

/-! ## The characters of pieces -/

theorem plainText_plain (c : Char) (ps : List Piece) :
    plainText (.plain c :: ps) = c :: plainText ps :=
  rfl

theorem plainText_emoji (c : Char) (others : List Char) (ps : List Piece) :
    plainText (.emoji c others :: ps) = plainText ps :=
  rfl

theorem plainText_append (ps qs : List Piece) :
    plainText (ps ++ qs) = plainText ps ++ plainText qs := by
  rw [plainText, List.filter_append, List.flatMap_append]
  rfl

theorem mem_plainText : c ∈ plainText ps ↔ .plain c ∈ ps := by
  induction ps with
  | nil => exact iff_of_false List.not_mem_nil List.not_mem_nil
  | cons p ps ih =>
    cases p with
    | plain d => simp [plainText_plain, ih]
    | emoji d others => simp [plainText_emoji, ih]

theorem plainText_of_forall_plain (h : ∀ p ∈ ps, p.isEmoji = false) :
    plainText ps = ps.flatMap Piece.text := by
  have hfilter : (ps.filter fun p => !p.isEmoji) = ps :=
    List.filter_eq_self.2 fun p hp => by rw [h p hp]; rfl
  rw [plainText, hfilter]

theorem length_plainText_le (ps : List Piece) :
    (plainText ps).length ≤ (ps.flatMap Piece.text).length :=
  (List.filter_sublist.flatMap _).length_le

/-- Every emoji that is left out makes a text shorter. -/
theorem plainText_eq_flatMap_iff :
    plainText ps = ps.flatMap Piece.text ↔ ∀ p ∈ ps, p.isEmoji = false := by
  refine ⟨fun h => ?_, plainText_of_forall_plain⟩
  induction ps with
  | nil => exact List.forall_mem_nil _
  | cons p ps ih =>
    cases p with
    | plain c =>
      rw [plainText_plain, List.flatMap_cons, Piece.text, List.singleton_append] at h
      exact List.forall_mem_cons.2 ⟨rfl, ih (List.cons.inj h).2⟩
    | emoji c others =>
      have hle := length_plainText_le ps
      rw [← plainText_emoji c others, h, List.flatMap_cons, List.length_append, Piece.text,
        List.length_cons] at hle
      omega

/-- A character that is left stands in one of the pieces. -/
theorem exists_of_plainText_eq {xs ys : List Char} {d : Char} (h : plainText ps = xs ++ d :: ys) :
    ∃ front back, ps = front ++ .plain d :: back ∧ plainText front = xs ∧ plainText back = ys := by
  induction ps generalizing xs with
  | nil => exact absurd h.symm (List.append_ne_nil_of_right_ne_nil xs (List.cons_ne_nil d ys))
  | cons p ps ih =>
    cases p with
    | emoji c others =>
      obtain ⟨front, back, rfl, hfront, hback⟩ := ih h
      exact ⟨.emoji c others :: front, back, rfl, hfront, hback⟩
    | plain c =>
      cases xs with
      | nil =>
        obtain ⟨rfl, rfl⟩ := List.cons.inj h
        exact ⟨[], ps, rfl, rfl, rfl⟩
      | cons x xs =>
        obtain ⟨rfl, hxs⟩ := List.cons.inj h
        obtain ⟨front, back, rfl, rfl, hback⟩ := ih hxs
        exact ⟨.plain c :: front, back, rfl, rfl, hback⟩

/-! ## Where no emoji begins -/

/-- What is cut off a text between two pieces is cut as it was. -/
theorem pieces_flatMap_text {front rest : List Piece} (h : pieces cs = front ++ rest) :
    pieces (rest.flatMap Piece.text) = rest := by
  induction front generalizing cs with
  | nil => rw [← List.nil_append rest, ← h, flatMap_text_pieces]
  | cons p front ih =>
    cases cs with
    | nil =>
      rw [pieces] at h
      cases h
    | cons c cs =>
      cases htail : tail? c cs with
      | none =>
        rw [pieces_of_tail?_eq_none htail] at h
        exact ih (List.cons.inj h).2
      | some n =>
        rw [pieces_of_tail?_eq_some htail] at h
        exact ih (List.cons.inj h).2

/-- **No emoji begins with a character that is a piece of its own.** -/
theorem notMem_grammar_of_plain {front rest : List Piece}
    (h : pieces cs = front ++ .plain c :: rest) (hpre : w <+: c :: rest.flatMap Piece.text) :
    w ∉ grammar := by
  have hpieces := pieces_flatMap_text h
  rw [List.flatMap_cons, Piece.text, List.singleton_append] at hpieces
  refine notMem_grammar ?_ hpre
  cases htail : tail? c (rest.flatMap Piece.text) with
  | none => rfl
  | some n =>
    rw [pieces_of_tail?_eq_some htail] at hpieces
    cases (List.cons.inj hpieces).1

/-- **No emoji by itself is left.** -/
theorem isBase_eq_false_of_mem_plainText (h : c ∈ plainText (pieces cs)) : isBase c = false := by
  obtain ⟨front, rest, hpieces⟩ := List.append_of_mem (mem_plainText.1 h)
  rw [Bool.eq_false_iff]
  intro hbase
  exact notMem_grammar_of_plain hpieces (List.prefix_append [c] _) (singleton_mem_grammar hbase)

/-! ## Keycaps -/

/-- Without an emoji by itself, only a keycap is an emoji. -/
theorem mem_keycap_of_mem_grammar (hw : w ∈ grammar) (h : ∀ c ∈ w, isBase c = false) :
    w ∈ keycap := by
  rcases hw with (hw | hw) | hw
  · obtain ⟨a, b, ha, _, rfl⟩ := mem_flag.1 hw
    have hbase := h a List.mem_cons_self
    rw [isBase_of_isRegionalIndicator ha] at hbase
    cases hbase
  · exact hw
  · cases w with
    | nil => exact absurd hw nil_notMem_sequence
    | cons c cs =>
      have hbase := h c List.mem_cons_self
      rw [startsIn_sequence hw] at hbase
      cases hbase

theorem tail?_of_isPrefix_keycap (hpre : w <+: c :: cs) (hw : w ∈ keycap) :
    ∃ n, tail? c cs = some n ∧ w.length = n + 1 := by
  obtain ⟨hc, n, hn, hlength⟩ := keycapTail?_of_isPrefix_keycap hpre hw
  refine ⟨n, ?_, hlength⟩
  rw [tail?, not_isRegionalIndicator_of_isKeycapBase hc, if_neg, if_pos hc, hn]
  rintro ⟨hfalse, _⟩
  cases hfalse

/-- **A keycap is found wherever it stands**: no emoji that begins before it can reach into it. -/
theorem mem_find_of_mem_keycap {text : String} {before after : List Char}
    (htext : text.toList = before ++ (w ++ after)) (hw : w ∈ keycap) :
    ⟨byteLength before, byteLength w⟩ ∈ find text := by
  obtain ⟨k, s, hk, _, rfl⟩ := mem_keycap.1 hw
  rw [List.cons_append, List.cons_append] at htext
  obtain ⟨n, htail, hlength⟩ : ∃ n, tail? k (s ++ [keycapFrame] ++ after) = some n ∧ _ :=
    tail?_of_isPrefix_keycap (List.prefix_append _ after) hw
  have htake : (s ++ [keycapFrame] ++ after).take n = s ++ [keycapFrame] := by
    rw [List.cons_append, List.length_cons, Nat.add_right_cancel_iff] at hlength
    rw [← hlength, List.take_left]
  rw [find, htext, pieces_append_cons (isAscii_of_isKeycapBase hk), spansFrom_append,
    flatMap_text_pieces, Nat.zero_add, List.mem_append]
  refine Or.inr ?_
  rw [pieces_of_tail?_eq_some htail, htake]
  exact List.mem_cons_self

/-- Pieces that hold a keycap which emoji keep apart: they begin with its first character, end with
its frame, and there is an emoji between. -/
structure IsSplitKeycap (ps : List Piece) : Prop where
  keycap : plainText ps ∈ keycap
  apart : ∃ k between, ps = .plain k :: (between ++ [.plain keycapFrame]) ∧
    ∃ p ∈ between, p.isEmoji = true

/-- A keycap among the characters that are left comes from pieces that emoji keep apart. -/
theorem exists_isSplitKeycap {before after : List Char}
    (hsplit : plainText (pieces cs) = before ++ (w ++ after)) (hw : w ∈ keycap) :
    ∃ front mid back, pieces cs = front ++ (mid ++ back) ∧ IsSplitKeycap mid ∧
      plainText front = before ∧ plainText mid = w := by
  obtain ⟨k, selector, _, _, rfl⟩ := mem_keycap.1 hw
  rw [List.cons_append, List.cons_append, List.append_assoc, List.singleton_append] at hsplit
  obtain ⟨front, rest, hpieces, rfl, hrest⟩ := exists_of_plainText_eq hsplit
  obtain ⟨between, back, rfl, rfl, rfl⟩ := exists_of_plainText_eq hrest
  have hmid : plainText (.plain k :: (between ++ [.plain keycapFrame])) =
      k :: plainText between ++ [keycapFrame] := by
    rw [plainText_plain, plainText_append]
    rfl
  have hemoji : ∃ p ∈ between, p.isEmoji = true := by
    -- Otherwise the keycap would stand in the text itself, and begin at a piece that is no emoji.
    by_contra hnone
    have hplain : ∀ p ∈ between, p.isEmoji = false := fun p hp =>
      Bool.eq_false_iff.2 fun hemoji => hnone ⟨p, hp, hemoji⟩
    refine notMem_grammar_of_plain hpieces ?_ (Or.inl (Or.inr hw))
    rw [List.cons_append, List.cons_prefix_cons, List.flatMap_append,
      plainText_of_forall_plain hplain]
    exact ⟨rfl, (List.prefix_append_right_inj _).2 (List.prefix_append _ _)⟩
  refine ⟨front, .plain k :: (between ++ [.plain keycapFrame]), back, ?_, ?_, rfl, hmid⟩
  · rw [hpieces, List.cons_append, List.append_assoc, List.singleton_append]
  · exact ⟨hmid ▸ hw, k, between, rfl, hemoji⟩

/-- **What is left when the emoji of a text are removed holds an emoji exactly where the text held a
split keycap.** -/
theorem mem_find_remove_iff {text : String} {s : Span} :
    s ∈ find (remove text) ↔ ∃ front mid back, pieces text.toList = front ++ (mid ++ back) ∧
      IsSplitKeycap mid ∧ s = ⟨byteLength (plainText front), byteLength (plainText mid)⟩ := by
  refine ⟨fun hs => ?_, ?_⟩
  · obtain ⟨before, word, after, hsplit, hgrammar, rfl⟩ := exists_of_mem_find hs
    rw [remove, String.toList_ofList] at hsplit
    have hkeycap : word ∈ keycap := mem_keycap_of_mem_grammar hgrammar fun c hc => by
      have hleft : c ∈ plainText (pieces text.toList) := by
        rw [hsplit]
        exact List.mem_append_right _ (List.mem_append_left _ hc)
      exact isBase_eq_false_of_mem_plainText hleft
    obtain ⟨front, mid, back, hpieces, hmid, rfl, rfl⟩ := exists_isSplitKeycap hsplit hkeycap
    exact ⟨front, mid, back, hpieces, hmid, rfl⟩
  · rintro ⟨front, mid, back, hpieces, hmid, rfl⟩
    have hsplit : (remove text).toList = plainText front ++ (plainText mid ++ plainText back) := by
      rw [remove, String.toList_ofList, hpieces, plainText_append, plainText_append]
    exact mem_find_of_mem_keycap hsplit hmid.keycap

/-! ## Texts without emoji -/

theorem spansFrom_eq_nil_iff {offset : Nat} :
    spansFrom offset ps = [] ↔ ∀ p ∈ ps, p.isEmoji = false := by
  induction ps generalizing offset with
  | nil => exact iff_of_true rfl (List.forall_mem_nil _)
  | cons p ps ih =>
    rw [List.forall_mem_cons, spansFrom, ← @ih (offset + byteLength p.text)]
    cases p with
    | plain c => exact (and_iff_right rfl).symm
    | emoji c others =>
      refine iff_of_false (List.cons_ne_nil _ _) ?_
      rintro ⟨hfalse, _⟩
      cases hfalse

theorem remove_eq_self_iff {text : String} : remove text = text ↔ find text = [] := by
  rw [find, spansFrom_eq_nil_iff, ← plainText_eq_flatMap_iff, flatMap_text_pieces, remove,
    ← String.toList_inj, String.toList_ofList]

/-- Removing only leaves characters out. -/
theorem sublist_remove (text : String) : (remove text).toList.Sublist text.toList := by
  have hsublist : (plainText (pieces text.toList)).Sublist
      ((pieces text.toList).flatMap Piece.text) := List.filter_sublist.flatMap _
  rwa [flatMap_text_pieces, ← String.toList_ofList (l := plainText _), ← remove] at hsublist

/-- **A text is shorter without its emoji.** -/
theorem length_remove_lt {text : String} (h : find text ≠ []) :
    (remove text).toList.length < text.toList.length := by
  refine Nat.lt_of_le_of_ne (sublist_remove text).length_le fun heq => h ?_
  exact remove_eq_self_iff.1 (String.toList_inj.1 ((sublist_remove text).eq_of_length heq))

theorem remove?_eq_none_iff {text : String} : remove? text = none ↔ find text = [] := by
  rw [find, spansFrom_eq_nil_iff, remove?]
  simp

end Emoji

open Emoji
open Text (byteLength)

theorem removeAllEdit?_eq_none_iff {text : String} :
    removeAllEdit? text = none ↔ find text = [] := by
  rw [removeAllEdit?, Option.map_eq_none_iff, remove?_eq_none_iff]

theorem eq_of_removeAllEdit?_eq_some {text : String} {edit : TextEdit}
    (h : removeAllEdit? text = some edit) :
    edit = ⟨⟨0, byteLength text.toList⟩, Emoji.remove text⟩ := by
  obtain ⟨newText, hremove, rfl⟩ := Option.map_eq_some_iff.1 h
  rw [Emoji.remove?] at hremove
  split at hremove
  · rw [Option.some_inj.1 hremove]
  · cases hremove

/-- With nothing ignored, every emoji is reported. -/
theorem forall_reportable_eq_nil_iff {text : String} :
    (∀ language flags, reportable text language flags = []) ↔ find text = [] := by
  refine ⟨fun h => ?_, fun h language flags => by rw [reportable, h]; rfl⟩
  have hplain := h "plaintext" ⟨false, false, false⟩
  have hignored : Ignore.ignoredRanges text "plaintext" ⟨false, false, false⟩ = .empty := by
    rw [Ignore.ignoredRanges, if_neg (by decide), if_pos (by decide)]
  rw [reportable, hignored] at hplain
  rw [← hplain, eq_comm, List.filter_eq_self]
  intro s _
  rw [Bool.eq_false_iff.2 (Ignore.Merged.not_contains_empty s.start)]
  rfl

/-- A file without emoji is left alone. -/
theorem Disk.clean_of_find_eq_nil {disk : Disk} {p : Path} {text : String}
    (hread : disk.readText p = .ok text) (h : Emoji.find text = []) :
    disk.clean p = (.ok false, disk) := by
  rw [Disk.clean, hread]
  simp only [remove?_eq_none_iff.2 h]

/-- **The emoji that removing leaves in a text are its split keycaps.**  A text without them, and no
other, is clean at once: nothing is found or reported in what is left, and removing again changes
neither the text nor the file that holds it. -/
theorem remove_leaves_splitKeycaps (text : String) :
    (∀ s, s ∈ find (remove text) ↔ ∃ front mid back, pieces text.toList = front ++ (mid ++ back) ∧
      IsSplitKeycap mid ∧ s = ⟨byteLength (plainText front), byteLength (plainText mid)⟩) ∧
    List.TFAE [
      ∀ mid, mid <:+: pieces text.toList → ¬ IsSplitKeycap mid,
      find (remove text) = [],
      ∀ language flags, reportable (remove text) language flags = [],
      remove (remove text) = remove text,
      removeAllEdit? (remove text) = none] ∧
    ((∀ mid, mid <:+: pieces text.toList → ¬ IsSplitKeycap mid) → ∀ (disk : Disk) (p : Path),
      disk.readText p = .ok (remove text) → disk.clean p = (.ok false, disk)) := by
  have hnone : (∀ mid, mid <:+: pieces text.toList → ¬ IsSplitKeycap mid) ↔
      find (remove text) = [] := by
    rw [List.eq_nil_iff_forall_not_mem]
    refine ⟨fun h s hs => ?_, fun h mid hinfix hmid => ?_⟩
    · obtain ⟨front, mid, back, hpieces, hmid, _⟩ := mem_find_remove_iff.1 hs
      refine h mid ⟨front, back, ?_⟩ hmid
      rw [hpieces, List.append_assoc]
    · obtain ⟨front, back, hpieces⟩ := hinfix
      refine h _ (mem_find_remove_iff.2 ⟨front, mid, back, ?_, hmid, rfl⟩)
      rw [← hpieces, List.append_assoc]
  refine ⟨fun s => mem_find_remove_iff, ?_, fun h disk p hread => ?_⟩
  · tfae_have 1 ↔ 2 := hnone
    tfae_have 3 ↔ 2 := forall_reportable_eq_nil_iff
    tfae_have 4 ↔ 2 := remove_eq_self_iff
    tfae_have 5 ↔ 2 := removeAllEdit?_eq_none_iff
    tfae_finish
  · exact Disk.clean_of_find_eq_nil hread (hnone.1 h)

/-- A digit and a frame with an emoji between become a keycap, which a second pass removes. -/
theorem find_remove_splitKeycap : find (remove "1😀\u20E3") = [⟨0, 4⟩] ∧
    remove (remove "1😀\u20E3") ≠ remove "1😀\u20E3" ∧
    removeAllEdit? (remove "1😀\u20E3") = some ⟨⟨0, 4⟩, ""⟩ := by
  decide +kernel

end EmojiLint
