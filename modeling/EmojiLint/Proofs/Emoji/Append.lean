import EmojiLint.Proofs.Emoji.Tokenization

/-!
# Cutting a text in two

The emoji of a text that is cut in two are those of the one part and those of the other, if no emoji
reaches across the cut.  None does behind a line feed, which no emoji holds, and none before a
character of ASCII, with which an emoji can only begin.

* `tail?_congr` — which emoji begins at a character depends only on the words that begin there.
* `pieces_append`, `pieces_append_cons` — the pieces of the two parts.
* `pieces_of_pieces_eq_append` — the pieces of a text that ends between two pieces.
* `spansFrom_append`, `spansFrom_shift` — where the pieces lie.
* `find_append` — the emoji of two stretches of lines.
-/

set_option autoImplicit false

namespace EmojiLint
namespace Emoji

open Text (byteLength)

variable {c : Char} {cs ds : List Char} {n : Nat}

/-! ## What begins at a character -/

/-- The emoji that begins at a character is one of the words that begin there. -/
theorem exists_mem_grammar_of_tail? (h : tail? c cs = some n) :
    ∃ w ∈ grammar, w <+: c :: cs ∧ w.length = n + 1 := by
  have hlongest := isLongest_grammar h
  refine ⟨_, hlongest.take_mem, List.take_prefix _ _, ?_⟩
  rw [List.length_take, Nat.min_eq_left hlongest.le_length]

theorem length_le_of_tail? (h : tail? c cs = some n) : n ≤ cs.length := by
  obtain ⟨w, _, hpre, hlen⟩ := exists_mem_grammar_of_tail? h
  have hle := hpre.length_le
  rw [List.length_cons] at hle
  omega

/-- **What begins at a character depends on the words that begin there.** -/
theorem tail?_congr (h : ∀ w ∈ grammar, w <+: c :: cs ↔ w <+: c :: ds) :
    tail? c cs = tail? c ds := by
  cases hc : tail? c cs with
  | none =>
    cases hd : tail? c ds with
    | none => rfl
    | some m =>
      obtain ⟨w, hw, hpre, _⟩ := exists_mem_grammar_of_tail? hd
      exact absurd hw (notMem_grammar hc ((h w hw).2 hpre))
  | some n =>
    obtain ⟨w, hw, hpre, hlen⟩ := exists_mem_grammar_of_tail? hc
    cases hd : tail? c ds with
    | none => exact absurd hw (notMem_grammar hd ((h w hw).1 hpre))
    | some m =>
      -- Each of the two words begins both texts, so neither is longer than the other.
      obtain ⟨v, hv, hvpre, hvlen⟩ := exists_mem_grammar_of_tail? hd
      have := (isLongest_grammar hc).length_le ((h v hv).2 hvpre) hv
      have := (isLongest_grammar hd).length_le ((h w hw).1 hpre) hw
      rw [show n = m by omega]

/-- Where no emoji begins, none begins when the text ends earlier. -/
theorem tail?_eq_none_of_isPrefix (h : tail? c cs = none) (hpre : ds <+: cs) :
    tail? c ds = none := by
  cases hd : tail? c ds with
  | none => rfl
  | some n =>
    obtain ⟨w, hw, hwpre, -⟩ := exists_mem_grammar_of_tail? hd
    exact absurd hw (notMem_grammar h (hwpre.trans (List.cons_prefix_cons.2 ⟨rfl, hpre⟩)))

/-- An emoji is the same when the text ends behind it. -/
theorem tail?_of_isPrefix (h : tail? c cs = some n) (htake : cs.take n <+: ds) (hpre : ds <+: cs) :
    tail? c ds = some n := by
  have hlongest := isLongest_grammar h
  have htake' : c :: cs.take n <+: c :: ds := List.cons_prefix_cons.2 ⟨rfl, htake⟩
  cases hd : tail? c ds with
  | none => exact absurd hlongest.take_mem (notMem_grammar hd htake')
  | some m =>
    have hle := (isLongest_grammar hd).length_le htake' hlongest.take_mem
    rw [length_cons_take h] at hle
    obtain ⟨w, hw, hwpre, hlength⟩ := exists_mem_grammar_of_tail? hd
    have hle' := hlongest.length_le (hwpre.trans (List.cons_prefix_cons.2 ⟨rfl, hpre⟩)) hw
    rw [show m = n by omega]

/-! ## Cutting a text in two -/

/-- **A text may be cut where no emoji reaches across the cut.** -/
theorem pieces_append_of_tail?
    (h : ∀ c es, c :: es <:+ cs → tail? c (es ++ ds) = tail? c es) :
    pieces (cs ++ ds) = pieces cs ++ pieces ds := by
  fun_induction pieces cs with
  | case1 => rfl
  | case2 c cs n htail ih =>
    have hn := length_le_of_tail? htail
    have hsuffix : cs.drop n <:+ c :: cs := (List.drop_suffix n cs).trans (List.suffix_cons c cs)
    have hrest := ih fun d es hes => h d es (hes.trans hsuffix)
    have htail' : tail? c (cs ++ ds) = some n := (h c cs List.suffix_rfl).trans htail
    rw [List.cons_append, pieces_of_tail?_eq_some htail', List.take_append_of_le_length hn,
      List.drop_append_of_le_length hn, hrest, List.cons_append]
  | case3 c cs htail ih =>
    have hrest := ih fun d es hes => h d es (hes.trans (List.suffix_cons c cs))
    have htail' : tail? c (cs ++ ds) = none := (h c cs List.suffix_rfl).trans htail
    rw [List.cons_append, pieces_of_tail?_eq_none htail', hrest, List.cons_append]

theorem lineFeed_notMem {w : List Char} (hw : w ∈ grammar) : '\n' ∉ w := by
  intro hmem
  obtain ⟨d, ds, rfl, hd, hds⟩ := exists_of_mem_grammar hw
  rcases List.mem_cons.1 hmem with rfl | hmem
  · exact absurd hd (by decide)
  · exact absurd (hds _ hmem) (by decide)

/-- **A text may be cut behind a line feed**, which no emoji holds. -/
theorem pieces_append (h : ∀ d ∈ cs.getLast?, d = '\n') (ds : List Char) :
    pieces (cs ++ ds) = pieces cs ++ pieces ds := by
  refine pieces_append_of_tail? fun c es hes => ?_
  have hlast : (c :: es).getLast? = some '\n' := by
    have hmem := List.getLast?_eq_some_getLast (List.cons_ne_nil c es)
    rw [hmem, h _ (Text.mem_getLast?_of_isSuffix hes hmem)]
  exact tail?_congr fun _ hw => Text.isPrefix_append_iff hlast (lineFeed_notMem hw) ds

/-- **A text may be cut before a character of ASCII**, with which an emoji can only begin. -/
theorem pieces_append_cons {d : Char} (hd : Text.isAscii d = true) (ds : List Char) :
    pieces (cs ++ d :: ds) = pieces cs ++ pieces (d :: ds) := by
  refine pieces_append_of_tail? fun c es _ => tail?_congr fun w hw => ?_
  obtain ⟨e, es', rfl, _, hwide⟩ := exists_of_mem_grammar hw
  have hnot : d ∉ es' := fun hmem => by
    rw [isWide_eq_true.1 (hwide d hmem)] at hd
    cases hd
  rw [List.cons_prefix_cons, List.cons_prefix_cons, Text.isPrefix_append_cons_iff hnot]

theorem isPrefix_of_pieces_eq_append {front back : List Piece} (h : pieces cs = front ++ back) :
    front.flatMap Piece.text <+: cs := by
  rw [← flatMap_text_pieces cs, h, List.flatMap_append]
  exact List.prefix_append _ _

/-- A text that ends between two of its pieces is cut as it was. -/
theorem pieces_of_pieces_eq_append {front back : List Piece} (h : pieces cs = front ++ back) :
    pieces (front.flatMap Piece.text) = front := by
  induction front generalizing cs with
  | nil => rw [List.flatMap_nil, pieces]
  | cons p front ih =>
    cases cs with
    | nil =>
      rw [pieces] at h
      cases h
    | cons c cs =>
      cases htail : tail? c cs with
      | none =>
        rw [pieces_of_tail?_eq_none htail] at h
        obtain ⟨rfl, hrest⟩ := List.cons.inj h
        have hnone := tail?_eq_none_of_isPrefix htail (isPrefix_of_pieces_eq_append hrest)
        rw [List.flatMap_cons, Piece.text, List.singleton_append, pieces_of_tail?_eq_none hnone,
          ih hrest]
      | some n =>
        rw [pieces_of_tail?_eq_some htail] at h
        obtain ⟨rfl, hrest⟩ := List.cons.inj h
        have hpre : cs.take n ++ front.flatMap Piece.text <+: cs := by
          conv_rhs => rw [← List.take_append_drop n cs]
          exact (List.prefix_append_right_inj _).2 (isPrefix_of_pieces_eq_append hrest)
        have hsome := tail?_of_isPrefix htail (List.prefix_append _ _) hpre
        have hlength : (cs.take n).length = n :=
          List.length_take_of_le (length_le_of_tail? htail)
        rw [List.flatMap_cons, Piece.text, List.cons_append, pieces_of_tail?_eq_some hsome,
          List.take_left' hlength, List.drop_left' hlength, ih hrest]

/-! ## Spans -/

theorem spansFrom_append (offset : Nat) (ps qs : List Piece) :
    spansFrom offset (ps ++ qs) =
      spansFrom offset ps ++ spansFrom (offset + byteLength (ps.flatMap Piece.text)) qs := by
  induction ps generalizing offset with
  | nil => rfl
  | cons p ps ih =>
    simp only [List.cons_append, spansFrom, ih, List.flatMap_cons, Text.byteLength_append,
      Nat.add_assoc]
    split <;> rfl

/-- Every span is that of an emoji among the pieces. -/
theorem exists_of_mem_spansFrom {ps : List Piece} {offset : Nat} {s : Span}
    (hs : s ∈ spansFrom offset ps) : ∃ front d ds back, ps = front ++ .emoji d ds :: back ∧
      s = ⟨offset + byteLength (front.flatMap Piece.text), byteLength (d :: ds)⟩ := by
  induction ps generalizing offset with
  | nil => cases hs
  | cons p ps ih =>
    have hlater : s ∈ spansFrom (offset + byteLength p.text) ps →
        ∃ front d ds back, p :: ps = front ++ .emoji d ds :: back ∧
          s = ⟨offset + byteLength (front.flatMap Piece.text), byteLength (d :: ds)⟩ := by
      intro hs
      obtain ⟨front, d, ds, back, rfl, rfl⟩ := ih hs
      refine ⟨p :: front, d, ds, back, rfl, ?_⟩
      rw [List.flatMap_cons, Text.byteLength_append, Nat.add_assoc]
    cases p with
    | plain c => exact hlater hs
    | emoji c others =>
      rcases List.mem_cons.1 hs with rfl | hs
      · exact ⟨[], c, others, ps, rfl, rfl⟩
      · exact hlater hs

theorem spansFrom_shift (offset n : Nat) (ps : List Piece) :
    spansFrom (offset + n) ps = (spansFrom offset ps).map (·.shift n) := by
  induction ps generalizing offset with
  | nil => rfl
  | cons p ps ih =>
    simp only [spansFrom, Nat.add_right_comm offset n, ih]
    split <;> rfl

/-- **The emoji of two stretches of lines** are those of the first and those of the second, which
lie behind it. -/
theorem find_append {a : String} (h : a.toList.getLast? = some '\n') (b : String) :
    find (a ++ b) = find a ++ (find b).map (·.shift (byteLength a.toList)) := by
  have hlast : ∀ d ∈ a.toList.getLast?, d = '\n' := fun d hd => by
    rw [h] at hd
    exact (Option.some_inj.1 hd).symm
  rw [find, String.toList_append, pieces_append hlast, spansFrom_append, flatMap_text_pieces,
    spansFrom_shift]
  rfl

end Emoji
end EmojiLint
