import EmojiLint.Proofs.Removal

/-!
# What is left behind an emoji

An emoji takes the variation selector behind it, and the joiner with the pictograph that it joins,
but only where its own sequence goes on that way.  A flag or a keycap never goes on, a pictograph
has room for one selector, and a joiner is taken together with a pictograph or not at all.  What an
emoji does not take stays in the text when the emoji is removed.

* `bare` — the emoji that would still take a selector: those that end in a pictograph.
* `isLongest_before_selector_iff`, `isLongest_before_joiner_iff` — which emoji end before a
  selector, and which before a joiner.
* `IsFound`, `isFound_iff` — an emoji that begins somewhere is found as far as it reaches.
* `IsFound.remove_eq` — removing it leaves what stands before it and behind it.
* `isFound_before_iff` — so which selectors and joiners are left is known exactly.
-/

set_option autoImplicit false

open Computability

namespace EmojiLint
namespace Emoji

open Text (byteLength)

variable {kind : Char → Bool} {c p : Char} {v w word rest before after : List Char} {n : Nat}

/-! ## What a selector or a joiner belongs to -/

/-- A selector and a joiner are nothing else. -/
def isLink (c : Char) : Bool :=
  c == variationSelector || c == joiner

theorem isLink_eq_true_iff : isLink c = true ↔ c = variationSelector ∨ c = joiner := by
  rw [isLink, Bool.or_eq_true, beq_iff_eq, beq_iff_eq]

/-- The emoji that would still take a selector: those that end in a pictograph. -/
def bare : Language Char :=
  one isBase + sequence * (one (· == joiner) * one isPictograph)

/-- A kind of characters without the selector and the joiner. -/
theorem not_isLink (hselector : kind variationSelector = false) (hjoiner : kind joiner = false)
    (hc : kind c = true) : (!isLink c) = true := by
  rw [Bool.not_eq_true', Bool.eq_false_iff]
  intro hlink
  rcases isLink_eq_true_iff.1 hlink with rfl | rfl
  · rw [hselector] at hc
    cases hc
  · rw [hjoiner] at hc
    cases hc

theorem madeOf_base : MadeOf (one isBase) fun c => !isLink c :=
  madeOf_one fun _ => not_isLink (by decide) (by decide)

theorem madeOf_skinTone : MadeOf (one isModifier) fun c => !isLink c :=
  madeOf_one fun _ => not_isLink (by decide) (by decide)

/-- No selector and no joiner stands in a decoration. -/
theorem madeOf_decoration : MadeOf decoration fun c => !isLink c := by
  have htag : MadeOf (one isTag) fun c => !isLink c :=
    madeOf_one fun _ => not_isLink (by decide) (by decide)
  have hcancel : MadeOf (one (· == cancelTag)) fun c => !isLink c :=
    madeOf_one fun c hc => by rw [beq_iff_eq.1 hc]; decide
  exact madeOf_skinTone.add ((htag.mul htag.kstar).mul hcancel)

/-! ## Where a sequence holds a selector or a joiner -/

theorem eq_of_mem_selector (h : w ++ c :: v ∈ selector) : w = [] ∧ c = variationSelector := by
  rcases mem_selector.1 h with hnil | hone
  · exact absurd hnil (List.append_ne_nil_of_right_ne_nil w (List.cons_ne_nil c v))
  · rcases List.append_eq_singleton_iff.1 hone with ⟨rfl, hcons⟩ | ⟨-, hcons⟩
    · exact ⟨rfl, (List.cons.inj hcons).1⟩
    · cases hcons

/-- A selector or a joiner of a sequence is the selector behind the first character, or it belongs
to what is joined. -/
theorem exists_of_link_mem_sequence (hc : isLink c = true) (h : w ++ c :: v ∈ sequence) :
    w ∈ one isBase ∧ c = variationSelector ∨
      ∃ x y x' y', w = x ++ y ∧ v = x' ++ y' ∧ x ∈ sequence ∧ y ++ c :: x' ∈ joined := by
  have hnot : (!isLink c) = false := by rw [hc, Bool.not_true]
  rcases mem_mul_of_append_cons h with ⟨_, _, rfl, hfront, -⟩ | ⟨x, _, rfl, hfront, hjoined⟩
  · rcases mem_mul_of_append_cons hfront with ⟨_, _, rfl, hstart, -⟩ | ⟨_, _, -, -, hdecoration⟩
    · rcases mem_mul_of_append_cons hstart with ⟨_, _, -, hbase, -⟩ | ⟨b, _, rfl, hbase, hselector⟩
      · exact absurd hbase (madeOf_base.notMem hnot)
      · obtain ⟨rfl, rfl⟩ := eq_of_mem_selector hselector
        rw [List.append_nil]
        exact Or.inl ⟨hbase, rfl⟩
    · exact absurd hdecoration (madeOf_decoration.opt.notMem hnot)
  · obtain ⟨y, z, x', y', rfl, rfl, hy, hz⟩ := mem_kstar_of_append_cons hjoined
    refine Or.inr ⟨x ++ y, z, x', y', (List.append_assoc _ _ _).symm, rfl, ?_, hz⟩
    exact Language.append_mem_mul hfront hy

/-- In what is joined, a selector stands right behind the pictograph. -/
theorem mem_mul_of_selector_mem_joined (h : w ++ variationSelector :: v ∈ joined) :
    w ∈ one (· == joiner) * one isPictograph := by
  rcases mem_mul_of_append_cons h with ⟨_, _, rfl, hfront, -⟩ | ⟨_, _, -, -, hmodifier⟩
  · rcases mem_mul_of_append_cons hfront with ⟨_, _, -, hpair, -⟩ | ⟨_, _, rfl, hpair, hselector⟩
    · have hjoiner : MadeOf (one (· == joiner)) (· != variationSelector) :=
        madeOf_one fun _ hc => by rw [beq_iff_eq.1 hc]; rfl
      have hpictograph : MadeOf (one isPictograph) (· != variationSelector) :=
        madeOf_one fun _ hc => bne_iff_ne.2 fun heq => absurd (heq ▸ hc) (by decide)
      exact absurd hpair ((hjoiner.mul hpictograph).notMem (by decide))
    · rw [(eq_of_mem_selector hselector).1, List.append_nil]
      exact hpair
  · exact absurd hmodifier (madeOf_skinTone.opt.notMem (by decide))

/-- In what is joined, a joiner stands at the start and the pictograph behind it. -/
theorem exists_of_joiner_mem_joined (h : w ++ joiner :: v ∈ joined) :
    ∃ p x, isPictograph p = true ∧ v = p :: x := by
  obtain ⟨p, s, t, hp, hs, ht, heq⟩ := mem_joined.1 h
  cases w with
  | nil => exact ⟨p, s ++ t, hp, (List.cons.inj heq).2⟩
  | cons d w =>
    have hmem : joiner ∈ p :: (s ++ t) :=
      (List.cons.inj heq).2 ▸ List.mem_append_right w List.mem_cons_self
    rcases List.mem_cons.1 hmem with rfl | hmem
    · exact absurd hp (by decide)
    · rcases List.mem_append.1 hmem with hmem | hmem
      · obtain ⟨x, y, rfl⟩ := List.append_of_mem hmem
        exact absurd (eq_of_mem_selector hs).2 (by decide)
      · exact absurd (madeOf_skinTone.opt ht joiner hmem) (by decide)

/-- **In a sequence, what stands before a selector could end there.** -/
theorem mem_bare_of_mem_sequence (h : w ++ variationSelector :: v ∈ sequence) : w ∈ bare := by
  rcases exists_of_link_mem_sequence (by decide) h with ⟨hbase, -⟩ | ⟨x, y, _, _, rfl, -, hx, hy⟩
  · exact Or.inl hbase
  · exact Or.inr (Language.append_mem_mul hx (mem_mul_of_selector_mem_joined hy))

/-- **In a sequence, a pictograph stands behind a joiner.** -/
theorem exists_of_joiner_mem_sequence (h : w ++ joiner :: v ∈ sequence) :
    ∃ p x, isPictograph p = true ∧ v = p :: x := by
  rcases exists_of_link_mem_sequence (by decide) h with ⟨-, heq⟩ | ⟨_, _, _, y', -, rfl, -, hjoined⟩
  · exact absurd heq (by decide)
  · obtain ⟨p, x, hp, rfl⟩ := exists_of_joiner_mem_joined hjoined
    exact ⟨p, x ++ y', hp, rfl⟩

/-- A sequence goes on with one more joined pictograph. -/
theorem append_joined_mem_sequence (hw : w ∈ sequence) (hv : v ∈ joined) : w ++ v ∈ sequence := by
  obtain ⟨x, hx, y, hy, rfl⟩ := Language.mem_mul.1 hw
  rw [List.append_assoc]
  exact Language.append_mem_mul hx (append_mem_kstar_of_mem hy hv)

/-- What is bare takes a selector. -/
theorem append_selector_mem_sequence (h : w ∈ bare) : w ++ [variationSelector] ∈ sequence := by
  have hselector : [variationSelector] ∈ selector := mem_selector.2 (Or.inr rfl)
  rcases h with hbase | hjoined
  · have hfront := Language.append_mem_mul (Language.append_mem_mul hbase hselector)
      (mem_opt.2 (Or.inl rfl) : [] ∈ opt decoration)
    rw [List.append_nil] at hfront
    exact List.append_nil (w ++ _) ▸ Language.append_mem_mul hfront (Language.nil_mem_kstar joined)
  · obtain ⟨a, ha, b, hb, rfl⟩ := Language.mem_mul.1 hjoined
    have hlast := Language.append_mem_mul (Language.append_mem_mul hb hselector)
      (mem_opt.2 (Or.inl rfl) : [] ∈ opt (one isModifier))
    rw [List.append_nil] at hlast
    rw [List.append_assoc]
    exact append_joined_mem_sequence ha hlast

/-- A sequence takes a joiner with a pictograph. -/
theorem append_joiner_mem_sequence (hw : w ∈ sequence) (hp : isPictograph p = true) :
    w ++ [joiner, p] ∈ sequence :=
  append_joined_mem_sequence hw
    (mem_joined.2 ⟨p, [], [], hp, mem_selector.2 (Or.inl rfl), mem_opt.2 (Or.inl rfl), rfl⟩)

/-! ## Emoji that go on -/

/-- A flag or a keycap never goes on. -/
theorem isLongest_of_mem_flag_add_keycap (hw : w ∈ flag + keycap) (v : List Char) :
    IsLongest grammar (w ++ v) w.length := by
  obtain ⟨d, ds, rfl, -, -⟩ := exists_of_mem_grammar (Or.inl hw)
  have hpre : d :: ds <+: d :: (ds ++ v) := List.prefix_append (d :: ds) v
  obtain ⟨n, hn, hlength⟩ : ∃ n, tail? d (ds ++ v) = some n ∧ (d :: ds).length = n + 1 := by
    rcases hw with hw | hw
    · obtain ⟨hd, hcount, hlength⟩ := countFirst_of_isPrefix_flag hpre hw
      exact ⟨1, if_pos ⟨hd, hcount⟩, hlength⟩
    · exact tail?_of_isPrefix_keycap hpre hw
  rw [hlength]
  exact isLongest_grammar hn

/-- Only a sequence goes on with a selector or a joiner, and as a sequence. -/
theorem mem_sequence_of_append_mem_grammar (hw : w ∈ grammar) (hc : isLink c = true)
    (h : w ++ c :: v ∈ grammar) : w ∈ sequence ∧ w ++ c :: v ∈ sequence := by
  rcases hw with hw | hw
  · have hle := (isLongest_of_mem_flag_add_keycap hw (c :: v)).length_le List.prefix_rfl h
    rw [List.length_append, List.length_cons] at hle
    omega
  refine ⟨hw, ?_⟩
  cases w with
  | nil => exact absurd hw nil_notMem_sequence
  | cons d ds =>
    have hd := startsIn_sequence hw
    rcases h with (h | h) | h
    · obtain ⟨a, b, -, hb, heq⟩ := mem_flag.1 h
      have hmem : c ∈ [b] := (List.cons.inj heq).2 ▸ List.mem_append_right ds List.mem_cons_self
      rw [List.mem_singleton] at hmem
      obtain rfl | rfl := isLink_eq_true_iff.1 hc
      · exact absurd (hmem ▸ hb) (by decide)
      · exact absurd (hmem ▸ hb) (by decide)
    · have hkeycap := (keycapTail?_of_isPrefix_keycap List.prefix_rfl h).1
      rw [not_isBase_of_isKeycapBase hkeycap] at hd
      cases hd
    · exact h

/-- **Which emoji end before a selector**: those that are not bare. -/
theorem isLongest_before_selector_iff :
    IsLongest grammar (w ++ variationSelector :: rest) w.length ↔ w ∈ grammar ∧ w ∉ bare := by
  rw [isLongest_append_cons_iff]
  refine and_congr_right fun hw => ⟨fun h hbare => ?_, fun h v hv hmem => ?_⟩
  · exact h [] List.nil_prefix (Or.inr (append_selector_mem_sequence hbare))
  · exact h (mem_bare_of_mem_sequence (mem_sequence_of_append_mem_grammar hw (by decide) hmem).2)

/-- **Which emoji end before a joiner**: flags and keycaps, and before anything but a pictograph all
others. -/
theorem isLongest_before_joiner_iff :
    IsLongest grammar (w ++ joiner :: rest) w.length ↔
      w ∈ flag + keycap ∨ w ∈ sequence ∧ ∀ p ∈ rest.head?, isPictograph p = false := by
  constructor
  · intro h
    obtain ⟨hw, hgo⟩ := isLongest_append_cons_iff.1 h
    refine hw.imp_right fun hw => ⟨hw, fun p hp => Bool.eq_false_iff.2 fun hpict => ?_⟩
    obtain ⟨x, rfl⟩ := List.head?_eq_some_iff.1 hp
    exact hgo [p] (List.prefix_append [p] x) (Or.inr (append_joiner_mem_sequence hw hpict))
  · rintro (hw | ⟨hw, hrest⟩)
    · exact isLongest_of_mem_flag_add_keycap hw _
    · refine isLongest_append_cons_iff.2 ⟨Or.inr hw, fun v hv hmem => ?_⟩
      obtain ⟨p, x, hp, rfl⟩ := exists_of_joiner_mem_sequence
        (mem_sequence_of_append_mem_grammar (Or.inr hw) (by decide) hmem).2
      obtain ⟨y, rfl⟩ := hv
      rw [hrest p rfl] at hp
      cases hp

/-! ## Where emoji are found -/

/-- An emoji begins behind the first characters of a text. -/
def Begins (before after : List Char) : Prop :=
  ∃ n, ⟨byteLength before, n⟩ ∈ find (String.ofList (before ++ after))

/-- An emoji is found between two parts of a text. -/
def IsFound (before word after : List Char) : Prop :=
  ⟨byteLength before, byteLength word⟩ ∈ find (String.ofList (before ++ (word ++ after)))

/-- What is found is the longest emoji there. -/
theorem exists_isLongest_of_mem_find
    (h : ⟨byteLength before, n⟩ ∈ find (String.ofList (before ++ after))) :
    ∃ word rest, after = word ++ rest ∧ n = byteLength word ∧
      IsLongest grammar after word.length := by
  obtain ⟨before', word, rest, hcut, hspan, hlongest, -⟩ :=
    (isTokenization_spansFrom 0 _).munch _ h
  rw [String.toList_ofList] at hcut
  rw [Nat.zero_add, Span.mk.injEq] at hspan
  obtain rfl := Text.eq_of_byteLength_eq ⟨_, rfl⟩ ⟨_, hcut.symm⟩ hspan.1
  obtain rfl := List.append_cancel_left hcut
  exact ⟨word, rest, rfl, hspan.2, hlongest⟩

/-- **An emoji that begins somewhere is found as far as it reaches.** -/
theorem isFound_iff : IsFound before word after ↔
    Begins before (word ++ after) ∧ IsLongest grammar (word ++ after) word.length := by
  constructor
  · intro h
    obtain ⟨word', rest, hrest, hbytes, hlongest⟩ := exists_isLongest_of_mem_find h
    obtain rfl := Text.eq_of_byteLength_eq ⟨_, rfl⟩ ⟨_, hrest.symm⟩ hbytes
    exact ⟨⟨_, h⟩, hlongest⟩
  · rintro ⟨⟨n, hn⟩, hlongest⟩
    obtain ⟨word', rest, hrest, rfl, hlongest'⟩ := exists_isLongest_of_mem_find hn
    obtain rfl := (List.append_inj hrest (hlongest.unique hlongest')).1
    exact hn

/-! ## Removing an emoji -/

/-- **Removing an emoji leaves what stands before it and behind it as it would be alone.** -/
theorem IsFound.remove_eq (h : IsFound before word after) :
    remove (String.ofList (before ++ (word ++ after))) =
      remove (String.ofList before) ++ remove (String.ofList after) := by
  obtain ⟨front, d, ds, back, hpieces, hspan⟩ := exists_of_mem_spansFrom h
  rw [String.toList_ofList] at hpieces
  have hcut := flatMap_text_pieces (before ++ (word ++ after))
  rw [hpieces, List.flatMap_append, List.flatMap_cons, Piece.text] at hcut
  rw [Nat.zero_add, Span.mk.injEq] at hspan
  obtain rfl := Text.eq_of_byteLength_eq ⟨_, rfl⟩ ⟨_, hcut⟩ hspan.1
  have hrest := List.append_cancel_left hcut
  obtain rfl := Text.eq_of_byteLength_eq ⟨_, rfl⟩ ⟨_, hrest⟩ hspan.2
  obtain rfl := List.append_cancel_left hrest
  have hsplit : pieces (front.flatMap Piece.text ++ (d :: ds ++ back.flatMap Piece.text)) =
      (front ++ [.emoji d ds]) ++ back := by
    rw [hpieces, List.append_assoc, List.singleton_append]
  rw [remove, remove, remove, String.toList_ofList, String.toList_ofList, String.toList_ofList,
    pieces_of_pieces_eq_append hpieces, pieces_flatMap_text hsplit, hpieces, plainText_append,
    plainText_emoji, String.ofList_append]

/-- With a selector or a joiner no emoji begins. -/
theorem remove_cons_of_isLink (hc : isLink c = true) (rest : List Char) :
    remove (String.ofList (c :: rest)) = String.singleton c ++ remove (String.ofList rest) := by
  have hnone : tail? c rest = none := by
    obtain rfl | rfl := isLink_eq_true_iff.1 hc
    · have hindicator : isRegionalIndicator variationSelector = false := by decide
      have hkeycap : isKeycapBase variationSelector = false := by decide
      have hbase : isBase variationSelector = false := by decide
      simp [tail?, hindicator, hkeycap, hbase]
    · have hindicator : isRegionalIndicator joiner = false := by decide
      have hkeycap : isKeycapBase joiner = false := by decide
      have hbase : isBase joiner = false := by decide
      simp [tail?, hindicator, hkeycap, hbase]
  rw [remove, remove, String.toList_ofList, String.toList_ofList, pieces_of_tail?_eq_none hnone,
    plainText_plain, ← String.toList_inj]
  simp only [String.toList_append, String.toList_ofList, String.toList_singleton,
    List.singleton_append]

/-- **Which selectors and joiners stand right behind an emoji that is found, and that removing it
leaves them.**  An emoji ends before a selector unless it is bare.  It ends before a joiner if it is
a flag or a keycap, and also otherwise if no pictograph follows the joiner. -/
theorem isFound_before_iff (before word rest : List Char) :
    (IsFound before word (variationSelector :: rest) ↔
      Begins before (word ++ variationSelector :: rest) ∧ word ∈ grammar ∧ word ∉ bare) ∧
    (IsFound before word (joiner :: rest) ↔ Begins before (word ++ joiner :: rest) ∧
      (word ∈ flag + keycap ∨ word ∈ sequence ∧ ∀ p ∈ rest.head?, isPictograph p = false)) ∧
    ∀ c, c = variationSelector ∨ c = joiner → IsFound before word (c :: rest) →
      remove (String.ofList (before ++ (word ++ c :: rest))) =
        remove (String.ofList before) ++ (String.singleton c ++ remove (String.ofList rest)) := by
  refine ⟨?_, ?_, fun c hc hfound => ?_⟩
  · rw [isFound_iff, isLongest_before_selector_iff]
  · rw [isFound_iff, isLongest_before_joiner_iff]
  · rw [← remove_cons_of_isLink (isLink_eq_true_iff.2 hc)]
    exact hfound.remove_eq

/-- A selector behind a flag is left, and so is a joiner that joins nothing. -/
theorem remove_leaves_links :
    find "🇺🇸\uFE0F" = [⟨0, 8⟩] ∧
    "🇺🇸\uFE0F".toList = [] ++ ("🇺🇸".toList ++ variationSelector :: []) ∧
    byteLength "🇺🇸".toList = 8 ∧ remove "🇺🇸\uFE0F" = "\uFE0F" ∧
    find "😀\u200D!" = [⟨0, 4⟩] ∧ remove "😀\u200D!" = "\u200D!" := by
  decide +kernel

end Emoji
end EmojiLint
