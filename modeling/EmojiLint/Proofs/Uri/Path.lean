import EmojiLint.Proofs.Path.Segments
import EmojiLint.Proofs.Text.Ascii
import EmojiLint.Proofs.Uri.Percent
import EmojiLint.Uri.Read

/-!
# Paths of URIs in normal form

Once the path of a URI is resolved, reading it again changes nothing, with one exception: a segment
that names a drive gets its colon only when it comes first, and it may come first only after the
empty segments before it were dropped.

* `IsTidy` — a segment that stands for itself.
* `isTidy_of_mem_segments` — the segments of a path that was read are tidy.
* `segments_slashed` — reading a path of tidy segments gives them back, up to the colon of a drive.
* `colon_colon` — which is there after the second time.
-/

set_option autoImplicit false

namespace EmojiLint
namespace Uri

open Percent

variable {c : Char} {s cs : List Char} {ss done : List (List Char)} {file : Bool}

/-! ## Escaped dots -/

theorem plainDots_dot (hc : c = 'e' ∨ c = 'E') (cs : List Char) :
    plainDots ('%' :: '2' :: c :: cs) = '.' :: plainDots cs := by
  rw [plainDots, ← Bool.decide_or, if_pos (decide_eq_true hc)]

theorem plainDots_not_dot (hc : ¬ (c = 'e' ∨ c = 'E')) (cs : List Char) :
    plainDots ('%' :: '2' :: c :: cs) = '%' :: plainDots ('2' :: c :: cs) := by
  rw [plainDots, ← Bool.decide_or, if_neg (by rwa [decide_eq_true_eq])]

/-- What starts with anything but an escaped dot keeps its first character. -/
theorem plainDots_cons (h : ∀ d rest, c :: cs ≠ '%' :: '2' :: d :: rest) :
    plainDots (c :: cs) = c :: plainDots cs := by
  rw [plainDots]
  rintro d rest rfl rfl
  exact h d rest rfl

/-- An escape that is not one of a dot stays. -/
theorem plainDots_escape {b : UInt8} (h : b ≠ 0x2E) (cs : List Char) :
    plainDots (escape b ++ cs) = escape b ++ plainDots cs := by
  have hb : b.toNat < 256 := b.toNat_lt
  -- No digit is a percent sign, and only the byte of a dot is written with `2` and `E`.
  have hdigits : ∀ n < 256, digit (n / 16) ≠ '%' ∧ digit (n % 16) ≠ '%' ∧
      (digit (n / 16) = '2' → digit (n % 16) = 'e' ∨ digit (n % 16) = 'E' → n = 0x2E) := by
    decide +kernel
  obtain ⟨hhigh, hlow, hdot⟩ := hdigits b.toNat hb
  have hne : b.toNat ≠ 0x2E := fun heq => h (UInt8.toNat_inj.1 heq)
  have hrest : plainDots (digit (b.toNat / 16) :: digit (b.toNat % 16) :: cs) =
      digit (b.toNat / 16) :: digit (b.toNat % 16) :: plainDots cs := by
    rw [plainDots_cons, plainDots_cons]
    · exact fun d rest heq => hlow (List.cons.inj heq).1
    · exact fun d rest heq => hhigh (List.cons.inj heq).1
  rw [escape, List.cons_append, List.cons_append, List.cons_append, List.nil_append]
  by_cases hhead : digit (b.toNat / 16) = '2'
  · rw [hhead] at hrest ⊢
    rw [plainDots_not_dot fun hdots => hne (hdot hhead hdots), hrest]
    rfl
  · rw [plainDots_cons, hrest]
    · rfl
    · exact fun d rest heq => hhead (List.cons.inj (List.cons.inj heq).2).1

/-- No byte of a character that is escaped in a path is that of a dot. -/
theorem ne_dot_of_mem_utf8EncodeChar (hc : inPath c = true) {b : UInt8}
    (hb : b ∈ String.utf8EncodeChar c) : b ≠ 0x2E := by
  rintro rfl
  cases hascii : Text.isAscii c with
  | true =>
    rw [Text.utf8EncodeChar_of_isAscii hascii, List.mem_singleton] at hb
    have hdot : '.' = c := (Text.ofNat_toNat_inj (by decide) hascii).1 hb
    rw [← hdot] at hc
    exact absurd hc (by decide)
  | false => exact absurd (Text.isWide_of_mem_utf8EncodeChar hascii hb) (by decide)

theorem plainDots_flatMap_escape {bs : List UInt8} (h : ∀ b ∈ bs, b ≠ 0x2E) (cs : List Char) :
    plainDots (bs.flatMap escape ++ cs) = bs.flatMap escape ++ plainDots cs := by
  induction bs with
  | nil => rfl
  | cons b bs ih =>
    obtain ⟨hb, hbs⟩ := List.forall_mem_cons.1 h
    rw [List.flatMap_cons, List.append_assoc, plainDots_escape hb, ih hbs, List.append_assoc]

/-- What starts with `%2` after escaping did so before. -/
theorem exists_of_encode_eq {rest : List Char} {d : Char}
    (h : encode inPath cs = '2' :: d :: rest) : ∃ d rest, cs = '2' :: d :: rest := by
  cases cs with
  | nil => cases h
  | cons a cs =>
    obtain ⟨a', rest', heq, ha⟩ := exists_encode_cons inPath a cs
    rw [heq] at h
    obtain ⟨rfl, -⟩ := List.cons.inj h
    rcases ha with rfl | ha
    · rw [encode_cons_of_not (by decide)] at heq
      rw [← heq] at h
      cases cs with
      | nil => cases h
      | cons d cs => exact ⟨d, cs, rfl⟩
    · exact absurd ha (by decide)

/-- **Escaping neither makes dots nor hides them.** -/
theorem plainDots_encode (cs : List Char) :
    plainDots (encode inPath cs) = encode inPath (plainDots cs) := by
  fun_induction plainDots cs with
  | case1 c cs hc ih =>
    rw [← Bool.decide_or, decide_eq_true_eq] at hc
    have hclear : inPath c = false := by rcases hc with rfl | rfl <;> decide
    rw [encode_cons_of_not (by decide), encode_cons_of_not (by decide), encode_cons_of_not hclear,
      encode_cons_of_not (by decide), plainDots_dot hc, ih]
  | case2 c cs hc ih =>
    rw [← Bool.decide_or, decide_eq_true_eq] at hc
    rw [encode_cons_of_not (by decide), encode_cons_of_not (by decide)]
    rw [encode_cons_of_not (by decide)] at ih
    obtain ⟨d, ds, heq, hd⟩ := exists_encode_cons inPath c cs
    rw [heq] at ih ⊢
    have hne : ¬ (d = 'e' ∨ d = 'E') := by
      rcases hd with rfl | rfl
      · exact hc
      · decide
    rw [plainDots_not_dot hne, ih, encode_cons_of_not (by decide)]
  | case3 c cs hne ih =>
    cases hc : inPath c with
    | true =>
      rw [encode_cons_of_escaped hc, encode_cons_of_escaped hc, plainDots_flatMap_escape, ih]
      exact fun b hb => ne_dot_of_mem_utf8EncodeChar hc hb
    | false =>
      rw [encode_cons_of_not hc, encode_cons_of_not hc, plainDots_cons, ih]
      intro d rest heq
      obtain ⟨rfl, hrest⟩ := List.cons.inj heq
      obtain ⟨d', rest', rfl⟩ := exists_of_encode_eq hrest
      exact hne d' rest' rfl rfl
  | case4 => rfl

/-- Only one character stays one character when it is escaped. -/
theorem eq_of_encode_eq_dots (hcs : ∀ c ∈ cs, c = '.') (h : encode inPath s = cs) : s = cs := by
  have hclear : ∀ c ∈ s, inPath c = false := by
    intro c hc
    refine Bool.eq_false_iff.2 fun hescaped => ?_
    obtain ⟨front, rest, rfl⟩ := List.append_of_mem hc
    obtain ⟨b, bs, hbytes⟩ := List.exists_cons_of_ne_nil (String.utf8EncodeChar_ne_nil (c := c))
    have hmem : '%' ∈ encode inPath (front ++ c :: rest) := by
      rw [encode_append, encode_cons_of_escaped hescaped, hbytes, List.flatMap_cons, escape]
      simp
    exact absurd (hcs '%' (h ▸ hmem)) (by decide)
  rw [← h, encode_of_forall hclear]

/-! ## Tidy segments -/

/-- Whether a segment means the same segment or its parent. -/
def isDots (segment : List Char) : Prop :=
  plainDots segment = ['.'] ∨ plainDots segment = ['.', '.']

/-- A segment that stands for itself. -/
structure IsTidy (segment : List Char) : Prop where
  /-- Nothing in it has to be escaped. -/
  clear : ∀ c ∈ segment, inPath c = false
  slash : '/' ∉ segment
  dots : ¬ isDots segment

theorem isTidy_nil : IsTidy [] where
  clear := fun _ h => absurd h List.not_mem_nil
  slash := List.not_mem_nil
  dots := by rw [isDots, plainDots]; simp

theorem IsTidy.encode (h : IsTidy s) : encode inPath s = s :=
  encode_of_forall h.clear

/-- A segment that is no dots is tidy once it is escaped. -/
theorem isTidy_encode (hslash : '/' ∉ s) (hdots : ¬ isDots s) : IsTidy (encode inPath s) where
  clear := fun _ h => eq_false_of_mem_encode spares_inPath h
  slash := notMem_encode hslash (by decide)
  dots := by
    rw [isDots, plainDots_encode]
    rintro (h | h)
    · exact hdots (Or.inl (eq_of_encode_eq_dots (by simp) h))
    · exact hdots (Or.inr (eq_of_encode_eq_dots (by simp) h))

/-! ## Drives -/

/-- The segment with the colon that the name of a drive has at the start of a path. -/
def driven (s : List Char) : List Char :=
  if isDrive s then s.take 1 ++ [':'] else s

theorem exists_of_isDrive (h : isDrive s = true) :
    ∃ letter mark, s = [letter, mark] ∧ letter.isAlpha = true := by
  unfold isDrive at h
  split at h
  · exact ⟨_, _, rfl, (Bool.and_eq_true_iff.1 h).1⟩
  · cases h

theorem isDrive_driven (s : List Char) : isDrive (driven s) = isDrive s := by
  rw [driven]
  cases h : isDrive s with
  | false => rw [if_neg Bool.false_ne_true, h]
  | true =>
    obtain ⟨letter, mark, rfl, halpha⟩ := exists_of_isDrive h
    rw [if_pos rfl]
    simp [isDrive, halpha]

theorem driven_driven (s : List Char) : driven (driven s) = driven s := by
  cases h : isDrive s with
  | false =>
    have hs : driven s = s := if_neg (by rw [h]; exact Bool.false_ne_true)
    rw [hs, hs]
  | true =>
    obtain ⟨letter, mark, rfl, -⟩ := exists_of_isDrive h
    have hs : driven [letter, mark] = [letter, ':'] := if_pos h
    rw [hs, driven, ← hs, isDrive_driven, if_pos h, hs]
    rfl

theorem driven_eq_nil_iff : driven s = [] ↔ s = [] := by
  rw [driven]
  cases h : isDrive s with
  | false => rw [if_neg Bool.false_ne_true]
  | true =>
    obtain ⟨letter, mark, rfl, -⟩ := exists_of_isDrive h
    rw [if_pos rfl]
    simp

theorem inPath_of_isAlpha (h : c.isAlpha = true) : inPath c = false := by
  have hall : ∀ n < 0x80, (Char.ofNat n).isAlpha = true → inPath (Char.ofNat n) = false := by
    decide +kernel
  refine Text.forall_isAscii (P := fun c => c.isAlpha = true → inPath c = false) hall ?_ h
  exact Text.isAscii_of_isAlphanum (by rw [Char.isAlphanum, h, Bool.true_or])

/-- The name of a drive is tidy once it has its colon. -/
theorem isTidy_drive {letter : Char} (h : letter.isAlpha = true) : IsTidy [letter, ':'] where
  clear := by
    intro c hc
    simp only [List.mem_cons, List.not_mem_nil, or_false] at hc
    rcases hc with rfl | rfl
    · exact inPath_of_isAlpha h
    · decide
  slash := by
    intro hc
    simp only [List.mem_cons, List.not_mem_nil, or_false] at hc
    rcases hc with rfl | hc
    · exact absurd h (by decide)
    · exact absurd hc (by decide)
  dots := by
    have hplain : plainDots [letter, ':'] = [letter, ':'] := by
      rw [plainDots_cons, plainDots_cons, plainDots]
      · intro d rest heq
        exact absurd (List.cons.inj heq).1 (by decide)
      · intro d rest heq
        cases (List.cons.inj (List.cons.inj heq).2).1
    rw [isDots, hplain]
    simp

theorem IsTidy.driven (h : IsTidy s) : IsTidy (driven s) := by
  rw [Uri.driven]
  cases hdrive : isDrive s with
  | false =>
    rw [if_neg Bool.false_ne_true]
    exact h
  | true =>
    obtain ⟨letter, mark, rfl, halpha⟩ := exists_of_isDrive hdrive
    rw [if_pos rfl]
    exact isTidy_drive halpha

/-! ## Resolving -/

theorem place_cons (hdone : done ≠ []) (s : List Char) : place file done s = encode inPath s := by
  rw [place, List.isEmpty_eq_false_iff.2 hdone, Bool.and_false, Bool.false_and,
    if_neg Bool.false_ne_true]

theorem isTidy_place (hslash : '/' ∉ s) (hdots : ¬ isDots s) : IsTidy (place file done s) := by
  rw [place]
  split
  · rename_i hdrive
    obtain ⟨letter, mark, rfl, halpha⟩ := exists_of_isDrive (Bool.and_eq_true_iff.1 hdrive).2
    exact isTidy_drive halpha
  · exact isTidy_encode hslash hdots

theorem mem_leave (h : s ∈ leave done) : s ∈ done := by
  unfold leave at h
  split at h
  · split at h
    · exact h
    · exact List.dropLast_subset done h
  · cases h

/-- One segment is resolved: what is done changes by segments that were there before, by an empty
one, and by the segment itself unless it is dots. -/
theorem exists_resolve_cons (file : Bool) (done : List (List Char)) (s : List Char)
    (ss : List (List Char)) : ∃ done', resolve file done (s :: ss) = resolve file done' ss ∧
      (∀ t ∈ done', t ∈ done ∨ t = [] ∨ (¬ isDots s ∧ t = place file done s)) ∧
      (ss = [] → done' ≠ []) := by
  have hslash : ∀ t ∈ (if ss.isEmpty then [[]] else ([] : List (List Char))), t = [] := by
    intro t ht
    split at ht
    · exact List.mem_singleton.1 ht
    · cases ht
  have hlast : ∀ front : List (List Char), ss = [] →
      front ++ (if ss.isEmpty then [[]] else ([] : List (List Char))) ≠ [] := by
    rintro front rfl
    exact List.append_ne_nil_of_right_ne_nil front (List.cons_ne_nil [] [])
  rw [resolve]
  by_cases htwo : plainDots s = ['.', '.']
  · rw [if_pos htwo]
    refine ⟨_, rfl, fun t ht => ?_, hlast _⟩
    exact (List.mem_append.1 ht).imp mem_leave fun h => Or.inl (hslash t h)
  rw [if_neg htwo]
  by_cases hone : plainDots s = ['.']
  · rw [if_pos hone]
    refine ⟨_, rfl, fun t ht => ?_, hlast _⟩
    exact (List.mem_append.1 ht).imp id fun h => Or.inl (hslash t h)
  · rw [if_neg hone]
    refine ⟨_, rfl, fun t ht => ?_, fun _ => ?_⟩
    · exact (List.mem_append.1 ht).imp id fun h =>
        Or.inr ⟨fun hdots => hdots.elim hone htwo, List.mem_singleton.1 h⟩
    · exact List.append_ne_nil_of_right_ne_nil done (List.cons_ne_nil _ [])

/-- Where the segments of a resolved path come from. -/
theorem mem_resolve {t : List Char} (h : t ∈ resolve file done ss) :
    t ∈ done ∨ t = [] ∨ ∃ s ∈ ss, ¬ isDots s ∧ ∃ before, t = place file before s := by
  induction ss generalizing done with
  | nil => exact Or.inl h
  | cons s ss ih =>
    obtain ⟨done', heq, hdone', -⟩ := exists_resolve_cons file done s ss
    rw [heq] at h
    rcases ih h with hmem | hnil | ⟨s', hs', hrest⟩
    · rcases hdone' t hmem with hmem | hnil | ⟨hdots, hplace⟩
      · exact Or.inl hmem
      · exact Or.inr (Or.inl hnil)
      · exact Or.inr (Or.inr ⟨s, List.mem_cons_self, hdots, done, hplace⟩)
    · exact Or.inr (Or.inl hnil)
    · exact Or.inr (Or.inr ⟨s', List.mem_cons_of_mem s hs', hrest⟩)

/-- A path keeps a segment. -/
theorem resolve_ne_nil (hss : ss ≠ []) : resolve file done ss ≠ [] := by
  induction ss generalizing done with
  | nil => exact absurd rfl hss
  | cons s ss ih =>
    obtain ⟨done', heq, -, hlast⟩ := exists_resolve_cons file done s ss
    rw [heq]
    cases ss with
    | nil => exact hlast rfl
    | cons => exact ih (List.cons_ne_nil _ _)

/-- Tidy segments are taken as they are, after the first one. -/
theorem resolve_of_isTidy (hss : ∀ s ∈ ss, IsTidy s) (hdone : file = false ∨ done ≠ []) :
    resolve file done ss = done ++ ss := by
  induction ss generalizing done with
  | nil => exact (List.append_nil done).symm
  | cons s ss ih =>
    obtain ⟨hs, hss⟩ := List.forall_mem_cons.1 hss
    have hplace : place file done s = s := by
      rcases hdone with rfl | hdone
      · rw [place, Bool.false_and, Bool.false_and, if_neg Bool.false_ne_true, hs.encode]
      · rw [place_cons hdone, hs.encode]
    rw [resolve, if_neg fun h => hs.dots (Or.inr h), if_neg fun h => hs.dots (Or.inl h), hplace,
      ih hss (Or.inr (by simp)), List.append_assoc, List.singleton_append]

/-- The colon of a drive at the start of a path. -/
def colon : List (List Char) → List (List Char)
  | [] => []
  | s :: ss => driven s :: ss

/-- **Tidy segments are taken as they are**, but for the colon of a drive. -/
theorem resolve_file_of_isTidy (hss : ∀ s ∈ ss, IsTidy s) : resolve true [] ss = colon ss := by
  cases ss with
  | nil => rfl
  | cons s ss =>
    obtain ⟨hs, hss⟩ := List.forall_mem_cons.1 hss
    have hplace : place true [] s = driven s := by
      rw [place, driven, hs.encode]
      rfl
    rw [resolve, if_neg fun h => hs.dots (Or.inr h), if_neg fun h => hs.dots (Or.inl h), hplace,
      List.nil_append, resolve_of_isTidy hss (Or.inr (List.cons_ne_nil _ _)), colon,
      List.singleton_append]

theorem colon_colon (ss : List (List Char)) : colon (colon ss) = colon ss := by
  cases ss with
  | nil => rfl
  | cons s ss => rw [colon, colon, driven_driven]

theorem isTidy_of_mem_colon (hss : ∀ s ∈ ss, IsTidy s) (h : s ∈ colon ss) : IsTidy s := by
  cases ss with
  | nil => cases h
  | cons t ss =>
    obtain ⟨ht, hss⟩ := List.forall_mem_cons.1 hss
    rcases List.mem_cons.1 h with rfl | h
    · exact ht.driven
    · exact hss s h

theorem colon_ne_nil (hss : ss ≠ []) : colon ss ≠ [] := by
  cases ss with
  | nil => exact absurd rfl hss
  | cons s ss => exact List.cons_ne_nil _ _

/-! ## Empty segments at the start -/

theorem mem_of_mem_dropEmpty (h : s ∈ dropEmpty ss) : s ∈ ss := by
  fun_induction dropEmpty ss with
  | case1 t ss ih => exact List.mem_cons_of_mem [] (ih h)
  | case2 => exact h

theorem dropEmpty_ne_nil (h : ss ≠ []) : dropEmpty ss ≠ [] := by
  fun_induction dropEmpty ss with
  | case1 t ss ih => exact ih (List.cons_ne_nil t ss)
  | case2 => exact h

theorem dropEmpty_dropEmpty (ss : List (List Char)) : dropEmpty (dropEmpty ss) = dropEmpty ss := by
  fun_induction dropEmpty ss with
  | case1 t ss ih => exact ih
  | case2 ss h => exact dropEmpty.eq_2 ss h

/-- The colon does not make a segment empty. -/
theorem dropEmpty_colon (ss : List (List Char)) :
    dropEmpty (colon (dropEmpty ss)) = colon (dropEmpty ss) := by
  fun_induction dropEmpty ss with
  | case1 t ss ih => exact ih
  | case2 ss h =>
    refine dropEmpty.eq_2 _ fun t rest heq => ?_
    cases ss with
    | nil => cases heq
    | cons s ss =>
      obtain ⟨hs, rfl⟩ := List.cons.inj heq
      exact h t rest (by rw [driven_eq_nil_iff.1 hs])

/-! ## Writing and reading -/

/-- Segments with a slash before each. -/
def slashed (ss : List (List Char)) : List Char :=
  ss.flatMap fun s => '/' :: s

theorem segments_slashed_tail {s : List Char} (hss : ∀ t ∈ s :: ss, '/' ∉ t) :
    Path.segments (s ++ slashed ss) = s :: ss := by
  induction ss generalizing s with
  | nil =>
    rw [slashed, List.flatMap_nil, List.append_nil,
      Path.segments_of_notMem (hss s List.mem_cons_self)]
  | cons t ss ih =>
    obtain ⟨hs, hss⟩ := List.forall_mem_cons.1 hss
    have hslashed : slashed (t :: ss) = '/' :: (t ++ slashed ss) := rfl
    rw [hslashed, Path.segments_append_cons, Path.segments_of_notMem hs, ih hss,
      List.singleton_append]

theorem segments_slashed (kind : SchemeKind) (hne : ss ≠ []) (hss : ∀ s ∈ ss, '/' ∉ s) :
    segments kind (slashed ss) = resolve (kind = .file) [] ss := by
  cases ss with
  | nil => exact absurd rfl hne
  | cons s ss =>
    have hslashed : slashed (s :: ss) = '/' :: (s ++ slashed ss) := rfl
    rw [segments, hslashed, List.head?_cons, if_pos rfl, List.drop_one, List.tail_cons,
      segments_slashed_tail hss]

theorem segments_ne_nil (kind : SchemeKind) (cs : List Char) : segments kind cs ≠ [] :=
  resolve_ne_nil (Path.segments_ne_nil _)

/-- **The segments of a path that was read are tidy.** -/
theorem isTidy_of_mem_segments {kind : SchemeKind} (h : s ∈ segments kind cs) : IsTidy s := by
  rcases mem_resolve h with h | rfl | ⟨t, ht, hdots, before, rfl⟩
  · cases h
  · exact isTidy_nil
  · exact isTidy_place (Path.slash_notMem_of_mem_segments ht) hdots

end Uri
end EmojiLint
