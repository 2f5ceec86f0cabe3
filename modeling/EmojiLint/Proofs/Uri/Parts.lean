import EmojiLint.Proofs.Uri.Place

/-!
# Texts fall into the parts of a URI

A text is divided at the marks of a scheme, a query and a fragment.  A part without such a mark is
found again where it was put.

* `clean_of_forall` — a text without control characters, and without blanks at its ends, is clean.
* `splitAtFirst_announced` — a text falls into what stands before a mark and what comes after it.
* `IsScheme`, `scheme?_append` — a scheme in lower case is read as it is written.
-/

set_option autoImplicit false

namespace EmojiLint
namespace Uri

open Percent

variable {c mark : Char} {cs front back rest scheme : List Char} {after : Option (List Char)}

/-! ## Cleaning a text -/

theorem toNat_of_isControl_eq_false (h : isControl c = false) : 0x20 ≤ c.toNat := by
  rw [isControl, Bool.or_eq_false_iff, decide_eq_false_iff_not] at h
  exact Nat.le_of_not_lt h.1

theorem lt_toNat_of_ne (h : isControl c = false) (hne : c ≠ ' ') : 0x20 < c.toNat := by
  refine Nat.lt_of_le_of_ne (toNat_of_isControl_eq_false h) fun heq => hne ?_
  rw [← Char.ofNat_toNat c, ← heq]

theorem dropWhile_of_head? {p : Char → Bool} (h : ∀ c ∈ cs.head?, p c = false) :
    cs.dropWhile p = cs := by
  cases cs with
  | nil => rfl
  | cons c cs => exact List.dropWhile_cons_of_neg (by simpa using h c rfl)

/-- A text without control characters, and without blanks at its ends, is clean. -/
theorem clean_of_forall (hcontrol : ∀ c ∈ cs, isControl c = false) (hhead : cs.head? ≠ some ' ')
    (hlast : cs.getLast? ≠ some ' ') : clean cs = cs := by
  have hedge : ∀ c ∈ cs, c ≠ ' ' → decide (c.toNat ≤ 0x20) = false := fun c hc hne =>
    decide_eq_false (Nat.not_le.2 (lt_toNat_of_ne (hcontrol c hc) hne))
  have hfront : cs.dropWhile (fun c => c.toNat ≤ 0x20) = cs :=
    dropWhile_of_head? fun c hc => hedge c (List.mem_of_head? hc) fun heq => hhead (heq ▸ hc)
  have hback : cs.reverse.dropWhile (fun c => c.toNat ≤ 0x20) = cs.reverse := by
    refine dropWhile_of_head? fun c hc => ?_
    rw [List.head?_reverse] at hc
    exact hedge c (List.mem_of_getLast? hc) fun heq => hlast (heq ▸ hc)
  have hfilter : cs.filter (fun c => !(c = '\t' || c = '\n' || c = '\r')) = cs := by
    refine List.filter_eq_self.2 fun c hc => ?_
    have hle := toNat_of_isControl_eq_false (hcontrol c hc)
    have hne : ∀ d : Char, d.toNat < 0x20 → decide (c = d) = false := by
      rintro d hd
      refine decide_eq_false ?_
      rintro rfl
      exact absurd hle (Nat.not_le.2 hd)
    rw [hne '\t' (by decide), hne '\n' (by decide), hne '\r' (by decide)]
    rfl
  rw [clean, hfront, hback, List.reverse_reverse, hfilter]

/-- A clean text does not end in a blank. -/
theorem getLast?_clean (cs : List Char) : (clean cs).getLast? ≠ some ' ' := by
  rw [clean, List.filter_reverse, List.getLast?_reverse]
  generalize (cs.dropWhile fun c => decide (c.toNat ≤ 0x20)).reverse = backward
  have hhead := List.head?_dropWhile_not (fun c : Char => decide (c.toNat ≤ 0x20)) backward
  cases hdrop : backward.dropWhile fun c : Char => decide (c.toNat ≤ 0x20) with
  | nil => simp
  | cons c more =>
    rw [hdrop, List.head?_cons] at hhead
    dsimp only at hhead
    have hlt : 0x20 < c.toNat := Nat.lt_of_not_le (of_decide_eq_false hhead)
    have hne : ∀ d : Char, d.toNat ≤ 0x20 → c ≠ d := by
      rintro d hd rfl
      exact absurd hlt (Nat.not_lt.2 hd)
    rw [List.filter_cons_of_pos, List.head?_cons, ne_eq, Option.some_inj]
    · exact hne ' ' (by decide)
    · simp [hne '\t' (by decide), hne '\n' (by decide), hne '\r' (by decide)]

/-- What starts with neither blanks nor control characters starts the same once it is clean. -/
theorem exists_clean_append (hfront : ∀ c ∈ front, 0x20 < c.toNat) (rest : List Char) :
    ∃ rest', clean (front ++ rest) = front ++ rest' := by
  cases front with
  | nil => exact ⟨clean rest, rfl⟩
  | cons c front =>
    have hedge : ∀ d ∈ c :: front, decide (d.toNat ≤ 0x20) = false := fun d hd =>
      decide_eq_false (Nat.not_le.2 (hfront d hd))
    have hdrop : (c :: front ++ rest).dropWhile (fun c => c.toNat ≤ 0x20) = c :: front ++ rest :=
      dropWhile_of_head? fun d hd => hedge d (Option.some_inj.1 hd ▸ List.mem_cons_self)
    have hreverse : (c :: front).reverse.dropWhile (fun c => c.toNat ≤ 0x20) =
        (c :: front).reverse :=
      dropWhile_of_head? fun d hd => hedge d (List.mem_reverse.1 (List.mem_of_head? hd))
    have hkept : ∀ d ∈ c :: front, (!(d = '\t' || d = '\n' || d = '\r')) = true := by
      intro d hd
      have hne : ∀ e : Char, e.toNat ≤ 0x20 → d ≠ e := by
        rintro e he rfl
        exact absurd (hfront d hd) (Nat.not_lt.2 he)
      simp [hne '\t' (by decide), hne '\n' (by decide), hne '\r' (by decide)]
    rw [clean, hdrop, List.reverse_append, List.dropWhile_append]
    split
    · rw [hreverse, List.reverse_reverse, List.filter_eq_self.2 hkept]
      exact ⟨[], (List.append_nil _).symm⟩
    · rw [List.reverse_append, List.reverse_reverse, List.filter_append,
        List.filter_eq_self.2 hkept]
      exact ⟨_, rfl⟩

/-! ## Marks -/

theorem splitAtFirst_announced (h : mark ∉ front) (after : Option (List Char)) :
    splitAtFirst mark (front ++ announced mark after) = (front, after) := by
  cases after with
  | none =>
    rw [announced, List.append_nil, splitAtFirst, (span_of_notMem_all h).1]
    rw [List.drop_length]
  | some text =>
    rw [announced, splitAtFirst, (span_of_notMem h text).1]
    rw [List.drop_left]

theorem of_splitAtFirst (h : splitAtFirst mark cs = (front, after)) :
    mark ∉ front ∧ cs = front ++ announced mark after := by
  have hfront : mark ∉ cs.takeWhile (· ≠ mark) := fun hmem =>
    of_decide_eq_true (List.all_eq_true.1 List.all_takeWhile mark hmem) rfl
  have hdrop : cs.drop (cs.takeWhile (· ≠ mark)).length = cs.dropWhile (· ≠ mark) := by
    conv => enter [1, 2]; rw [← List.takeWhile_append_dropWhile (p := (· ≠ mark)) (l := cs)]
    exact List.drop_left
  have hcs := List.takeWhile_append_dropWhile (p := (· ≠ mark)) (l := cs)
  have hhead := List.head?_dropWhile_not (fun c : Char => decide (c ≠ mark)) cs
  rw [splitAtFirst, hdrop] at h
  cases hrest : cs.dropWhile (· ≠ mark) with
  | nil =>
    rw [hrest] at h
    obtain ⟨rfl, rfl⟩ := Prod.mk.inj h
    rw [hrest] at hcs
    exact ⟨hfront, hcs.symm⟩
  | cons c text =>
    rw [hrest] at h hhead hcs
    obtain ⟨rfl, rfl⟩ := Prod.mk.inj h
    have hc : c = mark := by simpa using hhead
    rw [hc] at hcs
    exact ⟨hfront, hcs.symm⟩

theorem mem_announced (h : c ∈ announced mark after) :
    c = mark ∨ ∃ text ∈ after, c ∈ text := by
  cases after with
  | none => cases h
  | some text => exact (List.mem_cons.1 h).imp_right fun hc => ⟨text, rfl, hc⟩

theorem eq_none_of_announced (h : (announced mark after).getLast? = none) : after = none := by
  cases after with
  | none => rfl
  | some text => exact absurd (List.getLast?_eq_none_iff.1 h) (List.cons_ne_nil mark text)

/-! ## Schemes -/

/-- A scheme in lower case. -/
structure IsScheme (scheme : List Char) : Prop where
  head : ∃ c more, scheme = c :: more ∧ c.isAlpha = true
  char : ∀ c ∈ scheme, isSchemeChar c = true
  lower : ∀ c ∈ scheme, c.toLower = c

theorem isAscii_of_isSchemeChar (h : isSchemeChar c = true) : Text.isAscii c = true := by
  simp only [isSchemeChar, Bool.or_eq_true, decide_eq_true_eq] at h
  rcases h with ((h | rfl) | rfl) | rfl
  · exact Text.isAscii_of_isAlphanum h
  · decide
  · decide
  · decide

/-- What holds of the ASCII characters in schemes holds of all. -/
theorem forall_isSchemeChar {P : Char → Prop}
    (h : ∀ n < 0x80, isSchemeChar (Char.ofNat n) = true → P (Char.ofNat n))
    (hc : isSchemeChar c = true) : P c :=
  Text.forall_isAscii (P := fun c => isSchemeChar c = true → P c) h (isAscii_of_isSchemeChar hc) hc

theorem isInner_of_isSchemeChar (h : isSchemeChar c = true) : isInner c = true :=
  forall_isSchemeChar (P := fun c => isInner c = true) (by decide +kernel) h

theorem IsScheme.isControl_eq_false (h : IsScheme scheme) (hc : c ∈ scheme) :
    isControl c = false ∧ c ≠ ' ' := by
  have hinner := isInner_of_isSchemeChar (h.char c hc)
  simp only [isInner, Bool.and_eq_true, Bool.not_eq_true', decide_eq_true_eq] at hinner
  exact ⟨hinner.1.1.1, hinner.2⟩

theorem isSchemeChar_toLower (h : isSchemeChar c = true) :
    isSchemeChar c.toLower = true ∧ c.toLower.toLower = c.toLower :=
  forall_isSchemeChar (P := fun c => isSchemeChar c.toLower = true ∧ c.toLower.toLower = c.toLower)
    (by decide +kernel) h

theorem isAlpha_toLower (h : c.isAlpha = true) : c.toLower.isAlpha = true := by
  have hchar : isSchemeChar c = true := by
    rw [isSchemeChar, Char.isAlphanum, h]
    rfl
  exact forall_isSchemeChar (P := fun c => c.isAlpha = true → c.toLower.isAlpha = true)
    (by decide +kernel) hchar h

theorem isScheme_of_scheme? (h : scheme? cs = some (scheme, rest)) :
    IsScheme scheme ∧ ∃ written, cs = written ++ ':' :: rest := by
  have hcs := List.takeWhile_append_dropWhile (p := isSchemeChar) (l := cs)
  have hdrop : cs.drop (cs.takeWhile isSchemeChar).length = cs.dropWhile isSchemeChar := by
    conv => enter [1, 2]; rw [← List.takeWhile_append_dropWhile (p := isSchemeChar) (l := cs)]
    exact List.drop_left
  unfold scheme? at h
  dsimp only at h
  rw [hdrop] at h
  split at h
  · rename_i c more rest' htake hrest
    split at h
    · rename_i halpha
      obtain ⟨rfl, rfl⟩ := Prod.mk.inj (Option.some_inj.1 h)
      have hchar : ∀ d ∈ c :: more, isSchemeChar d = true := fun d hd =>
        List.all_eq_true.1 List.all_takeWhile d (htake ▸ hd)
      refine ⟨⟨⟨_, _, rfl, isAlpha_toLower halpha⟩, fun d hd => ?_, fun d hd => ?_⟩, c :: more, ?_⟩
      · obtain ⟨e, he, rfl⟩ := List.mem_map.1 hd
        exact (isSchemeChar_toLower (hchar e he)).1
      · obtain ⟨e, he, rfl⟩ := List.mem_map.1 hd
        exact (isSchemeChar_toLower (hchar e he)).2
      · rw [← htake, ← hrest, hcs]
    · cases h
  · cases h

/-- A scheme in lower case is read as it is written. -/
theorem scheme?_append (h : IsScheme scheme) (rest : List Char) :
    scheme? (scheme ++ ':' :: rest) = some (scheme, rest) := by
  have htake : (scheme ++ ':' :: rest).takeWhile isSchemeChar = scheme := by
    rw [List.takeWhile_append_of_pos h.char, List.takeWhile_cons_of_neg (by decide),
      List.append_nil]
  have hlower : scheme.map Char.toLower = scheme :=
    (List.map_congr_left h.lower).trans (List.map_id scheme)
  obtain ⟨c, more, rfl, halpha⟩ := h.head
  unfold scheme?
  dsimp only
  rw [htake, List.drop_left]
  show (if c.isAlpha then some ((c :: more).map Char.toLower, rest) else none) = _
  rw [if_pos halpha, hlower]

end Uri
end EmojiLint
