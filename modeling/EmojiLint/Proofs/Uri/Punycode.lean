import EmojiLint.Proofs.Text.Ascii
import EmojiLint.Uri.Domain.Punycode
import Mathlib.Tactic.ByContra
import Mathlib.Tactic.SplitIfs

/-!
# Labels in ASCII have one form

A text that was read from its form in ASCII is written in the same form again.  While the form is
read, characters go into the text in the order of their code points, so what was read at any moment
is what would be written for the text at that moment.

* `steps` — the characters beyond ASCII in their order, with the places at which they go in.
* `steps_insert` — a character that is not below any other adds one step at the end.
* `Reads` — what holds of a text that is being read; `Reads.next?` for one digit.
* `encode_of_decode?` — the form that was read is written again.
-/

set_option autoImplicit false

namespace EmojiLint
namespace Punycode

/-! ## Digits of a number -/

section Numbers

variable {bias place n : Nat} {c : Char}

theorem threshold_le (bias place : Nat) : threshold bias place ≤ 26 := by
  rw [threshold]
  split_ifs <;> omega

theorem digit_of_digitValue? (h : digitValue? c = some n) (hupper : c.isUpper = false) :
    digit n = c ∧ n < 36 := by
  have hall : ∀ k < 0x80, (Char.ofNat k).isUpper = false →
      ∀ n ∈ digitValue? (Char.ofNat k), digit n = Char.ofNat k ∧ n < 36 := by decide +kernel
  refine Text.forall_isAscii
    (P := fun c => c.isUpper = false → ∀ n ∈ digitValue? c, digit n = c ∧ n < 36) hall ?_ hupper n h
  refine Text.isAscii_of_isAlphanum ?_
  rw [digitValue?] at h
  show (c.isUpper || c.isLower || c.isDigit) = true
  split_ifs at h with hlower hup hdigit
  · rw [hlower, Bool.or_true, Bool.true_or]
  · rw [hup, Bool.true_or, Bool.true_or]
  · rw [hdigit, Bool.or_true]

/-- The last digit of a number. -/
theorem number_of_lt (h : n < threshold bias place) : number bias place n = [digit n] := by
  rw [number]
  exact if_pos h

/-- A digit before the last. -/
theorem number_of_le (h : threshold bias place ≤ n) (hn : n < 36) (m : Nat) :
    number bias place (n + (36 - threshold bias place) * m) =
      digit n :: number bias (place + 36) m := by
  have ht := threshold_le bias place
  generalize hthreshold : threshold bias place = t at h ht
  have hdiff : n + (36 - t) * m - t = (n - t) + (36 - t) * m := by omega
  have hlt : n - t < 36 - t := by omega
  have hmod : (n + (36 - t) * m - t) % (36 - t) = n - t := by
    rw [hdiff, Nat.add_mul_mod_self_left, Nat.mod_eq_of_lt hlt]
  have hdiv : (n + (36 - t) * m - t) / (36 - t) = m := by
    rw [hdiff, Nat.add_mul_div_left _ _ (by omega), Nat.div_eq_of_lt hlt, Nat.zero_add]
  rw [number]
  simp only [hthreshold]
  rw [if_neg (by omega), hmod, hdiv, Nat.add_sub_cancel' h]

end Numbers

/-! ## The steps that make a text -/

variable {c : Char} {cs front back : List Char}

/-- The order of the characters: by code points, those of one code point by their places. -/
def isBefore (p q : Char × Nat) : Bool :=
  p.1 < q.1 || (p.1 = q.1 && p.2 ≤ q.2)

/-- The characters beyond ASCII with their places in the text. -/
def others (cs : List Char) : List (Char × Nat) :=
  cs.zipIdx.filter fun p => !isAscii p.1

/-- The same in order. -/
def sorted (cs : List Char) : List (Char × Nat) :=
  (others cs).mergeSort isBefore

/-- A character, with its place among the characters before it that are not above it. -/
def placed (cs : List Char) (p : Char × Nat) : Char × Nat :=
  (p.1, (cs.take p.2).countP (· ≤ p.1))

/-- The characters beyond ASCII in their order, with the places at which they go in. -/
def steps (cs : List Char) : List (Char × Nat) :=
  (sorted cs).map (placed cs)

theorem isBefore_iff {p q : Char × Nat} : isBefore p q = true ↔
    p.1.toNat < q.1.toNat ∨ (p.1.toNat = q.1.toNat ∧ p.2 ≤ q.2) := by
  rw [isBefore, Bool.or_eq_true, Bool.and_eq_true, decide_eq_true_eq, decide_eq_true_eq,
    decide_eq_true_eq, Char.toNat_inj]
  rfl

theorem pairwise_sorted (cs : List Char) :
    (sorted cs).Pairwise fun p q => isBefore p q = true := by
  refine List.pairwise_mergeSort (fun p q r hpq hqr => ?_) (fun p q => ?_) _
  · rw [isBefore_iff] at hpq hqr ⊢
    omega
  · rw [Bool.or_eq_true, isBefore_iff, isBefore_iff]
    omega

/-- Characters in order are determined by what they are. -/
theorem sorted_eq_of_perm {ps : List (Char × Nat)} (hperm : (others cs).Perm ps)
    (hps : ps.Pairwise fun p q => isBefore p q = true) : sorted cs = ps := by
  refine List.Perm.eq_of_pairwise (fun p q _ _ hpq hqp => ?_) (pairwise_sorted cs) hps
    ((List.mergeSort_perm _ _).trans hperm)
  rw [isBefore_iff] at hpq hqp
  exact Prod.ext (Char.toNat_inj.1 (by omega)) (by omega)

/-- The place of a character after another one went in before some place. -/
def moved (place : Nat) (p : Char × Nat) : Char × Nat :=
  (p.1, if p.2 < place then p.2 else p.2 + 1)

theorem isBefore_moved {place : Nat} {p q : Char × Nat} (h : isBefore p q = true) :
    isBefore (moved place p) (moved place q) = true := by
  rw [isBefore_iff] at h ⊢
  dsimp only [moved]
  split_ifs <;> omega

/-- One more character beyond ASCII. -/
theorem others_insert (hc : isAscii c = false) (front back : List Char) :
    (others (front ++ c :: back)).Perm
      ((others (front ++ back)).map (moved front.length) ++ [(c, front.length)]) := by
  have hfront : front.zipIdx.map (moved front.length) = front.zipIdx := by
    refine (List.map_congr_left fun p hp => ?_).trans (List.map_id _)
    have hlt : p.2 < front.length := List.snd_lt_of_mem_zipIdx hp
    rw [moved, if_pos hlt]
    rfl
  have hback : (back.zipIdx front.length).map (moved front.length) =
      back.zipIdx (front.length + 1) := by
    rw [List.zipIdx_succ]
    refine List.map_congr_left fun p hp => ?_
    rw [moved, if_neg (Nat.not_lt.2 (List.le_snd_of_mem_zipIdx hp))]
  have hfilter : (others (front ++ back)).map (moved front.length) =
      (((front ++ back).zipIdx).map (moved front.length)).filter fun p => !isAscii p.1 := by
    rw [others, List.filter_map]
    rfl
  rw [hfilter, List.zipIdx_append, List.map_append, hfront, Nat.zero_add, hback, others,
    List.zipIdx_append, Nat.zero_add, List.zipIdx_cons, List.filter_append, List.filter_append,
    List.filter_cons_of_pos (by rw [hc]; rfl), List.append_assoc]
  exact List.Perm.append_left _ (List.perm_append_singleton _ _).symm

theorem mem_of_mem_others {p : Char × Nat} (h : p ∈ others cs) :
    cs[p.2]? = some p.1 ∧ isAscii p.1 = false := by
  obtain ⟨hmem, hascii⟩ := List.mem_filter.1 h
  exact ⟨List.mem_zipIdx_iff_getElem?.1 hmem, by simpa using hascii⟩

theorem mem_sorted {p : Char × Nat} : p ∈ sorted cs ↔ p ∈ others cs :=
  List.mem_mergeSort

/-- A character that is not below any other, and stands behind all of its kind, comes last. -/
theorem sorted_insert (hc : isAscii c = false) (hle : ∀ d ∈ front ++ back, d.toNat ≤ c.toNat)
    (hback : c ∉ back) : sorted (front ++ c :: back) =
      (sorted (front ++ back)).map (moved front.length) ++ [(c, front.length)] := by
  refine sorted_eq_of_perm ?_ ?_
  · refine (others_insert hc front back).trans (List.Perm.append_right _ ?_)
    exact (List.mergeSort_perm _ _).symm.map _
  · refine List.pairwise_append.2 ⟨?_, List.pairwise_singleton _ _, fun p hp q hq => ?_⟩
    · exact List.Pairwise.map _ (fun _ _ => isBefore_moved) (pairwise_sorted _)
    · obtain ⟨r, hr, rfl⟩ := List.mem_map.1 hp
      obtain ⟨hplace, -⟩ := mem_of_mem_others (mem_sorted.1 hr)
      rw [List.mem_singleton.1 hq, isBefore_iff]
      have hmem := hle r.1 (List.mem_of_getElem? hplace)
      rcases Nat.lt_or_eq_of_le hmem with hlt | heq
      · exact Or.inl hlt
      · refine Or.inr ⟨heq, ?_⟩
        -- All characters of its kind stand in front.
        have hfront : r.2 < front.length := by
          by_contra hnot
          rw [List.getElem?_append_right (Nat.le_of_not_lt hnot)] at hplace
          exact hback (Char.toNat_inj.1 heq ▸ List.mem_of_getElem? hplace)
        rw [moved, if_pos hfront]
        exact Nat.le_of_lt hfront

/-- A character that goes in last does not change where the others go in. -/
theorem placed_insert (hle : ∀ d ∈ front ++ back, d.toNat ≤ c.toNat) (hback : c ∉ back)
    {d : Char} {i : Nat} (hi : (front ++ back)[i]? = some d) :
    placed (front ++ c :: back) (moved front.length (d, i)) = placed (front ++ back) (d, i) := by
  refine Prod.ext rfl ?_
  change ((front ++ c :: back).take (if i < front.length then i else i + 1)).countP (· ≤ d) =
    ((front ++ back).take i).countP (· ≤ d)
  split_ifs with hplace
  · rw [List.take_append_of_le_length (Nat.le_of_lt hplace),
      List.take_append_of_le_length (Nat.le_of_lt hplace)]
  · have hle' : front.length ≤ i := Nat.le_of_not_lt hplace
    rw [List.getElem?_append_right hle'] at hi
    have hmem : d ∈ back := List.mem_of_getElem? hi
    have hne : d.toNat ≠ c.toNat := fun heq => hback (Char.toNat_inj.1 heq ▸ hmem)
    have hlt := hle d (List.mem_append_right front hmem)
    have hnot : ¬ c ≤ d := fun h => hne (Nat.le_antisymm hlt (UInt32.le_iff_toNat_le.1 h))
    have hsub : i + 1 - front.length = i - front.length + 1 := by omega
    rw [List.take_append, List.take_append, List.take_of_length_le (by omega),
      List.take_of_length_le hle', hsub, List.take_succ_cons, List.countP_append,
      List.countP_append, List.countP_cons_of_neg (by simpa using hnot)]

/-- **A character that is not below any other adds one step at the end.** -/
theorem steps_insert (hc : isAscii c = false) (hle : ∀ d ∈ front ++ back, d.toNat ≤ c.toNat)
    (hback : c ∉ back) :
    steps (front ++ c :: back) = steps (front ++ back) ++ [(c, front.length)] := by
  have hall : front.countP (· ≤ c) = front.length := by
    rw [List.countP_eq_length]
    exact fun d hd => decide_eq_true
      (UInt32.le_iff_toNat_le.2 (hle d (List.mem_append_left back hd)))
  rw [steps, steps, sorted_insert hc hle hback, List.map_append, List.map_map]
  congr 1
  · refine List.map_congr_left fun p hp => ?_
    exact placed_insert hle hback (mem_of_mem_others (mem_sorted.1 hp)).1
  · rw [List.map_singleton, placed, List.take_left, hall]

theorem others_of_isAscii (h : ∀ c ∈ cs, isAscii c = true) : others cs = [] := by
  refine List.filter_eq_nil_iff.2 fun p hp => ?_
  rw [h p.1 (List.fst_mem_of_mem_zipIdx hp)]
  exact Bool.false_ne_true

theorem steps_of_isAscii (h : ∀ c ∈ cs, isAscii c = true) : steps cs = [] := by
  rw [steps, sorted, others_of_isAscii h, List.mergeSort_nil, List.map_nil]

/-! ## Writing the steps -/

/-- The number of a step. -/
def Progress.distance (p : Progress) (step : Char × Nat) : Nat :=
  (step.1.toNat - p.code) * (p.size + 1) + step.2 - p.place

/-- What a step leaves behind. -/
def Progress.next (first : Nat) (p : Progress) (step : Char × Nat) : Progress :=
  ⟨step.1.toNat, step.2 + 1, p.size + 1, nextBias (p.distance step) (p.size + 1) (p.size = first)⟩

/-- The numbers of some steps. -/
def written (first : Nat) (p : Progress) : List (Char × Nat) → List Char
  | [] => []
  | step :: rest => number p.bias 36 (p.distance step) ++ written first (p.next first step) rest

/-- What is left behind before the first step. -/
def Progress.start (size : Nat) : Progress :=
  ⟨0x80, 0, size, 72⟩

theorem numbers_eq_written (whole : List Char) (first : Nat) (p : Progress)
    (ps : List (Char × Nat)) :
    numbers whole first p ps = written first p (ps.map (placed whole)) := by
  induction ps generalizing p with
  | nil => rfl
  | cons q ps ih =>
    rw [numbers, List.map_cons, written, ih]
    rfl

/-- The form of a text is its ASCII characters and the numbers of its steps. -/
theorem encode_eq (cs : List Char) : encode cs =
    (if (cs.filter isAscii).isEmpty then [] else cs.filter isAscii ++ ['-']) ++
      written (cs.filter isAscii).length (.start (cs.filter isAscii).length) (steps cs) := by
  rw [encode, numbers_eq_written]
  rfl

theorem written_append (first : Nat) (p : Progress) (ps qs : List (Char × Nat)) :
    written first p (ps ++ qs) =
      written first p ps ++ written first (ps.foldl (Progress.next first) p) qs := by
  induction ps generalizing p with
  | nil => rfl
  | cons q ps ih => rw [List.cons_append, written, ih, written, List.append_assoc, List.foldl_cons]

/-! ## Reading -/

variable {ascii consumed more : List Char} {r r' : Reading}

/-- The numbers of a text with so many ASCII characters. -/
def numbersOf (size : Nat) (cs : List Char) : List Char :=
  written size (.start size) (steps cs)

/-- What holds of a text between two numbers. -/
structure IsBuilt (ascii : List Char) (r : Reading) : Prop where
  basic : r.text.filter isAscii = ascii
  low : 0x80 ≤ r.code
  place : r.place ≤ r.text.length
  /-- No character is above the last one. -/
  below : ∀ d ∈ r.text, d.toNat ≤ r.code
  /-- All characters of its kind stand before the place after it. -/
  behind : ∀ d ∈ r.text.drop r.place, d.toNat ≠ r.code
  first : r.place = 0 ↔ r.text.length = ascii.length
  /-- Reading and writing have come equally far. -/
  progress : (steps r.text).foldl (Progress.next ascii.length) (.start ascii.length) =
    ⟨r.code, r.place, r.text.length, r.bias⟩

theorem isBuilt_start (h : ∀ c ∈ ascii, isAscii c = true) : IsBuilt ascii (.start ascii) where
  basic := List.filter_eq_self.2 h
  low := Nat.le_refl _
  place := Nat.zero_le _
  below := fun d hd => Nat.le_of_lt (of_decide_eq_true (h d hd))
  behind := fun d hd => Nat.ne_of_lt (of_decide_eq_true (h d hd))
  first := iff_of_true rfl rfl
  progress := by
    rw [Reading.start, steps_of_isAscii h]
    rfl

/-- Digits of a number do not change the text. -/
theorem IsBuilt.withDigits (h : IsBuilt ascii r) (sum weight digits : Nat) :
    IsBuilt ascii { r with sum, weight, digits } :=
  ⟨h.basic, h.low, h.place, h.below, h.behind, h.first, h.progress⟩

/-- **What a number says**: which character goes in, and at which place.  It is not below the last
one, and goes in behind it if it is of the same kind. -/
theorem exists_of_insert? (h : r.insert? = some r') :
    ∃ (c : Char) (front back : List Char), r.text = front ++ back ∧ r.code ≤ c.toNat ∧
      (c.toNat = r.code → r.place ≤ front.length) ∧
      (c.toNat - r.code) * (r.text.length + 1) + front.length - r.place = r.sum ∧
      r' = ⟨front ++ c :: back, c.toNat, front.length + 1,
        nextBias r.sum (r.text.length + 1) (r.place = 0), 0, 1, 36⟩ := by
  rw [Reading.insert?] at h
  generalize hrounds : (r.place + r.sum) / (r.text.length + 1) = rounds at h
  generalize hat : (r.place + r.sum) % (r.text.length + 1) = place at h
  split_ifs at h with hvalid
  obtain rfl := (Option.some_inj.1 h).symm
  have hdiv := Nat.div_add_mod (r.place + r.sum) (r.text.length + 1)
  rw [hrounds, hat] at hdiv
  have hlt : place < r.text.length + 1 := hat ▸ Nat.mod_lt _ (Nat.succ_pos _)
  have hnat : (Char.ofNat (r.code + rounds)).toNat = r.code + rounds := by
    rw [Char.ofNat, dif_pos hvalid]
    rfl
  have hfront : (r.text.take place).length = place := List.length_take_of_le (by omega)
  refine ⟨Char.ofNat (r.code + rounds), r.text.take place, r.text.drop place,
    (List.take_append_drop place r.text).symm, ?_, fun hsame => ?_, ?_, ?_⟩
  · rw [hnat]
    exact Nat.le_add_right _ _
  · have hzero : rounds = 0 := by omega
    rw [hzero, Nat.mul_zero, Nat.zero_add] at hdiv
    omega
  · rw [hnat, hfront, Nat.add_sub_cancel_left, Nat.mul_comm, hdiv, Nat.add_sub_cancel_left]
  · rw [hnat, hfront]

/-- **A number that was read is the number of the next step.** -/
theorem IsBuilt.insert? (h : IsBuilt ascii r) (hinsert : r.insert? = some r') :
    IsBuilt ascii r' ∧ numbersOf ascii.length r'.text =
      numbersOf ascii.length r.text ++ number r.bias 36 r.sum := by
  obtain ⟨c, front, back, htext, hle, hsame, hsum, rfl⟩ := exists_of_insert? hinsert
  have hlow : 0x80 ≤ c.toNat := Nat.le_trans h.low hle
  have hc : isAscii c = false := decide_eq_false (Nat.not_lt.2 hlow)
  have hbelow : ∀ d ∈ front ++ back, d.toNat ≤ c.toNat :=
    fun d hd => Nat.le_trans (h.below d (htext ▸ hd)) hle
  -- Of its kind there is only what stands before the place after the last character.
  have hback : ∀ d ∈ back, d.toNat ≠ c.toNat := by
    intro d hd heq
    have hcode : c.toNat = r.code :=
      Nat.le_antisymm (heq ▸ h.below d (htext ▸ List.mem_append_right front hd)) hle
    refine h.behind d ?_ (heq.trans hcode)
    rw [htext, List.drop_append_of_le_length (hsame hcode)]
    exact List.mem_append_right _ hd
  have hsteps := steps_insert hc hbelow fun hmem => hback c hmem rfl
  rw [← htext] at hsteps
  have hdistance : Progress.distance ⟨r.code, r.place, r.text.length, r.bias⟩ (c, front.length) =
      r.sum := hsum
  have hlength : (front ++ c :: back).length = r.text.length + 1 := by
    rw [htext, List.length_append, List.length_append, List.length_cons, Nat.add_assoc]
  refine ⟨⟨?_, hlow, ?_, ?_, ?_, ?_, ?_⟩, ?_⟩
  · rw [List.filter_append, List.filter_cons_of_neg (by rw [hc]; decide), ← List.filter_append,
      ← htext, h.basic]
  · rw [List.length_append, List.length_cons]
    exact Nat.add_le_add_left (Nat.le_add_left 1 _) _
  · intro d hd
    rcases List.mem_append.1 hd with hd | hd
    · exact hbelow d (List.mem_append_left _ hd)
    · rcases List.mem_cons.1 hd with rfl | hd
      · exact Nat.le_refl _
      · exact hbelow d (List.mem_append_right _ hd)
  · have hdrop : (front ++ c :: back).drop (front.length + 1) = back := by
      rw [← List.drop_drop, List.drop_left, List.drop_one, List.tail_cons]
    exact fun d hd => hback d (hdrop ▸ hd)
  · have hbasic : ascii.length ≤ r.text.length := h.basic ▸ List.length_filter_le _ _
    rw [hlength]
    exact iff_of_false (Nat.succ_ne_zero _) (by omega)
  · rw [hsteps, List.foldl_append, h.progress, List.foldl_cons, List.foldl_nil, Progress.next,
      hdistance, hlength, decide_eq_decide.2 h.first]
  · rw [numbersOf, hsteps, written_append, h.progress, written, written, hdistance,
      List.append_nil]
    rfl

/-- **What was read is what would be written.**  Of the last number, some digits may be missing. -/
structure Reads (ascii consumed : List Char) (r : Reading) : Prop where
  isBuilt : IsBuilt ascii r
  read : ∃ part, consumed = numbersOf ascii.length r.text ++ part ∧
    r.digits = 36 + 36 * part.length ∧
    ∀ m, number r.bias 36 (r.sum + r.weight * m) = part ++ number r.bias r.digits m

theorem reads_start (h : ∀ c ∈ ascii, isAscii c = true) : Reads ascii [] (.start ascii) where
  isBuilt := isBuilt_start h
  read := by
    refine ⟨[], ?_, rfl, fun m => ?_⟩
    · rw [Reading.start, numbersOf, steps_of_isAscii h, written, List.append_nil]
    · rw [Reading.start, Nat.zero_add, Nat.one_mul, List.nil_append]

theorem Reads.next? (h : Reads ascii consumed r) (hupper : c.isUpper = false)
    (hnext : r.next? c = some r') : Reads ascii (consumed ++ [c]) r' := by
  obtain ⟨hbuilt, part, rfl, hdigits, hnumber⟩ := h
  unfold Reading.next? at hnext
  obtain ⟨n, hn, hstep⟩ := Option.bind_eq_some_iff.1 hnext
  obtain ⟨hdigit, hsmall⟩ := digit_of_digitValue? hn hupper
  dsimp only at hstep
  split_ifs at hstep with hfits hlast hweight
  · -- The digit ends the number, and its character goes in.
    have hsum : number r.bias 36 (r.sum + n * r.weight) = part ++ [c] := by
      rw [Nat.mul_comm, hnumber, number_of_lt hlast, hdigit]
    obtain ⟨hbuilt', htext⟩ := (hbuilt.withDigits _ _ _).insert? hstep
    obtain ⟨_, _, _, _, _, _, _, rfl⟩ := exists_of_insert? hstep
    refine ⟨hbuilt', [], ?_, rfl, fun m => ?_⟩
    · rw [htext, hsum, List.append_nil, List.append_assoc]
    · rw [Nat.zero_add, Nat.one_mul, List.nil_append]
  · -- The number goes on.
    rw [← Option.some_inj.1 hstep]
    refine ⟨hbuilt.withDigits _ _ _, part ++ [c], ?_, ?_, fun m => ?_⟩
    · rw [List.append_assoc]
    · rw [List.length_append, List.length_singleton, hdigits, Nat.mul_add, Nat.add_assoc]
    · have hnext := number_of_le (Nat.le_of_not_lt hlast) hsmall m
      rw [hdigit] at hnext
      rw [List.append_assoc, List.singleton_append, ← hnext, ← hnumber, Nat.mul_add,
        Nat.mul_comm n, Nat.add_assoc, Nat.mul_assoc]

theorem Reads.foldlM (h : Reads ascii consumed r) (hupper : ∀ c ∈ more, c.isUpper = false)
    (hmore : more.foldlM Reading.next? r = some r') : Reads ascii (consumed ++ more) r' := by
  induction more generalizing consumed r with
  | nil =>
    rw [List.foldlM_nil] at hmore
    rw [← Option.some_inj.1 hmore, List.append_nil]
    exact h
  | cons c more ih =>
    obtain ⟨hc, hmore'⟩ := List.forall_mem_cons.1 hupper
    rw [List.foldlM_cons] at hmore
    obtain ⟨next, hnext, hrest⟩ := Option.bind_eq_some_iff.1 hmore
    have := ih (h.next? hc hnext) hmore' hrest
    rwa [List.append_assoc, List.singleton_append] at this

/-! ## The whole text -/

/-- A form in ASCII is its characters and its numbers with a hyphen between them, unless there are
no characters. -/
theorem eq_of_divided (cs : List Char) :
    cs = (if (divided cs).1.isEmpty then [] else (divided cs).1 ++ ['-']) ++ (divided cs).2 := by
  rw [divided]
  generalize hbehind : (cs.reverse.takeWhile (· ≠ '-')).reverse = behind
  by_cases hbefore : (cs.take (cs.length - behind.length - 1)).isEmpty = true
  · rw [if_pos hbefore]
    rfl
  · rw [if_neg hbefore]
    dsimp only
    rw [if_neg hbefore]
    have hreverse := List.takeWhile_append_dropWhile (p := (· ≠ '-')) (l := cs.reverse)
    rw [← List.reverse_inj, List.reverse_append, List.reverse_reverse, hbehind] at hreverse
    cases hrest : cs.reverse.dropWhile (· ≠ '-') with
    | nil =>
      rw [hrest, List.reverse_nil, List.nil_append] at hreverse
      rw [hreverse, Nat.sub_self, Nat.zero_sub, List.take_zero] at hbefore
      exact absurd rfl hbefore
    | cons c rest =>
      have hc : c = '-' := by
        have hnot := List.head?_dropWhile_not (· ≠ '-') cs.reverse
        rw [hrest] at hnot
        simpa using hnot
      rw [hrest, hc, List.reverse_cons] at hreverse
      have hlength : cs.length - behind.length - 1 = rest.reverse.length := by
        rw [← hreverse, List.length_append, List.length_append, List.length_singleton]
        omega
      have htake : cs.take (cs.length - behind.length - 1) = rest.reverse := by
        rw [hlength, ← hreverse, List.append_assoc, List.take_left]
      rw [htake]
      exact hreverse.symm

/-- **The form that was read is written again**, if its digits are small letters. -/
theorem encode_of_decode? {code text : List Char} (hascii : ∀ c ∈ code, isAscii c = true)
    (hupper : ∀ c ∈ code, c.isUpper = false) (h : decode? code = some text) :
    encode text = code := by
  unfold decode? at h
  have hcode := eq_of_divided code
  generalize divided code = d at h hcode
  obtain ⟨ascii, digits⟩ := d
  dsimp only at h hcode
  obtain ⟨r, hr, htext⟩ := Option.bind_eq_some_iff.1 h
  split_ifs at htext with hdone
  rw [Option.some_inj] at htext
  have hfront : ∀ c ∈ ascii, isAscii c = true := by
    intro c hc
    refine hascii c (hcode ▸ List.mem_append_left _ ?_)
    rw [if_neg (by rw [List.isEmpty_iff]; exact List.ne_nil_of_mem hc)]
    exact List.mem_append_left _ hc
  have hdigits : ∀ c ∈ digits, c.isUpper = false :=
    fun c hc => hupper c (hcode ▸ List.mem_append_right _ hc)
  obtain ⟨hbuilt, part, heq, hlength, -⟩ := (reads_start hfront).foldlM hdigits hr
  have hpart : part = [] := List.eq_nil_of_length_eq_zero (by omega)
  rw [hpart, List.append_nil, List.nil_append] at heq
  rw [encode_eq, ← htext, hbuilt.basic, ← numbersOf, ← heq]
  exact hcode.symm

end Punycode
end EmojiLint
