import EmojiLint.Proofs.Path.Segments
import EmojiLint.Uri.Address
import Mathlib.Algebra.GroupWithZero.Nat

/-!
# Addresses are read back

The text of an address is read as the same address, whichever groups were left out of it.

* `group?_groupText`, `groups?_joined` — the groups with colons between them.
* `take_longestRun` — what is left out of the text is a run of zeros.
* `isWhole_of_read?` — an address that was read has eight groups of two bytes.
* `read?_text` — it is read back from its text.
-/

set_option autoImplicit false

namespace EmojiLint

/-- A number of so many digits is below the power of the base. -/
theorem foldl_lt_pow {base : Nat} {ds : List Nat} (h : ∀ d ∈ ds, d < base) :
    ds.foldl (fun n d => base * n + d) 0 < base ^ ds.length := by
  have hfold : ∀ (ds : List Nat) (n : Nat), (∀ d ∈ ds, d < base) →
      ds.foldl (fun n d => base * n + d) n < (n + 1) * base ^ ds.length := by
    intro ds
    induction ds with
    | nil => intro n _; simp
    | cons d ds ih =>
      intro n h
      obtain ⟨hd, hds⟩ := List.forall_mem_cons.1 h
      have hstep : base * n + d + 1 ≤ (n + 1) * base := by
        rw [Nat.succ_mul, Nat.mul_comm]
        omega
      calc ds.foldl (fun n d => base * n + d) (base * n + d)
          < (base * n + d + 1) * base ^ ds.length := ih _ hds
        _ ≤ (n + 1) * base * base ^ ds.length := Nat.mul_le_mul_right _ hstep
        _ = (n + 1) * base ^ (ds.length + 1) := by rw [Nat.pow_succ', Nat.mul_assoc]
  simpa using hfold ds 0 h

/-! ## Reading a list item by item -/

section MapM

variable {α β : Type} {f : α → Option β} {as : List α} {bs : List β}

theorem mapM_eq_some_iff : as.mapM f = some bs ↔ as.map f = bs.map some := by
  induction as generalizing bs with
  | nil => cases bs <;> simp
  | cons a as ih =>
    rw [List.mapM_cons, List.map_cons]
    cases bs with
    | nil => cases f a <;> cases as.mapM f <;> simp
    | cons b bs =>
      rw [List.map_cons, List.cons_eq_cons, ← ih]
      cases f a <;> cases as.mapM f <;> simp

theorem exists_of_mem_mapM (h : as.mapM f = some bs) {b : β} (hb : b ∈ bs) :
    ∃ a ∈ as, f a = some b := by
  have hmem : some b ∈ bs.map some := List.mem_map_of_mem hb
  rw [← mapM_eq_some_iff.1 h] at hmem
  exact List.mem_map.1 hmem

theorem length_of_mapM (h : as.mapM f = some bs) : bs.length = as.length := by
  have hlength := congrArg List.length (mapM_eq_some_iff.1 h)
  rwa [List.length_map, List.length_map, eq_comm] at hlength

/-- A list in which every item is read is read. -/
theorem mapM_of_forall {g : α → β} (h : ∀ a ∈ as, f a = some (g a)) :
    as.mapM f = some (as.map g) := by
  rw [mapM_eq_some_iff, List.map_map]
  exact List.map_congr_left h

/-- If what was read of every item is written as the item, then the list is written again. -/
theorem map_of_mapM (h : as.mapM f = some bs) {g : β → α}
    (hg : ∀ a ∈ as, ∀ b, f a = some b → g b = a) : bs.map g = as := by
  have hmap := mapM_eq_some_iff.1 h
  clear h
  induction as generalizing bs with
  | nil =>
    rw [List.map_nil, eq_comm, List.map_eq_nil_iff] at hmap
    rw [hmap, List.map_nil]
  | cons a as ih =>
    obtain ⟨b, bs, rfl, hb, hbs⟩ := List.map_eq_cons_iff.1 hmap.symm
    obtain ⟨ha, has⟩ := List.forall_mem_cons.1 hg
    rw [List.map_cons, ha b hb.symm, ih has hbs.symm]

end MapM

namespace Address

variable {n : Nat} {c : Char} {cs back : List Char} {gs : List Nat} {address : Address}

/-! ## One group -/

/-- The value of a hexadecimal digit. -/
def hexValue? (c : Char) : Option Nat :=
  if c.toNat < 0x80 then Percent.digitValue? c.toNat.toUInt8 else none

/-- The number that digits stand for. -/
def hexNumber (ds : List Nat) : Nat :=
  ds.foldl (fun n d => 16 * n + d) 0

theorem group?_eq (cs : List Char) : group? cs =
    if cs.isEmpty || 4 < cs.length then none else (cs.mapM hexValue?).map hexNumber :=
  rfl

theorem hexValue?_hexDigit (h : n < 16) : hexValue? (hexDigit n) = some n := by
  have hall : ∀ n < 16, hexValue? (hexDigit n) = some n := by decide
  exact hall n h

/-- The characters of a group. -/
def hexChars : List Char :=
  "0123456789abcdef".toList

theorem hexDigit_mem_hexChars (h : n < 16) : hexDigit n ∈ hexChars := by
  have hall : ∀ n < 16, hexDigit n ∈ hexChars := by decide
  exact hall n h

theorem mem_groupText (h : c ∈ groupText n) : c ∈ hexChars := by
  fun_induction groupText n with
  | case1 n hn =>
    rw [List.mem_singleton.1 h]
    exact hexDigit_mem_hexChars hn
  | case2 n hn ih =>
    rcases List.mem_append.1 h with h | h
    · exact ih h
    · rw [List.mem_singleton.1 h]
      exact hexDigit_mem_hexChars (Nat.mod_lt n (by decide))

theorem groupText_ne_nil (n : Nat) : groupText n ≠ [] := by
  rw [groupText]
  split
  · exact List.cons_ne_nil _ _
  · exact List.append_ne_nil_of_right_ne_nil _ (List.cons_ne_nil _ _)

/-- A number of so many digits is written in no more. -/
theorem length_groupText_le {k : Nat} (h : n < 16 ^ (k + 1)) : (groupText n).length ≤ k + 1 := by
  induction k generalizing n with
  | zero =>
    rw [groupText, if_pos (by simpa using h)]
    exact Nat.le_refl 1
  | succ k ih =>
    rw [groupText]
    split
    · exact Nat.le_add_left 1 (k + 1)
    · have hdiv : n / 16 < 16 ^ (k + 1) := Nat.div_lt_of_lt_mul (by rwa [← Nat.pow_succ'])
      rw [List.length_append, List.length_singleton]
      exact Nat.add_le_add_right (ih hdiv) 1

/-- The digits of a group are read as its number. -/
theorem mapM_hexValue?_groupText (n : Nat) :
    ∃ ds, (groupText n).mapM hexValue? = some ds ∧ hexNumber ds = n := by
  fun_induction groupText n with
  | case1 n hn => exact ⟨[n], by simp [hexValue?_hexDigit hn], by simp [hexNumber]⟩
  | case2 n hn ih =>
    obtain ⟨ds, hds, hnumber⟩ := ih
    refine ⟨ds ++ [n % 16], ?_, ?_⟩
    · simp [hds, hexValue?_hexDigit (Nat.mod_lt n (by decide : 0 < 16))]
    · rw [hexNumber, List.foldl_append, ← hexNumber, hnumber, List.foldl_cons, List.foldl_nil]
      exact Nat.div_add_mod n 16

theorem group?_groupText (h : n < 0x10000) : group? (groupText n) = some n := by
  obtain ⟨ds, hds, hnumber⟩ := mapM_hexValue?_groupText n
  have hlength : (groupText n).length ≤ 4 := length_groupText_le (k := 3) h
  rw [group?_eq, List.isEmpty_eq_false_iff.2 (groupText_ne_nil n), Bool.false_or,
    if_neg (by simpa using hlength), hds, Option.map_some, hnumber]

/-! ## Groups with colons -/

theorem notMem_groupText (hc : c ∉ hexChars) : c ∉ groupText n :=
  fun h => hc (mem_groupText h)

theorem joined_cons (n : Nat) (hgs : gs ≠ []) :
    joined (n :: gs) = groupText n ++ ':' :: joined gs :=
  Text.flatten_intersperse_cons ':' (groupText n) (by simpa using hgs)

theorem joined_singleton (n : Nat) : joined [n] = groupText n :=
  List.append_nil _

theorem joined_ne_nil (hgs : gs ≠ []) : joined gs ≠ [] := by
  obtain ⟨n, gs, rfl⟩ := List.exists_cons_of_ne_nil hgs
  by_cases h : gs = []
  · rw [h, joined_singleton]
    exact groupText_ne_nil n
  · rw [joined_cons n h]
    exact List.append_ne_nil_of_left_ne_nil (groupText_ne_nil n) _

theorem mem_joined (h : c ∈ joined gs) : c = ':' ∨ c ∈ hexChars := by
  induction gs with
  | nil => cases h
  | cons n gs ih =>
    by_cases hgs : gs = []
    · rw [hgs, joined_singleton] at h
      exact Or.inr (mem_groupText h)
    · rw [joined_cons n hgs, List.mem_append, List.mem_cons] at h
      rcases h with h | h | h
      · exact Or.inr (mem_groupText h)
      · exact Or.inl h
      · exact ih h

theorem fields_joined (hgs : gs ≠ []) : Text.fields ':' (joined gs) = gs.map groupText := by
  refine Text.fields_flatten_intersperse (by simpa using hgs) fun f hf => ?_
  obtain ⟨n, -, rfl⟩ := List.mem_map.1 hf
  exact notMem_groupText (by decide)

theorem mapM_group? (h : ∀ n ∈ gs, n < 0x10000) : (gs.map groupText).mapM group? = some gs := by
  rw [mapM_eq_some_iff, List.map_map]
  exact List.map_congr_left fun n hn => group?_groupText (h n hn)

/-- **Groups with colons between them are read back.** -/
theorem groups?_joined (hgs : gs ≠ []) (h : ∀ n ∈ gs, n < 0x10000) :
    groups? (joined gs) = some gs := by
  obtain ⟨front, last, rfl⟩ := List.eq_nil_or_concat gs |>.resolve_left hgs
  rw [List.concat_eq_append] at h hgs ⊢
  obtain ⟨hfront, hlast⟩ := List.forall_mem_append.1 h
  have hdot : '.' ∉ groupText last := notMem_groupText (by decide)
  simp [groups?, fields_joined hgs, mapM_group? hfront, hdot,
    group?_groupText (hlast last List.mem_cons_self)]

/-! ## The gap -/

theorem splitGap_cons_of_ne (hc : c ≠ ':') (cs : List Char) :
    splitGap (c :: cs) = (splitGap cs).map fun p => (c :: p.1, p.2) := by
  rw [splitGap]
  exact fun rest h _ => hc h

/-- A colon with no other behind it opens no gap. -/
theorem splitGap_colon (h : cs.head? ≠ some ':') :
    splitGap (':' :: cs) = (splitGap cs).map fun p => (':' :: p.1, p.2) := by
  rw [splitGap]
  rintro rest - rfl
  exact h rfl

theorem splitGap_append_of_notMem {front : List Char} (h : ':' ∉ front) (cs : List Char) :
    splitGap (front ++ cs) = (splitGap cs).map fun p => (front ++ p.1, p.2) := by
  induction front with
  | nil => simp
  | cons c front ih =>
    rw [List.cons_append, splitGap_cons_of_ne (List.ne_of_not_mem_cons h).symm,
      ih (List.not_mem_of_not_mem_cons h), Option.map_map]
    rfl

theorem head?_joined_append (hgs : gs ≠ []) (cs : List Char) :
    (joined gs ++ cs).head? ≠ some ':' := by
  obtain ⟨c, rest, hjoined⟩ := List.exists_cons_of_ne_nil (joined_ne_nil hgs)
  obtain ⟨n, gs, rfl⟩ := List.exists_cons_of_ne_nil hgs
  obtain ⟨d, ds, hgroup⟩ := List.exists_cons_of_ne_nil (groupText_ne_nil n)
  have hd : d ≠ ':' := by
    rintro rfl
    exact notMem_groupText (n := n) (by decide) (hgroup ▸ List.mem_cons_self)
  by_cases h : gs = []
  · rw [h, joined_singleton, hgroup]
    simpa using hd
  · rw [joined_cons n h, hgroup]
    simpa using hd

/-- Groups with colons between them do not open a gap. -/
theorem splitGap_joined (gs : List Nat) : splitGap (joined gs) = none := by
  induction gs with
  | nil => rfl
  | cons n gs ih =>
    by_cases hgs : gs = []
    · rw [hgs, joined_singleton, ← List.append_nil (groupText n),
        splitGap_append_of_notMem (notMem_groupText (by decide))]
      rfl
    · have hhead := head?_joined_append hgs []
      rw [List.append_nil] at hhead
      rw [joined_cons n hgs, splitGap_append_of_notMem (notMem_groupText (by decide)),
        splitGap_colon hhead, ih]
      rfl

/-- The gap comes right after the groups before it. -/
theorem splitGap_joined_append (gs : List Nat) (back : List Char) :
    splitGap (joined gs ++ ':' :: ':' :: back) = some (joined gs, back) := by
  induction gs with
  | nil => rfl
  | cons n gs ih =>
    by_cases hgs : gs = []
    · rw [hgs, joined_singleton, splitGap_append_of_notMem (notMem_groupText (by decide))]
      rw [splitGap, Option.map_some, List.append_nil]
    · rw [joined_cons n hgs, List.append_assoc, List.cons_append,
        splitGap_append_of_notMem (notMem_groupText (by decide)),
        splitGap_colon (head?_joined_append hgs _), ih]
      rfl

/-! ## The longest run -/

theorem zeros_cons_of_ne (hn : n ≠ 0) (gs : List Nat) : zeros (n :: gs) = 0 := by
  rw [zeros, List.takeWhile_cons_of_neg (by simpa using hn), List.length_nil]

theorem zeros_cons_zero (gs : List Nat) : zeros (0 :: gs) = zeros gs + 1 := by
  rw [zeros, List.takeWhile_cons_of_pos (by decide), List.length_cons, zeros]

theorem replicate_zeros (gs : List Nat) :
    List.replicate (zeros gs) 0 ++ gs.drop (zeros gs) = gs := by
  induction gs with
  | nil => rfl
  | cons n gs ih =>
    by_cases hn : n = 0
    · rw [hn, zeros_cons_zero, List.replicate_succ, List.drop_succ_cons, List.cons_append, ih]
    · rw [zeros_cons_of_ne hn, List.replicate_zero, List.drop_zero, List.nil_append]

/-- **What is left out is a run of zeros.** -/
theorem take_longestRun (gs : List Nat) :
    gs.take (longestRun gs).1 ++ List.replicate (longestRun gs).2 0 ++
      gs.drop ((longestRun gs).1 + (longestRun gs).2) = gs := by
  induction gs with
  | nil => rfl
  | cons n gs ih =>
    rw [longestRun]
    generalize longestRun gs = run at ih ⊢
    obtain ⟨start, length⟩ := run
    dsimp only
    split
    · rw [List.take_zero, List.nil_append, Nat.zero_add]
      exact replicate_zeros (n :: gs)
    · rw [List.take_succ_cons, Nat.add_right_comm, List.drop_succ_cons, List.cons_append,
        List.cons_append, ih]

/-! ## The whole address -/

/-- Eight groups of two bytes. -/
structure IsWhole (address : Address) : Prop where
  length : address.groups.length = 8
  small : ∀ n ∈ address.groups, n < 0x10000

theorem read?_joined (h : IsWhole address) : read? (joined address.groups) = some address := by
  have hne : address.groups ≠ [] := by
    intro hnil
    have := h.length
    rw [hnil] at this
    cases this
  rw [read?, splitGap_joined]
  simp [groups?_joined hne h.small, h.length]

/-- A part of an address that may be left out. -/
theorem part?_joined (h : ∀ n ∈ gs, n < 0x10000) :
    (if (joined gs).isEmpty then some [] else groups? (joined gs)) = some gs := by
  by_cases hgs : gs = []
  · rw [hgs]
    rfl
  · rw [if_neg (by simpa using joined_ne_nil hgs), groups?_joined hgs h]

/-- The characters of an address. -/
theorem mem_text (h : c ∈ address.text) : c = ':' ∨ c ∈ hexChars := by
  rw [text] at h
  dsimp only at h
  split at h
  · exact mem_joined h
  · rcases List.mem_append.1 h with h | h
    · rcases List.mem_append.1 h with h | h
      · exact mem_joined h
      · exact Or.inl (by simpa using h)
    · exact mem_joined h

/-- **An address is read back from its text.** -/
theorem read?_text (h : IsWhole address) : read? address.text = some address := by
  obtain ⟨groups⟩ := address
  obtain ⟨hlength, hsmall⟩ := h
  dsimp only at hlength hsmall
  have hrun := take_longestRun groups
  rw [text]
  generalize longestRun groups = run at hrun ⊢
  obtain ⟨start, length⟩ := run
  dsimp only at hrun ⊢
  split
  · exact read?_joined ⟨hlength, hsmall⟩
  · rename_i hlong
    have hall : ∀ n ∈ groups.take start ++ List.replicate length 0 ++ groups.drop (start + length),
        n < 0x10000 := by rwa [hrun]
    have hsum := congrArg List.length hrun
    simp only [List.length_append, List.length_replicate] at hsum
    have hfront : ∀ n ∈ groups.take start, n < 0x10000 :=
      fun n hn => hsmall n (List.mem_of_mem_take hn)
    have hback : ∀ n ∈ groups.drop (start + length), n < 0x10000 :=
      fun n hn => hsmall n (List.mem_of_mem_drop hn)
    have hdot : (joined (groups.take start)).contains '.' = false := by
      rw [List.contains_eq_mem, decide_eq_false_iff_not]
      exact fun hmem => (mem_joined hmem).elim (by decide) (by decide)
    have hgap : 8 - (groups.take start).length - (groups.drop (start + length)).length =
        length := by
      omega
    have hfit : ¬ 7 < (groups.take start).length + (groups.drop (start + length)).length := by
      omega
    have hsplit : splitGap (joined (groups.take start) ++ [':', ':'] ++
        joined (groups.drop (start + length))) =
        some (joined (groups.take start), joined (groups.drop (start + length))) := by
      rw [List.append_assoc]
      exact splitGap_joined_append _ _
    rw [read?, hsplit]
    simp only [part?_joined hfront, part?_joined hback, hdot, hgap, hrun, Option.bind_eq_bind,
      Option.bind_some, Bool.false_or, decide_eq_true_eq, if_neg hfit]

/-! ## Addresses that were read -/

theorem lt_of_hexValue? (h : hexValue? c = some n) : n < 16 := by
  have hall : ∀ k < 0x80, ∀ n ∈ Percent.digitValue? k.toUInt8, n < 16 := by decide +kernel
  rw [hexValue?] at h
  split at h
  · rename_i hascii
    exact hall c.toNat hascii n h
  · cases h

theorem lt_of_group? (h : group? cs = some n) : n < 0x10000 := by
  rw [group?_eq] at h
  split at h
  · cases h
  · rename_i hlength
    obtain ⟨ds, hds, rfl⟩ := Option.map_eq_some_iff.1 h
    have hsmall : ∀ d ∈ ds, d < 16 := fun d hd => by
      obtain ⟨c, -, hc⟩ := exists_of_mem_mapM hds hd
      exact lt_of_hexValue? hc
    have hle : ds.length ≤ 4 := by
      rw [length_of_mapM hds]
      simp at hlength
      omega
    exact Nat.lt_of_lt_of_le (foldl_lt_pow hsmall) (Nat.pow_le_pow_right (by decide) hle)

theorem lt_of_byte? (h : byte? cs = some n) : n < 256 := by
  rw [byte?] at h
  split at h
  · cases h
  · rename_i hrange
    rw [← Option.some_inj.1 h]
    simp only [Bool.or_eq_true, decide_eq_true_eq, not_or, Nat.not_lt] at hrange
    exact Nat.lt_succ_of_le hrange.1.2

theorem lt_of_pair? (h : pair? cs = some gs) (hn : n ∈ gs) : n < 0x10000 := by
  unfold pair? at h
  obtain ⟨bytes, hbytes, h⟩ := Option.bind_eq_some_iff.1 h
  have hsmall : ∀ b ∈ bytes, b < 256 := fun b hb => by
    obtain ⟨part, -, hpart⟩ := exists_of_mem_mapM hbytes hb
    exact lt_of_byte? hpart
  split at h
  · cases h
    simp at hn hsmall
    omega
  · cases h

theorem lt_of_groups? (h : groups? cs = some gs) (hn : n ∈ gs) : n < 0x10000 := by
  unfold groups? at h
  obtain ⟨last, -, h⟩ := Option.bind_eq_some_iff.1 h
  obtain ⟨front, hfront, h⟩ := Option.bind_eq_some_iff.1 h
  have hfront : ∀ n ∈ front, n < 0x10000 := fun n hn => by
    obtain ⟨part, -, hpart⟩ := exists_of_mem_mapM hfront hn
    exact lt_of_group? hpart
  split at h
  · obtain ⟨back, hback, h⟩ := Option.bind_eq_some_iff.1 h
    cases h
    exact (List.mem_append.1 hn).elim (hfront n) (lt_of_pair? hback)
  · obtain ⟨back, hback, h⟩ := Option.bind_eq_some_iff.1 h
    cases h
    refine (List.mem_append.1 hn).elim (hfront n) fun hn => ?_
    obtain ⟨m, hm, rfl⟩ := Option.map_eq_some_iff.1 hback
    rw [List.mem_singleton.1 hn]
    exact lt_of_group? hm

/-- **An address that was read has eight groups of two bytes.** -/
theorem isWhole_of_read? (h : read? cs = some address) : IsWhole address := by
  have hpart : ∀ (cs : List Char) (gs : List Nat),
      (if cs.isEmpty then some [] else groups? cs) = some gs → ∀ n ∈ gs, n < 0x10000 := by
    intro cs gs h n hn
    split at h
    · cases h
      cases hn
    · exact lt_of_groups? h hn
  unfold read? at h
  dsimp only at h
  split at h
  · obtain ⟨groups, hgroups, h⟩ := Option.bind_eq_some_iff.1 h
    split at h
    · rename_i hlength
      cases h
      exact ⟨hlength, fun n hn => lt_of_groups? hgroups hn⟩
    · cases h
  · obtain ⟨front, hfront, h⟩ := Option.bind_eq_some_iff.1 h
    obtain ⟨back, hback, h⟩ := Option.bind_eq_some_iff.1 h
    split at h
    · cases h
    · rename_i hfit
      cases h
      refine ⟨?_, fun n hn => ?_⟩
      · simp at hfit ⊢
        omega
      · rcases List.mem_append.1 hn with hn | hn
        · rcases List.mem_append.1 hn with hn | hn
          · exact hpart _ front hfront n hn
          · rw [List.eq_of_mem_replicate hn]
            decide
        · exact hpart _ back hback n hn

end Address
end EmojiLint
