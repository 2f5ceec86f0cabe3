import EmojiLint.Json.Print
import EmojiLint.Proofs.Json.Spelled

/-!
# Values spelled as they are printed

A value whose keys are distinct is spelled by the text that is printed for it, so every such value
is denoted by some text.  Decimals are left out: they are kept as they were written.

* `IsPlain` — a value without decimals whose keys are distinct.
* `spellsNat_toDigits`, `spellsString_quote` — how numbers and strings are printed.
* `denotes_print` — a whole value.
-/

set_option autoImplicit false

namespace EmojiLint
namespace Json

variable {v : Json} {vs : List Json} {ms : List (String × Json)}

/-- A value without decimals.  The keys of every object in it are distinct. -/
inductive IsPlain : Json → Prop
  | null : IsPlain .null
  | bool (b : Bool) : IsPlain (.bool b)
  | whole (n : Int) : IsPlain (.whole n)
  | string (s : String) : IsPlain (.string s)
  | array {vs : List Json} (h : ∀ v ∈ vs, IsPlain v) : IsPlain (.array vs)
  | object {ms : List (String × Json)} (hms : Distinct ms) (h : ∀ m ∈ ms, IsPlain m.2) :
      IsPlain (.object ms)

/-! ## Numbers -/

/-- Only zero is printed with a zero in front. -/
theorem head?_toDigits {n : Nat} (h : n ≠ 0) : (Nat.toDigits 10 n).head? ≠ some '0' := by
  have hdigit : ∀ n < 10, n ≠ 0 → [n.digitChar].head? ≠ some '0' := by decide
  induction n using Nat.strongRecOn with
  | ind n ih =>
    by_cases hsmall : n < 10
    · rw [Nat.toDigits_of_lt_base hsmall]
      exact hdigit n hsmall h
    · have hfront := ih (n / 10) (by omega) (by omega)
      obtain ⟨d, ds, hds⟩ : ∃ d ds, Nat.toDigits 10 (n / 10) = d :: ds :=
        List.exists_cons_of_ne_nil Nat.toDigits_ne_nil
      rw [Nat.toDigits_of_base_le (by decide) (Nat.not_lt.1 hsmall), hds]
      rwa [hds] at hfront

theorem digitsValue_toDigits (n : Nat) : digitsValue (Nat.toDigits 10 n) = n := by
  have hstep : (fun n d => n * 10 + digitValue d) =
      fun (n : Nat) (c : Char) => 10 * n + (c.toNat - '0'.toNat) := by
    funext n d
    rw [Nat.mul_comm, digitValue]
  rw [digitsValue, hstep, ← Nat.ofDigitChars_eq_foldl]
  exact Nat.ofDigitChars_ten_toDigits

theorem spellsNat_toDigits (n : Nat) (rest : List Char) :
    SpellsNat (Nat.toDigits 10 n ++ rest) n rest := by
  have hvalue := digitsValue_toDigits n
  have hdigit : ∀ d ∈ Nat.toDigits 10 n, d.isDigit = true := fun d hd =>
    Nat.isDigit_of_mem_toDigits (by decide) (by decide) hd
  cases hds : Nat.toDigits 10 n with
  | nil => exact absurd hds Nat.toDigits_ne_nil
  | cons d ds =>
    rw [hds] at hvalue hdigit
    rw [← hvalue]
    refine .digits hdigit fun hzero => ?_
    by_cases hn : n = 0
    · subst hn
      rw [Nat.toDigits_zero] at hds
      exact (List.cons.inj hds).2.symm
    · exact absurd (by rw [hds, hzero]; rfl) (head?_toDigits hn)

theorem spells_toString (n : Int) (rest : List Char) :
    Spells ((toString n).toList ++ rest) (.value (.whole n)) rest := by
  cases n with
  | ofNat n =>
    have hprint : (toString (Int.ofNat n)).toList = Nat.toDigits 10 n := Nat.toList_repr
    rw [hprint]
    exact .whole (spellsNat_toDigits n rest)
  | negSucc n =>
    have hprint : (toString (Int.negSucc n)).toList = '-' :: Nat.toDigits 10 (n + 1) := by
      show ("-" ++ Nat.repr (n + 1)).toList = _
      rw [String.toList_append, Nat.toList_repr]
      rfl
    rw [hprint]
    exact .minus (spellsNat_toDigits (n + 1) rest) (Nat.succ_ne_zero n)

/-! ## Strings -/

/-- A control character is printed by its number. -/
theorem spellsUnit_hexChar {n : Nat} (h : n < 0x100) (rest : List Char) :
    SpellsUnit ('0' :: '0' :: hexChar (n / 16) :: hexChar (n % 16) :: rest) n rest := by
  have hhigh := hexDigit?_hexChar (Nat.div_lt_of_lt_mul h : n / 16 < 16)
  have hlow := hexDigit?_hexChar (Nat.mod_lt n (by decide) : n % 16 < 16)
  have hzero : hexDigit? '0' = some 0 := rfl
  have hn : ((0 * 16 + 0) * 16 + n / 16) * 16 + n % 16 = n := by omega
  have hunit : SpellsUnit ('0' :: '0' :: hexChar (n / 16) :: hexChar (n % 16) :: rest)
      (((0 * 16 + 0) * 16 + n / 16) * 16 + n % 16) rest := .digits hzero hzero hhigh hlow
  rwa [hn] at hunit

theorem spellsChar_quoteChar (c : Char) (rest : List Char) :
    SpellsChar (quoteChar c ++ rest) c rest := by
  unfold quoteChar
  split
  iterate 7 exact .short rfl
  next hquote hback _ _ _ _ _ =>
    split
    · next hcontrol =>
      have hbyte : c.toNat < 0x100 := Nat.lt_trans hcontrol (by decide)
      have hunit := SpellsChar.unit (spellsUnit_hexChar hbyte rest)
        (.inl (Nat.lt_trans hcontrol (by decide)))
      rwa [Char.ofNat_toNat] at hunit
    · next hcontrol => exact .plain hquote hback hcontrol

theorem spellsString_quoteChars (s rest : List Char) :
    SpellsString (s.flatMap quoteChar ++ '"' :: rest) s rest := by
  induction s with
  | nil => exact .close
  | cons c s ih =>
    rw [List.flatMap_cons, List.append_assoc]
    exact .char (spellsChar_quoteChar c _) ih

theorem spells_quote (s : String) (rest : List Char) :
    Spells (quote s ++ rest) (.value (.string s)) rest := by
  have h := Spells.string (spellsString_quoteChars s.toList rest)
  rwa [← quote_append, String.ofList_toList] at h

/-! ## Values -/

theorem spells_printElements (rest : List Char)
    (h : ∀ v ∈ vs, ∀ rest, Spells (v.printChars ++ rest) (.value v) rest) :
    Spells (printElements vs ++ ']' :: rest) (.elements vs) rest := by
  induction vs with
  | nil => exact .noElement .none
  | cons v vs ih =>
    obtain ⟨hv, hvs⟩ := List.forall_mem_cons.1 h
    cases vs with
    | nil => exact .lastElement .none (hv _) .none
    | cons v' vs =>
      rw [printElements, List.append_assoc, List.cons_append]
      · exact .element .none (hv _) .none (ih hvs) (List.cons_ne_nil _ _)
      · exact List.cons_ne_nil _ _

theorem spells_printMember (key : String) (rest : List Char)
    (h : ∀ rest, Spells (v.printChars ++ rest) (.value v) rest) :
    Spells (quote key ++ (':' :: (v.printChars ++ rest))) (.member (key, v)) rest := by
  have hmember := Spells.member .none (spellsString_quoteChars key.toList _) .none .none (h rest)
  rwa [← quote_append, String.ofList_toList] at hmember

theorem spells_printMembers (rest : List Char)
    (h : ∀ m ∈ ms, ∀ rest, Spells (m.2.printChars ++ rest) (.value m.2) rest) :
    Spells (printMembers ms ++ '\x7d' :: rest) (.members ms) rest := by
  induction ms with
  | nil => exact .noMember .none
  | cons m ms ih =>
    obtain ⟨key, v⟩ := m
    obtain ⟨hv, hms⟩ := List.forall_mem_cons.1 h
    cases ms with
    | nil =>
      rw [printMembers, List.append_assoc, List.cons_append]
      exact .lastMember (spells_printMember key _ hv) .none
    | cons m' ms =>
      rw [printMembers, List.append_assoc, List.append_assoc, List.cons_append, List.cons_append]
      · exact .members (spells_printMember key _ hv) .none (ih hms) (List.cons_ne_nil _ _)
      · exact List.cons_ne_nil _ _

theorem spells_printChars (h : IsPlain v) (rest : List Char) :
    Spells (v.printChars ++ rest) (.value v) rest := by
  induction h generalizing rest with
  | null => exact .null
  | bool b =>
    cases b with
    | true => exact .yes
    | false => exact .no
  | whole n => exact spells_toString n rest
  | string s => exact spells_quote s rest
  | array h ih =>
    rw [printChars, List.cons_append, List.cons_append, List.append_assoc]
    exact .array (spells_printElements rest ih)
  | object hms h ih =>
    rw [printChars, List.cons_append, List.cons_append, List.append_assoc]
    exact .object (spells_printMembers rest ih) (.refl _) hms

/-- **The text that is printed for a value denotes the value.** -/
theorem denotes_print (h : IsPlain v) : Denotes v.print v := by
  refine ⟨v.printChars, [], ?_, ?_, .none⟩
  · rw [print, String.toList_ofList]
    exact .none
  · have hprint := spells_printChars h []
    rwa [List.append_nil] at hprint

end Json
end EmojiLint
