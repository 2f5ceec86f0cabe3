import EmojiLint.Json.Quote
import EmojiLint.Json.Read

/-!
# Strings read back as they were written

Whatever characters a string holds, reading what was written for it gives the string again: quotes,
backslashes and control characters are escaped in a way that the reader undoes, and every other
character is taken as it stands.

* `readString_flatMap_quoteChar` — a string up to the quote that closes it.
* `stringValue_quote` — a string value, with the space before it.
* `stringElements_quote` — the strings of an array, one after the other.
-/

set_option autoImplicit false

namespace EmojiLint
namespace Json

variable {c : Char} {cs ds space rest : List Char}

/-! ## Characters -/

theorem hexDigit?_hexChar {n : Nat} (h : n < 16) : hexDigit? (hexChar n) = some n := by
  revert n
  decide

theorem hex4_hexChar {n : Nat} (h : n < 0x100) (rest : List Char) :
    hex4 ('0' :: '0' :: hexChar (n / 16) :: hexChar (n % 16) :: rest) = .ok (n, rest) := by
  have hhigh := hexDigit?_hexChar (Nat.div_lt_of_lt_mul h : n / 16 < 16)
  have hlow := hexDigit?_hexChar (Nat.mod_lt n (by decide) : n % 16 < 16)
  have hzero : hexDigit? '0' = some 0 := rfl
  have hn : ((0 * 16 + 0) * 16 + n / 16) * 16 + n % 16 = n := by omega
  simp only [hex4, hhigh, hlow, hzero, hn]

theorem unicodeEscape_hexChar {n : Nat} (h : n < 0x100) (rest : List Char) :
    unicodeEscape ('0' :: '0' :: hexChar (n / 16) :: hexChar (n % 16) :: rest) =
      .ok (Char.ofNat n, rest) := by
  have hsmall : n < 0xD800 ∨ 0xDFFF < n := Or.inl (Nat.lt_trans h (by decide))
  simp only [unicodeEscape, hex4_hexChar h, if_pos hsmall]

/-- The reader goes on behind an escape. -/
theorem readString_escape (h : escape cs = .ok (c, rest)) :
    readString ('\\' :: cs) = (readString rest).map fun (s, after) => (c :: s, after) := by
  rw [readString, if_neg (by decide), if_pos rfl]
  split
  · next fault hfault => rw [h] at hfault; cases hfault
  · next d after hafter =>
    rw [h] at hafter
    obtain ⟨rfl, rfl⟩ := Prod.mk.inj (Except.ok.inj hafter)
    rfl

/-- **What was written for a character reads as the character.** -/
theorem readString_quoteChar (c : Char) (rest : List Char) :
    readString (quoteChar c ++ rest) =
      (readString rest).map fun (s, after) => (c :: s, after) := by
  unfold quoteChar
  split
  iterate 7 exact readString_escape rfl
  next hquote hback _ _ _ _ _ =>
    split
    · next hcontrol =>
      refine readString_escape ?_
      have hbyte : c.toNat < 0x100 := Nat.lt_trans hcontrol (by decide)
      have hescape := unicodeEscape_hexChar hbyte rest
      rw [Char.ofNat_toNat] at hescape
      exact hescape
    · next hcontrol =>
      rw [List.singleton_append, readString, if_neg hquote, if_neg hback, if_neg hcontrol]

/-- **What was written for a string reads as the string.** -/
theorem readString_flatMap_quoteChar (cs rest : List Char) :
    readString (cs.flatMap quoteChar ++ '"' :: rest) = .ok (cs, rest) := by
  induction cs with
  | nil => rw [List.flatMap_nil, List.nil_append, readString, if_pos rfl]
  | cons c cs ih => rw [List.flatMap_cons, List.append_assoc, readString_quoteChar, ih]; rfl

/-! ## Values -/

theorem skipSpace_append (hspace : ∀ c ∈ space, isSpace c = true) (cs : List Char) :
    skipSpace (space ++ cs) = skipSpace cs :=
  List.dropWhile_append_of_pos hspace

theorem skipSpace_cons (h : isSpace c = false) (cs : List Char) : skipSpace (c :: cs) = c :: cs :=
  List.dropWhile_cons_of_neg (by rw [h]; exact Bool.false_ne_true)

/-- What was written for a string begins with a quote. -/
theorem quote_append (s : String) (rest : List Char) :
    quote s ++ rest = '"' :: (s.toList.flatMap quoteChar ++ '"' :: rest) := by
  rw [quote, List.cons_append, List.cons_append, List.append_assoc, List.singleton_append]

theorem skipSpace_quote (hspace : ∀ c ∈ space, isSpace c = true) (s : String)
    (rest : List Char) : skipSpace (space ++ (quote s ++ rest)) = quote s ++ rest := by
  rw [skipSpace_append hspace, quote_append, skipSpace_cons rfl]

theorem stringValue_quote (hspace : ∀ c ∈ space, isSpace c = true) (s : String)
    (rest : List Char) : stringValue (space ++ (quote s ++ rest)) = .ok (s.toList, rest) := by
  rw [stringValue, skipSpace_quote hspace, quote_append]
  exact readString_flatMap_quoteChar s.toList rest

/-! ## Arrays -/

/-- What stands before an element: nothing before the first one, and a comma before the others. -/
def separator (first : Bool) : List Char :=
  if first then [] else [',']

theorem moreElements_quote (first : Bool) (hspace : ∀ c ∈ space, isSpace c = true) (s : String)
    (rest : List Char) :
    moreElements first (separator first ++ (space ++ (quote s ++ rest))) =
      .ok (true, quote s ++ rest) := by
  have hskip := skipSpace_quote hspace s rest
  rw [quote_append] at hskip ⊢
  cases first with
  | true =>
    rw [separator, if_pos rfl, List.nil_append, moreElements, hskip]
    rfl
  | false =>
    rw [separator, if_neg Bool.false_ne_true, List.singleton_append, moreElements,
      skipSpace_cons rfl]
    simp only [hskip]
    rfl

theorem moreElements_close (first : Bool) (hspace : ∀ c ∈ space, isSpace c = true)
    (rest : List Char) : moreElements first (space ++ ']' :: rest) = .ok (false, ']' :: rest) := by
  rw [moreElements, skipSpace_append hspace, skipSpace_cons rfl]
  rfl

/-- Reading elements, one after the other. -/
theorem stringElements_eq (first : Bool) (cs : List Char) :
    stringElements first cs = (moreElements first cs).bind fun (more, rest) =>
      if more then (stringValue rest).bind fun (s, rest) =>
        (stringElements false rest).map fun (ss, after) => (String.ofList s :: ss, after)
      else .ok ([], rest) := by
  rw [stringElements]
  split <;> rename_i hmore <;> rw [hmore]
  · rfl
  · rfl
  · split <;> rename_i hvalue <;> simp only [Except.bind, hvalue, if_pos]

theorem stringElements_close (first : Bool) (hspace : ∀ c ∈ space, isSpace c = true)
    (rest : List Char) : stringElements first (space ++ ']' :: rest) = .ok ([], ']' :: rest) := by
  rw [stringElements_eq, moreElements_close first hspace]
  rfl

/-- The first string of an array reads as the string, and the reader goes on behind it. -/
theorem stringElements_quote (first : Bool) (hspace : ∀ c ∈ space, isSpace c = true) (s : String)
    (rest : List Char) :
    stringElements first (separator first ++ (space ++ (quote s ++ rest))) =
      (stringElements false rest).map fun (ss, after) => (s :: ss, after) := by
  have hvalue : stringValue (quote s ++ rest) = .ok (s.toList, rest) :=
    stringValue_quote (List.forall_mem_nil _) s rest
  rw [stringElements_eq, moreElements_quote first hspace]
  simp only [Except.bind, if_pos, hvalue, String.ofList_toList]

end Json
end EmojiLint
