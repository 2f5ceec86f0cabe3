import EmojiLint.Json.Skip
import EmojiLint.Proofs.Json.Grammar
import EmojiLint.Proofs.Json.Quote

/-!
# Readers of spelled values

Where a value is spelled, the reader of its kind reads it and leaves what follows it, and a reader
of another kind fails.

* `readString_of_spells`, `skipString_of_spells` — strings, however their characters are escaped.
* `skipNumber_of_spells` — whole numbers, if what follows does not go on with them.
* `Spells.starts` — the first character tells the kind of a value.
* `stringValue_of_spells`, `boolValue_of_spells`, `stringArrayValue_of_spells` — values of a shape.
  Which fault a value of another shape is does not matter here.
-/

set_option autoImplicit false

namespace EmojiLint
namespace Json

variable {c : Char} {cs more rest s start : List Char} {n : Nat} {fault : Fault} {v : Json}
  {vs : List Json}

/-! ## Space -/

/-- Space is passed over. -/
theorem Gap.skipSpace_eq (h : Gap cs rest) : skipSpace cs = skipSpace rest := by
  induction h with
  | none => rfl
  | space hc h ih => rw [skipSpace, List.dropWhile_cons_of_pos hc]; exact ih

/-- Space is passed over up to what is not space. -/
theorem Gap.skipSpace_cons (h : Gap cs (c :: rest)) (hc : isSpace c = false) :
    skipSpace cs = c :: rest :=
  h.skipSpace_eq.trans (Json.skipSpace_cons hc rest)

theorem Gap.exists_append (h : Gap cs rest) :
    ∃ space : List Char, (∀ c ∈ space, isSpace c = true) ∧ cs = space ++ rest := by
  induction h with
  | none => exact ⟨[], List.forall_mem_nil _, rfl⟩
  | @space c _ _ hc h ih =>
    obtain ⟨space, hspace, rfl⟩ := ih
    exact ⟨c :: space, List.forall_mem_cons.2 ⟨hc, hspace⟩, rfl⟩

/-! ## Strings -/

theorem SpellsUnit.hex4_eq (h : SpellsUnit cs n rest) : hex4 cs = .ok (n, rest) := by
  cases h with
  | digits ha hb hc hd => simp only [hex4, ha, hb, hc, hd]

theorem escape_u (cs : List Char) : escape ('u' :: cs) = unicodeEscape cs :=
  rfl

theorem skipEscape_u (cs : List Char) : skipEscape ('u' :: cs) = (hex4 cs).map Prod.snd :=
  rfl

/-- The reader of strings takes a character however it is spelled. -/
theorem readString_of_spellsChar (h : SpellsChar cs c rest) :
    readString cs = (readString rest).map fun (s, after) => (c :: s, after) := by
  cases h with
  | plain hquote hback hcontrol => rw [readString, if_neg hquote, if_neg hback, if_neg hcontrol]
  | short h => exact readString_escape (by simp only [escape, h])
  | unit h hn =>
    refine readString_escape ?_
    simp only [escape_u, unicodeEscape, h.hex4_eq, if_pos hn]
  | @pair high low _ _ _ h hhigh h' hlow =>
    have hsurrogate : ¬ (high < 0xD800 ∨ 0xDFFF < high) := by omega
    have hfirst : ¬ 0xDC00 ≤ high := by omega
    have hsecond : ¬ (low < 0xDC00 ∨ 0xDFFF < low) := by omega
    refine readString_escape ?_
    simp only [escape_u, unicodeEscape, h.hex4_eq, h'.hex4_eq, if_neg hsurrogate, if_neg hfirst,
      if_neg hsecond]

/-- **A string is read however its characters are spelled.** -/
theorem readString_of_spells (h : SpellsString cs s rest) : readString cs = .ok (s, rest) := by
  induction h with
  | close => rw [readString, if_pos rfl]
  | char hchar h ih => rw [readString_of_spellsChar hchar, ih]; rfl

theorem skipString_escape (h : skipEscape cs = .ok rest) :
    skipString ('\\' :: cs) = skipString rest := by
  rw [skipString, if_neg (by decide), if_pos rfl]
  split
  · next fault hfault => rw [h] at hfault; cases hfault
  · next after hafter => rw [Except.ok.inj (hafter.symm.trans h)]

/-- A pair of surrogates is passed over as two escapes. -/
theorem skipString_of_spellsChar (h : SpellsChar cs c rest) : skipString cs = skipString rest := by
  cases h with
  | plain hquote hback hcontrol => rw [skipString, if_neg hquote, if_neg hback, if_neg hcontrol]
  | short h => exact skipString_escape (by simp only [skipEscape, h, Option.isSome_some, if_pos])
  | unit h hn => exact skipString_escape (by rw [skipEscape_u, h.hex4_eq]; rfl)
  | pair h hhigh h' hlow =>
    rw [skipString_escape (by rw [skipEscape_u, h.hex4_eq]; rfl),
      skipString_escape (by rw [skipEscape_u, h'.hex4_eq]; rfl)]

theorem skipString_of_spells (h : SpellsString cs s rest) : skipString cs = .ok rest := by
  induction h with
  | close => rw [skipString, if_pos rfl]
  | char hchar h ih => rw [skipString_of_spellsChar hchar, ih]

/-! ## Numbers -/

/-- What stands after a number does not go on with it. -/
def Ends (rest : List Char) : Prop :=
  ∀ c ∈ rest.head?, c.isDigit = false ∧ c ≠ '.' ∧ c ≠ 'e' ∧ c ≠ 'E'

/-- Space and the marks after a value do not go on with a number. -/
theorem Gap.ends (h : Gap cs (c :: rest)) (hc : c = ',' ∨ c = ']' ∨ c = '\x7d') : Ends cs := by
  intro d hd
  cases h with
  | none =>
    obtain rfl := Option.some_inj.1 hd
    rcases hc with rfl | rfl | rfl <;> decide
  | space hspace _ =>
    obtain rfl := Option.some_inj.1 hd
    simp only [isSpace, Bool.or_eq_true, beq_iff_eq] at hspace
    rcases hspace with ((rfl | rfl) | rfl) | rfl <;> decide

/-- Nothing of what stands after a number is a digit. -/
theorem Ends.digits_append {ds : List Char} (h : Ends rest) (hds : ∀ d ∈ ds, d.isDigit = true) :
    digits (ds ++ rest) = (ds, rest) := by
  have hrest : rest.takeWhile Char.isDigit = [] ∧ rest.dropWhile Char.isDigit = rest := by
    cases rest with
    | nil => exact ⟨rfl, rfl⟩
    | cons c rest =>
      have hc : ¬ c.isDigit = true := by rw [(h c rfl).1]; exact Bool.false_ne_true
      exact ⟨List.takeWhile_cons_of_neg hc, List.dropWhile_cons_of_neg hc⟩
  rw [digits, List.takeWhile_append_of_pos hds, List.dropWhile_append_of_pos hds, hrest.1, hrest.2,
    List.append_nil]

theorem Ends.fractionDigits_eq (h : Ends rest) : fractionDigits fault rest = .ok ([], rest) := by
  unfold fractionDigits
  split
  · exact absurd rfl (h '.' rfl).2.1
  · rfl

theorem Ends.exponentPart_eq (h : Ends rest) : exponentPart fault rest = .ok (0, rest) := by
  cases rest with
  | nil => rfl
  | cons c rest => exact if_neg (not_or.2 (h c rfl).2.2)

theorem SpellsNat.wholeDigits_eq (fault : Fault) (h : SpellsNat cs n rest) (hrest : Ends rest) :
    ∃ ds, wholeDigits fault cs = .ok (ds, rest) := by
  cases h with
  | @digits d ds _ hdigits hzero =>
    refine ⟨d :: ds, ?_⟩
    rw [wholeDigits, hrest.digits_append hdigits]
    split
    · next h => cases h
    · next h => cases h
    · next h =>
      simp only [Prod.mk.injEq, List.cons.injEq] at h
      rw [hzero h.1.1] at h
      cases h.1.2
    · next h => rw [← h]

/-- **A whole number is passed over up to where it ends.** -/
theorem skipNumber_of_spells (h : SpellsNat cs n rest) (hrest : Ends rest) :
    skipNumber cs = .ok rest := by
  obtain ⟨ds, hds⟩ := h.wholeDigits_eq .malformed hrest
  simp only [skipNumber, numeral, hds, bind, Except.bind, hrest.fractionDigits_eq,
    hrest.exponentPart_eq]
  rfl

/-! ## The first character -/

/-- The characters that a value may start with. -/
def Starts : Json → Char → Prop
  | null, c => c = 'n'
  | bool true, c => c = 't'
  | bool false, c => c = 'f'
  | whole _, c => c = '-' ∨ c.isDigit = true
  | decimal _, _ => False
  | string _, c => c = '"'
  | array _, c => c = '['
  | object _, c => c = '\x7b'

/-- The first character tells the kind of a value. -/
theorem Spells.starts (h : Spells cs (.value v) rest) : ∃ c tail, cs = c :: tail ∧ Starts v c := by
  cases h with
  | null => exact ⟨_, _, rfl, rfl⟩
  | yes => exact ⟨_, _, rfl, rfl⟩
  | no => exact ⟨_, _, rfl, rfl⟩
  | whole h =>
    cases h with
    | digits hdigits _ => exact ⟨_, _, rfl, .inr (hdigits _ List.mem_cons_self)⟩
  | minus h hn => exact ⟨_, _, rfl, .inl rfl⟩
  | string h => exact ⟨_, _, rfl, rfl⟩
  | array h => exact ⟨_, _, rfl, rfl⟩
  | object h hperm hms => exact ⟨_, _, rfl, rfl⟩

theorem Starts.mark_or_digit (h : Starts v c) :
    c ∈ ['n', 't', 'f', '-', '"', '[', '\x7b'] ∨ c.isDigit = true := by
  cases v with
  | null | string | array | object => cases h; exact .inl (by decide)
  | bool b => cases b <;> cases h <;> exact .inl (by decide)
  | whole n =>
    rcases h with rfl | h
    · exact .inl (by decide)
    · exact .inr h
  | decimal => exact h.elim

theorem Starts.isSpace_eq (h : Starts v c) : isSpace c = false := by
  refine Bool.eq_false_iff.2 fun hc => absurd h.mark_or_digit ?_
  simp only [isSpace, Bool.or_eq_true, beq_iff_eq] at hc
  rcases hc with ((rfl | rfl) | rfl) | rfl <;> decide

theorem isSpace_of_isDigit (hc : c.isDigit = true) : isSpace c = false :=
  Starts.isSpace_eq (v := .whole 0) (.inr hc)

theorem Starts.ne_bracket (h : Starts v c) : c ≠ ']' := by
  rintro rfl
  exact absurd h.mark_or_digit (by decide)

theorem Spells.skipSpace_eq (hgap : Gap start cs) (h : Spells cs (.value v) rest) :
    skipSpace start = cs := by
  obtain ⟨c, tail, rfl, hc⟩ := h.starts
  exact hgap.skipSpace_cons hc.isSpace_eq

/-! ## Values of a shape -/

theorem toOption_map {α β : Type} (f : α → β) (read : Except Fault α) :
    (read.map f).toOption = read.toOption.map f := by
  cases read <;> rfl

theorem toOption_bind {α β : Type} (read : Except Fault α) (f : α → Except Fault β) :
    (read.bind f).toOption = read.toOption.bind fun a => (f a).toOption := by
  cases read <;> rfl

/-- **A string is read, and nothing else is read as a string.** -/
theorem stringValue_of_spells (hgap : Gap start cs) (h : Spells cs (.value v) rest) :
    (stringValue start).toOption = v.asString?.map fun s => (s.toList, rest) := by
  obtain ⟨c, tail, hcs, hc⟩ := h.starts
  rw [stringValue, h.skipSpace_eq hgap, hcs]
  cases v with
  | string s =>
    cases h with
    | string h =>
      cases hcs
      simp only [if_pos, readString_of_spells h, asString?, Option.map_some, String.toList_ofList]
      rfl
  | null | array | object => cases hc; rfl
  | bool b => cases b <;> cases hc <;> rfl
  | whole n =>
    have hne : c ≠ '"' := by rintro rfl; simp [Starts] at hc
    simp only [if_neg hne]
    rfl
  | decimal => exact hc.elim

/-- **A truth value is read, and nothing else is read as one.** -/
theorem boolValue_of_spells (hgap : Gap start cs) (h : Spells cs (.value v) rest) :
    (boolValue start).toOption = v.asBool?.map fun b => (b, rest) := by
  obtain ⟨c, tail, hcs, hc⟩ := h.starts
  rw [boolValue, h.skipSpace_eq hgap, hcs]
  cases v with
  | bool b =>
    cases h with
    | yes => cases hcs; rfl
    | no => cases hcs; rfl
  | null | string | array | object => cases hc; rfl
  | whole n =>
    have htrue : c ≠ 't' := by rintro rfl; simp [Starts] at hc
    have hfalse : c ≠ 'f' := by rintro rfl; simp [Starts] at hc
    simp only [if_neg htrue, if_neg hfalse]
    rfl
  | decimal => exact hc.elim

/-! ## Arrays of strings -/

theorem Gap.trans (h : Gap cs more) (h' : Gap more rest) : Gap cs rest := by
  induction h with
  | none => exact h'
  | space hc h ih => exact .space hc (ih h')

/-- Where an element is spelled another one follows. -/
theorem moreElements_of_spells (first : Bool) (hstart : Gap start (separator first ++ cs))
    (hgap : Gap cs more) (h : Spells more (.value v) rest) :
    moreElements first start = .ok (true, more) := by
  obtain ⟨c, tail, rfl, hc⟩ := h.starts
  cases first with
  | true =>
    simp only [moreElements, h.skipSpace_eq (hstart.trans hgap), if_neg hc.ne_bracket, if_pos]
  | false =>
    have hcomma : skipSpace start = ',' :: cs := hstart.skipSpace_cons rfl
    simp only [moreElements, hcomma, h.skipSpace_eq hgap, if_neg hc.ne_bracket, if_pos]
    rfl

/-- The reader takes the first element, if it is a string, and goes on behind it. -/
theorem stringElements_of_value (first : Bool) (hstart : Gap start (separator first ++ cs))
    (hgap : Gap cs more) (h : Spells more (.value v) rest) :
    (stringElements first start).toOption = v.asString?.bind fun s =>
      (stringElements false rest).toOption.map fun (ss, after) => (s :: ss, after) := by
  rw [stringElements_eq, moreElements_of_spells first hstart hgap h]
  show ((stringValue more).bind _).toOption = _
  simp only [toOption_bind, stringValue_of_spells .none h, toOption_map, Option.bind_map,
    Function.comp_def, String.ofList_toList]

/-- Elements are read up to the bracket that closes them, if all of them are strings. -/
theorem stringElements_of_spells (first : Bool) (hvs : vs ≠ [])
    (hstart : Gap start (separator first ++ cs)) (h : Spells cs (.elements vs) rest) :
    (stringElements first start).toOption =
      (vs.mapM asString?).map fun ss => (ss, ']' :: rest) := by
  induction vs generalizing first start cs with
  | nil => exact absurd rfl hvs
  | cons v vs ih =>
    cases h with
    | @lastElement _ _ cs₂ _ _ hgap hvalue hend =>
      have hclose : stringElements false cs₂ = .ok ([], ']' :: rest) := by
        obtain ⟨space, hspace, rfl⟩ := hend.exists_append
        exact stringElements_close false hspace rest
      rw [stringElements_of_value first hstart hgap hvalue, hclose, List.mapM_cons]
      cases v.asString? <;> rfl
    | element hgap hvalue hcomma hmore hne =>
      rw [stringElements_of_value first hstart hgap hvalue, ih false hne hcomma hmore,
        List.mapM_cons]
      cases v.asString? <;> cases vs.mapM asString? <;> rfl

/-- The elements of an array are read, whether there are any or not. -/
theorem stringElements_true_of_spells (h : Spells cs (.elements vs) rest) :
    (stringElements true cs).toOption = (vs.mapM asString?).map fun ss => (ss, ']' :: rest) := by
  by_cases hvs : vs = []
  · subst hvs
    cases h with
    | noElement hend =>
      obtain ⟨space, hspace, rfl⟩ := hend.exists_append
      rw [stringElements_close true hspace]
      rfl
  · exact stringElements_of_spells true hvs .none h

theorem stringArrayValue_eq (h : skipSpace start = '[' :: cs) :
    stringArrayValue start = (stringElements true cs).bind fun (ss, rest) =>
      (arrayEnd rest).map fun after => (ss, after) := by
  simp only [stringArrayValue, h, if_pos]
  cases stringElements true cs <;> rfl

/-- **An array of strings is read, and nothing else is read as one.** -/
theorem stringArrayValue_of_spells (hgap : Gap start cs) (h : Spells cs (.value v) rest) :
    (stringArrayValue start).toOption =
      (v.asArray?.bind fun vs => vs.mapM asString?).map fun ss => (ss, rest) := by
  obtain ⟨c, tail, hcs, hc⟩ := h.starts
  have hskip := h.skipSpace_eq hgap
  cases v with
  | array vs =>
    cases h with
    | array h =>
      rw [stringArrayValue_eq hskip, toOption_bind, stringElements_true_of_spells h, asArray?,
        Option.bind_some]
      cases vs.mapM asString? <;> rfl
  | null | string | object => rw [stringArrayValue, hskip, hcs]; cases hc; rfl
  | bool b => rw [stringArrayValue, hskip, hcs]; cases b <;> cases hc <;> rfl
  | whole n =>
    have hne : c ≠ '[' := by rintro rfl; simp [Starts] at hc
    simp only [stringArrayValue, hskip, hcs, if_neg hne]
    rfl
  | decimal => exact hc.elim

end Json
end EmojiLint
