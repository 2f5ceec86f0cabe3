import EmojiLint.Proofs.Json.Spelled

/-!
# Values that nobody asks for

A value that is spelled is passed over to its end, whatever it is and however deep it is nested.
The program goes through it with a list of the brackets that are open.  An array and an object
differ only in what comes before an element, so the lemmas about the places of an element cover
both.

* `Passes` — an element of a nest, with what comes before it, is passed over.
* `PassesAll` — what a nest holds is passed over, with the bracket that closes it.
* `skipValue_of_spells` — a whole value.
-/

set_option autoImplicit false

namespace EmojiLint
namespace Json

variable {c : Char} {cs more rest start : List Char} {v : Json} {nest : Nest} {nests : List Nest}
  {filled : Prop}

/-! ## One step -/

/-- A scalar behind some space is passed over. -/
theorem skipFrom_scalar (hgap : Gap start (c :: cs)) (hc : isSpace c = false)
    (h : skipStart (c :: cs) = .ok (none, rest)) :
    skipFrom .value nests start = skipFrom .after nests rest := by
  rw [skipStart, skipSpace_cons hc, ← hgap.skipSpace_cons hc, ← skipStart] at h
  rw [skipFrom]
  split <;> rename_i heq <;> rw [h] at heq <;> cases heq
  rfl

/-- The bracket that opens a nest is passed over with the space before it. -/
theorem skipFrom_nest (hgap : Gap start (c :: cs)) (hc : isSpace c = false)
    (h : skipStart (c :: cs) = .ok (some nest, rest)) :
    skipFrom .value nests start = skipFrom .opened (nest :: nests) rest := by
  rw [skipStart, skipSpace_cons hc, ← hgap.skipSpace_cons hc, ← skipStart] at h
  rw [skipFrom]
  split <;> rename_i heq <;> rw [h] at heq <;> cases heq
  rfl

theorem Nest.isSpace_close (nest : Nest) : isSpace nest.close = false := by
  cases nest <;> rfl

theorem Nest.comma_ne_close (nest : Nest) : ',' ≠ nest.close := by
  cases nest <;> decide

theorem skipFrom_opened_close (h : Gap cs (nest.close :: rest)) :
    skipFrom .opened (nest :: nests) cs = skipFrom .after nests rest := by
  have hskip := h.skipSpace_cons nest.isSpace_close
  rw [skipFrom]
  split <;> rename_i heq <;> rw [hskip] at heq <;> cases heq
  rw [if_pos rfl]

theorem skipFrom_after_close (h : Gap cs (nest.close :: rest)) :
    skipFrom .after (nest :: nests) cs = skipFrom .after nests rest := by
  have hskip := h.skipSpace_cons nest.isSpace_close
  rw [skipFrom]
  split <;> rename_i heq <;> rw [hskip] at heq <;> cases heq
  rw [if_pos rfl]

/-! ## Elements of a nest -/

/-- An element of a nest, with what comes before it, is passed over.  Its first character is not the
bracket that closes the nest, and the space before that character does not matter. -/
def Passes (nest : Nest) (cs rest : List Char) : Prop :=
  ∃ c tail, Gap cs (c :: tail) ∧ isSpace c = false ∧ c ≠ nest.close ∧
    ∀ start, Gap start (c :: tail) → ∃ after, skipLabel nest start = .ok after ∧
      ∀ nests, skipFrom .value nests after = skipFrom .after nests rest

theorem Passes.opened (h : Passes nest cs rest) :
    skipFrom .opened (nest :: nests) cs = skipFrom .after (nest :: nests) rest := by
  obtain ⟨c, tail, hgap, hc, hclose, hvalue⟩ := h
  obtain ⟨after, hlabel, hafter⟩ := hvalue (c :: tail) .none
  have hskip := hgap.skipSpace_cons hc
  rw [skipFrom]
  split <;> rename_i heq <;> rw [hskip] at heq <;> cases heq
  rw [if_neg hclose]
  split <;> rename_i heq <;> rw [hlabel] at heq <;> cases heq
  exact hafter _

theorem Passes.next (h : Passes nest cs rest) (hcomma : Gap start (',' :: cs)) :
    skipFrom .after (nest :: nests) start = skipFrom .after (nest :: nests) rest := by
  obtain ⟨c, tail, hgap, hc, hclose, hvalue⟩ := h
  obtain ⟨after, hlabel, hafter⟩ := hvalue cs hgap
  have hskip : skipSpace start = ',' :: cs := hcomma.skipSpace_cons rfl
  rw [skipFrom]
  split <;> rename_i heq <;> rw [hskip] at heq <;> cases heq
  rw [if_neg nest.comma_ne_close, if_pos rfl]
  split <;> rename_i heq <;> rw [hlabel] at heq <;> cases heq
  exact hafter _

/-- What a nest holds is passed over with the bracket that closes the nest, behind the bracket that
opens it and, if there is anything, behind a comma. -/
structure PassesAll (nest : Nest) (filled : Prop) (cs rest : List Char) : Prop where
  opened : ∀ nests, skipFrom .opened (nest :: nests) cs = skipFrom .after nests rest
  next : filled → ∀ nests start, Gap start (',' :: cs) →
    skipFrom .after (nest :: nests) start = skipFrom .after nests rest

theorem passesAll_empty (hend : Gap cs (nest.close :: rest)) (hempty : ¬ filled) :
    PassesAll nest filled cs rest :=
  ⟨fun _ => skipFrom_opened_close hend, fun h => absurd h hempty⟩

theorem Passes.last (h : Passes nest cs more) (hend : Gap more (nest.close :: rest)) :
    PassesAll nest filled cs rest :=
  ⟨fun _ => h.opened.trans (skipFrom_after_close hend),
    fun _ _ _ hcomma => (h.next hcomma).trans (skipFrom_after_close hend)⟩

theorem Passes.append {before behind : List Char} {filled' : Prop} (h : Passes nest cs before)
    (hcomma : Gap before (',' :: behind)) (hmore : PassesAll nest filled' behind rest)
    (hfilled : filled') : PassesAll nest filled cs rest :=
  ⟨fun _ => h.opened.trans (hmore.next hfilled _ _ hcomma),
    fun _ _ _ hcomma' => (h.next hcomma').trans (hmore.next hfilled _ _ hcomma)⟩

/-! ## Values -/

/-- A piece of a value is passed over.  A member stands in an object, after a bracket or a comma. -/
def Part.Passed : Part → List Char → List Char → Prop
  | .value _, cs, rest => Ends rest → ∀ nests start, Gap start cs →
      skipFrom .value nests start = skipFrom .after nests rest
  | .elements vs, cs, rest => PassesAll .array (vs ≠ []) cs rest
  | .member _, cs, rest => Ends rest → Passes .object cs rest
  | .members ms, cs, rest => PassesAll .object (ms ≠ []) cs rest

/-- What begins with a digit is passed over as a number. -/
theorem skipStart_digit (hc : c.isDigit = true) (cs : List Char) :
    skipStart (c :: cs) = (skipNumber (c :: cs)).map fun after => (none, after) := by
  have hne : ∀ d : Char, d.isDigit = false → c ≠ d := by
    rintro d hd rfl
    rw [hc] at hd
    cases hd
  rw [skipStart, skipSpace_cons (isSpace_of_isDigit hc)]
  simp only [if_neg (hne 'n' rfl), if_neg (hne 't' rfl), if_neg (hne 'f' rfl),
    if_neg (hne '-' rfl), if_pos hc]

/-- An element of an array is a value behind some space. -/
theorem passes_element (hgap : Gap cs more) (hvalue : Spells more (.value v) rest)
    (h : (Part.value v).Passed more rest) (hends : Ends rest) : Passes .array cs rest := by
  obtain ⟨c, tail, rfl, hc⟩ := hvalue.starts
  exact ⟨c, tail, hgap, hc.isSpace_eq, hc.ne_bracket,
    fun start hstart => ⟨start, rfl, fun nests => h hends nests start hstart⟩⟩

/-- The key of a member and the colon after it are passed over. -/
theorem skipKey_of_spells {key afterKey : List Char} (hgap : Gap start ('"' :: cs))
    (hkey : SpellsString cs key afterKey) (hcolon : Gap afterKey (':' :: rest)) :
    skipKey start = .ok rest := by
  have hcolon : skipSpace afterKey = ':' :: rest := hcolon.skipSpace_cons rfl
  rw [skipKey, hgap.skipSpace_cons rfl]
  simp only [if_pos, skipString_of_spells hkey, hcolon]

/-- **What is spelled is passed over.** -/
theorem Spells.passed {part : Part} (h : Spells cs part rest) : part.Passed cs rest := by
  induction h with
  | null => exact fun _ nests start hgap => skipFrom_scalar hgap rfl rfl
  | yes => exact fun _ nests start hgap => skipFrom_scalar hgap rfl rfl
  | no => exact fun _ nests start hgap => skipFrom_scalar hgap rfl rfl
  | whole h =>
    intro hends nests start hgap
    have hskip := skipNumber_of_spells h hends
    cases h with
    | digits hdigits _ =>
      have hdigit := hdigits _ List.mem_cons_self
      rw [List.cons_append] at hgap hskip
      refine skipFrom_scalar hgap (isSpace_of_isDigit hdigit) ?_
      rw [skipStart_digit hdigit, hskip]
      rfl
  | minus h hn =>
    intro hends nests start hgap
    refine skipFrom_scalar hgap rfl ?_
    show (skipNumber _).map _ = _
    rw [skipNumber_of_spells h hends]
    rfl
  | string h =>
    intro _ nests start hgap
    refine skipFrom_scalar hgap rfl ?_
    show (skipString _).map _ = _
    rw [skipString_of_spells h]
    rfl
  | array h ih =>
    exact fun _ nests start hgap => (skipFrom_nest hgap rfl rfl).trans (ih.opened nests)
  | object h hperm hms ih =>
    exact fun _ nests start hgap => (skipFrom_nest hgap rfl rfl).trans (ih.opened nests)
  | noElement hend => exact passesAll_empty hend fun h => h rfl
  | lastElement hgap hvalue hend ih =>
    exact (passes_element hgap hvalue ih (hend.ends (.inr (.inl rfl)))).last hend
  | element hgap hvalue hcomma hmore hvs ih ihmore =>
    exact (passes_element hgap hvalue ih (hcomma.ends (.inl rfl))).append hcomma ihmore hvs
  | member hgap hkey hcolon hspace hvalue ih =>
    exact fun hends => ⟨_, _, hgap, rfl, by decide, fun start hstart =>
      ⟨_, skipKey_of_spells hstart hkey hcolon, fun nests => ih hends nests _ hspace⟩⟩
  | noMember hend => exact passesAll_empty hend fun h => h rfl
  | lastMember hmember hend ih => exact (ih (hend.ends (.inr (.inr rfl)))).last hend
  | members hmember hcomma hmore hms ih ihmore =>
    exact (ih (hcomma.ends (.inl rfl))).append hcomma ihmore hms

/-- **A value that is spelled is passed over to its end.** -/
theorem skipValue_of_spells (hgap : Gap start cs) (h : Spells cs (.value v) rest)
    (hends : Ends rest) : skipValue start = .ok rest := by
  rw [skipValue, h.passed hends [] start hgap, skipFrom]

end Json
end EmojiLint
