import EmojiLint.Proofs.Text.Ascii

/-!
# Regular expressions, as far as globs need them

A glob is matched as a regular expression, by a library for these.  This file writes down what the
documentation of the library says of the few constructs that a glob is turned into: characters that
stand for themselves, escaped where they have to be, the two wildcards `.` and `[^/]`, the
repetition `*`, and the anchors `^` and `$`.

* `Spells` — a text is read as a list of items.
* `Runs` — the items match one after the other from a place in a text on.
* `IsMatch` — they do so from some place in the text.
* `Documented` — what a library promises: it compiles what is small enough, and finds matches.
* `engine`, `documented_engine` — a library of a few lines that keeps the promise.
-/

set_option autoImplicit false

namespace EmojiLint
namespace Regex

/-! ## Syntax -/

/-- What stands for one character. -/
inductive Atom
  /-- `.` stands for any character but a line feed. -/
  | any
  /-- `[^/]` stands for any character but a slash, a line feed among them. -/
  | notSlash
  | literal (c : Char)
deriving DecidableEq, Repr

/-- What a regular expression is a sequence of. -/
inductive Item
  /-- `^` stands for the beginning of the text, and not for that of any other line. -/
  | start
  /-- `$` stands for the end of the text, and not for the place before a last line feed. -/
  | stop
  | one (atom : Atom)
  /-- An atom with `*` behind it may stand there any number of times. -/
  | many (atom : Atom)
deriving DecidableEq, Repr

/-- The characters that stand for something else than themselves. -/
def isMeta (c : Char) : Bool :=
  "\\.+*?()|[]\x7b\x7d^$".toList.contains c

/-- The characters that a backslash makes stand for themselves: those of ASCII, except for letters,
digits and angle brackets. -/
def isEscapable (c : Char) : Bool :=
  Text.isAscii c && !c.isAlphanum && c != '<' && c != '>'

/-- A text is read as an atom. -/
inductive Atom.Spells : List Char → Atom → Prop
  | any : Spells ['.'] .any
  | notSlash : Spells ['[', '^', '/', ']'] .notSlash
  | plain {c : Char} (hc : isMeta c = false) : Spells [c] (.literal c)
  | escaped {c : Char} (hc : isEscapable c = true) : Spells ['\\', c] (.literal c)

/-- A text is read as an item. -/
inductive Item.Spells : List Char → Item → Prop
  | start : Spells ['^'] .start
  | stop : Spells ['$'] .stop
  | one {text : List Char} {atom : Atom} (h : atom.Spells text) : Spells text (.one atom)
  | many {text : List Char} {atom : Atom} (h : atom.Spells text) :
      Spells (text ++ ['*']) (.many atom)

/-- A text is read as a sequence of items. -/
inductive Spells : List Char → List Item → Prop
  | nil : Spells [] []
  | cons {text rest : List Char} {item : Item} {items : List Item} (h : item.Spells text)
      (hrest : Spells rest items) : Spells (text ++ rest) (item :: items)

/-! ## Meaning -/

/-- Whether an atom stands for a character. -/
def Atom.holds : Atom → Char → Bool
  | any, c => c != '\n'
  | notSlash, c => c != '/'
  | literal d, c => c == d

/-- The items match one after the other, from between the characters `before` and `after` on. -/
inductive Runs : List Item → List Char → List Char → Prop
  | nil {before after : List Char} : Runs [] before after
  | start {items : List Item} {after : List Char} (h : Runs items [] after) :
      Runs (.start :: items) [] after
  | stop {items : List Item} {before : List Char} (h : Runs items before []) :
      Runs (.stop :: items) before []
  | one {atom : Atom} {items : List Item} {before after : List Char} {c : Char}
      (hc : atom.holds c = true) (h : Runs items (before ++ [c]) after) :
      Runs (.one atom :: items) before (c :: after)
  /-- The repetition is over. -/
  | last {atom : Atom} {items : List Item} {before after : List Char}
      (h : Runs items before after) : Runs (.many atom :: items) before after
  /-- The atom stands there once more. -/
  | more {atom : Atom} {items : List Item} {before after : List Char} {c : Char}
      (hc : atom.holds c = true) (h : Runs (.many atom :: items) (before ++ [c]) after) :
      Runs (.many atom :: items) before (c :: after)

/-- The items match somewhere in a text. -/
def IsMatch (items : List Item) (text : List Char) : Prop :=
  ∃ before after, text = before ++ after ∧ Runs items before after

variable {before after : List Char} {atom : Atom} {items : List Item}

theorem runs_start_iff :
    Runs (.start :: items) before after ↔ before = [] ∧ Runs items before after := by
  constructor
  · intro h
    cases h with
    | start h => exact ⟨rfl, h⟩
  · rintro ⟨rfl, h⟩
    exact .start h

theorem runs_stop_iff :
    Runs (.stop :: items) before after ↔ after = [] ∧ Runs items before after := by
  constructor
  · intro h
    cases h with
    | stop h => exact ⟨rfl, h⟩
  · rintro ⟨rfl, h⟩
    exact .stop h

theorem runs_one_iff : Runs (.one atom :: items) before after ↔
    ∃ c rest, after = c :: rest ∧ atom.holds c = true ∧ Runs items (before ++ [c]) rest := by
  constructor
  · intro h
    cases h with
    | one hc h => exact ⟨_, _, rfl, hc, h⟩
  · rintro ⟨c, rest, rfl, hc, h⟩
    exact .one hc h

/-- A repetition takes any characters that its atom stands for. -/
theorem runs_many_iff : Runs (.many atom :: items) before after ↔
    ∃ taken rest, after = taken ++ rest ∧ (∀ c ∈ taken, atom.holds c = true) ∧
      Runs items (before ++ taken) rest := by
  constructor
  · intro h
    induction after generalizing before with
    | nil =>
      cases h with
      | last h => exact ⟨[], [], rfl, List.forall_mem_nil _, by rwa [List.append_nil]⟩
    | cons c after ih =>
      cases h with
      | last h => exact ⟨[], c :: after, rfl, List.forall_mem_nil _, by rwa [List.append_nil]⟩
      | more hc h =>
        obtain ⟨taken, rest, rfl, htaken, h⟩ := ih h
        rw [List.append_assoc] at h
        exact ⟨c :: taken, rest, rfl, List.forall_mem_cons.2 ⟨hc, htaken⟩, h⟩
  · rintro ⟨taken, rest, rfl, htaken, h⟩
    induction taken generalizing before with
    | nil =>
      rw [List.append_nil] at h
      exact .last h
    | cons c taken ih =>
      obtain ⟨hc, htaken⟩ := List.forall_mem_cons.1 htaken
      refine .more hc (ih htaken ?_)
      rwa [List.append_assoc]

/-- Behind `^` the items have to match from the beginning of the text on. -/
theorem isMatch_start_iff {text : List Char} :
    IsMatch (.start :: items) text ↔ Runs items [] text := by
  constructor
  · rintro ⟨before, after, rfl, h⟩
    obtain ⟨rfl, h⟩ := runs_start_iff.1 h
    exact h
  · intro h
    exact ⟨[], text, rfl, .start h⟩

/-- **What a library of regular expressions promises.**  `fits` says which expressions are within
its limit of size, and `compile` makes a function of an expression that says of a text whether it
matches somewhere. -/
structure Documented (fits : List Char → Prop)
    (compile : List Char → Option (List Char → Bool)) : Prop where
  isSome {regex : List Char} {items : List Item} (h : Spells regex items) (hfits : fits regex) :
    (compile regex).isSome = true
  isMatch_iff {regex : List Char} {items : List Item} {isMatch : List Char → Bool}
    (h : Spells regex items) (hcompile : compile regex = some isMatch) (text : List Char) :
    isMatch text = true ↔ IsMatch items text

/-! ## Reading -/

/-- Read an atom off the front of an expression. -/
def atom? : List Char → Option (Atom × List Char)
  | [] => none
  | c :: cs =>
    if c = '.' then some (.any, cs)
    else if c = '[' then if ['^', '/', ']'].isPrefixOf cs then some (.notSlash, cs.drop 3) else none
    else if c = '\\' then
      match cs with
      | [] => none
      | d :: ds => if isEscapable d then some (.literal d, ds) else none
    else if isMeta c then none
    else some (.literal c, cs)

/-- Read an item off the front of an expression. -/
def item? (cs : List Char) : Option (Item × List Char) :=
  if cs.head? = some '^' then some (.start, cs.tail)
  else if cs.head? = some '$' then some (.stop, cs.tail)
  else
    (atom? cs).map fun (atom, rest) =>
      if rest.head? = some '*' then (.many atom, rest.tail) else (.one atom, rest)

variable {cs rest text : List Char} {item : Item}

theorem length_lt_of_atom? (h : atom? cs = some (atom, rest)) : rest.length < cs.length := by
  unfold atom? at h
  repeat' split at h
  all_goals cases h
  all_goals simp only [List.length_drop, List.length_cons]
  all_goals omega

theorem length_lt_of_item? (h : item? cs = some (item, rest)) : rest.length < cs.length := by
  have htail : cs.head? ≠ none → cs.tail.length < cs.length := by
    cases cs with
    | nil => exact fun hhead => absurd rfl hhead
    | cons c cs => exact fun _ => Nat.lt_succ_self _
  rw [item?] at h
  split at h
  · next hhead =>
    cases h
    exact htail (by simp [hhead])
  · split at h
    · next hhead =>
      cases h
      exact htail (by simp [hhead])
    · obtain ⟨⟨atom, ds⟩, hatom, h⟩ := Option.map_eq_some_iff.1 h
      have hlt := length_lt_of_atom? hatom
      dsimp only at h
      split at h
      · cases h
        exact Nat.lt_of_le_of_lt (by simp) hlt
      · cases h
        exact hlt

/-- Read a whole expression. -/
def read? (cs : List Char) : Option (List Item) :=
  if cs = [] then some []
  else
    match _h : item? cs with
    | some (item, rest) => (read? rest).map (item :: ·)
    | none => none
termination_by cs.length
decreasing_by exact length_lt_of_item? _h

theorem Atom.Spells.exists_eq_cons (h : atom.Spells text) :
    ∃ c cs, text = c :: cs ∧ c ≠ '^' ∧ c ≠ '$' ∧ c ≠ '*' := by
  cases h with
  | any | notSlash | escaped => exact ⟨_, _, rfl, by decide, by decide, by decide⟩
  | @plain c hc =>
    have hne : ∀ d, isMeta d = true → c ≠ d := by
      rintro d hd rfl
      exact Bool.false_ne_true (hc.symm.trans hd)
    exact ⟨c, [], rfl, hne '^' rfl, hne '$' rfl, hne '*' rfl⟩

theorem Item.Spells.head?_ne_star (h : item.Spells text) (rest : List Char) :
    (text ++ rest).head? ≠ some '*' := by
  cases h with
  | start | stop => exact fun hhead => absurd (Option.some.inj hhead) (by decide)
  | one h | many h =>
    obtain ⟨c, cs, rfl, -, -, hstar⟩ := h.exists_eq_cons
    exact fun hhead => hstar (Option.some.inj hhead)

/-- No expression begins with a star, so a star belongs to the atom before it. -/
theorem Spells.head?_ne_star (h : Spells text items) : text.head? ≠ some '*' := by
  cases h with
  | nil => exact fun hhead => nomatch hhead
  | cons h _ => exact h.head?_ne_star _

theorem atom?_append (h : atom.Spells text) (rest : List Char) :
    atom? (text ++ rest) = some (atom, rest) := by
  cases h with
  | any | notSlash => rfl
  | escaped hc => exact if_pos hc
  | @plain c hc =>
    have hne : ∀ d, isMeta d = true → c ≠ d := by
      rintro d hd rfl
      exact Bool.false_ne_true (hc.symm.trans hd)
    simp only [List.singleton_append, atom?, if_neg (hne '.' rfl), if_neg (hne '[' rfl),
      if_neg (hne '\\' rfl), hc, Bool.false_eq_true, if_false]

theorem item?_append (h : item.Spells text) (hrest : rest.head? ≠ some '*') :
    item? (text ++ rest) = some (item, rest) := by
  have hatom : ∀ {text atom}, Atom.Spells text atom → ∀ more,
      item? (text ++ more) = some (if more.head? = some '*' then (.many atom, more.tail)
        else (.one atom, more)) := by
    intro text atom h more
    obtain ⟨c, cs, htext, hstart, hstop, -⟩ := h.exists_eq_cons
    have hne : ∀ d, c ≠ d → (text ++ more).head? ≠ some d := by
      intro d hd hhead
      rw [htext] at hhead
      exact hd (Option.some.inj hhead)
    rw [item?, if_neg (hne '^' hstart), if_neg (hne '$' hstop), atom?_append h]
    rfl
  cases h with
  | start | stop => rfl
  | one h => rw [hatom h, if_neg hrest]
  | many h =>
    rw [List.append_assoc, hatom h]
    rfl

/-- An expression is read in one way only. -/
theorem read?_of_spells (h : Spells text items) : read? text = some items := by
  induction h with
  | nil => rw [read?, if_pos rfl]
  | @cons text rest item items h hrest ih =>
    have hitem := item?_append h hrest.head?_ne_star
    have hne : text ++ rest ≠ [] := by
      intro hnil
      rw [hnil] at hitem
      cases hitem
    rw [read?, if_neg hne]
    split
    · next item' rest' hitem' =>
      rw [hitem] at hitem'
      cases hitem'
      rw [ih, Option.map_some]
    · next hnone =>
      rw [hitem] at hnone
      cases hnone

/-! ## Matching -/

/-- Whether the items match one after the other, from between `before` and `after` on. -/
def run : List Item → List Char → List Char → Bool
  | [], _, _ => true
  | .start :: items, before, after => before.isEmpty && run items before after
  | .stop :: items, before, after => after.isEmpty && run items before after
  | .one _ :: _, _, [] => false
  | .one atom :: items, before, c :: after => atom.holds c && run items (before ++ [c]) after
  | .many _ :: items, before, [] => run items before []
  | .many atom :: items, before, c :: after =>
    run items before (c :: after) ||
      (atom.holds c && run (.many atom :: items) (before ++ [c]) after)
termination_by items _ after => (items.length, after.length)

theorem run_iff : run items before after = true ↔ Runs items before after := by
  fun_induction run items before after with
  | case1 before after => exact iff_of_true rfl .nil
  | case2 items before after ih =>
    rw [Bool.and_eq_true, List.isEmpty_iff, ih, runs_start_iff]
  | case3 items before after ih =>
    rw [Bool.and_eq_true, List.isEmpty_iff, ih, runs_stop_iff]
  | case4 atom items before => exact iff_of_false Bool.false_ne_true (by rintro ⟨⟩)
  | case5 atom items before c after ih =>
    rw [Bool.and_eq_true, ih]
    constructor
    · rintro ⟨hc, h⟩
      exact .one hc h
    · intro h
      cases h with
      | one hc h => exact ⟨hc, h⟩
  | case6 atom items before ih =>
    rw [ih]
    constructor
    · exact .last
    · intro h
      cases h with
      | last h => exact h
  | case7 atom items before c after ihlast ihmore =>
    rw [Bool.or_eq_true, Bool.and_eq_true, ihlast, ihmore]
    constructor
    · rintro (h | ⟨hc, h⟩)
      · exact .last h
      · exact .more hc h
    · intro h
      cases h with
      | last h => exact Or.inl h
      | more hc h => exact Or.inr ⟨hc, h⟩

/-- Whether the items match from between `before` and `after` or from a later place on. -/
def search (items : List Item) : List Char → List Char → Bool
  | before, [] => run items before []
  | before, c :: after => run items before (c :: after) || search items (before ++ [c]) after

theorem search_iff : search items before after = true ↔
    ∃ passed rest, after = passed ++ rest ∧ Runs items (before ++ passed) rest := by
  induction after generalizing before with
  | nil =>
    rw [search, run_iff]
    constructor
    · intro h
      exact ⟨[], [], rfl, by rwa [List.append_nil]⟩
    · rintro ⟨passed, rest, hnil, h⟩
      obtain ⟨rfl, rfl⟩ := List.append_eq_nil_iff.1 hnil.symm
      rwa [List.append_nil] at h
  | cons c after ih =>
    rw [search, Bool.or_eq_true, run_iff, ih]
    constructor
    · rintro (h | ⟨passed, rest, rfl, h⟩)
      · exact ⟨[], c :: after, rfl, by rwa [List.append_nil]⟩
      · refine ⟨c :: passed, rest, rfl, ?_⟩
        rwa [List.append_assoc] at h
    · rintro ⟨passed, rest, heq, h⟩
      cases passed with
      | nil =>
        rw [List.append_nil] at h
        rw [List.nil_append] at heq
        exact Or.inl (heq ▸ h)
      | cons d passed =>
        obtain ⟨rfl, rfl⟩ := List.cons.inj heq
        exact Or.inr ⟨passed, rest, rfl, by rwa [List.append_assoc]⟩

/-- A library without a limit of size. -/
def engine (regex : List Char) : Option (List Char → Bool) :=
  (read? regex).map fun items => search items []

/-- **The promise can be kept.** -/
theorem documented_engine : Documented (fun _ => True) engine where
  isSome h _ := by rw [engine, read?_of_spells h, Option.map_some, Option.isSome_some]
  isMatch_iff h hcompile text := by
    rw [engine, read?_of_spells h, Option.map_some] at hcompile
    cases hcompile
    exact search_iff

end Regex
end EmojiLint
