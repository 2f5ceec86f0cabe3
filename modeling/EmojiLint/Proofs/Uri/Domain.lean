import EmojiLint.Proofs.Path.Segments
import EmojiLint.Proofs.Uri.Address
import EmojiLint.Proofs.Uri.Punycode
import EmojiLint.Uri.Domain.Basic

/-!
# Domains that are ASCII already

A domain that is written in ASCII has itself as its form in ASCII, in small letters.  The tables for
other scripts do not matter then, because no row of them is about an ASCII character.

* `mapped?_of_isAscii`, `composed_of_isAscii` — what the tables do to ASCII.
* `labelAscii_of_labelText?` — a label with the mark is written as it was read.
* `eq_map_toLower_of_ascii?` — a domain in ASCII is only put into small letters.
* `ascii?_of_isAscii` — unless a label has the mark, it is read.
-/

set_option autoImplicit false

namespace EmojiLint
namespace Domain

open Text (isAscii fields)

variable {c d : Char} {cs ds label text : List Char}

/-! ## Fates of characters -/

theorem remains?_of_isAscii (h : isAscii c = true) : remains? c = some [c.toLower] := by
  have hascii : c.toNat < 0x80 := of_decide_eq_true h
  rw [remains?, fate, if_pos hascii]
  cases hupper : c.isUpper with
  | true => rfl
  | false =>
    rw [Text.toLower_of_isUpper_eq_false hupper]
    rfl

theorem mapped?_of_isAscii (h : ∀ c ∈ cs, isAscii c = true) :
    mapped? cs = some (cs.map Char.toLower) := by
  rw [mapped?, mapM_of_forall fun c hc => remains?_of_isAscii (h c hc), Option.map_some,
    ← List.flatMap_def, ← List.map_eq_flatMap]

/-! ## Composition -/

/-- No row of the table of compositions is about an ASCII character, but for first parts. -/
theorem isWide_of_mem_compositions : ∀ row ∈ compositions, 0x80 ≤ row.2.1 ∧ 0x80 ≤ row.2.2 := by
  decide +kernel

theorem isWide_of_mem_markClasses : ∀ row ∈ markClasses, 0x80 ≤ row.1 := by
  decide +kernel

theorem markClass_of_isAscii (h : isAscii c = true) : markClass c = 0 := by
  have hascii : c.toNat < 0x80 := of_decide_eq_true h
  have hfind : (markClasses.find? fun row => row.1 ≤ c.toNat && c.toNat ≤ row.2.1) = none := by
    refine List.find?_eq_none.2 fun row hrow => ?_
    have := isWide_of_mem_markClasses row hrow
    simp
    omega
  rw [markClass, hfind]
  rfl

theorem offset?_of_isAscii (h : isAscii c = true) {first size : Nat} (hfirst : 0x80 ≤ first) :
    Hangul.offset? first size c = none := by
  have hascii : c.toNat < 0x80 := of_decide_eq_true h
  exact if_neg fun hrange => by omega

theorem parts_of_isAscii (h : isAscii c = true) : parts c = [c] := by
  have hascii : c.toNat < 0x80 := of_decide_eq_true h
  have hfold : ∀ (divide : Nat × Nat × Nat → List Char → List Char)
      (rows : List (Nat × Nat × Nat)), (∀ row ∈ rows, divide row [c] = [c]) →
        rows.foldr divide [c] = [c] := by
    intro divide rows hrows
    induction rows with
    | nil => rfl
    | cons row rows ih =>
      obtain ⟨hrow, hrows⟩ := List.forall_mem_cons.1 hrows
      rw [List.foldr_cons, ih hrows, hrow]
  rw [parts, Hangul.letters?, offset?_of_isAscii h (by decide)]
  have hrows : ∀ row ∈ compositions, 0x80 ≤ row.2.2 :=
    fun row hrow => (isWide_of_mem_compositions row hrow).2
  generalize compositions = rows at hrows ⊢
  refine hfold _ rows fun row hrow => if_neg ?_
  have := hrows row hrow
  omega

theorem syllable?_of_isAscii (h : isAscii d = true) (c : Char) : Hangul.syllable? c d = none := by
  rw [Hangul.syllable?, offset?_of_isAscii h (by decide), offset?_of_isAscii h (by decide)]
  cases Hangul.offset? 0x1100 19 c <;> cases Hangul.offset? 0xAC00 11172 c <;> rfl

theorem composite?_of_isAscii (h : isAscii d = true) (c : Char) : composite? c d = none := by
  have hascii : d.toNat < 0x80 := of_decide_eq_true h
  have hfind : (compositions.find? fun row => row.1 = c.toNat && row.2.1 = d.toNat) = none := by
    refine List.find?_eq_none.2 fun row hrow => ?_
    have := (isWide_of_mem_compositions row hrow).1
    simp
    omega
  rw [composite?, syllable?_of_isAscii h]
  dsimp only
  rw [hfind]
  rfl

theorem ordered_of_isAscii (h : ∀ c ∈ cs, isAscii c = true) : ordered cs = cs := by
  induction cs with
  | nil => rfl
  | cons c cs ih =>
    obtain ⟨hc, hcs⟩ := List.forall_mem_cons.1 h
    have hrest := ih hcs
    rw [ordered] at hrest ⊢
    rw [List.foldr_cons, hrest]
    cases cs with
    | nil => rfl
    | cons d cs =>
      rw [insertMark, if_neg fun hmark => hmark.1 (markClass_of_isAscii (hcs d List.mem_cons_self))]

theorem joined_of_isAscii (h : ∀ c ∈ cs, isAscii c = true) (c : Char) :
    joined c [] cs = c :: cs := by
  induction cs generalizing c with
  | nil => rfl
  | cons d cs ih =>
    obtain ⟨hd, hcs⟩ := List.forall_mem_cons.1 h
    rw [joined]
    simp only [composite?_of_isAscii hd, markClass_of_isAscii hd, if_true, ih hcs d]
    rfl

theorem composed_of_isAscii (h : ∀ c ∈ cs, isAscii c = true) : composed cs = cs := by
  have hparts : (cs.map parts).flatten = cs := by
    rw [List.map_congr_left fun c hc => parts_of_isAscii (h c hc), ← List.flatMap_def]
    exact List.flatMap_singleton' _
  rw [composed, hparts, ordered_of_isAscii h]
  cases cs with
  | nil => rfl
  | cons c cs =>
    obtain ⟨hc, hcs⟩ := List.forall_mem_cons.1 h
    have hclass : decide (markClass c ≠ 0) = false := by
      rw [markClass_of_isAscii hc]
      rfl
    rw [List.takeWhile_cons_of_neg (by rw [hclass]; decide),
      List.dropWhile_cons_of_neg (by rw [hclass]; decide)]
    exact joined_of_isAscii hcs c

/-! ## Labels -/

/-- **A label with the mark is written as it was read**, and so is one without. -/
theorem labelAscii_of_labelText? (hascii : ∀ c ∈ label, isAscii c = true)
    (hupper : ∀ c ∈ label, c.isUpper = false) (h : labelText? label = some text) :
    labelAscii text = label := by
  rw [labelText?] at h
  split at h
  · rename_i hmark
    obtain ⟨code, rfl⟩ := List.isPrefixOf_iff_prefix.1 hmark
    rw [List.drop_left, unmarked?] at h
    split at h
    · cases h
    · rename_i hcode
      obtain ⟨decoded, hdecoded, h⟩ := Option.bind_eq_some_iff.1 h
      have htext : decoded = text := by
        split at h
        · exact Option.some_inj.1 h
        · cases h
      rw [htext] at hdecoded
      have hencode := Punycode.encode_of_decode?
        (fun c hc => hascii c (List.mem_append_right _ hc))
        (fun c hc => hupper c (List.mem_append_right _ hc)) hdecoded
      -- The form of an ASCII text is empty or ends in a hyphen.
      have hnot : text.all Punycode.isAscii = false := by
        refine Bool.eq_false_iff.2 fun hall => hcode ?_
        have hfilter : text.filter Punycode.isAscii = text :=
          List.filter_eq_self.2 (List.all_eq_true.1 hall)
        rw [Punycode.encode_eq, Punycode.steps_of_isAscii (List.all_eq_true.1 hall), hfilter,
          Punycode.written, List.append_nil] at hencode
        rw [← hencode, Bool.or_eq_true, Bool.or_eq_true]
        cases text with
        | nil => exact Or.inl (Or.inl rfl)
        | cons c text => exact Or.inl (Or.inr (decide_eq_true List.getLast?_concat))
      rw [labelAscii, hnot, hencode]
      rfl
  · have hall : label.all Punycode.isAscii = true := List.all_eq_true.2 hascii
    rw [← Option.some_inj.1 h, labelAscii, if_pos hall]

/-! ## Domains -/

theorem isAscii_of_mem_map_toLower (h : ∀ c ∈ cs, isAscii c = true)
    (hc : c ∈ cs.map Char.toLower) : isAscii c = true ∧ c.isUpper = false := by
  obtain ⟨d, hd, rfl⟩ := List.mem_map.1 hc
  exact ⟨Text.isAscii_toLower (h d hd), Text.isUpper_toLower (h d hd)⟩

/-- **A domain in ASCII is only put into small letters.** -/
theorem eq_map_toLower_of_ascii? (h : ∀ c ∈ cs, isAscii c = true) (hsome : ascii? cs = some ds) :
    ds = cs.map Char.toLower := by
  have hlower : ∀ c ∈ cs.map Char.toLower, isAscii c = true ∧ c.isUpper = false :=
    fun c hc => isAscii_of_mem_map_toLower h hc
  rw [ascii?, mapped?_of_isAscii h] at hsome
  generalize cs.map Char.toLower = low at hsome hlower ⊢
  rw [Option.bind_eq_bind, Option.bind_some, composed_of_isAscii fun c hc => (hlower c hc).1]
    at hsome
  obtain ⟨texts, htexts, hsome⟩ := Option.bind_eq_some_iff.1 hsome
  split at hsome
  · have hlabels : texts.map labelAscii = fields '.' low :=
      map_of_mapM htexts fun label hlabel text htext =>
        labelAscii_of_labelText? (fun c hc => (hlower c (Text.mem_of_mem_fields hlabel hc)).1)
          (fun c hc => (hlower c (Text.mem_of_mem_fields hlabel hc)).2) htext
    rw [← Option.some_inj.1 hsome, hlabels]
    exact Text.flatten_intersperse_fields '.' low
  · cases hsome

/-! ## Domains that surely are read -/

theorem within_of_isAscii {ranges : List (Nat × Nat)} (hranges : ∀ range ∈ ranges, 0x80 ≤ range.1)
    (h : isAscii c = true) : within ranges c = false := by
  have hascii : c.toNat < 0x80 := of_decide_eq_true h
  refine List.any_eq_false.2 fun range hrange => ?_
  have := hranges range hrange
  simp
  omega

theorem isMark_of_isAscii (h : isAscii c = true) : isMark c = false := by
  rw [isMark, isNonspacing, within_of_isAscii (by decide +kernel) h,
    within_of_isAscii (by decide +kernel) h, Bool.false_or]

theorem goesRight_of_isAscii (h : ∀ c ∈ cs, isAscii c = true) : goesRight cs = false := by
  refine List.any_eq_false.2 fun c hc => ?_
  rw [direction, within_of_isAscii (by decide +kernel) (h c hc),
    within_of_isAscii (by decide +kernel) (h c hc), if_neg Bool.false_ne_true,
    if_neg Bool.false_ne_true]
  split_ifs <;> decide

theorem joinersFit_of_isAscii (h : ∀ c ∈ cs, isAscii c = true) (before : List Char) :
    joinersFit before cs = true := by
  induction cs generalizing before with
  | nil => rfl
  | cons c cs ih =>
    obtain ⟨hc, hcs⟩ := List.forall_mem_cons.1 h
    have hleft : c ≠ '\u200C' := by
      rintro rfl
      exact absurd hc (by decide)
    have hright : c ≠ '\u200D' := by
      rintro rfl
      exact absurd hc (by decide)
    simp only [joinersFit, ih hcs, if_neg hleft, if_neg hright, Bool.and_self]

theorem isLabel_of_isAscii (h : ∀ c ∈ cs, isAscii c = true) : isLabel cs = true := by
  have hhead : cs.head?.any isMark = false := by
    cases cs with
    | nil => rfl
    | cons c cs => exact isMark_of_isAscii (h c List.mem_cons_self)
  have hall : cs.all Punycode.isAscii = true := List.all_eq_true.2 h
  rw [isLabel, hhead, joinersFit_of_isAscii h, hall]
  rfl

/-- **A domain in ASCII is read, unless a label has the mark.** -/
theorem ascii?_of_isAscii (h : ∀ c ∈ cs, isAscii c = true)
    (hmark : ∀ label ∈ fields '.' (cs.map Char.toLower), labelMark.isPrefixOf label = false) :
    ascii? cs = some (cs.map Char.toLower) := by
  have hlower : ∀ c ∈ cs.map Char.toLower, isAscii c = true :=
    fun c hc => (isAscii_of_mem_map_toLower h hc).1
  have hlabel : ∀ label ∈ fields '.' (cs.map Char.toLower), ∀ c ∈ label, isAscii c = true :=
    fun label hlabel c hc => hlower c (Text.mem_of_mem_fields hlabel hc)
  have hread : (fields '.' (cs.map Char.toLower)).mapM labelText? =
      some (fields '.' (cs.map Char.toLower)) := by
    rw [mapM_eq_some_iff]
    refine List.map_congr_left fun label hl => ?_
    rw [labelText?, hmark label hl]
    rfl
  have hlabels : (fields '.' (cs.map Char.toLower)).all isLabel = true :=
    List.all_eq_true.2 fun label hl => isLabel_of_isAscii (hlabel label hl)
  have hright : (fields '.' (cs.map Char.toLower)).any goesRight = false :=
    List.any_eq_false.2 fun label hl => by
      rw [goesRight_of_isAscii (hlabel label hl)]
      exact Bool.false_ne_true
  have hwrite : (fields '.' (cs.map Char.toLower)).map labelAscii =
      fields '.' (cs.map Char.toLower) := by
    refine (List.map_congr_left fun label hl => ?_).trans (List.map_id _)
    have hall : label.all Punycode.isAscii = true := List.all_eq_true.2 (hlabel label hl)
    rw [labelAscii, if_pos hall]
    rfl
  rw [ascii?, mapped?_of_isAscii h, Option.bind_eq_bind, Option.bind_some,
    composed_of_isAscii hlower, hread, Option.bind_eq_bind, Option.bind_some, hlabels, hright,
    hwrite, Text.flatten_intersperse_fields]
  rfl

end Domain
end EmojiLint
