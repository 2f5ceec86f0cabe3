import EmojiLint.Proofs.Check
import EmojiLint.Proofs.Removal

/-!
# What the edits of the checker do to a text

The quick fixes of a document delete its reported emoji one by one.  Applied from the last one to
the first, each of them finds the text before it as it was, so the spans of the diagnostics stay
right although the text becomes shorter.

* `TextEdit.applyAll?` — edits applied from the last one to the first.
* `Text.bytesWhere` — the bytes of a text whose offsets are wanted, in order.
* `Emoji.textWithout` — what is left of a text without some of its emoji.
* `applyAll?_delete` — deleting the spans of some emoji leaves that text.
* `bytes_textWithout` — it has the bytes that lie in none of the spans.
* `quickFixes_delete_reported` — so the quick fixes delete what was reported and nothing else.
-/

set_option autoImplicit false

namespace EmojiLint

open Text (byteLength)

/-! ## Bytes by their offsets -/

namespace Text

/-- Of the bytes of a text that begins at byte `offset`, those whose offsets are wanted. -/
def bytesWhere (wanted : Nat → Bool) (offset : Nat) (bs : List UInt8) : List UInt8 :=
  ((bs.zipIdx offset).filter fun entry => wanted entry.2).map Prod.fst

variable {wanted wanted' : Nat → Bool} {offset : Nat} {bs : List UInt8}

theorem bytesWhere_append (wanted : Nat → Bool) (offset : Nat) (bs bs' : List UInt8) :
    bytesWhere wanted offset (bs ++ bs') =
      bytesWhere wanted offset bs ++ bytesWhere wanted (offset + bs.length) bs' := by
  rw [bytesWhere, List.zipIdx_append, List.filter_append, List.map_append]
  rfl

theorem bytesWhere_congr
    (h : ∀ i, offset ≤ i → i < offset + bs.length → wanted i = wanted' i) :
    bytesWhere wanted offset bs = bytesWhere wanted' offset bs := by
  rw [bytesWhere, bytesWhere, List.filter_congr]
  intro entry hentry
  exact h entry.2 (List.le_snd_of_mem_zipIdx hentry) (List.snd_lt_add_of_mem_zipIdx hentry)

theorem bytesWhere_eq_self
    (h : ∀ i, offset ≤ i → i < offset + bs.length → wanted i = true) :
    bytesWhere wanted offset bs = bs := by
  rw [bytesWhere_congr h, bytesWhere, List.filter_true, List.zipIdx_map_fst]

theorem bytesWhere_eq_nil
    (h : ∀ i, offset ≤ i → i < offset + bs.length → wanted i = false) :
    bytesWhere wanted offset bs = [] := by
  rw [bytesWhere_congr h, bytesWhere, List.filter_false, List.map_nil]

/-- The more offsets are wanted, the more bytes there are. -/
theorem bytesWhere_sublist (h : ∀ i, wanted i = true → wanted' i = true) :
    (bytesWhere wanted offset bs).Sublist (bytesWhere wanted' offset bs) :=
  (List.monotone_filter_right (bs.zipIdx offset) fun entry : UInt8 × Nat => h entry.2).map Prod.fst

end Text

/-- Whether a byte lies in none of the spans. -/
def isOutside (spans : List Span) (offset : Nat) : Bool :=
  spans.all fun s => !s.contains offset

theorem isOutside_iff {spans : List Span} {offset : Nat} :
    isOutside spans offset = true ↔ ∀ s ∈ spans, s.contains offset = false := by
  simp only [isOutside, List.all_eq_true, Bool.not_eq_true']

theorem isOutside_cons (s : Span) (spans : List Span) (offset : Nat) :
    isOutside (s :: spans) offset = (!s.contains offset && isOutside spans offset) :=
  rfl

/-! ## Applying edits -/

namespace TextEdit

/-- Replace a word of a text. -/
theorem applyTo?_append (before word after : List Char) (newText : String) :
    applyTo? ⟨⟨byteLength before, byteLength word⟩, newText⟩
        (String.ofList (before ++ (word ++ after))) =
      some (String.ofList (before ++ newText.toList ++ after)) := by
  have hstop : min (byteLength before + byteLength word)
      (byteLength (before ++ (word ++ after))) = byteLength (before ++ word) := by
    simp only [Text.byteLength_append]
    omega
  have hstart : min (byteLength before) (byteLength (before ++ word)) = byteLength before := by
    rw [Text.byteLength_append]
    exact Nat.min_eq_left (Nat.le_add_right _ _)
  simp only [applyTo?, Span.stop, String.toList_ofList, hstop, hstart]
  rw [← List.append_assoc, Text.splitAtByte?_append, Option.bind_eq_bind, Option.bind_some,
    Text.splitAtByte?_append]
  rfl

/-- Replace a whole text. -/
theorem applyTo?_whole (text newText : String) :
    applyTo? ⟨⟨0, byteLength text.toList⟩, newText⟩ text = some newText := by
  have happly := applyTo?_append [] text.toList [] newText
  rwa [List.append_nil, List.append_nil, List.nil_append, List.nil_append, String.ofList_toList,
    String.ofList_toList] at happly

/-- Delete a span. -/
def delete (s : Span) : TextEdit :=
  ⟨s, ""⟩

/-- Apply edits to a text, from the last one to the first. -/
def applyAll? (edits : List TextEdit) (text : String) : Option String :=
  edits.foldr (fun edit edited => edited.bind edit.applyTo?) (some text)

theorem applyAll?_cons (edit : TextEdit) (edits : List TextEdit) (text : String) :
    applyAll? (edit :: edits) text = (applyAll? edits text).bind edit.applyTo? :=
  rfl

end TextEdit

/-! ## A text without some of its emoji -/

namespace Emoji

variable {p : Span → Bool} {offset : Nat} {ps : List Piece}

/-- What is left of pieces, of which the first starts at byte `offset`, without the emoji whose
spans satisfy `p`. -/
def textWithout (p : Span → Bool) (offset : Nat) : List Piece → List Char
  | [] => []
  | piece :: rest =>
    let length := byteLength piece.text
    if piece.isEmoji && p ⟨offset, length⟩ then textWithout p (offset + length) rest
    else piece.text ++ textWithout p (offset + length) rest

theorem filter_spansFrom_cons (p : Span → Bool) (offset : Nat) (piece : Piece) (ps : List Piece) :
    (spansFrom offset (piece :: ps)).filter p =
      if piece.isEmoji && p ⟨offset, byteLength piece.text⟩ then
        ⟨offset, byteLength piece.text⟩ :: (spansFrom (offset + byteLength piece.text) ps).filter p
      else (spansFrom (offset + byteLength piece.text) ps).filter p := by
  rw [spansFrom]
  cases piece with
  | plain c => rfl
  | emoji c others => exact List.filter_cons

theorem le_start_of_mem_spansFrom {s : Span} (hs : s ∈ spansFrom offset ps) :
    offset ≤ s.start := by
  induction ps generalizing offset with
  | nil => cases hs
  | cons piece ps ih =>
    have hrest : s ∈ spansFrom (offset + byteLength piece.text) ps → offset ≤ s.start :=
      fun hs => Nat.le_trans (Nat.le_add_right _ _) (ih hs)
    rw [spansFrom] at hs
    cases piece with
    | plain c => exact hrest hs
    | emoji c others =>
      rcases List.mem_cons.1 hs with rfl | hs
      · exact Nat.le_refl _
      · exact hrest hs

/-- Without any of its emoji. -/
theorem textWithout_eq_plainText (h : ∀ s, p s = true) (offset : Nat) (ps : List Piece) :
    textWithout p offset ps = plainText ps := by
  induction ps generalizing offset with
  | nil => rfl
  | cons piece ps ih =>
    rw [textWithout, h, Bool.and_true, ih]
    cases piece with
    | plain c | emoji c others => rfl

/-- **Deleting emoji from the last one to the first** leaves the text without them.  What is deleted
first stands behind all that is still to be deleted, where no offset counts any more. -/
theorem applyAll?_delete (p : Span → Bool) (front : List Char) (ps : List Piece) :
    TextEdit.applyAll? (((spansFrom (byteLength front) ps).filter p).map .delete)
        (String.ofList (front ++ ps.flatMap Piece.text)) =
      some (String.ofList (front ++ textWithout p (byteLength front) ps)) := by
  induction ps generalizing front with
  | nil => rfl
  | cons piece ps ih =>
    have hrest := ih (front ++ piece.text)
    rw [Text.byteLength_append, List.append_assoc, List.append_assoc] at hrest
    rw [filter_spansFrom_cons, List.flatMap_cons, textWithout]
    split
    · rw [List.map_cons, TextEdit.applyAll?_cons, hrest, Option.bind_some, TextEdit.delete,
        TextEdit.applyTo?_append]
      exact congrArg (fun cs => some (String.ofList (cs ++ _))) (List.append_nil front)
    · exact hrest

/-- **What is left without some emoji** are the bytes that lie in none of them. -/
theorem bytes_textWithout (p : Span → Bool) (offset : Nat) (ps : List Piece) :
    Text.bytes (textWithout p offset ps) =
      Text.bytesWhere (isOutside ((spansFrom offset ps).filter p)) offset
        (Text.bytes (ps.flatMap Piece.text)) := by
  induction ps generalizing offset with
  | nil => rfl
  | cons piece ps ih =>
    have hlater : ∀ i, i < offset + byteLength piece.text →
        isOutside ((spansFrom (offset + byteLength piece.text) ps).filter p) i = true := by
      intro i hi
      refine isOutside_iff.2 fun s hs => Span.contains_eq_false_iff.2 (Or.inl ?_)
      exact Nat.lt_of_lt_of_le hi (le_start_of_mem_spansFrom (List.mem_of_mem_filter hs))
    rw [List.flatMap_cons, Text.bytes_append, Text.bytesWhere_append, Text.length_bytes,
      textWithout, filter_spansFrom_cons]
    split
    · have hpiece : ∀ i, offset ≤ i → i < offset + (Text.bytes piece.text).length →
          isOutside (⟨offset, byteLength piece.text⟩ ::
            (spansFrom (offset + byteLength piece.text) ps).filter p) i = false := by
        intro i hi hlt
        rw [Text.length_bytes] at hlt
        rw [isOutside_cons, Span.contains_iff.2 ⟨hi, hlt⟩, Bool.not_true, Bool.false_and]
      have hrest : ∀ i, offset + byteLength piece.text ≤ i →
          isOutside (⟨offset, byteLength piece.text⟩ ::
            (spansFrom (offset + byteLength piece.text) ps).filter p) i =
          isOutside ((spansFrom (offset + byteLength piece.text) ps).filter p) i := by
        intro i hi
        rw [isOutside_cons, Span.contains_eq_false_iff.2 (Or.inr hi), Bool.not_false,
          Bool.true_and]
      rw [Text.bytesWhere_eq_nil hpiece, Text.bytesWhere_congr fun i hi _ => hrest i hi, ih]
      rfl
    · have hpiece : ∀ i, offset ≤ i → i < offset + (Text.bytes piece.text).length →
          isOutside ((spansFrom (offset + byteLength piece.text) ps).filter p) i = true := by
        intro i _ hlt
        rw [Text.length_bytes] at hlt
        exact hlater i hlt
      rw [Text.bytes_append, Text.bytesWhere_eq_self hpiece, ih]

theorem isBase_eq_false_of_mem_remove {text : String} {c : Char}
    (hc : c ∈ (remove text).toList) : isBase c = false := by
  rw [remove, String.toList_ofList] at hc
  exact isBase_eq_false_of_mem_plainText hc

theorem byteLength_remove_lt {text : String} (h : find text ≠ []) :
    byteLength (remove text).toList < byteLength text.toList := by
  have hbytes := Text.byteLength_add_length_le (sublist_remove text)
  have hlength := length_remove_lt h
  omega

end Emoji

/-! ## What the checker offers -/

open Ignore (ignoredRanges)

variable {text language : String} {flags : Ignore.Flags}

/-- No byte of a reported emoji is ignored. -/
theorem isOutside_reportable {offset : Nat}
    (h : (ignoredRanges text language flags).contains offset = true) :
    isOutside (reportable text language flags) offset = true := by
  refine isOutside_iff.2 fun s hs => Bool.eq_false_iff.2 fun hoffset => ?_
  obtain ⟨hfind, hfirst⟩ := List.mem_filter.1 hs
  have hmunch := (Emoji.isTokenization_spansFrom 0 text.toList).munch s hfind
  have hwhole := isWhole_ignoredRanges hmunch language flags
  rw [contains_ignoredRanges_iff_covers, hwhole.covers_iff hoffset,
    ← contains_ignoredRanges_iff_covers] at h
  rw [h] at hfirst
  cases hfirst

theorem map_quickFix_diagnose (settings : Settings) (file : Option String)
    (text language : String) :
    (diagnose settings file text language).map (fun d => d.quickFix.edit) =
      (reportable text language settings.ignore).map .delete := by
  rw [diagnose, List.map_map]
  rfl

theorem map_span_diagnose (settings : Settings) (file : Option String) (text language : String) :
    (diagnose settings file text language).map Diagnostic.span =
      reportable text language settings.ignore := by
  rw [diagnose, List.map_map]
  exact List.map_id _

theorem not_contains_of_isEmpty
    (h : (ignoredRanges text language flags).isEmpty = true) (offset : Nat) :
    (ignoredRanges text language flags).contains offset = false := by
  rw [Bool.eq_false_iff, ne_eq, contains_ignoredRanges_iff_covers]
  rintro ⟨r, hr, -⟩
  have hnil : (ignoredRanges text language flags).toList = [] :=
    Array.toList_eq_nil_iff.2 (Array.isEmpty_iff.1 h)
  rw [hnil] at hr
  cases hr

/-- **Deleting the reported emoji from the last one to the first** leaves the bytes that lie in none
of them. -/
theorem exists_applyAll?_delete_reportable (text language : String) (flags : Ignore.Flags) :
    ∃ fixed, TextEdit.applyAll? ((reportable text language flags).map .delete) text = some fixed ∧
      Text.bytes fixed.toList = Text.bytesWhere (isOutside (reportable text language flags)) 0
        (Text.bytes text.toList) ∧
      ((ignoredRanges text language flags).isEmpty = true → fixed = Emoji.remove text) := by
  let p : Span → Bool := fun s => !(ignoredRanges text language flags).contains s.start
  have hdelete := Emoji.applyAll?_delete p [] (Emoji.pieces text.toList)
  have hbytes := Emoji.bytes_textWithout p 0 (Emoji.pieces text.toList)
  rw [List.nil_append, List.nil_append, Emoji.flatMap_text_pieces, String.ofList_toList] at hdelete
  rw [Emoji.flatMap_text_pieces] at hbytes
  refine ⟨_, hdelete, by rwa [String.toList_ofList], fun hempty => ?_⟩
  have hall : ∀ s, p s = true := fun s => by
    rw [Bool.not_eq_true', not_contains_of_isEmpty hempty]
  exact congrArg String.ofList (Emoji.textWithout_eq_plainText hall _ _)

theorem removeAllEdit?_of_find_ne_nil (h : Emoji.find text ≠ []) :
    removeAllEdit? text = some ⟨⟨0, byteLength text.toList⟩, Emoji.remove text⟩ := by
  obtain ⟨edit, hedit⟩ := Option.ne_none_iff_exists'.1 (mt removeAllEdit?_eq_none_iff.1 h)
  rw [hedit, eq_of_removeAllEdit?_eq_some hedit]

/-- **The quick fixes of a document delete what was reported and nothing else**, applied from the
last one to the first: none of them cuts a character, no ignored byte is lost, and when nothing is
ignored they leave the text without its emoji.  The edit that removes everything leads to that text
at once, and is offered exactly when there is something to remove. -/
theorem quickFixes_delete_reported (settings : Settings) (file : Option String)
    (text language : String) :
    (∃ fixed, TextEdit.applyAll?
        ((diagnose settings file text language).map fun d => d.quickFix.edit) text = some fixed ∧
      Text.bytes fixed.toList = Text.bytesWhere
        (isOutside ((diagnose settings file text language).map Diagnostic.span)) 0
        (Text.bytes text.toList) ∧
      (∀ offset, (ignoredRanges text language settings.ignore).contains offset = true →
        isOutside ((diagnose settings file text language).map Diagnostic.span) offset = true) ∧
      (Text.bytesWhere (ignoredRanges text language settings.ignore).contains 0
        (Text.bytes text.toList)).Sublist (Text.bytes fixed.toList) ∧
      ((ignoredRanges text language settings.ignore).isEmpty = true →
        fixed = Emoji.remove text)) ∧
    (removeAllEdit? text = none ↔ Emoji.find text = []) ∧
    (Emoji.find text ≠ [] → ∃ edit, removeAllEdit? text = some edit ∧
      edit.applyTo? text = some (Emoji.remove text) ∧
      (∀ c ∈ (Emoji.remove text).toList,
        Emoji.isPresentation c = false ∧ Emoji.isPictograph c = false) ∧
      byteLength (Emoji.remove text).toList < byteLength text.toList) := by
  rw [map_quickFix_diagnose, map_span_diagnose]
  obtain ⟨fixed, hfixed, hbytes, hremove⟩ :=
    exists_applyAll?_delete_reportable text language settings.ignore
  refine ⟨⟨fixed, hfixed, hbytes, fun _ => isOutside_reportable, ?_, hremove⟩,
    removeAllEdit?_eq_none_iff, fun hfind => ?_⟩
  · rw [hbytes]
    exact Text.bytesWhere_sublist fun _ => isOutside_reportable
  · exact ⟨_, removeAllEdit?_of_find_ne_nil hfind, TextEdit.applyTo?_whole text _,
      fun _ hc => Bool.or_eq_false_iff.1 (Emoji.isBase_eq_false_of_mem_remove hc),
      Emoji.byteLength_remove_lt hfind⟩

/-- What the quick fixes leave may be an emoji again: the digit and the frame meet only when the
emoji between them is gone. -/
theorem quickFixes_delete_reported_keycap :
    (ignoredRanges "1😀\u20E3 👍🏽" "plaintext" {}).isEmpty = true ∧
    Emoji.find "1😀\u20E3 👍🏽" ≠ [] ∧
    TextEdit.applyAll? ((diagnose {} none "1😀\u20E3 👍🏽" "plaintext").map fun d => d.quickFix.edit)
      "1😀\u20E3 👍🏽" = some (Emoji.remove "1😀\u20E3 👍🏽") ∧
    (∃ edit, removeAllEdit? "1😀\u20E3 👍🏽" = some edit ∧
      edit.applyTo? "1😀\u20E3 👍🏽" = some (Emoji.remove "1😀\u20E3 👍🏽")) ∧
    Emoji.remove "1😀\u20E3 👍🏽" = "1\u20E3 " := by
  have hempty : (ignoredRanges "1😀\u20E3 👍🏽" "plaintext" {}).isEmpty = true := by
    decide +kernel
  have hfind : Emoji.find "1😀\u20E3 👍🏽" ≠ [] := by
    decide +kernel
  obtain ⟨⟨fixed, hfixed, -, -, -, hremove⟩, -, hall⟩ :=
    quickFixes_delete_reported {} none "1😀\u20E3 👍🏽" "plaintext"
  obtain ⟨edit, hedit, happly, -, -⟩ := hall hfind
  refine ⟨hempty, hfind, ?_, ⟨edit, hedit, happly⟩, by decide +kernel⟩
  rw [hfixed, hremove hempty]

-- What is ignored stays.
example : TextEdit.applyAll?
    ((diagnose {} none "😀 /*❤\uFE0F*/ 😀" "rust").map fun d => d.quickFix.edit)
      "😀 /*❤\uFE0F*/ 😀" = some " /*❤\uFE0F*/ " := by
  decide +kernel

end EmojiLint
