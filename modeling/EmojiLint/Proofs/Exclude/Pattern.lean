import EmojiLint.Proofs.Exclude.Glob
import EmojiLint.Proofs.Exclude.Regex

/-!
# The regular expression of a glob

Whoever compiles the regular expression of a glob with a library that keeps to its documentation
gets a function that says of a path what the glob says of it.

* `spells_pattern` — how the expression is read: the anchors, and between them one item for each
  piece of the glob.
* `runs_items_iff` — the items match the paths that the glob accepts.
* `exists_isMatch_pattern` — the compiled expression matches the paths that the text of the glob
  matches.
-/

set_option autoImplicit false

namespace EmojiLint

/-- What a piece of a glob is in a regular expression. -/
def GlobPiece.item : GlobPiece → Regex.Item
  | anyRun => .many .any
  | segmentRun => .many .notSlash
  | segmentChar => .one .notSlash
  | literal c => .one (.literal c)

namespace Glob

open Regex (Runs IsMatch Documented)

variable {glob : Glob} {c : Char} {before path : List Char}

/-! ## Reading the expression -/

theorem isEscapable_of_isSpecial (h : isSpecial c = true) : Regex.isEscapable c = true := by
  have hall : "\\.+*?()|[]\x7b\x7d^$#&-~".toList.all Regex.isEscapable = true := by decide
  exact List.all_eq_true.1 hall c (List.contains_iff_mem.1 h)

theorem isMeta_of_not_isSpecial (h : isSpecial c = false) : Regex.isMeta c = false := by
  have hall : "\\.+*?()|[]\x7b\x7d^$".toList.all isSpecial = true := by decide
  rw [Bool.eq_false_iff]
  intro hmeta
  exact Bool.false_ne_true
    (h.symm.trans (List.all_eq_true.1 hall c (List.contains_iff_mem.1 hmeta)))

theorem spells_piecePattern (piece : GlobPiece) :
    Regex.Item.Spells (piecePattern piece) piece.item := by
  cases piece with
  | anyRun => exact .many .any
  | segmentRun => exact .many .notSlash
  | segmentChar => exact .one .notSlash
  | literal c =>
    rw [piecePattern]
    cases hspecial : isSpecial c with
    | true => exact .one (.escaped (isEscapable_of_isSpecial hspecial))
    | false => exact .one (.plain (isMeta_of_not_isSpecial hspecial))

theorem spells_flatMap_piecePattern (glob : Glob) :
    Regex.Spells (glob.flatMap piecePattern ++ ['$']) (glob.map GlobPiece.item ++ [.stop]) := by
  induction glob with
  | nil =>
    show Regex.Spells (['$'] ++ []) [.stop]
    exact .cons .stop .nil
  | cons piece glob ih =>
    rw [List.flatMap_cons, List.append_assoc]
    exact .cons (spells_piecePattern piece) ih

theorem spells_pattern (glob : Glob) :
    Regex.Spells (pattern glob).toList (.start :: (glob.map GlobPiece.item ++ [.stop])) := by
  have hexpression : (pattern glob).toList = ['^'] ++ (glob.flatMap piecePattern ++ ['$']) :=
    String.toList_ofList
  rw [hexpression]
  exact .cons .start (spells_flatMap_piecePattern glob)

/-! ## Matching it -/

theorem forall_holds_any_iff {run : List Char} :
    (∀ c ∈ run, Regex.Atom.any.holds c = true) ↔ '\n' ∉ run := by
  simp only [Regex.Atom.holds, bne_iff_ne, ne_eq, List.forall_mem_ne']

theorem forall_holds_notSlash_iff {run : List Char} :
    (∀ c ∈ run, Regex.Atom.notSlash.holds c = true) ↔ '/' ∉ run := by
  simp only [Regex.Atom.holds, bne_iff_ne, ne_eq, List.forall_mem_ne']

/-- The items of a glob take a path to its end just when the glob accepts it, whatever stands
before. -/
theorem runs_items_iff :
    Runs (glob.map GlobPiece.item ++ [.stop]) before path ↔ accepts glob path = true := by
  induction glob generalizing before path with
  | nil =>
    rw [accepts_nil, List.isEmpty_iff]
    exact Regex.runs_stop_iff.trans (and_iff_left .nil)
  | cons piece glob ih =>
    rw [List.map_cons, List.cons_append]
    cases piece with
    | anyRun =>
      refine Regex.runs_many_iff.trans (Iff.trans ?_ (accepts_run_iff rfl).symm)
      simp only [forall_holds_any_iff, ih]
    | segmentRun =>
      refine Regex.runs_many_iff.trans (Iff.trans ?_ (accepts_run_iff rfl).symm)
      simp only [forall_holds_notSlash_iff, ih]
    | segmentChar =>
      refine Regex.runs_one_iff.trans (Iff.trans ?_ accepts_segmentChar_iff.symm)
      simp only [Regex.Atom.holds, bne_iff_ne, ih]
    | literal d =>
      refine Regex.runs_one_iff.trans (Iff.trans ?_ accepts_literal_iff.symm)
      simp only [Regex.Atom.holds, beq_iff_eq, ih]
      constructor
      · rintro ⟨c, rest, hpath, rfl, h⟩
        exact ⟨rest, hpath, h⟩
      · rintro ⟨rest, hpath, h⟩
        exact ⟨d, rest, hpath, rfl, h⟩

/-- **The regular expression of a glob matches the paths that the text of the glob matches.**  It
is compiled by any library that keeps to its documentation, whose limit of size it stays within. -/
theorem exists_isMatch_pattern {fits : List Char → Prop}
    {compile : List Char → Option (List Char → Bool)} (hlibrary : Documented fits compile)
    (text : List Char) (hfits : fits (pattern (ofText text)).toList) :
    ∃ isMatch, compile (pattern (ofText text)).toList = some isMatch ∧
      ∀ path, (isMatch path = true ↔ Matches (Path.forwardSlashes text) path) ∧
        isMatch path = accepts (ofText text) path := by
  have hspells := spells_pattern (ofText text)
  obtain ⟨isMatch, hcompile⟩ := Option.isSome_iff_exists.1 (hlibrary.isSome hspells hfits)
  refine ⟨isMatch, hcompile, fun path => ?_⟩
  have haccepts : isMatch path = true ↔ accepts (ofText text) path = true :=
    (hlibrary.isMatch_iff hspells hcompile path).trans
      (Regex.isMatch_start_iff.trans runs_items_iff)
  exact ⟨haccepts.trans accepts_ofText_iff, Bool.eq_iff_iff.2 haccepts⟩

/-- Of three stars the first two go together.  The third one still does not take a slash, but it
takes a line feed, which the first two do not. -/
theorem exists_isMatch_pattern_stars :
    Documented (fun _ => True) Regex.engine ∧
    ∃ isMatch, Regex.engine (pattern (ofText "src\\***?.(x|y)*\n".toList)).toList = some isMatch ∧
      isMatch "src/a/b\n😀.(x|y)\n".toList = true ∧
      isMatch "src/a\nb/😀.(x|y)\n".toList = false := by
  obtain ⟨isMatch, hcompile, hpaths⟩ := exists_isMatch_pattern Regex.documented_engine
    "src\\***?.(x|y)*\n".toList trivial
  refine ⟨Regex.documented_engine, isMatch, hcompile, ?_, ?_⟩
  · rw [(hpaths _).2]
    decide +kernel
  · rw [(hpaths _).2]
    decide +kernel

end Glob
end EmojiLint
