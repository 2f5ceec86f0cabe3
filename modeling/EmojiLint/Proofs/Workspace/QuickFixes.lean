import EmojiLint.Proofs.Diagnostic
import EmojiLint.Workspace

/-!
# Which quick fixes are offered for a selection

A selection is about the emoji that share a byte with it.  A cursor holds no byte, so it is about
the emoji that it touches.  What is offered for a selection that is no cursor can be more than that:
an emoji that ends where the selection starts, and one that starts where it ends.

* `Span.Shares`, `Span.Touches`, `Span.Meets` — what a selection is about.
* `Span.intersects_iff` — two spans intersect when they meet or when one ends where the other
  starts.
* `Findings.InOrder.filter_intersects` — the same for the findings of a text.
* `Workspace.quickFixes_beside` — what is offered is what the selection is about, with at most one
  more on either side, and when it is no more than that.
-/

set_option autoImplicit false

namespace EmojiLint

/-! ## Spans that meet -/

namespace Span

variable {s t : Span}

/-- A byte belongs to both spans. -/
def Shares (s t : Span) : Prop :=
  ∃ offset, s.contains offset = true ∧ t.contains offset = true

/-- A cursor stands in the span or at one of its ends. -/
def Touches (s : Span) (cursor : Nat) : Prop :=
  s.start ≤ cursor ∧ cursor ≤ s.stop

instance (s : Span) (cursor : Nat) : Decidable (Touches s cursor) :=
  inferInstanceAs (Decidable (_ ∧ _))

/-- A selection is about a span: they share a byte, or the selection is a cursor that touches the
span. -/
def Meets (s selection : Span) : Prop :=
  s.Shares selection ∨ selection.isEmpty = true ∧ s.Touches selection.start

theorem isEmpty_iff : s.isEmpty = true ↔ s.stop = s.start := by
  rw [isEmpty, beq_iff_eq, stop]
  omega

theorem intersects_iff_le : s.intersects t = true ↔ s.start ≤ t.stop ∧ t.start ≤ s.stop := by
  rw [intersects, Bool.and_eq_true, decide_eq_true_eq, decide_eq_true_eq]

/-- Two spans share a byte when the later start comes before the earlier end. -/
theorem shares_iff : s.Shares t ↔ max s.start t.start < min s.stop t.stop := by
  constructor
  · rintro ⟨offset, hs, ht⟩
    rw [contains_iff] at hs ht
    omega
  · intro h
    refine ⟨max s.start t.start, ?_, ?_⟩ <;> rw [contains_iff] <;> omega

instance (s t : Span) : Decidable (Shares s t) :=
  decidable_of_iff _ shares_iff.symm

instance (s selection : Span) : Decidable (Meets s selection) :=
  inferInstanceAs (Decidable (_ ∨ _))

/-- A cursor meets what it touches. -/
theorem meets_iff_of_isEmpty (ht : t.isEmpty = true) : s.Meets t ↔ s.Touches t.start := by
  rw [Meets, shares_iff, and_iff_right ht]
  rw [isEmpty_iff] at ht
  refine or_iff_right fun h => ?_
  omega

/-- What is no cursor meets what it shares a byte with. -/
theorem meets_iff_of_not_isEmpty (ht : t.isEmpty = false) : s.Meets t ↔ s.Shares t := by
  rw [Meets, ht]
  exact or_iff_left fun h => Bool.false_ne_true h.1

theorem intersects_iff_of_isEmpty (ht : t.isEmpty = true) :
    s.intersects t = true ↔ s.Meets t := by
  rw [intersects_iff_le, meets_iff_of_isEmpty ht, Touches]
  rw [isEmpty_iff] at ht
  omega

/-- **Two spans that hold bytes intersect when they meet, or when one of them ends where the other
one starts.** -/
theorem intersects_iff (hs : s.isEmpty = false) (ht : t.isEmpty = false) :
    s.intersects t = true ↔ s.stop = t.start ∨ s.Meets t ∨ s.start = t.stop := by
  rw [intersects_iff_le, meets_iff_of_not_isEmpty ht, shares_iff]
  have hs' := start_lt_stop hs
  have ht' := start_lt_stop ht
  omega

end Span

/-! ## Findings one after the other -/

/-- What comes in two kinds, all of the first kind before all of the second, is found kind by
kind. -/
theorem filter_or_eq_append {α : Type} {p q : α → Prop} [DecidablePred p] [DecidablePred q]
    {xs : List α} (hapart : ∀ x ∈ xs, p x → ¬ q x)
    (hordered : xs.Pairwise fun x y => q x → ¬ p y) :
    xs.filter (fun x => p x ∨ q x) = xs.filter (fun x => p x) ++ xs.filter (fun x => q x) := by
  induction xs with
  | nil => rfl
  | cons x xs ih =>
    obtain ⟨hx, hrest⟩ := List.pairwise_cons.1 hordered
    have ih := ih (fun y hy => hapart y (List.mem_cons_of_mem x hy)) hrest
    by_cases hp : p x
    · have hq := hapart x List.mem_cons_self hp
      rw [List.filter_cons_of_pos (by simp [hp]), List.filter_cons_of_pos (by simpa using hp),
        List.filter_cons_of_neg (by simpa using hq), ih, List.cons_append]
    by_cases hq : q x
    · have hnone : xs.filter (fun y => p y) = [] :=
        List.filter_eq_nil_iff.2 fun y hy => by simpa using hx y hy hq
      rw [hnone, List.nil_append] at ih
      rw [List.filter_cons_of_pos (by simp [hq]), List.filter_cons_of_neg (by simpa using hp),
        List.filter_cons_of_pos (by simpa using hq), hnone, ih, List.nil_append]
    · rw [List.filter_cons_of_neg (by simp [hp, hq]), List.filter_cons_of_neg (by simpa using hp),
        List.filter_cons_of_neg (by simpa using hq), ih]

theorem append_append_eq_iff {α : Type} {front middle back : List α} :
    front ++ (middle ++ back) = middle ↔ front = [] ∧ back = [] := by
  constructor
  · intro h
    have hlength := congrArg List.length h
    rw [List.length_append, List.length_append] at hlength
    exact ⟨List.length_eq_zero_iff.1 (by omega), List.length_eq_zero_iff.1 (by omega)⟩
  · rintro ⟨rfl, rfl⟩
    rw [List.nil_append, List.append_nil]

namespace Findings

variable {fs : Findings} {selection : Span}

/-- **Of findings one after the other**, those that a selection intersects are one that ends where
it starts, those that it is about, and one that starts where it ends. -/
theorem InOrder.filter_intersects (h : InOrder fs) (hselection : selection.isEmpty = false) :
    fs.filter (fun d => d.span.intersects selection) =
      fs.filter (fun d => d.span.stop = selection.start) ++
        (fs.filter (fun d => d.span.Meets selection) ++
          fs.filter (fun d => d.span.start = selection.stop)) := by
  have hselected := Span.start_lt_stop hselection
  have hmeets : ∀ d : Diagnostic, d.span.Meets selection ↔
      max d.span.start selection.start < min d.span.stop selection.stop := fun d =>
    (Span.meets_iff_of_not_isEmpty hselection).trans Span.shares_iff
  calc fs.filter (fun d => d.span.intersects selection)
      = fs.filter (fun d => d.span.stop = selection.start ∨
          (d.span.Meets selection ∨ d.span.start = selection.stop)) :=
        List.filter_congr fun d hd => by
          rw [Bool.eq_iff_iff, Span.intersects_iff (h.nonempty d hd) hselection, decide_eq_true_eq]
    _ = fs.filter (fun d => d.span.stop = selection.start) ++
          fs.filter (fun d => d.span.Meets selection ∨ d.span.start = selection.stop) := by
        refine filter_or_eq_append (fun d hd hbefore => ?_) (h.pairwise.imp fun {d e} hde hd => ?_)
        · have := Span.start_lt_stop (h.nonempty d hd)
          rw [hmeets]
          omega
        · rw [hmeets] at hd
          omega
    _ = _ := by
        refine congrArg (_ ++ ·) (filter_or_eq_append (fun d _ hd => ?_)
          (h.pairwise.imp fun {d e} hde hd => ?_))
        · rw [hmeets] at hd
          omega
        · rw [hmeets]
          omega

/-- Of findings that exclude one another there is at most one. -/
theorem length_filter_le_one {p : Diagnostic → Prop} [DecidablePred p]
    (h : fs.Pairwise fun d e => p d → ¬ p e) : (fs.filter fun d => p d).length ≤ 1 := by
  have hpairwise := h.filter fun d => p d
  have hall : ∀ d ∈ fs.filter (fun d => p d), p d := fun d hd =>
    of_decide_eq_true (List.mem_filter.1 hd).2
  match hfs : fs.filter fun d => p d with
  | [] | [_] => simp
  | d :: e :: more =>
    rw [hfs] at hpairwise hall
    have hd := hall d List.mem_cons_self
    have he : e ∈ d :: e :: more := List.mem_cons_of_mem d List.mem_cons_self
    exact absurd (hall e he) ((List.pairwise_cons.1 hpairwise).1 e List.mem_cons_self hd)

end Findings

/-! ## What is offered -/

namespace Workspace

variable {ws : Workspace} {uri : String} {selection : Span}

theorem inOrder_diagnostics (ws : Workspace) (uri : String) : (ws.diagnostics uri).InOrder := by
  rw [diagnostics]
  split
  · exact ⟨(fun _ hd => nomatch hd), .nil⟩
  · split
    · exact ⟨(fun _ hd => nomatch hd), .nil⟩
    · exact inOrder_diagnose _ _ _ _

/-- The quick fixes for some of the diagnostics of a document. -/
def fixesWhere (ws : Workspace) (uri : String) (p : Diagnostic → Prop) [DecidablePred p] :
    List (Diagnostic × QuickFix) :=
  ((ws.diagnostics uri).filter fun d => p d).map fun d => (d, d.quickFix)

theorem fixesWhere_eq_nil_iff {p : Diagnostic → Prop} [DecidablePred p] :
    ws.fixesWhere uri p = [] ↔ ∀ d ∈ ws.diagnostics uri, ¬ p d := by
  rw [fixesWhere, List.map_eq_nil_iff, List.filter_eq_nil_iff]
  simp only [decide_eq_true_eq]

theorem quickFixes_of_isEmpty (h : selection.isEmpty = true) :
    ws.quickFixes uri selection = ws.fixesWhere uri fun d => d.span.Meets selection := by
  refine congrArg (List.map _) (List.filter_congr fun d _ => ?_)
  rw [Bool.eq_iff_iff, Span.intersects_iff_of_isEmpty h, decide_eq_true_eq]

theorem quickFixes_of_not_isEmpty (h : selection.isEmpty = false) :
    ws.quickFixes uri selection =
      (ws.fixesWhere uri fun d => d.span.stop = selection.start) ++
        ((ws.fixesWhere uri fun d => d.span.Meets selection) ++
          ws.fixesWhere uri fun d => d.span.start = selection.stop) := by
  rw [quickFixes, (inOrder_diagnostics ws uri).filter_intersects h, List.map_append,
    List.map_append]
  rfl

/-- **What is offered for a selection.**  For a cursor, these are the fixes of the diagnostics that
it touches.  For a selection that is no cursor, they are the fixes of the diagnostics that share a
byte with it, in order, with at most one more on either side: for an emoji that ends where the
selection starts, and for one that starts where it ends.  So no fix is offered beside the selection
exactly when it is a cursor or no emoji stands right beside it. -/
theorem quickFixes_beside (ws : Workspace) (uri : String) (selection : Span) :
    (selection.isEmpty = true → ws.quickFixes uri selection =
      ws.fixesWhere uri fun d => d.span.Touches selection.start) ∧
    (selection.isEmpty = false →
      (ws.quickFixes uri selection =
        (ws.fixesWhere uri fun d => d.span.stop = selection.start) ++
          ((ws.fixesWhere uri fun d => d.span.Shares selection) ++
            ws.fixesWhere uri fun d => d.span.start = selection.stop)) ∧
      (ws.fixesWhere uri fun d => d.span.stop = selection.start).length ≤ 1 ∧
      (ws.fixesWhere uri fun d => d.span.start = selection.stop).length ≤ 1) ∧
    (ws.quickFixes uri selection = (ws.fixesWhere uri fun d => d.span.Meets selection) ↔
      selection.isEmpty = true ∨ ∀ d ∈ ws.diagnostics uri,
        d.span.stop ≠ selection.start ∧ d.span.start ≠ selection.stop) := by
  have horder := (inOrder_diagnostics ws uri).pairwise
  refine ⟨fun hempty => ?_, fun hfull => ⟨?_, ?_, ?_⟩, ?_⟩
  · rw [quickFixes_of_isEmpty hempty]
    simp only [fixesWhere, Span.meets_iff_of_isEmpty hempty]
  · rw [quickFixes_of_not_isEmpty hfull]
    simp only [fixesWhere, Span.meets_iff_of_not_isEmpty hfull]
  · rw [fixesWhere, List.length_map]
    exact Findings.length_filter_le_one (horder.imp fun {d e} hde hd => by omega)
  · rw [fixesWhere, List.length_map]
    exact Findings.length_filter_le_one (horder.imp fun {d e} hde hd => by omega)
  · cases hempty : selection.isEmpty with
    | true => exact iff_of_true (quickFixes_of_isEmpty hempty) (.inl rfl)
    | false =>
      rw [quickFixes_of_not_isEmpty hempty, or_iff_right Bool.false_ne_true,
        append_append_eq_iff, fixesWhere_eq_nil_iff, fixesWhere_eq_nil_iff, ← forall₂_and]

/-- An emoji behind a letter. -/
def behindLetter : Workspace where
  documents := [("file:///a", ⟨none, "a😀", "plaintext", 1⟩)]

/-- **A fix is offered beside a selection**: the letter is selected, and with it comes the fix of
the emoji, which shares no byte with the letter. -/
theorem exists_quickFix_beside :
    Span.isEmpty ⟨0, 1⟩ = false ∧ Uri.isScannable "file:///a" = true ∧
      behindLetter.isExcluded "file:///a" = false ∧
      (behindLetter.quickFixes "file:///a" ⟨0, 1⟩).map (fun fix => fix.1.span) = [⟨1, 4⟩] ∧
      ¬ Span.Shares ⟨1, 4⟩ ⟨0, 1⟩ ∧
      (behindLetter.fixesWhere "file:///a" fun d => d.span.Meets ⟨0, 1⟩) = [] := by
  decide +kernel

end Workspace

end EmojiLint
