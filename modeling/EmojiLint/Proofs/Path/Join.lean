import EmojiLint.Proofs.Path.Below

/-!
# Back from the root

The path relative to a root, seen from this root, is the path itself: it names the same, whether it
leads through the root or not.  There is one exception.  Relative paths have slashes for
backslashes, and where a name holds a backslash, slashes name something else.

* `mentions_components_iff` — the characters of a path are those of its components, but for dots and
  slashes.
* `components_child_of_relative` — what a relative text names, seen from a root.
* `components_seenAs` — what a path names is what the root names and what it is seen as.
* `same_child_relativeTo_iff` — when the relative path leads back.
-/

set_option autoImplicit false

namespace EmojiLint
namespace Path

variable {p root : Path} {u : String} {c : Char} {cs s : List Char} {ss : List (List Char)}
  {front more : List Component} {names : List String}

/-! ## The characters of a path -/

/-- The characters of a component, but for dots and slashes. -/
def Component.chars : Component → List Char
  | .root => []
  | .here => []
  | .up => []
  | .name s => s
  | .stray s => s

/-- A character stands in a component. -/
def Mentions (components : List Component) (c : Char) : Prop :=
  ∃ component ∈ components, c ∈ component.chars

theorem mentions_append : Mentions (front ++ more) c ↔ Mentions front c ∨ Mentions more c := by
  simp only [Mentions, List.mem_append, or_and_right, exists_or]

/-- What a segment holds beside dots, its component holds. -/
theorem Component.exists_mem_chars_iff (hdot : c ≠ '.') (isText : Bool) :
    (∃ component, ofSegment? isText s = some component ∧ c ∈ component.chars) ↔ c ∈ s := by
  rw [ofSegment?]
  split
  · next hnamed =>
    refine iff_of_false (by rintro ⟨_, h, -⟩; cases h) fun hc => ?_
    rw [Bool.not_eq_true', Path.isNamed, Bool.and_eq_false_iff, Bool.not_eq_false',
      List.isEmpty_iff, bne_eq_false_iff_eq] at hnamed
    rcases hnamed with rfl | rfl
    · cases hc
    · exact hdot (List.mem_singleton.1 hc)
  · split
    · next hdots =>
      rw [hdots]
      simp [chars, hdot]
    · split
      all_goals
        refine ⟨?_, fun hc => ⟨_, rfl, hc⟩⟩
        rintro ⟨component, h, hc⟩
        obtain rfl := Option.some_inj.1 h
        exact hc

theorem mentions_segments_iff (hslash : c ≠ '/') (hdot : c ≠ '.') (isText : Bool) :
    Mentions ((segments cs).filterMap (Component.ofSegment? isText)) c ↔ c ∈ cs := by
  have hsegment : Mentions ((segments cs).filterMap (Component.ofSegment? isText)) c ↔
      ∃ s ∈ segments cs, c ∈ s := by
    simp only [Mentions, List.mem_filterMap]
    constructor
    · rintro ⟨component, ⟨s, hs, hcomponent⟩, hc⟩
      exact ⟨s, hs, (Component.exists_mem_chars_iff hdot isText).1 ⟨component, hcomponent, hc⟩⟩
    · rintro ⟨s, hs, hc⟩
      obtain ⟨component, hcomponent, hc⟩ := (Component.exists_mem_chars_iff hdot isText).2 hc
      exact ⟨component, ⟨s, hs, hcomponent⟩, hc⟩
  rw [hsegment]
  constructor
  · rintro ⟨s, hs, hc⟩
    exact Text.mem_of_mem_fields hs hc
  · intro hc
    rw [← unsegment_segments cs] at hc
    exact (mem_unsegment hc).resolve_left hslash

theorem not_mentions_anchor (p : Path) : ¬ Mentions p.anchor c := by
  rintro ⟨component, hcomponent, hc⟩
  rw [anchor] at hcomponent
  split at hcomponent
  · rw [List.mem_singleton.1 hcomponent] at hc
    cases hc
  · split at hcomponent
    · rw [List.mem_singleton.1 hcomponent] at hc
      cases hc
    · cases hcomponent

theorem mem_rest_iff (hslash : c ≠ '/') : c ∈ p.rest ↔ c ∈ p.text.toList := by
  rw [rest]
  split
  · next habsolute =>
    obtain ⟨cs, htext⟩ := List.head?_eq_some_iff.1 (beq_iff_eq.1 habsolute)
    rw [htext, List.mem_cons, or_iff_right hslash]
    rfl
  · rfl

/-- **The characters of a path are those of its components**, but for dots and slashes. -/
theorem mentions_components_iff (hslash : c ≠ '/') (hdot : c ≠ '.') :
    Mentions p.components c ↔ c ∈ p.text.toList := by
  rw [components, mentions_append, or_iff_right (not_mentions_anchor p), body_eq,
    mentions_segments_iff hslash hdot, mem_rest_iff hslash]

/-! ## Paths that are text -/

theorem stray_notMem_components (h : p.isText = true) (shown : List Char) :
    Component.stray shown ∉ p.components := by
  rw [components, h]
  intro hmem
  rcases List.mem_append.1 hmem with hmem | hmem
  · rw [anchor] at hmem
    split at hmem
    · cases List.mem_singleton.1 hmem
    · split at hmem
      · cases List.mem_singleton.1 hmem
      · cases hmem
  · obtain ⟨s, -, hs⟩ := List.mem_filterMap.1 hmem
    rw [Component.ofSegment?, Bool.not_true, Bool.false_and] at hs
    split at hs
    · cases hs
    · split at hs <;> cases hs

/-- A path that leads through a root is text only if the root is. -/
theorem Inside.isText (h : Inside p root) (hp : p.isText = true) : root.isText = true := by
  by_contra hroot
  rw [Bool.not_eq_true] at hroot
  have hmem : '\uFFFD' ∈ root.rest := (mem_rest_iff (by decide)).2 (root.isShown hroot)
  rw [← unsegment_segments root.rest] at hmem
  obtain ⟨s, hs, hc⟩ := (mem_unsegment hmem).resolve_left (by decide)
  -- The segment with the character stands for a component that is no text.
  have hnamed : isNamed s = true := by
    rw [isNamed, Bool.and_eq_true, Bool.not_eq_true', List.isEmpty_eq_false_iff, bne_iff_ne]
    refine ⟨List.ne_nil_of_mem hc, ?_⟩
    rintro rfl
    exact absurd (List.mem_singleton.1 hc) (by decide)
  have hdots : s ≠ ['.', '.'] := by
    rintro rfl
    revert hc
    decide
  have hcomponent : Component.ofSegment? root.isText s = some (.stray s) := by
    rw [Component.ofSegment?, hnamed, hroot, if_neg (by decide), if_neg hdots, if_pos]
    rw [Bool.not_false, Bool.true_and, List.contains_iff_mem]
    exact hc
  refine stray_notMem_components hp s (h.subset ?_)
  rw [components, body_eq]
  exact List.mem_append_right _ (List.mem_filterMap.2 ⟨s, hs, hcomponent⟩)

/-! ## Seen from an absolute path -/

theorem isEmpty_text_of_isAbsolute (h : p.isAbsolute = true) : p.text.isEmpty = false := by
  rw [← Bool.not_eq_true, String.isEmpty_iff, ← String.toList_eq_nil_iff]
  intro hnil
  rw [isAbsolute, hnil] at h
  cases h

theorem child_of_isAbsolute (hu : (ofText u).isAbsolute = true) : root.child u = ofText u :=
  if_pos hu

theorem isAbsolute_child_of_isAbsolute (h : p.isAbsolute = true) (u : String) :
    (p.child u).isAbsolute = true := by
  cases hu : (ofText u).isAbsolute with
  | true => rw [child_of_isAbsolute hu, hu]
  | false => rw [isAbsolute_child_of_relative hu, h]

theorem isAbsolute_descend_of_isAbsolute (h : p.isAbsolute = true) :
    (p.descend names).isAbsolute = true := by
  induction names generalizing p with
  | nil => exact h
  | cons name names ih => exact ih (isAbsolute_child_of_isAbsolute h name)

/-- Whether a path is absolute depends on its text. -/
theorem isAbsolute_join_of_isAbsolute (h : root.isAbsolute = true) (target : Path) :
    (root.join target).isAbsolute = true := by
  have htext : (root.join target).text = (root.child target.text).text := by
    have habsolute : (ofText target.text).isAbsolute = target.isAbsolute := rfl
    rw [child, join, join, habsolute]
    split <;> rfl
  rw [isAbsolute, htext]
  exact isAbsolute_child_of_isAbsolute h target.text

theorem anchor_of_isAbsolute (h : p.isAbsolute = true) : p.anchor = [.root] :=
  if_pos h

theorem components_ne_nil_of_isAbsolute (h : p.isAbsolute = true) : p.components ≠ [] := by
  rw [components, anchor_of_isAbsolute h]
  exact List.cons_ne_nil _ _

/-- **A relative text, seen from a root**, names what the root names and what the text spells. -/
theorem components_child_of_relative (hroot : root.isAbsolute = true)
    (hu : (ofText u).isAbsolute = false) : (root.child u).components =
      root.components ++ (segments u.toList).filterMap (Component.ofSegment? root.isText) := by
  have hchild := (isAbsolute_child_of_relative (p := root) hu).trans hroot
  rw [components, components, anchor_of_isAbsolute hchild, anchor_of_isAbsolute hroot,
    body_child_of_relative hu, isText_child_of_relative hu, List.filterMap_append,
    filterMap_trunk rfl, List.append_assoc]

/-! ## What a path is seen as -/

theorem dropNamed_suffix (n : Nat) (ss : List (List Char)) : dropNamed n ss <:+ ss := by
  induction ss generalizing n with
  | nil => cases n <;> exact List.suffix_refl _
  | cons s ss ih =>
    cases n with
    | zero => exact List.suffix_refl _
    | succ n =>
      rw [dropNamed]
      split
      · exact (ih n).trans (List.suffix_cons s ss)
      · exact (ih (n + 1)).trans (List.suffix_cons s ss)

theorem cleanEnd_cons (s : List Char) (ss : List (List Char)) :
    cleanEnd (s :: ss) =
      if (cleanEnd ss).isEmpty && !isNamed s then [] else s :: cleanEnd ss :=
  rfl

theorem filterMap_cleanEnd (isText : Bool) (ss : List (List Char)) :
    (cleanEnd ss).filterMap (Component.ofSegment? isText) =
      ss.filterMap (Component.ofSegment? isText) := by
  induction ss with
  | nil => rfl
  | cons s ss ih =>
    rw [cleanEnd_cons]
    split
    · next hcut =>
      rw [Bool.and_eq_true, List.isEmpty_iff, Bool.not_eq_true'] at hcut
      have hnone := Component.isSome_ofSegment? isText s
      rw [hcut.2, Option.isSome_eq_false_iff, Option.isNone_iff_eq_none] at hnone
      rw [List.filterMap_cons_none hnone, ← ih, hcut.1]
    · rw [List.filterMap_cons, List.filterMap_cons, ih]

theorem isNamed_of_mem_getLast?_cleanEnd (h : s ∈ (cleanEnd ss).getLast?) : isNamed s = true := by
  induction ss with
  | nil => cases h
  | cons t ss ih =>
    rw [cleanEnd_cons] at h
    split at h
    · cases h
    · next hkept =>
      cases hrest : cleanEnd ss with
      | nil =>
        rw [hrest] at h hkept
        obtain rfl := Option.some_inj.1 h
        simpa using hkept
      | cons more rest =>
        rw [hrest, List.getLast?_cons_cons, ← hrest] at h
        exact ih h

/-- The segments that a path is seen as from a root that it leads through. -/
def seenSegments (p root : Path) : List (List Char) :=
  cleanEnd (p.seenFrom root p.afterAnchor)

theorem mem_seenFrom_of_mem_seenSegments (hs : s ∈ p.seenSegments root) :
    s ∈ p.seenFrom root p.afterAnchor := by
  obtain ⟨back, hback⟩ := exists_eq_cleanEnd_append (p.seenFrom root p.afterAnchor)
  rw [hback]
  exact List.mem_append_left back hs

theorem slash_notMem_of_mem_seenSegments (hs : s ∈ p.seenSegments root) : '/' ∉ s := by
  have hmem := mem_seenFrom_of_mem_seenSegments hs
  have hafter : s ∈ p.afterAnchor := by
    rw [seenFrom] at hmem
    split at hmem
    · exact hmem
    · exact (dropNamed_suffix _ _).subset ((List.dropWhile_suffix _).subset hmem)
  have hbody : s ∈ p.body := by
    rw [afterAnchor] at hafter
    split at hafter
    · exact List.mem_of_mem_drop hafter
    · exact hafter
  rw [body_eq] at hbody
  exact slash_notMem_of_mem_segments hbody

theorem segments_unsegment_seenSegments (hne : p.seenSegments root ≠ []) :
    segments (unsegment (p.seenSegments root)) = p.seenSegments root :=
  segments_unsegment hne fun _ hs => slash_notMem_of_mem_seenSegments hs

/-- After an absolute root, what is seen starts with a name. -/
theorem isNamed_of_mem_head?_seenSegments (hroot : root.isAbsolute = true)
    (hs : s ∈ (p.seenSegments root).head?) : isNamed s = true := by
  obtain ⟨back, hback⟩ := exists_eq_cleanEnd_append (p.seenFrom root p.afterAnchor)
  have hhead : s ∈ (p.seenFrom root p.afterAnchor).head? := by
    obtain ⟨ss, hss⟩ := List.head?_eq_some_iff.1 hs
    rw [hback, ← seenSegments, hss]
    rfl
  rw [seenFrom, if_neg (components_ne_nil_of_isAbsolute hroot), cleanStart] at hhead
  have hstart := List.head?_dropWhile_not (fun s => !isNamed s)
    (dropNamed (root.components.length - p.anchor.length) p.afterAnchor)
  rw [Option.mem_def.1 hhead] at hstart
  simpa using hstart

section Seen

variable (hinside : Inside p root) (hroot : root.isAbsolute = true)
include hinside hroot

theorem seenAs_eq_unsegment : p.seenAs root = unsegment (p.seenSegments root) := by
  have hne := components_ne_nil_of_isAbsolute hroot
  rw [seenAs_eq hinside, lead, if_neg fun h => hne h.1, leadingDot, if_neg fun h => hne h.1]
  rfl

/-- **What a path names** is what the root names and what it is seen as. -/
theorem components_seenAs : p.components = root.components ++
    (segments (p.seenAs root)).filterMap (Component.ofSegment? p.isText) := by
  have hsegments : (segments (p.seenAs root)).filterMap (Component.ofSegment? p.isText) =
      (p.seenSegments root).filterMap (Component.ofSegment? p.isText) := by
    rw [seenAs_eq_unsegment hinside hroot]
    by_cases hne : p.seenSegments root = []
    · rw [hne]
      rfl
    · rw [segments_unsegment_seenSegments hne]
  rw [hsegments, seenSegments, cleanEnd_seenFrom hinside, filterMap_cleanEnd]
  exact components_seenFrom hinside (components_ne_nil_of_isAbsolute hroot)

/-- What is seen is relative. -/
theorem head?_seenAs_ne : (p.seenAs root).head? ≠ some '/' := by
  rw [seenAs_eq_unsegment hinside hroot]
  cases hss : p.seenSegments root with
  | nil => exact fun h => nomatch h
  | cons s ss =>
    have hs : s ∈ p.seenSegments root := hss ▸ List.mem_cons_self
    have hnamed : isNamed s = true :=
      isNamed_of_mem_head?_seenSegments hroot (by rw [hss]; rfl)
    cases s with
    | nil => cases hnamed
    | cons c s =>
      have hslash := slash_notMem_of_mem_seenSegments hs
      intro hhead
      have hc : c = '/' := by
        cases ss <;> exact Option.some_inj.1 hhead
      exact hslash (hc ▸ List.mem_cons_self)

end Seen

/-! ## From the root and back -/

section Back

variable (hroot : root.isAbsolute = true) (hp : p.isAbsolute = true) (htext : p.isText = true)

theorem toList_relativeTo_of_notMem (hback : '\\' ∉ p.seenAs root) :
    (p.relativeTo root).toList = p.seenAs root := by
  rw [toList_relativeTo, forwardSlashes_of_notMem hback]

include htext hp in
/-- A path outside the root is seen as itself. -/
theorem child_relativeTo_of_not_inside (h : ¬ Inside p root) (hback : '\\' ∉ p.seenAs root) :
    root.child (p.relativeTo root) = p := by
  have hrelative : p.relativeTo root = p.text := by
    rw [← String.toList_inj, toList_relativeTo_of_notMem hback, seenAs_of_not_inside h]
  rw [hrelative, child_of_isAbsolute (by rw [ofText_text htext, hp]), ofText_text htext]

include hroot in
theorem isAbsolute_relativeTo (h : Inside p root) (hback : '\\' ∉ p.seenAs root) :
    (ofText (p.relativeTo root)).isAbsolute = false := by
  rw [isAbsolute, ofText, toList_relativeTo_of_notMem hback, beq_eq_false_iff_ne]
  exact head?_seenAs_ne h hroot

include hroot in
/-- From the root, a path is found again by a name, unless it is the root itself. -/
theorem endsInName_child_relativeTo (h : Inside p root) (hback : '\\' ∉ p.seenAs root)
    (hne : p.relativeTo root ≠ "") : (root.child (p.relativeTo root)).endsInName = true := by
  have hseen : p.seenSegments root ≠ [] := by
    intro hnil
    refine hne (String.toList_inj.1 ?_)
    rw [toList_relativeTo_of_notMem hback, seenAs_eq_unsegment h hroot, hnil]
    rfl
  have hlast := List.getLast?_eq_some_getLast hseen
  refine endsInName_iff.2 ⟨_, ?_, isNamed_of_mem_getLast?_cleanEnd hlast⟩
  rw [body_child_of_relative (isAbsolute_relativeTo hroot h hback),
    toList_relativeTo_of_notMem hback, seenAs_eq_unsegment h hroot,
    segments_unsegment_seenSegments hseen, List.getLast?_append, hlast]
  rfl

include hroot htext in
theorem same_child_relativeTo_of_inside (h : Inside p root) (hback : '\\' ∉ p.seenAs root) :
    (root.child (p.relativeTo root)).Same p := by
  rw [Same, components_child_of_relative hroot (isAbsolute_relativeTo hroot h hback),
    toList_relativeTo_of_notMem hback, h.isText htext, components_seenAs h hroot, htext]

include hroot in
theorem mentions_of_mem_seenAs {c : Char} (hslash : c ≠ '/') (hdot : c ≠ '.')
    (hc : c ∈ p.seenAs root) : Mentions p.components c := by
  by_cases h : Inside p root
  · rw [components_seenAs h hroot, mentions_append]
    exact .inr ((mentions_segments_iff hslash hdot _).2 hc)
  · rw [seenAs_of_not_inside h] at hc
    exact (mentions_components_iff hslash hdot).2 hc

include hroot hp in
/-- The relative path stands for something else where a name holds a backslash. -/
theorem not_same_child_relativeTo (hback : '\\' ∈ p.seenAs root) :
    ¬ (root.child (p.relativeTo root)).Same p := by
  have hnone : '\\' ∉ (p.relativeTo root).toList := by
    rw [toList_relativeTo]
    exact backslash_notMem_forwardSlashes _
  intro hsame
  -- A name that starts with a backslash makes an absolute path of the relative one.
  cases habsolute : (ofText (p.relativeTo root)).isAbsolute with
  | true =>
    have hmentions := mentions_of_mem_seenAs hroot (by decide) (by decide) hback
    rw [child_of_isAbsolute habsolute] at hsame
    rw [← hsame, mentions_components_iff (by decide) (by decide)] at hmentions
    exact hnone hmentions
  | false =>
    have hinside : Inside p root := by
      by_contra houtside
      obtain ⟨cs, hcs⟩ := List.head?_eq_some_iff.1 (beq_iff_eq.1 hp)
      rw [isAbsolute, ofText, relativeTo_of_not_inside houtside, hcs] at habsolute
      cases habsolute
    have hseen : Mentions ((segments (p.seenAs root)).filterMap
        (Component.ofSegment? p.isText)) '\\' :=
      (mentions_segments_iff (by decide) (by decide) _).2 hback
    rw [Same, components_child_of_relative hroot habsolute,
      components_seenAs hinside hroot] at hsame
    rw [← List.append_cancel_left hsame, mentions_segments_iff (by decide) (by decide)] at hseen
    exact hnone hseen

include hroot hp htext in
/-- **From an absolute root, the relative path leads back** unless a name that it shows holds a
backslash. -/
theorem same_child_relativeTo_iff :
    (root.child (p.relativeTo root)).Same p ↔ '\\' ∉ p.seenAs root := by
  refine ⟨fun hsame hback => not_same_child_relativeTo hroot hp hback hsame, fun hback => ?_⟩
  by_cases h : Inside p root
  · exact same_child_relativeTo_of_inside hroot htext h hback
  · rw [child_relativeTo_of_not_inside hp htext h hback]
    rfl

end Back

end Path
end EmojiLint
