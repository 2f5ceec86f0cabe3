import EmojiLint.Proofs.Path.Join

/-!
# The folder that a path names something in

A path that ends in a name is the path of a folder and the name.  The text of the folder's path is
not simply cut out of the text of the path: dots and slashes at its new end go too.  What it names
is what the path names but for the last name.

* `named` — what a path names after its anchor.
* `named_withBody` — what a path with another body names.
* `exists_parent?_of_name?` — a path names what its folder names, and then its last name.
-/

set_option autoImplicit false

namespace EmojiLint
namespace Path

variable {p : Path} {ss : List (List Char)} {name : String}

/-- The components of a path after its anchor. -/
def named (p : Path) : List Component :=
  p.body.filterMap (Component.ofSegment? p.isText)

theorem components_eq_named (p : Path) : p.components = p.anchor ++ p.named :=
  rfl

/-- A slash at the start of a path names nothing by itself. -/
theorem filterMap_segments_slash (isText : Bool) (cs : List Char) :
    (segments ('/' :: cs)).filterMap (Component.ofSegment? isText) =
      (segments cs).filterMap (Component.ofSegment? isText) := by
  have hsegments : segments ('/' :: cs) = [] :: segments cs := Text.fields_cons_self '/' cs
  rw [hsegments, List.filterMap_cons_none rfl]

theorem named_eq_filterMap_segments (p : Path) :
    p.named = (segments p.text.toList).filterMap (Component.ofSegment? p.isText) := by
  rw [named, body_eq, rest]
  split
  · next habsolute =>
    obtain ⟨cs, hcs⟩ := List.head?_eq_some_iff.1 (beq_iff_eq.1 habsolute)
    rw [hcs, filterMap_segments_slash, List.drop_one, List.tail_cons]
  · rfl

/-- The dot at the start of a path names nothing by itself. -/
theorem named_eq_filterMap_afterAnchor (p : Path) :
    p.named = p.afterAnchor.filterMap (Component.ofSegment? p.isText) := by
  rw [named, afterAnchor]
  split
  · next hhere =>
    obtain ⟨more, hbody⟩ := List.head?_eq_some_iff.1 (head?_body_of_startsHere hhere)
    rw [hbody, List.filterMap_cons_none rfl, List.drop_one, List.tail_cons]
  · rfl

theorem filterMap_segments_unsegment (isText : Bool) (h : ∀ s ∈ ss, '/' ∉ s) :
    (segments (unsegment ss)).filterMap (Component.ofSegment? isText) =
      ss.filterMap (Component.ofSegment? isText) := by
  cases ss with
  | nil => rfl
  | cons s ss => rw [segments_unsegment (List.cons_ne_nil s ss) h]

/-- Only where a replacement character stands does it matter whether a path is text. -/
theorem Component.ofSegment?_of_notMem {s : List Char} (h : '\uFFFD' ∉ s) (isText : Bool) :
    ofSegment? isText s = ofSegment? true s := by
  have hcontains : s.contains '\uFFFD' = false := by
    rw [← Bool.not_eq_true, List.contains_iff_mem]
    exact h
  rw [ofSegment?, ofSegment?, hcontains, Bool.and_false, Bool.and_false]

/-- What is left of a path names what it named in the path. -/
theorem named_cutTo (p : Path) (text : String) :
    (p.cutTo text).named = (segments text.toList).filterMap (Component.ofSegment? p.isText) := by
  rw [named_eq_filterMap_segments, text_cutTo, isText_cutTo]
  cases hshown : text.toList.contains '\uFFFD' with
  | true => rw [Bool.not_true, Bool.or_false]
  | false =>
    rw [← Bool.not_eq_true, List.contains_iff_mem] at hshown
    refine List.filterMap_congr fun s hs => ?_
    have hnone : '\uFFFD' ∉ s := fun hmem => hshown (Text.mem_of_mem_fields hs hmem)
    rw [Component.ofSegment?_of_notMem hnone, Component.ofSegment?_of_notMem hnone p.isText]

/-- **What a path with another body names.** -/
theorem named_withBody (h : ∀ s ∈ ss, '/' ∉ s) :
    (p.withBody ss).named = ss.filterMap (Component.ofSegment? p.isText) := by
  obtain ⟨cut, hcut⟩ := exists_eq_cleanEnd_append ss
  have hslash : ∀ s ∈ cleanEnd ss, '/' ∉ s :=
    fun s hs => h s (hcut ▸ List.mem_append_left cut hs)
  have hdot : ∀ s ∈ ['.'] :: cleanEnd ss, '/' ∉ s :=
    List.forall_mem_cons.2 ⟨by decide, hslash⟩
  have hbody : (segments
      (unsegment ((if p.startsHere then [['.']] else []) ++ cleanEnd ss))).filterMap
        (Component.ofSegment? p.isText) =
      (cleanEnd ss).filterMap (Component.ofSegment? p.isText) := by
    split
    · rw [List.singleton_append, filterMap_segments_unsegment p.isText hdot,
        List.filterMap_cons_none rfl]
    · rw [List.nil_append, filterMap_segments_unsegment p.isText hslash]
  rw [withBody, named_cutTo, String.toList_ofList, ← filterMap_cleanEnd p.isText ss, ← hbody]
  split
  · exact filterMap_segments_slash p.isText _
  · rfl

theorem slash_notMem_of_mem_afterAnchor {s : List Char} (h : s ∈ p.afterAnchor) : '/' ∉ s := by
  have hbody : s ∈ p.body := by
    rw [afterAnchor] at h
    split at h
    · exact List.mem_of_mem_drop h
    · exact h
  exact slash_notMem_of_mem_segments (p.body_eq ▸ hbody)

/-- What follows the anchor of a path that ends in a name. -/
theorem afterAnchor_of_endsInName (h : p.endsInName = true) :
    ∃ front s, p.afterAnchor = front ++ [s] ∧ isNamed s = true := by
  obtain ⟨s, hlast, hnamed⟩ := endsInName_iff.1 h
  obtain ⟨front, hbody⟩ := List.getLast?_eq_some_iff.1 hlast
  rw [afterAnchor]
  split
  · next hhere =>
    have hhead := head?_body_of_startsHere hhere
    cases front with
    | nil =>
      rw [hbody, List.nil_append, List.head?_cons, Option.some_inj] at hhead
      rw [hhead] at hnamed
      cases hnamed
    | cons t front => exact ⟨front, s, by rw [hbody]; rfl, hnamed⟩
  · exact ⟨front, s, hbody, hnamed⟩

/-- The folder of a path that ends in a name, and what the path names. -/
theorem exists_parent? (h : p.endsInName = true) : ∃ q component,
    p.parent? = some q ∧ p.named = q.named ++ [component] ∧
      p.components.getLast? = some component := by
  obtain ⟨front, s, hafter, hnamed⟩ := afterAnchor_of_endsInName h
  have hsome : (Component.ofSegment? p.isText s).isSome = true := by
    rw [Component.isSome_ofSegment?, hnamed]
  obtain ⟨component, hcomponent⟩ := Option.isSome_iff_exists.1 hsome
  have hall : p.named = front.filterMap (Component.ofSegment? p.isText) ++ [component] := by
    rw [named_eq_filterMap_afterAnchor, hafter, List.filterMap_append,
      List.filterMap_cons_some hcomponent, List.filterMap_nil]
  have hlast : p.components.getLast? = some component := by
    rw [components_eq_named, hall, ← List.append_assoc, List.getLast?_concat]
  have hslash : ∀ t ∈ front, '/' ∉ t := fun t ht =>
    slash_notMem_of_mem_afterAnchor (hafter ▸ List.mem_append_left [s] ht)
  refine ⟨p.withBody front, component, ?_, by rw [named_withBody hslash, hall], hlast⟩
  have hbody : (cleanEnd p.afterAnchor).dropLast = front := by
    rw [hafter, cleanEnd_append_of_isNamed hnamed, List.dropLast_concat]
  rw [parent?, hlast]
  rw [Component.ofSegment?] at hcomponent
  split_ifs at hcomponent <;> cases hcomponent <;> simp only [hbody]

/-- **A path names what its folder names, and then its last name.** -/
theorem exists_parent?_of_name? (h : p.endsInName = true) (hname : p.name? = some name) :
    ∃ q, p.parent? = some q ∧ p.named = q.named ++ [.name name.toList] := by
  obtain ⟨q, component, hparent, hnamed, hlast⟩ := exists_parent? h
  rw [name?, hlast] at hname
  split at hname
  · next cs heq =>
    rw [Option.some_inj] at heq hname
    exact ⟨q, hparent, by rw [hnamed, heq, ← hname, String.toList_ofList]⟩
  · cases hname

end Path
end EmojiLint
