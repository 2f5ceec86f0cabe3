import EmojiLint.Proofs.Path.Descend
import Mathlib.Data.List.Basic

/-!
# What lies below a folder

A file lies below a folder when it is named by the components of the folder and at least one more.
Two paths that are spelled without dots and without slashes that do not count tell so by their
texts: that of the file goes on from that of the folder with a slash.

* `LiesBelow` — by what two paths name.
* `liesBelow_iff` — by how they are spelled.
* `liesBelow_empty` — everything lies below the folder from which the paths are seen.
-/

set_option autoImplicit false

namespace EmojiLint
namespace Path

variable {path file folder : String} {s : List Char} {ss : List (List Char)}

/-- A file lies below a folder, as far as their names tell. -/
def LiesBelow (file folder : String) : Prop :=
  ∃ c cs, (ofText file).components = (ofText folder).components ++ c :: cs

/-- Every segment of a path names something.  So no slash stands at an end of the path or behind
another one, and no segment is a single dot. -/
def IsClean (path : String) : Prop :=
  ∀ s ∈ segments path.toList, isNamed s = true

instance (path : String) : Decidable (IsClean path) :=
  inferInstanceAs (Decidable (∀ s ∈ segments path.toList, isNamed s = true))

theorem IsClean.head?_ne (h : IsClean path) : path.toList.head? ≠ some '/' := by
  intro hhead
  obtain ⟨cs, htext⟩ := List.head?_eq_some_iff.1 hhead
  have hempty : ([] : List Char) ∈ segments path.toList := by
    rw [htext, ← List.nil_append ('/' :: cs), segments_append_cons]
    exact List.mem_append_left _ List.mem_cons_self
  exact Bool.false_ne_true (h [] hempty)

/-- What stands before a slash of a clean path is clean. -/
theorem IsClean.of_toList_eq {cs below : List Char} (h : IsClean path)
    (heq : path.toList = cs ++ '/' :: below) : IsClean (String.ofList cs) := by
  rw [IsClean, heq, segments_append_cons] at h
  rw [IsClean, String.toList_ofList]
  exact fun s hs => h s (List.mem_append_left _ hs)

/-- The component that a segment stands for which names something. -/
def Component.ofNamed (s : List Char) : Component :=
  if s = ['.', '.'] then .up else .name s

theorem Component.ofNamed_injective : Function.Injective ofNamed := by
  intro s t h
  rw [ofNamed, ofNamed] at h
  split at h <;> split at h
  · next hs ht => rw [hs, ht]
  · cases h
  · cases h
  · exact Component.name.inj h

theorem Component.ofSegment?_eq_ofNamed (h : isNamed s = true) :
    ofSegment? true s = some (ofNamed s) := by
  rw [ofSegment?, h, ofNamed, if_neg (by decide)]
  split <;> rfl

theorem IsClean.anchor (h : IsClean path) : (ofText path).anchor = [] := by
  have habsolute : (ofText path).isAbsolute = false := by
    rw [isAbsolute, beq_eq_false_iff_ne]
    exact h.head?_ne
  have hbody : (ofText path).body = segments path.toList := by
    rw [body, habsolute, if_neg Bool.false_ne_true]
    rfl
  have hhere : (ofText path).startsHere = false := by
    rw [startsHere, habsolute, hbody, Bool.not_false, Bool.true_and, beq_eq_false_iff_ne]
    exact fun hhead => Bool.false_ne_true (h _ (List.mem_of_head? hhead))
  rw [Path.anchor, habsolute, hhere, if_neg Bool.false_ne_true, if_neg Bool.false_ne_true]

/-- Without a slash or a dot in front, a path names what its segments name. -/
theorem components_eq_filterMap_segments (h : (ofText path).anchor = []) :
    (ofText path).components =
      (segments path.toList).filterMap (Component.ofSegment? true) := by
  have habsolute : (ofText path).isAbsolute = false := by
    rw [anchor] at h
    split at h
    · cases h
    · next hnot => exact eq_false_of_ne_true hnot
  rw [components, h, body, habsolute, if_neg Bool.false_ne_true]
  rfl

theorem filterMap_ofSegment?_of_isNamed (h : ∀ s ∈ ss, isNamed s = true) :
    ss.filterMap (Component.ofSegment? true) = ss.map Component.ofNamed :=
  List.filterMap_eq_map_iff_forall_eq_some.2 fun s hs => Component.ofSegment?_eq_ofNamed (h s hs)

theorem IsClean.components (h : IsClean path) :
    (ofText path).components = (segments path.toList).map Component.ofNamed := by
  rw [components_eq_filterMap_segments h.anchor, filterMap_ofSegment?_of_isNamed h]

/-- **What lies below a folder is spelled behind it.** -/
theorem liesBelow_iff (hfile : IsClean file) (hfolder : IsClean folder) :
    LiesBelow file folder ↔ ∃ below, file.toList = folder.toList ++ '/' :: below := by
  rw [LiesBelow, hfile.components, hfolder.components]
  constructor
  · rintro ⟨c, cs, h⟩
    obtain ⟨front, more, hsegments, hfront, hmore⟩ := List.map_eq_append_iff.1 h
    rw [(List.map_inj_right fun _ _ heq => Component.ofNamed_injective heq).1 hfront] at hsegments
    have hne : more ≠ [] := fun hnil => by
      rw [hnil] at hmore
      cases hmore
    refine ⟨unsegment more, ?_⟩
    rw [← unsegment_segments file.toList, hsegments, unsegment_append (segments_ne_nil _) hne,
      unsegment_segments]
  · rintro ⟨below, h⟩
    obtain ⟨s, ss, hbelow⟩ := List.exists_cons_of_ne_nil (segments_ne_nil below)
    refine ⟨Component.ofNamed s, ss.map Component.ofNamed, ?_⟩
    rw [h, segments_append_cons, hbelow, List.map_append, List.map_cons]

/-- A slash at the end of a folder makes no difference to what lies below it. -/
theorem liesBelow_append_slash (h : (ofText folder).anchor = [])
    (hslash : (ofText (folder ++ "/")).anchor = []) :
    LiesBelow file (folder ++ "/") ↔ LiesBelow file folder := by
  have hsegments : segments (folder ++ "/").toList = segments folder.toList ++ [[]] := by
    rw [String.toList_append]
    exact segments_append_cons folder.toList []
  rw [LiesBelow, LiesBelow, components_eq_filterMap_segments h,
    components_eq_filterMap_segments hslash, hsegments, List.filterMap_append,
    List.filterMap_cons_none rfl, List.filterMap_nil, List.append_nil]

theorem mem_unsegment {c : Char} (h : c ∈ unsegment ss) : c = '/' ∨ ∃ s ∈ ss, c ∈ s := by
  induction ss with
  | nil => cases h
  | cons s ss ih =>
    by_cases hnil : ss = []
    · rw [hnil] at h
      exact Or.inr ⟨s, List.mem_cons_self, h⟩
    · rw [unsegment_cons s hnil, List.mem_append, List.mem_cons] at h
      rcases h with h | h | h
      · exact Or.inr ⟨s, List.mem_cons_self, h⟩
      · exact Or.inl h
      · refine (ih h).imp_right ?_
        rintro ⟨t, ht, hc⟩
        exact ⟨t, List.mem_cons_of_mem s ht, hc⟩

/-- **Something can lie below every folder**, however that is spelled. -/
theorem exists_liesBelow (h : (ofText folder).anchor = []) : ∃ file, IsClean file ∧
    LiesBelow file folder ∧ ∀ c ∈ file.toList, c = '/' ∨ c = 'x' ∨ c ∈ folder.toList := by
  let names := (segments folder.toList).filter isNamed
  have hnamed : ∀ s ∈ names, isNamed s = true := fun s hs => (List.mem_filter.1 hs).2
  have hsegments : segments (unsegment (names ++ [['x']])) = names ++ [['x']] := by
    refine segments_unsegment (List.append_ne_nil_of_right_ne_nil _ (List.cons_ne_nil _ _)) ?_
    intro s hs
    rcases List.mem_append.1 hs with hs | hs
    · exact slash_notMem_of_mem_segments (List.mem_filter.1 hs).1
    · rw [List.mem_singleton.1 hs]
      decide
  have hclean : IsClean (String.ofList (unsegment (names ++ [['x']]))) := by
    rw [IsClean, String.toList_ofList, hsegments]
    intro s hs
    rcases List.mem_append.1 hs with hs | hs
    · exact hnamed s hs
    · rw [List.mem_singleton.1 hs]
      rfl
  refine ⟨_, hclean, ⟨Component.ofNamed ['x'], [], ?_⟩, fun c hc => ?_⟩
  · have hnames : (segments folder.toList).filterMap (Component.ofSegment? true) =
        names.map Component.ofNamed := by
      rw [← filterMap_ofSegment?_of_isNamed hnamed, List.filterMap_filter]
      refine List.filterMap_congr fun s _ => ?_
      split
      · rfl
      · next hs =>
        rw [← Option.isNone_iff_eq_none, ← Option.not_isSome, Component.isSome_ofSegment?,
          eq_false_of_ne_true hs, Bool.not_false]
    rw [hclean.components, String.toList_ofList, hsegments, components_eq_filterMap_segments h,
      hnames, List.map_append, List.map_singleton]
  · rw [String.toList_ofList] at hc
    refine (mem_unsegment hc).imp_right ?_
    rintro ⟨s, hs, hcs⟩
    rcases List.mem_append.1 hs with hs | hs
    · exact Or.inr (Text.mem_of_mem_fields (List.mem_filter.1 hs).1 hcs)
    · rw [List.mem_singleton.1 hs] at hcs
      exact Or.inl (List.mem_singleton.1 hcs)

/-- **Everything lies below the folder from which it is seen.** -/
theorem liesBelow_empty (h : IsClean file) : LiesBelow file "" := by
  obtain ⟨s, ss, hsegments⟩ := List.exists_cons_of_ne_nil (segments_ne_nil file.toList)
  refine ⟨Component.ofNamed s, ss.map Component.ofNamed, ?_⟩
  rw [h.components, hsegments, List.map_cons]
  rfl

end Path
end EmojiLint
