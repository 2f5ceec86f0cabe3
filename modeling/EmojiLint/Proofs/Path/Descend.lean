import EmojiLint.Proofs.Path.Seen

/-!
# What is below a folder, as seen from a root

Everything below a folder is seen behind the same text, followed by the names that lead down to it.
So the names can be read off again, as long as none of them holds a mark that separates names.

* `toList_descend` — the text of a path that goes down.
* `relativeTo_descend_eq` — the same as seen from a root that the folder is inside.
* `IsPlainName`, `relativeTo_descend_inj` — different names are seen differently.
* `Tidy` — a path is spelled with single names after its root, and so is what is below it.
-/

set_option autoImplicit false

namespace EmojiLint
namespace Path

variable {p root : Path} {name : String} {names other : List String} {ss : List (List Char)}

/-! ## The text of a path that goes down -/

/-- What stands before the name of an entry: the path of the folder and a slash. -/
def front (p : Path) : List Char :=
  p.text.toList ++
    if p.text.toList.isEmpty || p.text.toList.getLast? == some '/' then [] else ['/']

theorem front_child (h : IsName name) : (p.child name).front = p.front ++ name.toList ++ ['/'] := by
  obtain ⟨start, c, hname⟩ := (List.eq_nil_or_concat name.toList).resolve_left h.ne_empty
  have hslash : (c == '/') = false := by
    rw [beq_eq_false_iff_ne]
    intro hc
    exact h.no_slash (by simp [hname, hc])
  have hlast : (p.child name).text.toList.getLast? = some c := by
    rw [toList_child h, hname, List.concat_eq_append, ← List.append_assoc, List.getLast?_concat]
  have hfull : (p.child name).text.toList.isEmpty = false := by
    rw [List.isEmpty_eq_false_iff]
    intro hnil
    rw [hnil] at hlast
    cases hlast
  rw [front, hlast, hfull, if_neg (by simpa using hslash), toList_child h, front]

/-- **The text of a path that goes down** ends with the names that lead down. -/
theorem toList_descend (h : ∀ name ∈ names, IsName name) (hnames : names ≠ []) :
    (p.descend names).text.toList = p.front ++ unsegment (names.map String.toList) := by
  induction names generalizing p with
  | nil => exact absurd rfl hnames
  | cons name names ih =>
    have hname := h name List.mem_cons_self
    rw [descend_cons, List.map_cons]
    by_cases hlast : names = []
    · rw [hlast]
      exact toList_child hname
    · rw [ih (fun other hother => h other (List.mem_cons_of_mem _ hother)) hlast,
        front_child hname, unsegment_cons _ (by simpa using hlast)]
      simp

/-! ## As seen from a root -/

theorem isAbsolute_descend (h : ∀ name ∈ names, IsName name) :
    (p.descend names).isAbsolute = p.isAbsolute := by
  induction names generalizing p with
  | nil => rfl
  | cons name names ih =>
    rw [descend_cons, ih fun other hother => h other (List.mem_cons_of_mem _ hother),
      isAbsolute_child (h name List.mem_cons_self)]

theorem startsHere_descend (h : ∀ name ∈ names, IsName name) :
    (p.descend names).startsHere = p.startsHere := by
  induction names generalizing p with
  | nil => rfl
  | cons name names ih =>
    rw [descend_cons, ih fun other hother => h other (List.mem_cons_of_mem _ hother),
      startsHere_child (h name List.mem_cons_self)]

theorem afterTrunk_child (h : IsName name) :
    (p.child name).afterTrunk = (p.child name).afterAnchor := by
  rw [afterTrunk, afterAnchor, trunk_child h, ← body_child h]

theorem seenFrom_descend (hinside : Inside p root) (h : ∀ name ∈ names, IsName name)
    (hnames : names ≠ []) : (p.descend names).seenFrom root (p.descend names).afterAnchor =
      p.seenFrom root p.afterTrunk ++ names.map String.toList := by
  induction names generalizing p with
  | nil => exact absurd rfl hnames
  | cons name names ih =>
    have hname := h name List.mem_cons_self
    rw [descend_cons, List.map_cons]
    by_cases hlast : names = []
    · rw [hlast]
      exact seenFrom_child hinside hname
    · rw [ih (hinside.child hname) (fun other hother => h other (List.mem_cons_of_mem _ hother))
        hlast, afterTrunk_child hname, seenFrom_child hinside hname, List.append_assoc]
      rfl

theorem cleanEnd_append_names (h : ∀ name ∈ names, IsName name) (hnames : names ≠ [])
    (ss : List (List Char)) :
    cleanEnd (ss ++ names.map String.toList) = ss ++ names.map String.toList := by
  obtain ⟨start, name, rfl⟩ := (List.eq_nil_or_concat names).resolve_left hnames
  rw [List.concat_eq_append] at h ⊢
  have hname := (h name (by simp)).isNamed
  rw [List.map_append, ← List.append_assoc]
  exact cleanEnd_append_of_isNamed hname _

/-- **What is below a folder inside the root** is seen behind what the folder is seen as. -/
theorem relativeTo_descend_eq (hinside : Inside p root) (h : ∀ name ∈ names, IsName name)
    (hnames : names ≠ []) : ((p.descend names).relativeTo root).toList =
      forwardSlashes (p.lead root ++ unsegment
        (p.leadingDot root ++ p.seenFrom root p.afterTrunk ++ names.map String.toList)) := by
  have hlead : (p.descend names).lead root = p.lead root := by
    rw [lead, lead, isAbsolute_descend h]
  have hdot : (p.descend names).leadingDot root = p.leadingDot root := by
    rw [leadingDot, leadingDot, startsHere_descend h]
  rw [relativeTo_eq (hinside.descend h), hlead, hdot, seenFrom_descend hinside h hnames,
    cleanEnd_append_names h hnames, List.append_assoc]

/-- A path outside the root is seen as it is. -/
theorem seenAs_of_not_inside (h : ¬ Inside p root) : p.seenAs root = p.text.toList := by
  have htake : p.components.take root.components.length ≠ root.components := by
    intro heq
    exact h (List.prefix_iff_eq_take.2 heq.symm)
  rw [seenAs, stripFront?]
  dsimp only
  rw [if_pos htake, Option.getD_none]

theorem relativeTo_of_not_inside (h : ¬ Inside p root) :
    (p.relativeTo root).toList = forwardSlashes p.text.toList := by
  rw [toList_relativeTo, seenAs_of_not_inside h]

/-- Going down leads into the root only from inside it: the folder does not stand above it. -/
def NotAbove (p root : Path) : Prop :=
  ∀ names, (∀ name ∈ names, IsName name) → Inside (p.descend names) root → Inside p root

theorem Inside.notAbove (h : Inside p root) : NotAbove p root :=
  fun _ _ _ => h

/-- What is below a folder is seen behind one text. -/
theorem exists_relativeTo_descend (habove : NotAbove p root) :
    ∃ before, ∀ names, (∀ name ∈ names, IsName name) → names ≠ [] →
      ((p.descend names).relativeTo root).toList =
        before ++ forwardSlashes (unsegment (names.map String.toList)) := by
  by_cases hinside : Inside p root
  · by_cases hnone : p.leadingDot root ++ p.seenFrom root p.afterTrunk = []
    · refine ⟨forwardSlashes (p.lead root), fun names h hnames => ?_⟩
      rw [relativeTo_descend_eq hinside h hnames, hnone, List.nil_append, forwardSlashes_append]
    · refine ⟨forwardSlashes (p.lead root ++ unsegment
        (p.leadingDot root ++ p.seenFrom root p.afterTrunk) ++ ['/']), fun names h hnames => ?_⟩
      rw [relativeTo_descend_eq hinside h hnames, unsegment_append hnone (by simpa using hnames),
        ← forwardSlashes_append]
      simp
  · refine ⟨forwardSlashes p.front, fun names h hnames => ?_⟩
    have houtside : ¬ Inside (p.descend names) root := fun hin => hinside (habove names h hin)
    rw [relativeTo_of_not_inside houtside, toList_descend h hnames, forwardSlashes_append]

/-! ## Reading the names off again -/

/-- **Segments are found again** when they hold no slash. -/
theorem segments_unsegment (hss : ss ≠ []) (h : ∀ s ∈ ss, '/' ∉ s) :
    segments (unsegment ss) = ss := by
  induction ss with
  | nil => exact absurd rfl hss
  | cons s ss ih =>
    obtain ⟨hs, hmore⟩ := List.forall_mem_cons.1 h
    by_cases hnil : ss = []
    · rw [hnil]
      exact segments_of_notMem hs
    · rw [unsegment_cons s hnil, segments_append_cons, segments_of_notMem hs, ih hnil hmore,
        List.singleton_append]

/-- A name that looks the same with slashes for backslashes. -/
structure IsPlainName (name : String) : Prop extends IsName name where
  no_backslash : '\\' ∉ name.toList

instance (name : String) : Decidable (IsPlainName name) :=
  decidable_of_iff (IsName name ∧ '\\' ∉ name.toList) ⟨fun ⟨h, h'⟩ => ⟨h, h'⟩,
    fun ⟨h, h'⟩ => ⟨h, h'⟩⟩

theorem forwardSlashes_unsegment (h : ∀ name ∈ names, IsPlainName name) :
    forwardSlashes (unsegment (names.map String.toList)) =
      unsegment (names.map String.toList) := by
  refine forwardSlashes_of_notMem ?_
  induction names with
  | nil => exact List.not_mem_nil
  | cons name names ih =>
    have hname := (h name List.mem_cons_self).no_backslash
    rw [List.map_cons]
    by_cases hlast : names = []
    · rw [hlast]
      exact hname
    · rw [unsegment_cons _ (by simpa using hlast), List.mem_append, List.mem_cons, not_or, not_or]
      exact ⟨hname, by decide, ih fun other hother => h other (List.mem_cons_of_mem _ hother)⟩

/-- **Different names are seen differently.** -/
theorem relativeTo_descend_inj (habove : NotAbove p root) (h : ∀ name ∈ names, IsPlainName name)
    (hother : ∀ name ∈ other, IsPlainName name) (hnames : names ≠ []) (hothers : other ≠ [])
    (heq : (p.descend names).relativeTo root = (p.descend other).relativeTo root) :
    names = other := by
  obtain ⟨before, hbefore⟩ := exists_relativeTo_descend habove
  have htext := congrArg String.toList heq
  rw [hbefore names (fun name hname => (h name hname).toIsName) hnames,
    hbefore other (fun name hname => (hother name hname).toIsName) hothers,
    List.append_cancel_left_eq, forwardSlashes_unsegment h,
    forwardSlashes_unsegment hother] at htext
  have hslash : ∀ {names : List String}, (∀ name ∈ names, IsPlainName name) →
      ∀ s ∈ names.map String.toList, '/' ∉ s := by
    intro names hplain s hs
    obtain ⟨name, hname, rfl⟩ := List.mem_map.1 hs
    exact (hplain name hname).no_slash
  have hsegments := congrArg segments htext
  rw [segments_unsegment (by simpa using hnames) (hslash h),
    segments_unsegment (by simpa using hothers) (hslash hother)] at hsegments
  exact (List.map_inj_right fun _ _ hs => String.toList_inj.1 hs).1 hsegments

/-! ## Tidy paths -/

theorem components_eq_afterTrunk (p : Path) :
    p.components = p.anchor ++ p.afterTrunk.filterMap (Component.ofSegment? p.isText) := by
  rw [components, ← filterMap_trunk rfl]
  cases hhere : p.startsHere with
  | true => rw [trunk_eq_cons_of_startsHere hhere, List.filterMap_cons_none rfl]
  | false => rw [afterTrunk, hhere, if_neg Bool.false_ne_true]

theorem filterMap_dropNamed (isText : Bool) (n : Nat) (ss : List (List Char)) :
    (dropNamed n ss).filterMap (Component.ofSegment? isText) =
      (ss.filterMap (Component.ofSegment? isText)).drop n := by
  induction ss generalizing n with
  | nil => cases n <;> rfl
  | cons s ss ih =>
    cases n with
    | zero => rw [dropNamed, List.drop_zero]
    | succ n =>
      have hsome := Component.isSome_ofSegment? isText s
      rw [dropNamed, List.filterMap_cons]
      cases hs : Component.ofSegment? isText s with
      | none =>
        rw [hs, Option.isSome_none] at hsome
        rw [← hsome, if_neg Bool.false_ne_true]
        exact ih (n + 1)
      | some component =>
        rw [hs, Option.isSome_some] at hsome
        rw [← hsome, if_pos rfl]
        exact ih n

theorem filterMap_cleanStart (isText : Bool) (ss : List (List Char)) :
    (cleanStart ss).filterMap (Component.ofSegment? isText) =
      ss.filterMap (Component.ofSegment? isText) := by
  induction ss with
  | nil => rfl
  | cons s ss ih =>
    cases hs : isNamed s with
    | true => rw [cleanStart, List.dropWhile_cons_of_neg (by simpa using hs)]
    | false =>
      have hnone := Component.isSome_ofSegment? isText s
      rw [hs, Option.isSome_eq_false_iff, Option.isNone_iff_eq_none] at hnone
      rw [cleanStart, List.dropWhile_cons_of_pos (by simpa using hs), ← cleanStart, ih,
        List.filterMap_cons_none hnone]

theorem filterMap_toList (isText : Bool) (h : ∀ name ∈ names, IsName name) :
    (names.map String.toList).filterMap (Component.ofSegment? isText) =
      names.map (Component.ofName isText) := by
  induction names with
  | nil => rfl
  | cons name names ih =>
    rw [List.map_cons, List.filterMap_cons_some
      (Component.ofSegment?_toList (h name List.mem_cons_self) isText),
      ih fun other hother => h other (List.mem_cons_of_mem _ hother), List.map_cons]

/-- What a path names after a root that it leads through. -/
theorem components_seenFrom (hinside : Inside p root) (hroot : root.components ≠ []) :
    p.components = root.components ++
      (p.seenFrom root p.afterTrunk).filterMap (Component.ofSegment? p.isText) := by
  obtain ⟨more, hmore⟩ := hinside
  have hanchor : p.anchor.length ≤ root.components.length := by
    have hone : p.anchor.length ≤ 1 := by
      rw [anchor]
      split
      · exact Nat.le_refl 1
      · split
        · exact Nat.le_refl 1
        · exact Nat.zero_le 1
    exact Nat.le_trans hone (List.length_pos_iff.2 hroot)
  rw [seenFrom, if_neg hroot, filterMap_cleanStart, filterMap_dropNamed]
  have hdrop : p.components.drop root.components.length = more := by
    rw [← hmore, List.drop_left]
  rw [components_eq_afterTrunk p, List.drop_append, List.drop_eq_nil_of_le hanchor,
    List.nil_append] at hdrop
  rw [hdrop, hmore]

/-- **The root itself is seen as the empty text.** -/
theorem relativeTo_of_same (h : p.Same root) (hroot : root.components ≠ []) :
    p.relativeTo root = "" := by
  have hsame : p.components = root.components := h
  have hinside : Inside p root := ⟨[], by rw [List.append_nil, hsame]⟩
  have hrest := components_seenFrom hinside hroot
  rw [hsame, List.self_eq_append_right, List.filterMap_eq_nil_iff] at hrest
  -- No segment after the root names anything, and such segments do not stand at the start.
  have hnone : p.seenFrom root p.afterTrunk = [] := by
    rw [seenFrom, if_neg hroot] at hrest ⊢
    rw [← List.head?_eq_none_iff, Option.eq_none_iff_forall_ne_some]
    intro s hs
    have hunnamed := Component.isSome_ofSegment? p.isText s
    rw [hrest s (List.mem_of_head? hs), Option.isSome_none] at hunnamed
    have hstart := List.head?_dropWhile_not (fun s => !isNamed s) (dropNamed
      (root.components.length - p.anchor.length) p.afterTrunk)
    rw [← cleanStart, hs] at hstart
    simp [← hunnamed] at hstart
  rw [← String.toList_inj, Path.relativeTo_eq hinside, cleanEnd_seenFrom hinside, hnone, lead,
    if_neg fun hempty => hroot hempty.1, leadingDot, if_neg fun hempty => hroot hempty.1]
  rfl

/-- After the root that it leads through, a path is spelled with the names that lead down, with one
slash between each two of them.  Dots and slashes are fine only directly after the root, and one
slash at the end. -/
structure Tidy (root p : Path) (names : List String) : Prop where
  inside : Inside p root
  named : ∀ name ∈ names, IsName name
  spelled : p.seenFrom root p.afterTrunk = names.map String.toList
  isText : p.isText = root.isText

namespace Tidy

variable {below : List String}

theorem child (h : Tidy root p names) (hname : IsName name) :
    Tidy root (p.child name) (names ++ [name]) where
  inside := h.inside.child hname
  named other hother := by
    rcases List.mem_append.1 hother with hother | hother
    · exact h.named other hother
    · rw [List.mem_singleton.1 hother]
      exact hname
  spelled := by
    rw [afterTrunk_child hname, seenFrom_child h.inside hname, h.spelled, List.map_append,
      List.map_singleton]
  isText := (isText_child hname).trans h.isText

/-- **What is below a tidy path is tidy.** -/
theorem descend (h : Tidy root p names) (hbelow : ∀ name ∈ below, IsName name) :
    Tidy root (p.descend below) (names ++ below) := by
  induction below generalizing p names with
  | nil => rwa [List.append_nil]
  | cons name below ih =>
    have hchild := h.child (hbelow name List.mem_cons_self)
    have hdescend := ih hchild fun other hother => hbelow other (List.mem_cons_of_mem _ hother)
    rwa [List.append_assoc] at hdescend

/-- A tidy path names what the root names, and its names. -/
theorem components_eq (h : Tidy root p names) (hroot : root.components ≠ []) :
    p.components = root.components ++ names.map (Component.ofName root.isText) := by
  rw [components_seenFrom h.inside hroot, h.spelled, h.isText, filterMap_toList _ h.named]

/-- **A tidy path is seen as its names.** -/
theorem relativeTo_eq (h : Tidy root p names) (hroot : root.components ≠ []) :
    (p.relativeTo root).toList = forwardSlashes (unsegment (names.map String.toList)) := by
  have hclean : cleanEnd (names.map String.toList) = names.map String.toList := by
    by_cases hnames : names = []
    · rw [hnames]
      rfl
    · exact cleanEnd_append_names h.named hnames []
  rw [Path.relativeTo_eq h.inside, cleanEnd_seenFrom h.inside, h.spelled, hclean, lead,
    if_neg fun hempty => hroot hempty.1, leadingDot, if_neg fun hempty => hroot hempty.1,
    List.nil_append, List.nil_append]

end Tidy

end Path
end EmojiLint
