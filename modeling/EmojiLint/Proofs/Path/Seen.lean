import EmojiLint.Proofs.Path.Child

/-!
# Entries as seen from a root

What is seen of an entry from a root is what is seen of its folder, and then its name.

* `Inside` — a path leads through a root.
* `seenAs`, `relativeTo_eq` — what is seen of a path that leads through the root.
* `relativeTo_child` — what stands in front of an entry.
* `descend` — the path of what is some folders further down.
-/

set_option autoImplicit false

namespace EmojiLint
namespace Path

variable {p root : Path} {name : String} {s : List Char} {ss : List (List Char)} {n : Nat}

/-! ## As seen from a root -/

/-- A path leads through another one, as far as their names tell. -/
def Inside (p root : Path) : Prop :=
  root.components <+: p.components

theorem Inside.child (hinside : Inside p root) (h : IsName name) : Inside (p.child name) root := by
  rw [Inside, components_child h]
  exact hinside.trans (List.prefix_append _ _)

/-- The trunk after the anchor. -/
def afterTrunk (p : Path) : List (List Char) :=
  if p.startsHere then p.trunk.drop 1 else p.trunk

theorem head?_body_of_startsHere (h : p.startsHere = true) : p.body.head? = some ['.'] :=
  beq_iff_eq.1 (Bool.and_eq_true_iff.1 h).2

theorem trunk_eq_cons_of_startsHere (h : p.startsHere = true) :
    p.trunk = ['.'] :: p.afterTrunk := by
  have hbody := head?_body_of_startsHere h
  rw [afterTrunk, if_pos h]
  rw [trunk]
  rcases eq_trunkOf_or p.body with heq | heq <;> rw [heq] at hbody <;>
    cases htrunk : trunkOf p.body with
  | nil => rw [htrunk] at hbody; cases hbody
  | cons s ss =>
    rw [htrunk] at hbody
    obtain rfl : s = ['.'] := Option.some_inj.1 hbody
    rfl

theorem afterAnchor_child (h : IsName name) :
    (p.child name).afterAnchor = p.afterTrunk ++ [name.toList] := by
  rw [afterAnchor, startsHere_child h, body_child h, afterTrunk]
  split
  · next hhere =>
    rw [trunk_eq_cons_of_startsHere hhere]
    rfl
  · rfl

theorem afterAnchor_eq_or (p : Path) :
    p.afterAnchor = p.afterTrunk ∨ p.afterAnchor = p.afterTrunk ++ [[]] := by
  rw [afterAnchor, afterTrunk]
  split
  · next hhere =>
    have htrunk := trunk_eq_cons_of_startsHere hhere
    rw [htrunk]
    rcases eq_trunkOf_or p.body with heq | heq <;> rw [heq, ← trunk, htrunk]
    · exact Or.inl rfl
    · exact Or.inr rfl
  · exact eq_trunkOf_or p.body

theorem Component.isSome_ofSegment? (isText : Bool) (s : List Char) :
    (ofSegment? isText s).isSome = Path.isNamed s := by
  rw [ofSegment?]
  cases Path.isNamed s with
  | false => rfl
  | true =>
    rw [Bool.not_true, if_neg Bool.false_ne_true]
    split
    · rfl
    · split <;> rfl

/-- After the anchor there are as many components as segments that name something. -/
theorem length_components (p : Path) :
    p.components.length = p.anchor.length + p.afterTrunk.countP isNamed := by
  have hcount : p.trunk.countP isNamed = p.afterTrunk.countP isNamed := by
    cases hhere : p.startsHere with
    | true =>
      rw [trunk_eq_cons_of_startsHere hhere]
      exact List.countP_cons_of_neg (by decide)
    | false => rw [afterTrunk, hhere, if_neg Bool.false_ne_true]
  rw [components, List.length_append, ← filterMap_trunk rfl, List.length_filterMap_eq_countP,
    ← hcount]
  exact congrArg (_ + ·) (List.countP_congr fun s _ => by rw [Component.isSome_ofSegment?])

theorem dropNamed_append (h : n ≤ ss.countP isNamed) (tt : List (List Char)) :
    dropNamed n (ss ++ tt) = dropNamed n ss ++ tt := by
  induction ss generalizing n with
  | nil =>
    obtain rfl := Nat.le_zero.1 h
    rw [dropNamed, dropNamed, List.nil_append]
  | cons s ss ih =>
    cases n with
    | zero => rw [dropNamed, dropNamed]
    | succ n =>
      rw [List.cons_append, dropNamed, dropNamed]
      split
      · next hs =>
        rw [List.countP_cons_of_pos hs] at h
        exact ih (Nat.le_of_succ_le_succ h)
      · next hs =>
        rw [List.countP_cons_of_neg hs] at h
        exact ih h

theorem cleanEnd_append_of_isNamed (h : isNamed s = true) (ss : List (List Char)) :
    cleanEnd (ss ++ [s]) = ss ++ [s] := by
  induction ss with
  | nil => rw [List.nil_append, cleanEnd, List.foldr_cons, h]; rfl
  | cons t ss ih =>
    rw [List.cons_append, cleanEnd, List.foldr_cons, ← cleanEnd, ih, if_neg]
    simp

theorem cleanEnd_append_of_not_isNamed (h : isNamed s = false) (ss : List (List Char)) :
    cleanEnd (ss ++ [s]) = cleanEnd ss := by
  rw [cleanEnd, List.foldr_append, List.foldr_cons, h]
  rfl

/-- What is cut off at the end stood there. -/
theorem exists_eq_cleanEnd_append (ss : List (List Char)) : ∃ tt, ss = cleanEnd ss ++ tt := by
  induction ss with
  | nil => exact ⟨[], rfl⟩
  | cons s ss ih =>
    obtain ⟨tt, htt⟩ := ih
    rw [cleanEnd, List.foldr_cons, ← cleanEnd]
    split
    · exact ⟨s :: ss, rfl⟩
    · exact ⟨tt, congrArg (s :: ·) htt⟩

theorem cleanStart_append_of_isNamed (h : isNamed s = true) (ss : List (List Char)) :
    cleanStart (ss ++ [s]) = cleanStart ss ++ [s] := by
  rw [cleanStart, List.dropWhile_append, ← cleanStart]
  split
  · next hnil => rw [List.isEmpty_iff.1 hnil, List.dropWhile_cons_of_neg (by simpa using h)]; rfl
  · rfl

theorem cleanEnd_cleanStart_append (h : isNamed s = false) (ss : List (List Char)) :
    cleanEnd (cleanStart (ss ++ [s])) = cleanEnd (cleanStart ss) := by
  rw [cleanStart, List.dropWhile_append, ← cleanStart]
  split
  · next hnil =>
    rw [List.isEmpty_iff.1 hnil, List.dropWhile_cons_of_pos (by simpa using h)]
    rfl
  · exact cleanEnd_append_of_not_isNamed h _

/-- The segments of a path as seen from a root that it leads through, before their ends are
cleaned up. -/
def seenFrom (p root : Path) (ss : List (List Char)) : List (List Char) :=
  if root.components = [] then ss
  else cleanStart (dropNamed (root.components.length - p.anchor.length) ss)

/-- What stands before these segments. -/
def lead (p root : Path) : List Char :=
  if root.components = [] ∧ p.isAbsolute then ['/'] else []

/-- The dot that stands before them. -/
def leadingDot (p root : Path) : List (List Char) :=
  if root.components = [] ∧ p.startsHere then [['.']] else []

/-- The text of a path as seen from a root, before its backslashes are replaced. -/
def seenAs (p root : Path) : List Char :=
  ((p.stripFront? root).getD p).text.toList

theorem toList_relativeTo (p root : Path) :
    (p.relativeTo root).toList = forwardSlashes (p.seenAs root) :=
  String.toList_ofList

theorem seenAs_eq (h : Inside p root) : p.seenAs root = p.lead root ++
    unsegment (p.leadingDot root ++ cleanEnd (p.seenFrom root p.afterAnchor)) := by
  have htake : p.components.take root.components.length = root.components :=
    (List.prefix_iff_eq_take.1 h).symm
  rw [seenAs, stripFront?]
  dsimp only
  rw [if_neg (not_not_intro htake), lead, leadingDot, seenFrom]
  by_cases hroot : root.components = []
  · rw [hroot, if_pos List.length_nil]
    simp only [Option.getD_some, withBody, text_cutTo, String.toList_ofList, true_and, if_true]
  · rw [if_neg fun hlength => hroot (List.length_eq_zero_iff.1 hlength)]
    simp only [hroot, false_and, if_false, Option.getD_some, text_cutTo, String.toList_ofList,
      List.nil_append]

theorem relativeTo_eq (h : Inside p root) : (p.relativeTo root).toList =
    forwardSlashes (p.lead root ++
      unsegment (p.leadingDot root ++ cleanEnd (p.seenFrom root p.afterAnchor))) := by
  rw [toList_relativeTo, seenAs_eq h]

theorem seenFrom_append (h : Inside p root) (ss : List (List Char)) :
    dropNamed (root.components.length - p.anchor.length) (p.afterTrunk ++ ss) =
      dropNamed (root.components.length - p.anchor.length) p.afterTrunk ++ ss := by
  refine dropNamed_append ?_ ss
  have := h.length_le
  rw [length_components p] at this
  omega

/-- The segments as seen from the root, but for one that names nothing at the end. -/
theorem cleanEnd_seenFrom (h : Inside p root) :
    cleanEnd (p.seenFrom root p.afterAnchor) = cleanEnd (p.seenFrom root p.afterTrunk) := by
  rcases afterAnchor_eq_or p with heq | heq <;> rw [heq]
  rw [seenFrom, seenFrom]
  split
  · exact cleanEnd_append_of_not_isNamed rfl _
  · rw [seenFrom_append h, cleanEnd_cleanStart_append rfl]

theorem seenFrom_child (hinside : Inside p root) (h : IsName name) :
    (p.child name).seenFrom root (p.child name).afterAnchor =
      p.seenFrom root p.afterTrunk ++ [name.toList] := by
  rw [seenFrom, seenFrom, afterAnchor_child h, anchor_child h]
  split
  · rfl
  · rw [seenFrom_append hinside, cleanStart_append_of_isNamed h.isNamed]

/-- **An entry is seen below its folder**, unless the folder is the root itself. -/
theorem relativeTo_child (hinside : Inside p root) (h : IsName name)
    (hseen : ∃ c ∈ (p.relativeTo root).toList, c ≠ '/') :
    ∃ below, (p.child name).relativeTo root = p.relativeTo root ++ "/" ++ below := by
  have hfolder := relativeTo_eq hinside
  have hchild := relativeTo_eq (hinside.child h)
  have hlead : (p.child name).lead root = p.lead root := by
    rw [lead, lead, isAbsolute_child h]
  have hdot : (p.child name).leadingDot root = p.leadingDot root := by
    rw [leadingDot, leadingDot, startsHere_child h]
  obtain ⟨junk, hjunk⟩ := exists_eq_cleanEnd_append (p.seenFrom root p.afterTrunk)
  rw [cleanEnd_seenFrom hinside] at hfolder
  rw [hlead, hdot, seenFrom_child hinside h, cleanEnd_append_of_isNamed h.isNamed, hjunk,
    List.append_assoc, ← List.append_assoc (p.leadingDot root)] at hchild
  by_cases hnone : p.leadingDot root ++ cleanEnd (p.seenFrom root p.afterTrunk) = []
  · -- Before the folder there is at most a slash.
    obtain ⟨c, hc, hslash⟩ := hseen
    rw [hfolder, hnone, lead] at hc
    split at hc
    · exact absurd (List.mem_singleton.1 hc) hslash
    · cases hc
  · rw [unsegment_append hnone (List.append_ne_nil_of_right_ne_nil junk (List.cons_ne_nil _ _)),
      ← List.append_assoc, forwardSlashes_append, ← hfolder] at hchild
    refine ⟨String.ofList (forwardSlashes (unsegment (junk ++ [name.toList]))), ?_⟩
    have hslash : forwardSlashes ['/'] = ['/'] := rfl
    rw [← List.singleton_append, forwardSlashes_append, hslash, ← List.append_assoc] at hchild
    rw [← String.toList_inj, hchild, String.toList_append, String.toList_append,
      String.toList_ofList, String.toList_ofList]

/-! ## Further down -/

/-- The path of what some names lead to from a folder. -/
def descend (p : Path) (names : List String) : Path :=
  names.foldl child p

variable {names : List String}

theorem descend_cons (p : Path) (name : String) (names : List String) :
    p.descend (name :: names) = (p.child name).descend names :=
  rfl

theorem descend_append (p : Path) (front names : List String) :
    p.descend (front ++ names) = (p.descend front).descend names :=
  List.foldl_append

theorem components_descend (h : ∀ name ∈ names, IsName name) :
    (p.descend names).components = p.components ++ names.map (Component.ofName p.isText) := by
  induction names generalizing p with
  | nil => exact (List.append_nil _).symm
  | cons name names ih =>
    have hname := h name List.mem_cons_self
    rw [descend_cons, ih fun other hother => h other (List.mem_cons_of_mem _ hother),
      components_child hname, isText_child hname, List.append_assoc, List.map_cons]
    rfl

theorem Inside.descend (hinside : Inside p root) (h : ∀ name ∈ names, IsName name) :
    Inside (p.descend names) root := by
  rw [Inside, components_descend h]
  exact hinside.trans (List.prefix_append _ _)

/-- Different names lead to different paths. -/
theorem descend_inj {other : List String} (h : ∀ name ∈ names, IsName name)
    (hother : ∀ name ∈ other, IsName name) (hsame : (p.descend names).Same (p.descend other)) :
    names = other := by
  rw [Same, components_descend h, components_descend hother] at hsame
  exact (List.map_inj_right fun _ _ heq => Component.ofName_injective _ heq).1
    (List.append_cancel_left hsame)

/-- **What is below a folder is seen below it**, unless the folder is the root itself. -/
theorem relativeTo_descend (hinside : Inside p root) (h : ∀ name ∈ names, IsName name)
    (hnames : names ≠ []) (hseen : ∃ c ∈ (p.relativeTo root).toList, c ≠ '/') :
    ∃ below, (p.descend names).relativeTo root = p.relativeTo root ++ "/" ++ below := by
  induction names generalizing p with
  | nil => exact absurd rfl hnames
  | cons name names ih =>
    have hname := h name List.mem_cons_self
    obtain ⟨below, hchild⟩ := relativeTo_child hinside hname hseen
    by_cases hlast : names = []
    · exact ⟨below, by rw [hlast]; exact hchild⟩
    · have hseen' : ∃ c ∈ ((p.child name).relativeTo root).toList, c ≠ '/' := by
        obtain ⟨c, hc, hslash⟩ := hseen
        refine ⟨c, ?_, hslash⟩
        rw [hchild, String.toList_append, String.toList_append]
        exact List.mem_append_left _ (List.mem_append_left _ hc)
      obtain ⟨deeper, hdeeper⟩ := ih (hinside.child hname)
        (fun other hother => h other (List.mem_cons_of_mem _ hother)) hlast hseen'
      refine ⟨below ++ "/" ++ deeper, ?_⟩
      rw [descend_cons, hdeeper, hchild]
      simp only [String.append_assoc]

end Path
end EmojiLint
