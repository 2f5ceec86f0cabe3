import EmojiLint.Proofs.Path.Segments

/-!
# The entries of a folder

The path of an entry is the path of its folder with one more name.  A slash at the end of the path
of the folder does not count for that, and neither do the dots and slashes before it.

* `IsName` — the names that entries have.
* `trunk` — what the path of a folder adds to the paths of its entries.
* `body_child`, `components_child` — what the path of an entry names.
-/

set_option autoImplicit false

namespace EmojiLint
namespace Path

/-- A name that something in a folder can have. -/
structure IsName (name : String) : Prop where
  ne_empty : name.toList ≠ []
  /-- Slashes stand between names. -/
  no_slash : '/' ∉ name.toList
  /-- One dot is the folder itself. -/
  ne_dot : name.toList ≠ ['.']
  /-- Two dots are the folder above. -/
  ne_dots : name.toList ≠ ['.', '.']

instance (name : String) : Decidable (IsName name) :=
  decidable_of_iff (name.toList ≠ [] ∧ '/' ∉ name.toList ∧ name.toList ≠ ['.'] ∧
    name.toList ≠ ['.', '.']) ⟨fun ⟨h₁, h₂, h₃, h₄⟩ => ⟨h₁, h₂, h₃, h₄⟩,
      fun ⟨h₁, h₂, h₃, h₄⟩ => ⟨h₁, h₂, h₃, h₄⟩⟩

variable {p : Path} {name : String} {s : List Char}

theorem IsName.isNamed (h : IsName name) : isNamed name.toList = true := by
  rw [Path.isNamed, Bool.and_eq_true, Bool.not_eq_true', List.isEmpty_eq_false_iff, bne_iff_ne]
  exact ⟨h.ne_empty, h.ne_dot⟩

theorem IsName.isAbsolute_eq_false (h : IsName name) : (ofText name).isAbsolute = false := by
  rw [isAbsolute, beq_eq_false_iff_ne]
  exact fun hhead => h.no_slash (List.mem_of_head? hhead)

/-! ## Adding one segment -/

/-- The segments without the empty one that follows a slash at the end. -/
def trunkOf (ss : List (List Char)) : List (List Char) :=
  if ss.getLast? = some [] then ss.dropLast else ss

theorem trunkOf_append_empty (ss : List (List Char)) : trunkOf (ss ++ [[]]) = ss := by
  rw [trunkOf, List.getLast?_concat, if_pos rfl, List.dropLast_concat]

theorem trunkOf_append_of_ne (h : s ≠ []) (ss : List (List Char)) :
    trunkOf (ss ++ [s]) = ss ++ [s] := by
  rw [trunkOf, List.getLast?_concat, if_neg fun heq => h (Option.some_inj.1 heq)]

theorem eq_trunkOf_or (ss : List (List Char)) : ss = trunkOf ss ∨ ss = trunkOf ss ++ [[]] := by
  rw [trunkOf]
  split
  · next h =>
    obtain ⟨front, rfl⟩ := List.getLast?_eq_some_iff.1 h
    exact Or.inr (by rw [List.dropLast_concat])
  · exact Or.inl rfl

/-- The segments of a path to which a text is added after a slash, unless there is one. -/
theorem segments_join (cs s : List Char) :
    segments (cs ++ (if cs.isEmpty || cs.getLast? == some '/' then [] else ['/']) ++ s) =
      trunkOf (segments cs) ++ segments s := by
  rcases List.eq_nil_or_concat cs with rfl | ⟨front, c, hconcat⟩
  · rfl
  · rw [List.concat_eq_append] at hconcat
    subst hconcat
    have hfull : (front ++ [c]).isEmpty = false :=
      List.isEmpty_eq_false_iff.2 (List.append_ne_nil_of_right_ne_nil front (List.cons_ne_nil c []))
    rw [List.getLast?_concat, hfull, Bool.false_or]
    by_cases hc : c = '/'
    · subst hc
      rw [beq_self_eq_true, if_pos rfl, List.append_nil, List.append_assoc, List.singleton_append,
        segments_append_cons, segments_append_cons, segments_of_notMem List.not_mem_nil,
        trunkOf_append_empty]
    · have hlast : segments (front ++ [c]) = trunkOf (segments (front ++ [c])) := by
        refine (eq_trunkOf_or _).resolve_right fun heq => hc ?_
        have htext := unsegment_segments (front ++ [c])
        rw [heq] at htext
        by_cases hnil : trunkOf (segments (front ++ [c])) = []
        · rw [hnil] at htext
          simp [unsegment] at htext
        · rw [unsegment_append hnil (List.cons_ne_nil _ _)] at htext
          exact ((List.cons.inj (List.append_inj' htext rfl).2).1).symm
      rw [if_neg (by simpa using hc), List.append_assoc, List.singleton_append,
        segments_append_cons, ← hlast]

/-- A path ends in a name when its last segment is one. -/
theorem endsInName_iff :
    p.endsInName = true ↔ ∃ s, p.body.getLast? = some s ∧ isNamed s = true := by
  rw [endsInName]
  cases p.body.getLast? <;> simp

/-- The text of a path from where its body starts. -/
def rest (p : Path) : List Char :=
  if p.isAbsolute then p.text.toList.drop 1 else p.text.toList

theorem body_eq (p : Path) : p.body = segments p.rest := by
  rw [body, rest]
  split <;> rfl

/-- The body of a path without the empty segment that follows a slash at the end. -/
def trunk (p : Path) : List (List Char) :=
  trunkOf p.body

/-! ## The path of an entry -/

theorem toList_child_of_relative (h : (ofText name).isAbsolute = false) :
    (p.child name).text.toList = p.text.toList ++
      (if p.text.toList.isEmpty || p.text.toList.getLast? == some '/' then [] else ['/']) ++
        name.toList := by
  have hempty : p.text.isEmpty = p.text.toList.isEmpty := by
    rw [Bool.eq_iff_iff, String.isEmpty_iff, List.isEmpty_iff, String.toList_eq_nil_iff]
  rw [child, text_join h, slash, hempty]
  simp only [String.toList_append, ofText]
  split <;> rfl

theorem isText_child_of_relative (h : (ofText name).isAbsolute = false) :
    (p.child name).isText = p.isText := by
  rw [child, join, h, if_neg Bool.false_ne_true]
  exact Bool.and_true _

theorem isAbsolute_child_of_relative (h : (ofText name).isAbsolute = false) :
    (p.child name).isAbsolute = p.isAbsolute := by
  rw [isAbsolute, toList_child_of_relative h, isAbsolute]
  cases htext : p.text.toList with
  | nil => exact h
  | cons c cs => rfl

theorem rest_child_of_relative (h : (ofText name).isAbsolute = false) : (p.child name).rest =
    p.rest ++ (if p.rest.isEmpty || p.rest.getLast? == some '/' then [] else ['/']) ++
      name.toList := by
  rw [rest, rest, isAbsolute_child_of_relative h, toList_child_of_relative h]
  cases habsolute : p.isAbsolute with
  | false => rfl
  | true =>
    obtain ⟨cs, htext⟩ := List.head?_eq_some_iff.1 (beq_iff_eq.1 habsolute)
    rw [if_pos rfl, if_pos rfl, htext]
    cases cs with
    | nil => rfl
    | cons c cs => rw [List.getLast?_cons_cons]; rfl

/-- A relative text is added to the body. -/
theorem body_child_of_relative (h : (ofText name).isAbsolute = false) :
    (p.child name).body = p.trunk ++ segments name.toList := by
  rw [body_eq, rest_child_of_relative h, segments_join, trunk, body_eq]

theorem toList_child (h : IsName name) : (p.child name).text.toList =
    p.text.toList ++ (if p.text.toList.isEmpty || p.text.toList.getLast? == some '/' then [] else
      ['/']) ++ name.toList :=
  toList_child_of_relative h.isAbsolute_eq_false

theorem isText_child (h : IsName name) : (p.child name).isText = p.isText :=
  isText_child_of_relative h.isAbsolute_eq_false

theorem isAbsolute_child (h : IsName name) : (p.child name).isAbsolute = p.isAbsolute :=
  isAbsolute_child_of_relative h.isAbsolute_eq_false

/-- **The body of the path of an entry is that of its folder and the name.** -/
theorem body_child (h : IsName name) : (p.child name).body = p.trunk ++ [name.toList] := by
  rw [body_child_of_relative h.isAbsolute_eq_false, segments_of_notMem h.no_slash]

theorem trunk_child (h : IsName name) : (p.child name).trunk = p.trunk ++ [name.toList] := by
  rw [trunk, body_child h, trunkOf_append_of_ne h.ne_empty]

/-- The first segment is the same, unless there is none. -/
theorem startsHere_child (h : IsName name) : (p.child name).startsHere = p.startsHere := by
  have hhead : ((p.trunk ++ [name.toList]).head? == some ['.']) = (p.body.head? == some ['.']) := by
    rw [trunk]
    rcases eq_trunkOf_or p.body with hbody | hbody <;> cases htrunk : trunkOf p.body with
    | nil =>
      rw [htrunk] at hbody
      rw [hbody]
      simpa using h.ne_dot
    | cons s ss =>
      rw [htrunk] at hbody
      rw [hbody]
      rfl
  rw [startsHere, startsHere, isAbsolute_child h, body_child h, hhead]

theorem anchor_child (h : IsName name) : (p.child name).anchor = p.anchor := by
  rw [anchor, anchor, isAbsolute_child h, startsHere_child h]

/-! ## What the path of an entry names -/

/-- The component that a name stands for. -/
def Component.ofName (isText : Bool) (name : String) : Component :=
  if !isText && name.toList.contains '\uFFFD' then .stray name.toList else .name name.toList

theorem Component.ofSegment?_toList (h : IsName name) (isText : Bool) :
    ofSegment? isText name.toList = some (ofName isText name) := by
  rw [ofSegment?, h.isNamed, ofName, if_neg (by decide), if_neg h.ne_dots]
  split <;> rfl

theorem Component.ofName_injective (isText : Bool) : Function.Injective (ofName isText) := by
  intro name other h
  rw [ofName, ofName] at h
  split at h <;> split at h
  · exact String.toList_inj.1 (Component.stray.inj h)
  · cases h
  · cases h
  · exact String.toList_inj.1 (Component.name.inj h)

theorem filterMap_trunk {f : List Char → Option Component} (hf : f [] = none) (p : Path) :
    p.trunk.filterMap f = p.body.filterMap f := by
  rw [trunk]
  rcases eq_trunkOf_or p.body with hbody | hbody
  · rw [← hbody]
  · have hfilter := congrArg (List.filterMap f) hbody
    rw [List.filterMap_append, List.filterMap_cons_none hf, List.filterMap_nil, List.append_nil]
      at hfilter
    exact hfilter.symm

/-- **An entry is named by its folder and its name.** -/
theorem components_child (h : IsName name) :
    (p.child name).components = p.components ++ [Component.ofName p.isText name] := by
  rw [components, components, anchor_child h, body_child h, isText_child h, List.filterMap_append,
    filterMap_trunk rfl, List.append_assoc,
    List.filterMap_cons_some (Component.ofSegment?_toList h _), List.filterMap_nil]

end Path
end EmojiLint
