import EmojiLint.Path.Name

/-!
# The segments of a path

A path is its segments with slashes between them.  What stands before a slash and what stands after
it are divided apart from one another.

* `segments_append_cons` — a slash divides the segments of a path in two.
* `unsegment_segments` — nothing is lost when a path is divided.
* `mem_segments_iff` — where in a path a segment can stand.
* `baseName_append_cons` — the last segment follows the last slash.
* `extension?_eq_some_iff` — the extension follows the last dot of the last segment.
-/

set_option autoImplicit false

namespace EmojiLint
namespace Text

variable {mark : Char} {cs front : List Char}

theorem fields_ne_nil (mark : Char) (cs : List Char) : fields mark cs ≠ [] := by
  cases cs with
  | nil => exact List.cons_ne_nil _ _
  | cons c cs =>
    rw [fields]
    split
    · exact List.cons_ne_nil _ _
    · split <;> exact List.cons_ne_nil _ _

theorem fields_cons_of_ne {c : Char} (hc : c ≠ mark) (cs : List Char) :
    ∃ f fs, fields mark cs = f :: fs ∧ fields mark (c :: cs) = (c :: f) :: fs := by
  obtain ⟨f, fs, h⟩ := List.exists_cons_of_ne_nil (fields_ne_nil mark cs)
  exact ⟨f, fs, h, by rw [fields, if_neg hc, h]⟩

theorem fields_cons_self (mark : Char) (cs : List Char) :
    fields mark (mark :: cs) = [] :: fields mark cs :=
  if_pos rfl

theorem fields_of_notMem (h : mark ∉ cs) : fields mark cs = [cs] := by
  induction cs with
  | nil => rfl
  | cons c cs ih =>
    rw [fields, if_neg (List.ne_of_not_mem_cons h).symm, ih (List.not_mem_of_not_mem_cons h)]

/-- **A mark divides the fields of a text in two.** -/
theorem fields_append_cons (mark : Char) (front cs : List Char) :
    fields mark (front ++ mark :: cs) = fields mark front ++ fields mark cs := by
  induction front with
  | nil => exact fields_cons_self mark cs
  | cons c front ih =>
    by_cases hc : c = mark
    · rw [hc, List.cons_append, fields_cons_self, ih, fields_cons_self, List.cons_append]
    · obtain ⟨f, fs, hfields, hcons⟩ := fields_cons_of_ne hc front
      rw [List.cons_append, fields, if_neg hc, ih, hcons, hfields, List.cons_append,
        List.cons_append]

theorem notMem_of_mem_fields {f : List Char} (h : f ∈ fields mark cs) : mark ∉ f := by
  induction cs generalizing f with
  | nil =>
    rw [List.mem_singleton.1 h]
    exact List.not_mem_nil
  | cons c cs ih =>
    by_cases hc : c = mark
    · rw [hc, fields_cons_self, List.mem_cons] at h
      rcases h with rfl | h
      · exact List.not_mem_nil
      · exact ih h
    · obtain ⟨g, gs, hfields, hcons⟩ := fields_cons_of_ne hc cs
      rw [hcons, List.mem_cons] at h
      rw [hfields] at ih
      rcases h with rfl | h
      · exact List.not_mem_cons_of_ne_of_not_mem (Ne.symm hc) (ih List.mem_cons_self)
      · exact ih (List.mem_cons_of_mem _ h)

theorem mem_of_mem_fields {f : List Char} (h : f ∈ fields mark cs) {c : Char} (hc : c ∈ f) :
    c ∈ cs := by
  induction cs generalizing f with
  | nil =>
    rw [List.mem_singleton.1 h] at hc
    exact hc
  | cons d cs ih =>
    by_cases hd : d = mark
    · rw [hd, fields_cons_self, List.mem_cons] at h
      rcases h with rfl | h
      · cases hc
      · exact List.mem_cons_of_mem d (ih h hc)
    · obtain ⟨g, gs, hfields, hcons⟩ := fields_cons_of_ne hd cs
      rw [hcons, List.mem_cons] at h
      rw [hfields] at ih
      rcases h with rfl | h
      · rcases List.mem_cons.1 hc with rfl | hc
        · exact List.mem_cons_self
        · exact List.mem_cons_of_mem d (ih List.mem_cons_self hc)
      · exact List.mem_cons_of_mem d (ih (List.mem_cons_of_mem _ h) hc)

/-! ## Fields and marks between them -/

section Intersperse

variable {f : List Char} {fs : List (List Char)}

theorem flatten_intersperse_cons (mark : Char) (f : List Char) (hfs : fs ≠ []) :
    ((f :: fs).intersperse [mark]).flatten = f ++ mark :: (fs.intersperse [mark]).flatten := by
  obtain ⟨g, gs, rfl⟩ := List.exists_cons_of_ne_nil hfs
  rw [List.intersperse_cons_cons, List.flatten_cons, List.flatten_cons, List.singleton_append]

/-- **Fields that hold no mark are found again.** -/
theorem fields_flatten_intersperse (hfs : fs ≠ []) (h : ∀ f ∈ fs, mark ∉ f) :
    fields mark (fs.intersperse [mark]).flatten = fs := by
  induction fs with
  | nil => exact absurd rfl hfs
  | cons f fs ih =>
    obtain ⟨hf, hmore⟩ := List.forall_mem_cons.1 h
    by_cases hnil : fs = []
    · rw [hnil, List.intersperse_singleton, List.flatten_singleton, fields_of_notMem hf]
    · rw [flatten_intersperse_cons mark f hnil, fields_append_cons, fields_of_notMem hf,
        ih hnil hmore, List.singleton_append]

/-- **Nothing is lost when a text is divided.** -/
theorem flatten_intersperse_fields (mark : Char) (cs : List Char) :
    ((fields mark cs).intersperse [mark]).flatten = cs := by
  induction cs with
  | nil => rfl
  | cons c cs ih =>
    by_cases hc : c = mark
    · rw [hc, fields_cons_self, flatten_intersperse_cons mark [] (fields_ne_nil mark cs), ih,
        List.nil_append]
    · obtain ⟨f, fs, hfields, hcons⟩ := fields_cons_of_ne hc cs
      rw [hfields] at ih
      rw [hcons, ← ih]
      cases fs with
      | nil => rfl
      | cons g gs =>
        rw [flatten_intersperse_cons mark _ (List.cons_ne_nil g gs),
          flatten_intersperse_cons mark _ (List.cons_ne_nil g gs), List.cons_append]

end Intersperse

end Text

namespace Path

/-! ## Slashes for backslashes -/

section Slashes

variable {cs : List Char}

theorem backslash_notMem_forwardSlashes (cs : List Char) : '\\' ∉ forwardSlashes cs := by
  intro h
  obtain ⟨c, -, hc⟩ := List.mem_map.1 h
  by_cases hback : c = '\\'
  · rw [if_pos hback] at hc
    exact absurd hc (by decide)
  · rw [if_neg hback] at hc
    exact hback hc

theorem forwardSlashes_of_notMem (h : '\\' ∉ cs) : forwardSlashes cs = cs := by
  have hid : cs.map (fun c => if c = '\\' then '/' else c) = cs.map id :=
    List.map_congr_left fun c hc => if_neg fun hback => h (by rwa [hback] at hc)
  rw [forwardSlashes, hid, List.map_id]

theorem forwardSlashes_forwardSlashes (cs : List Char) :
    forwardSlashes (forwardSlashes cs) = forwardSlashes cs :=
  forwardSlashes_of_notMem (backslash_notMem_forwardSlashes cs)

theorem forwardSlashes_append (cs ds : List Char) :
    forwardSlashes (cs ++ ds) = forwardSlashes cs ++ forwardSlashes ds :=
  List.map_append

theorem lineFeed_notMem_forwardSlashes (h : '\n' ∉ cs) : '\n' ∉ forwardSlashes cs := by
  intro hmem
  obtain ⟨c, hc, heq⟩ := List.mem_map.1 hmem
  by_cases hback : c = '\\'
  · rw [if_pos hback] at heq
    exact absurd heq (by decide)
  · rw [if_neg hback] at heq
    exact h (heq ▸ hc)

end Slashes

/-! ## Dividing at slashes -/

variable {s cs front : List Char} {ss tt : List (List Char)}

theorem segments_ne_nil (cs : List Char) : segments cs ≠ [] :=
  Text.fields_ne_nil '/' cs

theorem segments_of_notMem (h : '/' ∉ cs) : segments cs = [cs] :=
  Text.fields_of_notMem h

/-- **A slash divides the segments of a path in two.** -/
theorem segments_append_cons (front cs : List Char) :
    segments (front ++ '/' :: cs) = segments front ++ segments cs :=
  Text.fields_append_cons '/' front cs

theorem slash_notMem_of_mem_segments (h : s ∈ segments cs) : '/' ∉ s :=
  Text.notMem_of_mem_fields h

theorem unsegment_cons (s : List Char) (h : ss ≠ []) :
    unsegment (s :: ss) = s ++ '/' :: unsegment ss := by
  cases ss with
  | nil => exact absurd rfl h
  | cons t ss => rfl

theorem unsegment_append (hss : ss ≠ []) (htt : tt ≠ []) :
    unsegment (ss ++ tt) = unsegment ss ++ '/' :: unsegment tt := by
  induction ss with
  | nil => exact absurd rfl hss
  | cons s ss ih =>
    by_cases h : ss = []
    · rw [h, List.singleton_append, unsegment_cons s htt, unsegment]
    · rw [List.cons_append, unsegment_cons s (List.append_ne_nil_of_left_ne_nil h tt), ih h,
        unsegment_cons s h, List.append_assoc, List.cons_append]

/-- **Nothing is lost when a path is divided.** -/
theorem unsegment_segments (cs : List Char) : unsegment (segments cs) = cs := by
  induction cs with
  | nil => rfl
  | cons c cs ih =>
    by_cases hc : c = '/'
    · rw [hc, ← List.nil_append ('/' :: cs), segments_append_cons,
        unsegment_append (segments_ne_nil []) (segments_ne_nil cs), ih]
      rfl
    · obtain ⟨f, fs, hfields, hcons⟩ := Text.fields_cons_of_ne hc cs
      rw [segments, hfields] at ih
      rw [segments, hcons, ← ih]
      cases fs <;> rfl

/-- **Where in a path a segment can stand**: alone, last, first or in the middle. -/
theorem mem_segments_iff :
    s ∈ segments cs ↔ '/' ∉ s ∧
      (cs = s ∨ (∃ front, cs = front ++ '/' :: s) ∨ (∃ below, cs = s ++ '/' :: below) ∨
        ∃ front below, cs = front ++ '/' :: (s ++ '/' :: below)) := by
  constructor
  · intro h
    refine ⟨slash_notMem_of_mem_segments h, ?_⟩
    obtain ⟨ss, tt, hss⟩ := List.append_of_mem h
    rw [← unsegment_segments cs, hss]
    by_cases hfront : ss = [] <;> by_cases hbelow : tt = []
    · rw [hfront, hbelow]
      exact Or.inl rfl
    · rw [hfront, List.nil_append, unsegment_cons s hbelow]
      exact Or.inr (Or.inr (Or.inl ⟨_, rfl⟩))
    · rw [hbelow, unsegment_append hfront (List.cons_ne_nil s [])]
      exact Or.inr (Or.inl ⟨_, rfl⟩)
    · rw [unsegment_append hfront (List.cons_ne_nil s tt), unsegment_cons s hbelow]
      exact Or.inr (Or.inr (Or.inr ⟨_, _, rfl⟩))
  · rintro ⟨hslash, rfl | ⟨front, rfl⟩ | ⟨below, rfl⟩ | ⟨front, below, rfl⟩⟩ <;>
      simp [segments_append_cons, segments_of_notMem hslash]

/-! ## The last segment -/

theorem baseName_of_notMem (h : '/' ∉ cs) : baseName cs = cs := by
  rw [baseName, segments_of_notMem h]
  rfl

/-- **The last segment follows the last slash.** -/
theorem baseName_append_cons (front : List Char) (h : '/' ∉ s) :
    baseName (front ++ '/' :: s) = s := by
  rw [baseName, segments_append_cons, segments_of_notMem h, List.getLastD_eq_getLast?,
    List.getLast?_concat, Option.getD_some]

/-- A path is its last segment, or ends in a slash and its last segment. -/
theorem eq_baseName_or (cs : List Char) :
    cs = baseName cs ∨ ∃ front, cs = front ++ '/' :: baseName cs := by
  have hlast : (segments cs).dropLast ++ [baseName cs] = segments cs := by
    rw [baseName, List.getLastD_eq_getLast?, List.getLast?_eq_some_getLast (segments_ne_nil cs)]
    exact List.dropLast_concat_getLast (segments_ne_nil cs)
  have hcs := unsegment_segments cs
  rw [← hlast] at hcs
  by_cases hfront : (segments cs).dropLast = []
  · rw [hfront] at hcs
    exact Or.inl hcs.symm
  · rw [unsegment_append hfront (List.cons_ne_nil _ [])] at hcs
    exact Or.inr ⟨_, hcs.symm⟩

theorem baseName_mem_segments (cs : List Char) : baseName cs ∈ segments cs := by
  rw [baseName, List.getLastD_eq_getLast?, List.getLast?_eq_some_getLast (segments_ne_nil cs)]
  exact List.getLast_mem _

theorem slash_notMem_baseName (cs : List Char) : '/' ∉ baseName cs :=
  slash_notMem_of_mem_segments (baseName_mem_segments cs)

theorem mem_of_mem_baseName {c : Char} (h : c ∈ baseName cs) : c ∈ cs :=
  Text.mem_of_mem_fields (baseName_mem_segments cs) h

/-- **The extension follows the last dot of a name**, and something stands on either side of that
dot. -/
theorem extension?_eq_some_iff {extension : List Char} : extension? cs = some extension ↔
    ∃ stem, baseName cs = stem ++ '.' :: extension ∧ stem ≠ [] ∧ extension ≠ [] ∧
      '.' ∉ extension := by
  rw [extension?]
  constructor
  · intro h
    split at h
    · cases h
    next hboth =>
    obtain rfl := Option.some_inj.1 h
    rw [Bool.or_eq_true, List.isEmpty_iff, List.isEmpty_iff, not_or] at hboth
    obtain ⟨hextension, hstem⟩ := hboth
    have hsplit := List.takeWhile_append_dropWhile (p := (· ≠ '.')) (l := (baseName cs).reverse)
    cases hrest : (baseName cs).reverse.dropWhile (· ≠ '.') with
    | nil => rw [hrest] at hstem; exact absurd rfl hstem
    | cons c stem =>
      have hdot : c = '.' := by
        have hhead := List.head?_dropWhile_not (· ≠ '.') (baseName cs).reverse
        rw [hrest] at hhead
        simpa using hhead
      rw [hrest] at hsplit hstem
      have hname := congrArg List.reverse hsplit
      rw [hdot, List.reverse_append, List.reverse_cons, List.append_assoc, List.reverse_reverse]
        at hname
      refine ⟨stem.reverse, hname.symm, ?_, ?_, ?_⟩
      · exact fun hnil => hstem (List.reverse_eq_nil_iff.1 hnil)
      · exact fun hnil => hextension (List.reverse_eq_nil_iff.1 hnil)
      · intro hmem
        have hne := List.all_eq_true.1 List.all_takeWhile _ (List.mem_reverse.1 hmem)
        exact of_decide_eq_true hne rfl
  · rintro ⟨stem, hname, hstem, hextension, hdot⟩
    have hreverse : (baseName cs).reverse = extension.reverse ++ '.' :: stem.reverse := by
      rw [hname, List.reverse_append, List.reverse_cons, List.append_assoc]
      rfl
    have hpos : ∀ c ∈ extension.reverse, decide (c ≠ '.') = true := fun c hc =>
      decide_eq_true fun heq => hdot (heq ▸ List.mem_reverse.1 hc)
    rw [hreverse, List.takeWhile_append_of_pos hpos, List.dropWhile_append_of_pos hpos]
    simp [hstem, hextension]

theorem suffix_baseName_of_extension? {extension : List Char}
    (h : extension? cs = some extension) : '.' :: extension <:+ baseName cs := by
  obtain ⟨stem, hname, -⟩ := extension?_eq_some_iff.1 h
  exact ⟨stem, hname.symm⟩

end Path
end EmojiLint
