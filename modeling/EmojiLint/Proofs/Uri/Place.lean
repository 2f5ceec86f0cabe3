import EmojiLint.Proofs.Uri.Authority
import EmojiLint.Proofs.Uri.Path

/-!
# Authorities and paths that are read back

What stands between the scheme and the query of a URI is in normal form, yet reading it again may
change it once more: a drive gets its colon only when it comes first.  From the second time on
nothing changes.  This is shown for the schemes of documents that are checked, `file` and those that
are not well known.

* `IsSettled`, `IsFile` — what was read, outside the well-known schemes and for a file.
* `place?_placeText` — outside the well-known schemes, once is enough.
* `filePlace?_filePlace?` — the place of a file is settled after the second time.
* `isBody_of_isSettled`, `isBody_of_isFile` — neither holds the mark of a query.
-/

set_option autoImplicit false

namespace EmojiLint
namespace Uri

open Percent

variable {c : Char} {cs ds host rest scheme : List Char} {ss : List (List Char)}

/-! ## Characters before the query -/

/-- Characters that stand inside an authority or a path that is divided. -/
def isInner (c : Char) : Bool :=
  !isControl c && c ≠ '#' && c ≠ '?' && c ≠ ' '

theorem isInner_of_inPath (h : inPath c = false) : isInner c = true := by
  rw [inPath, inFragment, Bool.or_eq_false_iff, Bool.or_eq_false_iff] at h
  obtain ⟨⟨hcontrol, hfragment⟩, hpath⟩ := h
  rw [isInner, hcontrol]
  simp at hfragment hpath
  simp [hfragment, hpath]

theorem isInner_of_inUserinfo (h : inUserinfo c = false) : isInner c = true ∧ c ≠ '/' := by
  rw [inUserinfo, Bool.or_eq_false_iff] at h
  refine ⟨isInner_of_inPath h.1, ?_⟩
  rintro rfl
  exact absurd h.2 (by decide)

theorem isInner_of_isClear (h : Host.IsClear c) : isInner c = true ∧ c ≠ '/' ∧ c ≠ '\\' := by
  have hne : ∀ d, Host.isForbidden d = true → ¬ (d = '[' ∨ d = ':' ∨ d = ']') → c ≠ d := by
    rintro d hd hnot rfl
    exact hnot (h.2 hd)
  rw [isInner, h.1]
  refine ⟨?_, hne '/' (by decide) (by decide), hne '\\' (by decide) (by decide)⟩
  simp [hne '#' (by decide) (by decide), hne '?' (by decide) (by decide),
    hne ' ' (by decide) (by decide)]

theorem isInner_of_isDigit (h : c.isDigit = true) : isInner c = true ∧ c ≠ '/' := by
  have hall : ∀ n < 0x80, (Char.ofNat n).isDigit = true →
      isInner (Char.ofNat n) = true ∧ Char.ofNat n ≠ '/' := by decide +kernel
  refine Text.forall_isAscii (P := fun c => c.isDigit = true → isInner c = true ∧ c ≠ '/') hall ?_ h
  exact Text.isAscii_of_isAlphanum (by rw [Char.isAlphanum, h, Bool.or_true])

theorem isInner_of_mem_text {authority : Authority} (h : IsNormal authority)
    (hc : c ∈ authority.text) : isInner c = true ∧ c ≠ '/' := by
  rw [text_eq] at hc
  rcases List.mem_append.1 hc with hc | hc
  · rcases h.user with hnil | ⟨user, password, heq, huser, hpassword, -⟩
    · rw [hnil] at hc
      cases hc
    · have hencode : ∀ text, encode inUserinfo text = text → c ∈ text →
          isInner c = true ∧ c ≠ '/' := fun text htext hmem =>
        isInner_of_inUserinfo (eq_false_of_mem_encode spares_inUserinfo (htext.symm ▸ hmem))
      rw [heq, userText, List.mem_append, List.mem_singleton] at hc
      rcases hc with hc | rfl
      · split at hc
        · exact hencode user huser hc
        · rcases List.mem_append.1 hc with hc | hc
          · exact hencode user huser hc
          · rcases List.mem_cons.1 hc with rfl | hc
            · decide
            · exact hencode password hpassword hc
      · decide
  · rcases List.mem_append.1 hc with hc | hc
    · exact (isInner_of_isClear (Host.isClear_of_plain? h.host hc)).imp id And.left
    · rcases mem_portText hc with rfl | hc
      · decide
      · exact isInner_of_isDigit hc

/-- The characters of a path of tidy segments. -/
theorem isInner_of_mem_slashed (hss : ∀ s ∈ ss, IsTidy s) (hc : c ∈ slashed ss) :
    isInner c = true := by
  obtain ⟨s, hs, hc⟩ := List.mem_flatMap.1 hc
  rcases List.mem_cons.1 hc with rfl | hc
  · decide
  · exact isInner_of_inPath ((hss s hs).clear c hc)

/-! ## Outside the well-known schemes -/

/-- An authority and a path as they are written. -/
def placeText (place : Option Authority × UriPath) : List Char :=
  (match place.1 with
    | none => []
    | some authority => '/' :: '/' :: authority.text) ++
    pathText ⟨[], place.1, place.2, none, none⟩

theorem slashed_cons (s : List Char) (ss : List (List Char)) :
    slashed (s :: ss) = '/' :: (s ++ slashed ss) :=
  rfl

theorem takeWhile_append_slashed (hcs : '/' ∉ cs) (ss : List (List Char)) :
    (cs ++ slashed ss).takeWhile (· ≠ '/') = cs := by
  cases ss with
  | nil =>
    rw [slashed, List.flatMap_nil, List.append_nil]
    exact (span_of_notMem_all hcs).1
  | cons s ss =>
    rw [slashed_cons]
    exact (span_of_notMem hcs _).1

/-- The path after an authority is read back. -/
theorem segments_slashed_of_other (hss : ∀ s ∈ ss, IsTidy s) :
    (if (slashed ss).isEmpty then [] else segments .other (slashed ss)) = ss := by
  cases ss with
  | nil => rfl
  | cons s ss =>
    have hne : (slashed (s :: ss)).isEmpty = false := rfl
    rw [hne, if_neg Bool.false_ne_true,
      segments_slashed .other (List.cons_ne_nil s ss) fun t ht => (hss t ht).slash]
    exact resolve_of_isTidy hss (Or.inl (by decide))

/-- What stands between the scheme and the query of a URI that was read, outside the well-known
schemes.  `isAll` says that there is no query and no fragment. -/
inductive IsSettled (isAll : Bool) : Option Authority × UriPath → Prop
  | named {authority : Authority} {ss : List (List Char)} (hauthority : IsNormal authority)
      (hss : ∀ s ∈ ss, IsTidy s) : IsSettled isAll (some authority, .rooted ss)
  | rooted {ss : List (List Char)} (hne : ss ≠ []) (hss : ∀ s ∈ ss, IsTidy s) :
      IsSettled isAll (none, .rooted ss)
  | plain {text : List Char} (hclear : ∀ c ∈ text, isControl c = false ∧ c ≠ '#' ∧ c ≠ '?')
      (hslash : text.head? ≠ some '/') (hlast : isAll = true → text.getLast? ≠ some ' ') :
      IsSettled isAll (none, .plain text)

variable {body : List Char} {isAll : Bool} {place : Option Authority × UriPath}

theorem isSettled_of_place? (hkind : SchemeKind.ofScheme scheme = .other)
    (hbody : '#' ∉ body ∧ '?' ∉ body) (hlast : isAll = true → body.getLast? ≠ some ' ')
    (h : place? scheme isAll body = some place) : IsSettled isAll place := by
  unfold place? at h
  rw [hkind] at h
  dsimp only at h
  split at h
  · obtain ⟨⟨authority, left⟩, hauthority, h⟩ := Option.bind_eq_some_iff.1 h
    cases h
    refine .named (isNormal_of_authority? hkind hauthority) fun s hs => ?_
    split at hs
    · cases hs
    · exact isTidy_of_mem_segments hs
  · cases h
    exact .rooted (segments_ne_nil .other _) fun s hs => isTidy_of_mem_segments hs
  · rename_i hnoSlashes hnoSlash
    cases h
    refine .plain (fun c hc => ⟨eq_false_of_mem_encode spares_isControl hc, ?_, ?_⟩) ?_ ?_
    · rintro rfl
      exact notMem_encode hbody.1 (by decide) hc
    · rintro rfl
      exact notMem_encode hbody.2 (by decide) hc
    · cases body with
      | nil => exact fun hhead => (nomatch hhead)
      | cons c body =>
        obtain ⟨d, ds, heq, hd⟩ := exists_encode_cons isControl c body
        rw [heq, List.head?_cons, ne_eq, Option.some_inj]
        rintro rfl
        rcases hd with rfl | hd
        · exact hnoSlash body rfl
        · exact absurd hd (by decide)
    · intro hall hblank
      rcases getLast?_encode hblank with hblank | hblank
      · exact hlast hall hblank
      · exact absurd hblank (by decide)

/-- Two slashes announce an authority. -/
theorem place?_slashes (hkind : SchemeKind.ofScheme scheme = .other) {front back : List Char}
    (htake : cs.takeWhile (· ≠ '/') = front) (hdrop : cs.drop front.length = back) :
    place? scheme isAll ('/' :: '/' :: cs) =
      (authority? scheme (isAll && back.isEmpty) front).bind fun parts =>
        some (some parts.1, .rooted
          (if (parts.2 ++ back).isEmpty then [] else segments .other (parts.2 ++ back))) := by
  subst htake hdrop
  unfold place?
  rw [hkind]
  rfl

theorem place?_slash (hkind : SchemeKind.ofScheme scheme = .other) (hcs : cs.head? ≠ some '/') :
    place? scheme isAll ('/' :: cs) = some (none, .rooted (segments .other ('/' :: cs))) := by
  unfold place?
  rw [hkind]
  cases cs with
  | nil => rfl
  | cons c cs =>
    have hc : c ≠ '/' := fun h => hcs (congrArg some h)
    split
    · contradiction
    · contradiction
    · split
      · rename_i heq
        exact absurd (List.cons.inj (List.cons.inj heq).2).1 hc
      · rfl
      · rename_i hnot
        exact absurd rfl (hnot (c :: cs))

theorem place?_plain (hkind : SchemeKind.ofScheme scheme = .other) (hcs : cs.head? ≠ some '/') :
    place? scheme isAll cs = some (none, .plain (encode isControl cs)) := by
  unfold place?
  rw [hkind]
  dsimp only
  split
  · exact absurd rfl hcs
  · exact absurd rfl hcs
  · rfl

/-- **Outside the well-known schemes, what was read once is read back.** -/
theorem place?_placeText (hkind : SchemeKind.ofScheme scheme = .other)
    (h : IsSettled isAll place) : place? scheme isAll (placeText place) = some place := by
  cases h with
  | @named authority ss hauthority hss =>
    have hslash : '/' ∉ authority.text := fun hc => (isInner_of_mem_text hauthority hc).2 rfl
    have htext : placeText (some authority, .rooted ss) =
        '/' :: '/' :: (authority.text ++ slashed ss) := by
      cases ss <;> rfl
    rw [htext, place?_slashes hkind (takeWhile_append_slashed hslash ss) List.drop_left,
      authority?_text hkind hauthority, Option.bind_some, List.nil_append,
      segments_slashed_of_other hss]
  | @rooted ss hne hss =>
    have hslash : ∀ s ∈ ss, '/' ∉ s := fun s hs => (hss s hs).slash
    have hread := segments_slashed .other hne hslash
    rw [resolve_of_isTidy hss (Or.inl (by decide)), List.nil_append] at hread
    match ss with
    | [] => exact absurd rfl hne
    | [[]] =>
      have hempty : ([] : List Char).head? ≠ some '/' := by decide
      rw [← hread]
      exact place?_slash hkind hempty
    | [] :: t :: ss =>
      -- A dot keeps the empty segment from being taken for an authority.
      have htext : placeText (none, .rooted ([] :: t :: ss)) =
          '/' :: '.' :: slashed ([] :: t :: ss) := rfl
      have hdot : segments .other ('/' :: '.' :: slashed ([] :: t :: ss)) = [] :: t :: ss := by
        have hsegments :
            Path.segments (['.'] ++ slashed ([] :: t :: ss)) = ['.'] :: [] :: t :: ss :=
          segments_slashed_tail (List.forall_mem_cons.2 ⟨by decide, hslash⟩)
        have hplain : plainDots ['.'] = ['.'] := by rw [plainDots_cons (by simp), plainDots]
        rw [List.singleton_append] at hsegments
        rw [segments, List.head?_cons, if_pos rfl, List.drop_one, List.tail_cons, hsegments,
          resolve, hplain, if_neg (by decide), if_pos rfl]
        exact resolve_of_isTidy hss (Or.inl (by decide))
      rw [htext, place?_slash hkind (by simp), hdot]
    | (c :: s) :: ss =>
      have htext : placeText (none, .rooted ((c :: s) :: ss)) = slashed ((c :: s) :: ss) := rfl
      have hc : c ≠ '/' := fun h => hslash (c :: s) List.mem_cons_self (h ▸ List.mem_cons_self)
      have hhead : ((c :: s) ++ slashed ss).head? ≠ some '/' := fun h => hc (Option.some_inj.1 h)
      rw [htext, slashed_cons, place?_slash hkind hhead, ← slashed_cons, hread]
  | @plain text hclear hslash hlast =>
    have htext : placeText (none, .plain text) = text := List.nil_append text
    have hencode : encode isControl text = text := encode_of_forall fun c hc => (hclear c hc).1
    rw [htext, place?_plain hkind hslash, hencode]

/-! ## Files -/

/-- What becomes of the path of a file when its host is known. -/
def fileAt (host : List Char) (ss : List (List Char)) : Option Authority × UriPath :=
  (some ⟨[], if host = "localhost".toList || (ss.head?.map isDrive).getD false then [] else host,
    none⟩, .rooted (dropEmpty ss))

theorem filePlace?_slashes (cs : List Char) : filePlace? ('/' :: '/' :: cs) =
    if (cs.takeWhile (· ≠ '/')).isEmpty || isDrive (cs.takeWhile (· ≠ '/')) then
      some (fileAt [] (segments .file cs))
    else
      (Host.domain? (cs.takeWhile (· ≠ '/'))).map fun host =>
        fileAt host (segments .file (cs.drop (cs.takeWhile (· ≠ '/')).length)) :=
  rfl

/-- What stands between the scheme and the query of the URI of a file that was read. -/
inductive IsFile : Option Authority × UriPath → Prop
  | intro {host : List Char} {ss : List (List Char)}
      (hhost : host = [] ∨ ∃ cs, Host.domain? cs = some host) (hne : ss ≠ [])
      (hss : ∀ s ∈ ss, IsTidy s) (hback : ∀ s ∈ ss, '\\' ∉ s) (hfirst : dropEmpty ss = ss) :
      IsFile (some ⟨[], host, none⟩, .rooted ss)

theorem backslash_notMem_of_mem_segments {s : List Char} {kind : SchemeKind} (hcs : '\\' ∉ cs)
    (h : s ∈ segments kind cs) : '\\' ∉ s := by
  have hleft : '\\' ∉ if cs.head? = some '/' then cs.drop 1 else cs := by
    split
    · exact fun hmem => hcs (List.mem_of_mem_drop hmem)
    · exact hcs
  rcases mem_resolve h with h | rfl | ⟨t, ht, -, before, rfl⟩
  · cases h
  · exact List.not_mem_nil
  · have hback : '\\' ∉ t := fun hmem => hleft (Text.mem_of_mem_fields ht hmem)
    rw [place]
    split
    · rw [List.mem_append, List.mem_singleton, not_or]
      exact ⟨fun hmem => hback (List.mem_of_mem_take hmem), by decide⟩
    · exact notMem_encode hback (by decide)

theorem isFile_fileAt (hhost : host = [] ∨ ∃ cs, Host.domain? cs = some host) (hcs : '\\' ∉ cs) :
    IsFile (fileAt host (segments .file cs)) := by
  refine .intro ?_ (dropEmpty_ne_nil (segments_ne_nil .file cs)) (fun s hs => ?_) (fun s hs => ?_)
    (dropEmpty_dropEmpty _)
  · split
    · exact Or.inl rfl
    · exact hhost
  · exact isTidy_of_mem_segments (mem_of_mem_dropEmpty hs)
  · exact backslash_notMem_of_mem_segments hcs (mem_of_mem_dropEmpty hs)

theorem filePlace?_of_head (h : ∀ rest, cs ≠ '/' :: '/' :: rest) :
    filePlace? cs = some (fileAt [] (segments .file cs)) := by
  unfold filePlace?
  split
  · exact absurd rfl (h _)
  · rfl

theorem place?_of_file (hkind : SchemeKind.ofScheme scheme = .file) :
    place? scheme isAll body = filePlace? (Path.forwardSlashes body) := by
  unfold place?
  rw [hkind]

theorem isFile_of_filePlace? (hbody : '\\' ∉ body) (h : filePlace? body = some place) :
    IsFile place := by
  by_cases hslashes : ∃ rest, body = '/' :: '/' :: rest
  · obtain ⟨cs, rfl⟩ := hslashes
    have hcs : '\\' ∉ cs := fun hc => hbody (List.mem_cons_of_mem _ (List.mem_cons_of_mem _ hc))
    rw [filePlace?_slashes] at h
    split at h
    · rw [← Option.some_inj.1 h]
      exact isFile_fileAt (Or.inl rfl) hcs
    · obtain ⟨host, hhost, rfl⟩ := Option.map_eq_some_iff.1 h
      exact isFile_fileAt (Or.inr ⟨_, hhost⟩) fun hc => hcs (List.mem_of_mem_drop hc)
  · rw [filePlace?_of_head fun rest heq => hslashes ⟨rest, heq⟩] at h
    rw [← Option.some_inj.1 h]
    exact isFile_fileAt (Or.inl rfl) hbody

/-- No host is taken for a drive. -/
theorem isDrive_of_domain? (h : Host.domain? cs = some host) : isDrive host = false := by
  refine Bool.eq_false_iff.2 fun hdrive => ?_
  obtain ⟨letter, mark, rfl, halpha⟩ := exists_of_isDrive hdrive
  have hmark : mark = ':' ∨ mark = '|' := by simpa [isDrive, halpha] using hdrive
  rcases Host.domain?_cases h with ⟨address, -, heq⟩ | ⟨n, -, heq⟩ | hname
  · rw [List.cons_append] at heq
    rw [(List.cons.inj heq).1] at halpha
    exact absurd halpha (by decide)
  · have hmem : mark ∈ Host.addressText n := heq ▸ List.mem_cons_of_mem letter List.mem_cons_self
    rcases Host.mem_addressText hmem with hdot | hdigit
    · rcases hmark with rfl | rfl <;> exact absurd hdot (by decide)
    · rcases hmark with rfl | rfl <;> exact absurd hdigit (by decide)
  · rcases hmark with rfl | rfl
    · exact hname.notMem (by decide) (List.mem_cons_of_mem letter List.mem_cons_self)
    · exact hname.notMem (by decide) (List.mem_cons_of_mem letter List.mem_cons_self)

/-- The characters of the host of a file. -/
theorem isInner_of_mem_host (h : host = [] ∨ ∃ cs, Host.domain? cs = some host) (hc : c ∈ host) :
    isInner c = true ∧ c ≠ '/' ∧ c ≠ '\\' := by
  rcases h with rfl | ⟨cs, h⟩
  · cases hc
  · exact isInner_of_isClear (Host.isClear_of_domain? h hc)

theorem placeText_file (host : List Char) (ss : List (List Char)) :
    placeText (some ⟨[], host, none⟩, .rooted ss) = '/' :: '/' :: (host ++ slashed ss) := by
  cases ss <;> simp [placeText, pathText, Authority.text, slashed]

/-- **The next time, a drive gets its colon, and the host is read once more.** -/
theorem filePlace?_placeText (hhost : host = [] ∨ ∃ cs, Host.domain? cs = some host) (hne : ss ≠ [])
    (hss : ∀ s ∈ ss, IsTidy s) :
    filePlace? (placeText (some ⟨[], host, none⟩, .rooted ss)) =
      if host = [] then some (fileAt [] (colon ss))
      else (Host.domain? host).map fun host' => fileAt host' (colon ss) := by
  have hsegments : segments .file (slashed ss) = colon ss := by
    rw [segments_slashed .file hne fun s hs => (hss s hs).slash]
    exact resolve_file_of_isTidy hss
  have hslash : '/' ∉ host := fun hc => (isInner_of_mem_host hhost hc).2.1 rfl
  rw [placeText_file, filePlace?_slashes, takeWhile_append_slashed hslash, List.drop_left,
    hsegments]
  rcases hhost with rfl | ⟨cs, hhost⟩
  · rw [if_pos rfl, List.nil_append, hsegments]
    rfl
  · by_cases hnil : host = []
    · rw [hnil, if_pos rfl, List.nil_append, hsegments]
      rfl
    · rw [isDrive_of_domain? hhost, List.isEmpty_eq_false_iff.2 hnil, if_neg hnil]
      rfl

/-- **What was read as the place of a file twice is read back.** -/
theorem filePlace?_filePlace? {place' : Option Authority × UriPath} (h : IsFile place)
    (hagain : filePlace? (placeText place) = some place') :
    filePlace? (placeText place') = some place' := by
  obtain ⟨hhost, hne, hss, -, hfirst⟩ := h
  rename_i host ss
  have hstill : dropEmpty (colon ss) = colon ss := by
    rw [← hfirst, dropEmpty_colon]
  -- Whatever the host, the path has its colon by now.
  have hthird : ∀ host, (host = [] ∨ ∃ cs, Host.domain? cs = some host) →
      filePlace? (placeText (some ⟨[], host, none⟩, .rooted (colon ss))) =
        if host = [] then some (fileAt [] (colon ss))
        else (Host.domain? host).map fun host' => fileAt host' (colon ss) := by
    intro host hhost
    rw [filePlace?_placeText hhost (colon_ne_nil hne) fun s hs => isTidy_of_mem_colon hss hs,
      colon_colon]
  have hnone : fileAt [] (colon ss) = (some ⟨[], [], none⟩, .rooted (colon ss)) := by
    rw [fileAt, hstill, ite_self]
  have hempty : filePlace? (placeText (some ⟨[], [], none⟩, .rooted (colon ss))) =
      some (some ⟨[], [], none⟩, .rooted (colon ss)) := by
    rw [hthird [] (Or.inl rfl), if_pos rfl, hnone]
  rw [filePlace?_placeText hhost hne hss] at hagain
  split at hagain
  · rw [← Option.some_inj.1 hagain, hnone]
    exact hempty
  · rename_i hnil
    obtain ⟨cs, hhost⟩ := hhost.resolve_left hnil
    obtain ⟨host', hhost', rfl⟩ := Option.map_eq_some_iff.1 hagain
    by_cases hunsaid :
        (host' = "localhost".toList || ((colon ss).head?.map isDrive).getD false) = true
    · rw [fileAt, if_pos hunsaid, hstill]
      exact hempty
    · have hat : fileAt host' (colon ss) = (some ⟨[], host', none⟩, .rooted (colon ss)) := by
        rw [fileAt, if_neg hunsaid, hstill]
      have hstays := Host.domain?_domain? hhost hhost'
      rw [hat, hthird host' (Or.inr ⟨host, hhost'⟩)]
      split
      · rename_i hnil'
        rw [hnone, hnil']
      · rw [hstays, Option.map_some, hat]

/-! ## Characters -/

/-- What can stand between the scheme and the query of a URI.  `isAll` says that there is no query
and no fragment. -/
structure IsBody (isAll : Bool) (body : List Char) : Prop where
  clear : ∀ c ∈ body, isControl c = false ∧ c ≠ '#' ∧ c ≠ '?'
  last : isAll = true → body.getLast? ≠ some ' '

theorem isBody_of_forall (h : ∀ c ∈ body, isInner c = true) : IsBody isAll body := by
  have hclear : ∀ c ∈ body, ((isControl c = false ∧ c ≠ '#') ∧ c ≠ '?') ∧ c ≠ ' ' := by
    simpa [isInner] using h
  exact ⟨fun c hc => and_assoc.1 (hclear c hc).1, fun _ hlast =>
    (hclear ' ' (List.mem_of_getLast? hlast)).2 rfl⟩

theorem isInner_of_mem_append {front back : List Char} (hfront : ∀ c ∈ front, isInner c = true)
    (hback : ∀ c ∈ back, isInner c = true) : ∀ c ∈ front ++ back, isInner c = true :=
  fun c hc => (List.mem_append.1 hc).elim (hfront c) (hback c)

theorem isBody_of_isSettled (h : IsSettled isAll place) : IsBody isAll (placeText place) := by
  have hslashes : ∀ c ∈ ['/', '/'], isInner c = true := List.all_eq_true.1 (by decide)
  have hdot : ∀ c ∈ ['/', '.'], isInner c = true := List.all_eq_true.1 (by decide)
  cases h with
  | @named authority ss hauthority hss =>
    have htext : placeText (some authority, .rooted ss) =
        ['/', '/'] ++ (authority.text ++ slashed ss) := by
      cases ss <;> rfl
    rw [htext]
    refine isBody_of_forall (isInner_of_mem_append hslashes (isInner_of_mem_append ?_ ?_))
    · exact fun c hc => (isInner_of_mem_text hauthority hc).1
    · exact fun c hc => isInner_of_mem_slashed hss hc
  | @rooted ss hne hss =>
    refine isBody_of_forall ?_
    have hslashed : ∀ c ∈ slashed ss, isInner c = true := fun c hc => isInner_of_mem_slashed hss hc
    match ss with
    | [] => exact hslashed
    | [[]] => exact hslashed
    | [] :: t :: ss =>
      have htext : placeText (none, .rooted ([] :: t :: ss)) =
          ['/', '.'] ++ slashed ([] :: t :: ss) := rfl
      rw [htext]
      exact isInner_of_mem_append hdot hslashed
    | (c :: s) :: ss => exact hslashed
  | @plain text hclear hslash hlast => exact ⟨hclear, hlast⟩

theorem isBody_of_isFile (h : IsFile place) : IsBody isAll (placeText place) := by
  obtain ⟨hhost, hne, hss, -, -⟩ := h
  rename_i host ss
  have htext : placeText (some ⟨[], host, none⟩, .rooted ss) =
      ['/', '/'] ++ (host ++ slashed ss) := placeText_file host ss
  rw [htext]
  have hslashes : ∀ c ∈ ['/', '/'], isInner c = true := List.all_eq_true.1 (by decide)
  refine isBody_of_forall (isInner_of_mem_append hslashes (isInner_of_mem_append ?_ ?_))
  · exact fun c hc => (isInner_of_mem_host hhost hc).1
  · exact fun c hc => isInner_of_mem_slashed hss hc

theorem backslash_notMem_placeText (h : IsFile place) : '\\' ∉ placeText place := by
  obtain ⟨hhost, hne, hss, hback, -⟩ := h
  rename_i host ss
  have htext : placeText (some ⟨[], host, none⟩, .rooted ss) =
      ['/', '/'] ++ (host ++ slashed ss) := placeText_file host ss
  rw [htext, List.mem_append, List.mem_append, not_or, not_or]
  refine ⟨by decide, fun hc => (isInner_of_mem_host hhost hc).2.2 rfl, fun hc => ?_⟩
  obtain ⟨s, hs, hc⟩ := List.mem_flatMap.1 hc
  rcases List.mem_cons.1 hc with hc | hc
  · exact absurd hc (by decide)
  · exact hback s hs hc

end Uri
end EmojiLint
