import EmojiLint.Proofs.Uri.Parts

/-!
# URIs that were read twice are read back

None of the parts of a URI holds a mark that would divide it once more.  So the text of a URI falls
into the parts that it was made of, and all that may change when it is read again is what stands
between the scheme and the query.

* `exists_of_read` — what a text holds that is read.
* `IsRead` — the parts of a URI that was read, and `isRead_of_read`.
* `read_text` — the parts are found again in the text of the URI.
* `readsBack_of_read` — the text that was read as a text in normal form reads back.
-/

set_option autoImplicit false

namespace EmojiLint
namespace Uri

open Percent

variable {c : Char} {cs rest scheme : List Char}

/-! ## The parts of a URI -/

/-- The characters that are escaped in the query of a scheme. -/
def querySet (scheme : List Char) : Char → Bool :=
  if SchemeKind.ofScheme scheme = .other then inQuery else inSpecialQuery

theorem spares_querySet (scheme : List Char) : Spares (querySet scheme) := by
  rw [querySet]
  split
  · exact spares_inQuery
  · exact spares_inSpecialQuery

/-- No control character, no blank and no mark of a fragment stands in a query. -/
theorem of_querySet (h : querySet scheme c = false) :
    isControl c = false ∧ c ≠ ' ' ∧ c ≠ '#' := by
  have hquery : inQuery c = false := by
    rw [querySet] at h
    split at h
    · exact h
    · exact (Bool.or_eq_false_iff.1 h).1
  obtain ⟨hcontrol, hmarks⟩ := Bool.or_eq_false_iff.1 hquery
  simp at hmarks
  exact ⟨hcontrol, hmarks.1, hmarks.2.2.1⟩

/-- Neither control characters nor blanks stand in a fragment. -/
theorem of_inFragment (h : inFragment c = false) : isControl c = false ∧ c ≠ ' ' := by
  obtain ⟨hcontrol, hmarks⟩ := Bool.or_eq_false_iff.1 h
  simp at hmarks
  exact ⟨hcontrol, hmarks.1⟩

/-- Whether nothing comes after the path. -/
def isAll (uri : Uri) : Bool :=
  uri.query.isNone && uri.fragment.isNone

/-- What comes after the scheme and its colon. -/
def afterScheme (uri : Uri) : List Char :=
  placeText (uri.authority, uri.path) ++ announced '?' uri.query ++ announced '#' uri.fragment

theorem toList_text (uri : Uri) : uri.text.toList = uri.scheme ++ ':' :: uri.afterScheme := by
  have hassoc : ∀ scheme authority path query fragment : List Char,
      scheme ++ ':' :: authority ++ path ++ query ++ fragment =
        scheme ++ ':' :: (authority ++ path ++ query ++ fragment) := by
    simp
  rw [text, String.toList_ofList]
  exact hassoc _ _ _ _ _

/-- The parts of a URI that was read. -/
structure IsRead (uri : Uri) : Prop where
  scheme : IsScheme uri.scheme
  body : IsBody uri.isAll (placeText (uri.authority, uri.path))
  query : ∀ query ∈ uri.query, ∀ c ∈ query, querySet uri.scheme c = false
  fragment : ∀ fragment ∈ uri.fragment, ∀ c ∈ fragment, inFragment c = false

variable {uri : Uri}

/-- How a text is read that falls into parts. -/
theorem read_eq {text : String} (hscheme : scheme? (clean text.toList) = some (scheme, rest)) :
    read text =
      let parts := splitAtFirst '#' rest
      let more := splitAtFirst '?' parts.1
      (place? scheme (more.2.isNone && parts.2.isNone) more.1).map fun place =>
        { scheme, authority := place.1, path := place.2
          query := more.2.map (encode (querySet scheme))
          fragment := parts.2.map (encode inFragment) } := by
  unfold read
  rw [hscheme]
  dsimp only
  rw [Option.map_eq_bind]
  rfl

/-- **What a text holds that is read**: a scheme, a text without marks for the place, and a query
and a fragment that get their escapes. -/
theorem exists_of_read {text : String} (h : read text = some uri) :
    IsScheme uri.scheme ∧ ∃ written body query fragment,
      clean text.toList =
        written ++ ':' :: (body ++ announced '?' query ++ announced '#' fragment) ∧
      ('#' ∉ body ∧ '?' ∉ body) ∧
      place? uri.scheme (query.isNone && fragment.isNone) body = some (uri.authority, uri.path) ∧
      uri.query = query.map (encode (querySet uri.scheme)) ∧
      uri.fragment = fragment.map (encode inFragment) := by
  cases hscheme : scheme? (clean text.toList) with
  | none =>
    unfold read at h
    rw [hscheme] at h
    cases h
  | some parts =>
    obtain ⟨scheme, rest⟩ := parts
    obtain ⟨hisScheme, written, hclean⟩ := isScheme_of_scheme? hscheme
    obtain ⟨⟨front, fragment⟩, hfragment⟩ : ∃ parts, splitAtFirst '#' rest = parts := ⟨_, rfl⟩
    obtain ⟨⟨body, query⟩, hquery⟩ : ∃ parts, splitAtFirst '?' front = parts := ⟨_, rfl⟩
    rw [read_eq hscheme, hfragment] at h
    dsimp only at h
    rw [hquery] at h
    obtain ⟨place, hplace, rfl⟩ := Option.map_eq_some_iff.1 h
    obtain ⟨hnoFragment, hrest⟩ := of_splitAtFirst hfragment
    obtain ⟨hnoQuery, hfront⟩ := of_splitAtFirst hquery
    rw [hfront] at hnoFragment hrest
    rw [hrest] at hclean
    exact ⟨hisScheme, written, body, query, fragment, hclean,
      ⟨fun hmem => hnoFragment (List.mem_append_left _ hmem), hnoQuery⟩, hplace, rfl, rfl⟩

theorem isScheme_of_read {text : String} (h : read text = some uri) : IsScheme uri.scheme :=
  (exists_of_read h).1

/-- **The parts of a URI that was read**, in the schemes of documents that are checked. -/
theorem isRead_of_read {text : String} (h : read text = some uri)
    (hkind : SchemeKind.ofScheme uri.scheme ≠ .special) :
    IsRead uri ∧ (SchemeKind.ofScheme uri.scheme = .file → IsFile (uri.authority, uri.path)) ∧
      (SchemeKind.ofScheme uri.scheme = .other →
        IsSettled uri.isAll (uri.authority, uri.path)) := by
  obtain ⟨hscheme, written, body, query, fragment, hclean, hmarks, hplace, hquery, hfragment⟩ :=
    exists_of_read h
  have hisAll : uri.isAll = (query.isNone && fragment.isNone) := by
    rw [isAll, hquery, hfragment, Option.isNone_map, Option.isNone_map]
  rw [← hisAll] at hplace
  -- A text that is all there is ends where the clean text ends.
  have hlast : uri.isAll = true → body.getLast? ≠ some ' ' := by
    intro hall hblank
    rw [hisAll, Bool.and_eq_true, Option.isNone_iff_eq_none, Option.isNone_iff_eq_none] at hall
    obtain ⟨rfl, rfl⟩ := hall
    refine getLast?_clean text.toList ?_
    rw [hclean, announced, announced, List.append_nil, List.append_nil, List.getLast?_append,
      List.getLast?_cons, hblank]
    rfl
  have hsettled : SchemeKind.ofScheme uri.scheme = .other →
      IsSettled uri.isAll (uri.authority, uri.path) :=
    fun hother => isSettled_of_place? hother hmarks hlast hplace
  have hfile : SchemeKind.ofScheme uri.scheme = .file → IsFile (uri.authority, uri.path) := by
    intro hfile
    rw [place?_of_file hfile] at hplace
    exact isFile_of_filePlace? (Path.backslash_notMem_forwardSlashes body) hplace
  refine ⟨⟨hscheme, ?_, fun text htext c hc => ?_, fun text htext c hc => ?_⟩, hfile, hsettled⟩
  · cases hk : SchemeKind.ofScheme uri.scheme with
    | file => exact isBody_of_isFile (hfile hk)
    | special => exact absurd hk hkind
    | other => exact isBody_of_isSettled (hsettled hk)
  · rw [hquery] at htext
    obtain ⟨query, -, rfl⟩ := Option.map_eq_some_iff.1 htext
    exact eq_false_of_mem_encode (spares_querySet uri.scheme) hc
  · rw [hfragment] at htext
    obtain ⟨fragment, -, rfl⟩ := Option.map_eq_some_iff.1 htext
    exact eq_false_of_mem_encode spares_inFragment hc

namespace IsRead

variable (h : IsRead uri)
include h

theorem of_mem_query (hc : c ∈ announced '?' uri.query) :
    isControl c = false ∧ c ≠ ' ' ∧ c ≠ '#' := by
  rcases mem_announced hc with rfl | ⟨text, htext, hc⟩
  · decide
  · exact of_querySet (h.query text htext c hc)

theorem of_mem_fragment (hc : c ∈ announced '#' uri.fragment) :
    isControl c = false ∧ c ≠ ' ' := by
  rcases mem_announced hc with rfl | ⟨text, htext, hc⟩
  · decide
  · exact of_inFragment (h.fragment text htext c hc)

/-- What comes after the scheme does not end in a blank. -/
theorem getLast?_afterScheme : uri.afterScheme.getLast? ≠ some ' ' := by
  rw [afterScheme, List.getLast?_append, List.getLast?_append]
  intro hlast
  cases hfragment : (announced '#' uri.fragment).getLast? with
  | some d =>
    rw [hfragment, Option.some_or, Option.some_inj] at hlast
    exact (h.of_mem_fragment (List.mem_of_getLast? hfragment)).2 hlast
  | none =>
    rw [hfragment, Option.none_or] at hlast
    cases hquery : (announced '?' uri.query).getLast? with
    | some d =>
      rw [hquery, Option.some_or, Option.some_inj] at hlast
      exact (h.of_mem_query (List.mem_of_getLast? hquery)).2.1 hlast
    | none =>
      rw [hquery, Option.none_or] at hlast
      have hall : uri.isAll = true := by
        rw [isAll, eq_none_of_announced hquery, eq_none_of_announced hfragment]
        rfl
      exact h.body.last hall hlast

/-- The text of a URI that was read is clean. -/
theorem clean_text : clean uri.text.toList = uri.text.toList := by
  obtain ⟨c, more, hscheme, halpha⟩ := h.scheme.head
  rw [toList_text]
  refine clean_of_forall (fun c hc => ?_) ?_ ?_
  · simp only [afterScheme, List.mem_append, List.mem_cons] at hc
    rcases hc with hc | rfl | (hc | hc) | hc
    · exact (h.scheme.isControl_eq_false hc).1
    · decide
    · exact (h.body.clear c hc).1
    · exact (h.of_mem_query hc).1
    · exact (h.of_mem_fragment hc).1
  · rw [hscheme, List.cons_append, List.head?_cons, ne_eq, Option.some_inj]
    rintro rfl
    exact absurd halpha (by decide)
  · rw [List.getLast?_append, List.getLast?_cons, Option.some_or, ne_eq, Option.some_inj]
    intro hlast
    cases hafter : uri.afterScheme.getLast? with
    | some d =>
      rw [hafter, Option.getD_some] at hlast
      exact h.getLast?_afterScheme (hlast ▸ hafter)
    | none =>
      rw [hafter, Option.getD_none] at hlast
      exact absurd hlast (by decide)

end IsRead

/-- **The text of a URI that was read falls into its parts again.** -/
theorem read_text (h : IsRead uri) : read uri.text =
    (place? uri.scheme uri.isAll (placeText (uri.authority, uri.path))).map fun place =>
      { uri with authority := place.1, path := place.2 } := by
  have hmark : '#' ∉ placeText (uri.authority, uri.path) ++ announced '?' uri.query := by
    intro hmem
    rcases List.mem_append.1 hmem with hmem | hmem
    · exact (h.body.clear '#' hmem).2.1 rfl
    · exact (h.of_mem_query hmem).2.2 rfl
  have hquery : uri.query.map (encode (querySet uri.scheme)) = uri.query := by
    cases hq : uri.query with
    | none => rfl
    | some text => exact congrArg some (encode_of_forall (h.query text hq))
  have hfragment : uri.fragment.map (encode inFragment) = uri.fragment := by
    cases hf : uri.fragment with
    | none => rfl
    | some text => exact congrArg some (encode_of_forall (h.fragment text hf))
  have hscheme : scheme? (clean uri.text.toList) = some (uri.scheme, uri.afterScheme) := by
    rw [h.clean_text, toList_text, scheme?_append h.scheme]
  rw [read_eq hscheme, afterScheme, splitAtFirst_announced hmark]
  dsimp only
  rw [splitAtFirst_announced fun hmem => (h.body.clear '?' hmem).2.2 rfl]
  dsimp only
  rw [hquery, hfragment]
  rfl

/-! ## Reading twice -/

/-- The scheme of a URI is the one that is read from its text. -/
theorem scheme_of_read_text {uri' : Uri} (hscheme : IsScheme uri.scheme)
    (h : read uri.text = some uri') : uri'.scheme = uri.scheme := by
  have hfront : ∀ c ∈ uri.scheme ++ [':'], 0x20 < c.toNat := by
    intro c hc
    rcases List.mem_append.1 hc with hc | hc
    · obtain ⟨hcontrol, hblank⟩ := hscheme.isControl_eq_false hc
      exact lt_toNat_of_ne hcontrol hblank
    · rw [List.mem_singleton.1 hc]
      decide
  obtain ⟨rest, hclean⟩ := exists_clean_append hfront uri.afterScheme
  rw [List.append_assoc, List.append_assoc, List.singleton_append, List.singleton_append,
    ← toList_text] at hclean
  rw [read_eq (hclean ▸ scheme?_append hscheme rest)] at h
  obtain ⟨place, -, rfl⟩ := Option.map_eq_some_iff.1 h
  rfl

/-- **What was read twice is read back.** -/
theorem read_text_of_read {text : String} {uri' : Uri} (h : read text = some uri)
    (hagain : read uri.text = some uri') (hkind : SchemeKind.ofScheme uri'.scheme ≠ .special) :
    read uri'.text = some uri' := by
  have hscheme := scheme_of_read_text (isScheme_of_read h) hagain
  obtain ⟨hread, hfile, hother⟩ := isRead_of_read h (hscheme ▸ hkind)
  obtain ⟨hread', -, -⟩ := isRead_of_read hagain hkind
  rw [read_text hread] at hagain
  obtain ⟨place, hplace, rfl⟩ := Option.map_eq_some_iff.1 hagain
  have hplace' : place? uri.scheme uri.isAll (placeText place) = some place := by
    cases hk : SchemeKind.ofScheme uri.scheme with
    | special => exact absurd hk hkind
    | other =>
      rw [place?_placeText hk (hother hk)] at hplace
      rw [← Option.some_inj.1 hplace]
      exact place?_placeText hk (hother hk)
    | file =>
      have hback : '\\' ∉ placeText (uri.authority, uri.path) :=
        backslash_notMem_placeText (hfile hk)
      rw [place?_of_file hk, Path.forwardSlashes_of_notMem hback] at hplace
      have hisFile : IsFile place := isFile_of_filePlace? hback hplace
      have hback' : '\\' ∉ placeText place := backslash_notMem_placeText hisFile
      rw [place?_of_file hk, Path.forwardSlashes_of_notMem hback']
      exact filePlace?_filePlace? (hfile hk) hplace
  rw [read_text hread']
  exact congrArg (Option.map _) hplace'

/-- The scheme of a document that is checked. -/
theorem scheme_of_isScannable (hscheme : IsScheme uri.scheme) (h : isScannable uri.text = true) :
    uri.scheme = "file".toList ∨ uri.scheme = "untitled".toList := by
  have hcolon : ':' ∉ uri.scheme := fun hmem => absurd (hscheme.char ':' hmem) (by decide)
  rw [isScannable, Bool.or_eq_true, List.isPrefixOf_iff_prefix, List.isPrefixOf_iff_prefix,
    toList_text] at h
  have hstart : ∀ name : List Char, ':' ∉ name →
      name ++ [':'] <+: uri.scheme ++ ':' :: uri.afterScheme → uri.scheme = name := by
    rintro name hname ⟨rest, heq⟩
    rw [List.append_assoc, List.singleton_append] at heq
    have htake := congrArg (List.takeWhile (· ≠ ':')) heq
    rw [(span_of_notMem hname rest).1, (span_of_notMem hcolon _).1] at htake
    exact htake.symm
  exact h.imp (hstart "file".toList (by decide)) (hstart "untitled".toList (by decide))

/-- **The URI of a document that is checked reads back once it was read twice.** -/
theorem readsBack_of_read {text : String} {uri' : Uri} (h : read text = some uri)
    (hagain : read uri.text = some uri') (hscannable : isScannable uri'.text = true) :
    (read uri'.text).map Uri.text = some uri'.text := by
  have hkind : SchemeKind.ofScheme uri'.scheme ≠ .special := by
    rcases scheme_of_isScannable (isScheme_of_read hagain) hscannable with heq | heq <;>
      rw [heq] <;> decide
  rw [read_text_of_read h hagain hkind]
  rfl

end Uri
end EmojiLint
