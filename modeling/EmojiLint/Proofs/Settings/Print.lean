import EmojiLint.Proofs.Json.Quote
import EmojiLint.Settings.Print

/-!
# Settings read back as they were written

The text of a settings file is read from left to right, and at every key and every element of a list
the reader is left with exactly what the writer put behind it.  So the values are taken over one key
after the other, and nothing is missing in the end.

* `Draft.put` — settings of which one more value is there.
* `readMembers_printMembers` — reading members takes over the values of their keys.
* `read_fileText` — a settings file reads as the settings that were written to it.
-/

set_option autoImplicit false

namespace EmojiLint
namespace Settings

open Json (separator quote)

variable {settings : Settings} {draft : Draft} {key : Key} {keys : List Key} {space : List Char}

/-! ## Values -/

theorem boolValue_printBool (b : Bool) (rest : List Char) :
    Json.boolValue (' ' :: (printBool b ++ rest)) = .ok (b, rest) := by
  cases b <;> rfl

theorem printElements_singleton (s : String) : printElements [s] = "\n    ".toList ++ quote s :=
  rfl

theorem printElements_cons (s : String) {ss : List String} (h : ss ≠ []) :
    printElements (s :: ss) = "\n    ".toList ++ (quote s ++ ',' :: printElements ss) := by
  cases ss with
  | nil => exact absurd rfl h
  | cons t ss =>
    show "\n    ".toList ++ quote s ++ [','] ++ printElements (t :: ss) = _
    rw [List.append_assoc, List.append_assoc, List.singleton_append]

/-- The elements of a list are read up to the bracket that closes it. -/
theorem stringElements_printElements (first : Bool) {ss : List String} (h : ss ≠ [])
    (rest : List Char) :
    Json.stringElements first
        (separator first ++ (printElements ss ++ ("\n  ".toList ++ ']' :: rest))) =
      .ok (ss, ']' :: rest) := by
  have hspace : ∀ c ∈ "\n    ".toList, Json.isSpace c = true := List.all_eq_true.1 rfl
  have hclose : ∀ c ∈ "\n  ".toList, Json.isSpace c = true := List.all_eq_true.1 rfl
  induction ss generalizing first with
  | nil => exact absurd rfl h
  | cons s ss ih =>
    by_cases hss : ss = []
    · rw [hss, printElements_singleton, List.append_assoc, Json.stringElements_quote first hspace,
        Json.stringElements_close false hclose]
      rfl
    · have hrest := ih false hss
      rw [separator, if_neg Bool.false_ne_true, List.singleton_append] at hrest
      rw [printElements_cons s hss, List.append_assoc, List.append_assoc,
        Json.stringElements_quote first hspace, List.cons_append, hrest]
      rfl

theorem stringArrayValue_printStrings (ss : List String) (rest : List Char) :
    Json.stringArrayValue (' ' :: (printStrings ss ++ rest)) = .ok (ss, rest) := by
  have hspace : ∀ c ∈ [' '], Json.isSpace c = true := List.all_eq_true.1 rfl
  have hskip : ∀ cs, Json.skipSpace (' ' :: '[' :: cs) = '[' :: cs := fun cs =>
    (Json.skipSpace_append hspace ('[' :: cs)).trans (Json.skipSpace_cons rfl cs)
  by_cases h : ss = []
  · have helements := Json.stringElements_close true (List.forall_mem_nil _) rest
    have hprint : printStrings [] ++ rest = '[' :: ([] ++ ']' :: rest) := rfl
    rw [h, hprint, Json.stringArrayValue, hskip]
    simp only [if_pos, helements]
    rfl
  · have helements := stringElements_printElements true h rest
    rw [separator, if_pos rfl, List.nil_append] at helements
    have hprint : printStrings ss ++ rest =
        '[' :: (printElements ss ++ ("\n  ".toList ++ ']' :: rest)) := by
      rw [printStrings, if_neg fun hempty => h (List.isEmpty_iff.1 hempty)]
      simp only [List.cons_append, List.append_assoc]
      rfl
    rw [hprint, Json.stringArrayValue, hskip]
    simp only [if_pos, helements]
    rfl

/-! ## Members -/

namespace Draft

/-- Take over the value of a key. -/
def put (settings : Settings) (draft : Draft) : Key → Draft
  | .severity => { draft with severity := some settings.severity }
  | .ignoreInComments => { draft with comments := some settings.ignore.comments }
  | .ignoreInStrings => { draft with strings := some settings.ignore.strings }
  | .ignoreMarkdown => { draft with markdown := some settings.ignore.markdown }
  | .excludePatterns => { draft with excludePatterns := some settings.excludePatterns }

theorem has_empty (key : Key) : ({} : Draft).has key = false := by
  cases key <;> rfl

theorem has_put {other : Key} (h : other ≠ key) :
    (draft.put settings key).has other = draft.has other := by
  cases key <;> cases other <;> first | rfl | exact absurd rfl h

theorem readValue_printValue (settings : Settings) (draft : Draft) (key : Key)
    (rest : List Char) :
    draft.readValue key (' ' :: (settings.printValue key ++ rest)) =
      .ok (draft.put settings key, rest) := by
  cases key with
  | severity =>
    have hspace : ∀ c ∈ [' '], Json.isSpace c = true := List.all_eq_true.1 rfl
    have hvalue := Json.stringValue_quote hspace settings.severity.name rest
    rw [List.singleton_append] at hvalue
    have hname : Severity.ofTextD settings.severity.name = settings.severity := by
      rw [Severity.ofTextD, Severity.ofText?_name, Option.getD_some]
    rw [readValue, printValue, hvalue]
    simp only [Except.map, String.ofList_toList, hname]
    rfl
  | ignoreInComments | ignoreInStrings | ignoreMarkdown =>
    rw [readValue, printValue, boolValue_printBool]
    rfl
  | excludePatterns =>
    rw [readValue, printValue, stringArrayValue_printStrings]
    rfl

/-- All values together are the settings. -/
theorem finish_foldl_put (settings : Settings) :
    (Key.all.foldl (put settings) {}).finish = settings :=
  rfl

end Draft

theorem nodup_all : Key.all.Nodup := by
  decide

theorem ofName?_name (key : Key) : Key.ofName? key.name = some key := by
  cases key <;> decide

theorem readMember_printValue (h : draft.has key = false) (rest : List Char) :
    readMember draft key.name (':' :: ' ' :: (settings.printValue key ++ rest)) =
      .ok (draft.put settings key, rest) := by
  have hcolon : ∀ cs, colon (':' :: cs) = .ok cs := fun _ => rfl
  simp only [readMember, ofName?_name, h, if_neg Bool.false_ne_true, hcolon,
    Draft.readValue_printValue]

theorem moreMembers_quote (first : Bool) (hspace : ∀ c ∈ space, Json.isSpace c = true) (s : String)
    (rest : List Char) :
    moreMembers first (separator first ++ (space ++ (quote s ++ rest))) =
      .ok (true, quote s ++ rest) := by
  have hskip := Json.skipSpace_quote hspace s rest
  rw [Json.quote_append] at hskip ⊢
  cases first with
  | true =>
    rw [separator, if_pos rfl, List.nil_append, moreMembers, hskip]
    rfl
  | false =>
    rw [separator, if_neg Bool.false_ne_true, List.singleton_append, moreMembers,
      Json.skipSpace_cons rfl]
    simp only [hskip]
    rfl

/-- Reading members, one after the other. -/
theorem readMembers_eq (first : Bool) (draft : Draft) (cs : List Char) :
    readMembers first draft cs = (moreMembers first cs).bind fun (more, rest) =>
      if more then (Json.stringValue rest).bind fun (name, rest) =>
        (readMember draft (String.ofList name) rest).bind fun (draft, rest) =>
          readMembers false draft rest
      else .ok (draft, rest) := by
  rw [readMembers]
  split <;> rename_i hmore <;> rw [hmore]
  · rfl
  · rfl
  · split <;> rename_i hname <;> simp only [Except.bind, hname, if_pos]
    split <;> rename_i hmember <;> simp only [hmember]

theorem readMembers_close (first : Bool) (draft : Draft) (rest : List Char) :
    readMembers first draft ('\n' :: '\x7d' :: rest) = .ok (draft, rest) := by
  have hmore : moreMembers first ('\n' :: '\x7d' :: rest) = .ok (false, rest) := rfl
  rw [readMembers_eq, hmore]
  rfl

/-- The first member of an object is taken over, and the reader goes on behind it. -/
theorem readMembers_quote (first : Bool) (hspace : ∀ c ∈ space, Json.isSpace c = true)
    (h : draft.has key = false) (rest : List Char) :
    readMembers first draft (separator first ++ (space ++ (quote key.name ++
        ':' :: ' ' :: (settings.printValue key ++ rest)))) =
      readMembers false (draft.put settings key) rest := by
  have hname := Json.stringValue_quote (List.forall_mem_nil _) key.name
    (':' :: ' ' :: (settings.printValue key ++ rest))
  have hmember : readMember draft key.name (':' :: ' ' :: (settings.printValue key ++ rest)) =
      .ok (draft.put settings key, rest) := readMember_printValue h rest
  rw [List.nil_append] at hname
  rw [readMembers_eq, moreMembers_quote first hspace]
  simp only [Except.bind, if_pos, hname, String.ofList_toList, hmember]

theorem printMembers_singleton (settings : Settings) (key : Key) :
    settings.printMembers [key] =
      "\n  ".toList ++ (quote key.name ++ ':' :: ' ' :: settings.printValue key) := by
  show "\n  ".toList ++ quote key.name ++ ": ".toList ++ settings.printValue key = _
  rw [List.append_assoc, List.append_assoc]
  rfl

theorem printMembers_cons (settings : Settings) (key : Key) (h : keys ≠ []) :
    settings.printMembers (key :: keys) = "\n  ".toList ++ (quote key.name ++
      ':' :: ' ' :: (settings.printValue key ++ ',' :: settings.printMembers keys)) := by
  cases keys with
  | nil => exact absurd rfl h
  | cons other keys =>
    show "\n  ".toList ++ quote key.name ++ ": ".toList ++ settings.printValue key ++ [','] ++
      settings.printMembers (other :: keys) = _
    simp only [List.append_assoc, List.singleton_append]
    rfl

/-- **Reading members takes over the values of their keys.** -/
theorem readMembers_printMembers (first : Bool) (hkeys : keys ≠ []) (hnodup : keys.Nodup)
    (hnew : ∀ key ∈ keys, draft.has key = false) (rest : List Char) :
    readMembers first draft
        (separator first ++ (settings.printMembers keys ++ '\n' :: '\x7d' :: rest)) =
      .ok (keys.foldl (Draft.put settings) draft, rest) := by
  have hspace : ∀ c ∈ "\n  ".toList, Json.isSpace c = true := List.all_eq_true.1 rfl
  induction keys generalizing first draft with
  | nil => exact absurd rfl hkeys
  | cons key keys ih =>
    have hkey := hnew key List.mem_cons_self
    by_cases hmore : keys = []
    · rw [hmore, printMembers_singleton]
      simp only [List.append_assoc, List.cons_append]
      rw [readMembers_quote first hspace hkey, readMembers_close]
      rfl
    · have hrest : ∀ other ∈ keys, (draft.put settings key).has other = false := by
        intro other hother
        have hne : other ≠ key := fun heq => (List.nodup_cons.1 hnodup).1 (heq ▸ hother)
        rw [Draft.has_put hne]
        exact hnew other (List.mem_cons_of_mem _ hother)
      have hnext := ih false hmore (List.nodup_cons.1 hnodup).2 hrest
      rw [separator, if_neg Bool.false_ne_true, List.singleton_append] at hnext
      rw [printMembers_cons settings key hmore]
      simp only [List.append_assoc, List.cons_append]
      rw [readMembers_quote first hspace hkey, hnext, List.foldl_cons]

/-- **A settings file reads as the settings that were written to it.** -/
theorem read_fileText (settings : Settings) : read settings.fileText = .ok settings := by
  have htext : settings.fileText.toList =
      '\x7b' :: (settings.printMembers Key.all ++ '\n' :: '\x7d' :: ['\n']) := by
    rw [fileText, print, String.toList_append, String.toList_ofList]
    simp only [List.cons_append, List.append_assoc]
    rfl
  have hmembers : readMembers true {}
      (settings.printMembers Key.all ++ '\n' :: '\x7d' :: ['\n']) =
        .ok (Key.all.foldl (Draft.put settings) {}, ['\n']) :=
    readMembers_printMembers true (List.cons_ne_nil _ _) nodup_all
      (fun key _ => Draft.has_empty key) ['\n']
  have heither : readEither settings.fileText.toList =
      .ok (Key.all.foldl (Draft.put settings) {}, ['\n']) := by
    rw [htext, readEither, Json.skipSpace_cons rfl]
    simp only [if_pos, hmembers]
  rw [read, heither]
  exact congrArg Except.ok (Draft.finish_foldl_put settings)

end Settings
end EmojiLint
