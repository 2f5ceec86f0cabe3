import EmojiLint.Proofs.Json.Print
import EmojiLint.Proofs.Json.Skipped
import EmojiLint.Proofs.Settings.Members

/-!
# A settings file and an editor's value mean the same

The text of a settings file is read from left to right, and an editor's value member by member.  At
every member of an object the reader of the text takes over what the value says, or fails where the
value does not fit, and passes over the members whose keys mean nothing.  What is left of the text
after a member is where the next one is spelled, so the two readers go on side by side.

* `readValue_of_spells`, `readMember_of_spells` — one member of a text.
* `readMembers_of_spells` — the members of an object.
* `read_of_denotes` — a whole text, in terms of the value that it denotes.
* `readers_agree` — every text that denotes an object gives what the object gives, nested or not,
  in every order of members and whatever members stand between them that mean nothing.
-/

set_option autoImplicit false

namespace EmojiLint
namespace Settings

open Json (Gap Spells SpellsString Denotes Distinct Ends separator)

variable {draft : Draft} {name : String} {cs more rest start : List Char} {v : Json}
  {ms : List (String × Json)} {text : String}

/-! ## One member -/

/-- **The reader of a text takes over the value of a key as the reader of a value does.** -/
theorem Draft.readValue_of_spells (draft : Draft) (key : Key) (hgap : Gap start cs)
    (h : Spells cs (.value v) rest) :
    (draft.readValue key start).toOption =
      (draft.addMember? key.name v).map fun draft => (draft, rest) := by
  rw [Draft.addMember?_name]
  cases key with
  | severity =>
    simp only [readValue, Json.toOption_map, Json.stringValue_of_spells hgap h, Key.settings?, put,
      Option.map_map, Function.comp_def, String.ofList_toList]
  | ignoreInComments | ignoreInStrings | ignoreMarkdown =>
    simp only [readValue, Json.toOption_map, Json.boolValue_of_spells hgap h, Key.settings?, put,
      Option.map_map, Function.comp_def]
  | excludePatterns =>
    simp only [readValue, Json.toOption_map, Json.stringArrayValue_of_spells hgap h, Key.settings?,
      put, Option.map_map, Function.comp_def]

theorem colon_of_gap (h : Gap start (':' :: rest)) : colon start = .ok rest := by
  have hskip : Json.skipSpace start = ':' :: rest := h.skipSpace_cons rfl
  simp only [colon, hskip, if_pos]

/-- A member is taken over with its colon.  The value of an unknown key is passed over. -/
theorem readMember_of_spells (hnew : draft.Lacks name) (hcolon : Gap start (':' :: cs))
    (hgap : Gap cs more) (h : Spells more (.value v) rest) (hends : Ends rest) :
    (readMember draft name start).toOption =
      (draft.addMember? name v).map fun draft => (draft, rest) := by
  cases hname : Key.ofName? name with
  | none =>
    simp only [readMember, hname, colon_of_gap hcolon, Json.skipValue_of_spells hgap h hends,
      Draft.addMember?_of_ofName? hname]
    rfl
  | some key =>
    have hkey := hnew key hname
    rw [Key.eq_name_of_ofName? hname, ← draft.readValue_of_spells key hgap h]
    simp only [readMember, ofName?_name, hkey, colon_of_gap hcolon, if_neg Bool.false_ne_true]

/-! ## The members of an object -/

/-- Where a member is spelled another one follows. -/
theorem moreMembers_of_gap (first : Bool) (hstart : Gap start (separator first ++ cs))
    (hgap : Gap cs ('"' :: rest)) : moreMembers first start = .ok (true, '"' :: rest) := by
  cases first with
  | true =>
    have hskip : Json.skipSpace start = '"' :: rest := (hstart.trans hgap).skipSpace_cons rfl
    simp only [moreMembers, hskip, if_pos]
    rfl
  | false =>
    have hcomma : Json.skipSpace start = ',' :: cs := hstart.skipSpace_cons rfl
    have hskip : Json.skipSpace cs = '"' :: rest := hgap.skipSpace_cons rfl
    simp only [moreMembers, hcomma, hskip, if_pos]
    rfl

theorem readMembers_of_close (first : Bool) (draft : Draft) (h : Gap start ('\x7d' :: rest)) :
    readMembers first draft start = .ok (draft, rest) := by
  have hskip : Json.skipSpace start = '\x7d' :: rest := h.skipSpace_cons rfl
  have hmore : moreMembers first start = .ok (false, rest) := by
    simp only [moreMembers, hskip, if_pos]
  rw [readMembers_eq, hmore]
  rfl

/-- The first member is taken over, and the reader goes on behind it. -/
theorem readMembers_of_member {m : String × Json} (first : Bool) (hnew : draft.Lacks m.1)
    (hstart : Gap start (separator first ++ cs)) (h : Spells cs (.member m) rest)
    (hends : Ends rest) :
    (readMembers first draft start).toOption = (draft.addMember? m.1 m.2).bind fun draft =>
      (readMembers false draft rest).toOption := by
  cases h with
  | @member _ cs₁ cs₂ _ _ _ key v hgap hkey hcolon hspace hvalue =>
    have hname : Json.stringValue ('"' :: cs₁) = .ok (key, cs₂) := Json.readString_of_spells hkey
    rw [readMembers_eq, moreMembers_of_gap first hstart hgap]
    show ((Json.stringValue ('"' :: cs₁)).bind _).toOption = _
    rw [hname]
    show ((readMember draft (String.ofList key) cs₂).bind _).toOption = _
    rw [Json.toOption_bind, readMember_of_spells hnew hcolon hspace hvalue hends, Option.bind_map]
    rfl

/-- **The reader of a text takes over members as the reader of a value does.**  No key is there
twice, so none is refused. -/
theorem readMembers_of_spells (first : Bool) (hms : ms ≠ []) (hdistinct : Distinct ms)
    (hnew : ∀ m ∈ ms, draft.Lacks m.1)
    (hstart : Gap start (separator first ++ cs)) (h : Spells cs (.members ms) rest) :
    (readMembers first draft start).toOption =
      (draft.addMembers? ms).map fun draft => (draft, rest) := by
  induction ms generalizing first draft start cs with
  | nil => exact absurd rfl hms
  | cons m ms ih =>
    obtain ⟨hm, hmore⟩ := List.forall_mem_cons.1 hnew
    cases h with
    | lastMember hmember hend =>
      rw [readMembers_of_member first hm hstart hmember (hend.ends (.inr (.inr rfl))),
        Draft.addMembers?_cons]
      simp only [readMembers_of_close false _ hend]
      cases draft.addMember? m.1 m.2 <;> rfl
    | members hmember hcomma hrest hne =>
      rw [readMembers_of_member first hm hstart hmember (hcomma.ends (.inl rfl)),
        Draft.addMembers?_cons]
      cases hadd : draft.addMember? m.1 m.2 with
      | none => rfl
      | some draft' =>
        obtain ⟨hm', hdistinct'⟩ := List.nodup_cons.1 hdistinct
        have hnew' : ∀ m' ∈ ms, draft'.Lacks m'.1 := by
          intro m' hmem
          have hother : m'.1 ≠ m.1 := fun heq => hm' (heq ▸ List.mem_map_of_mem hmem)
          exact (hmore m' hmem).addMember? hadd hother
        exact ih false hne hdistinct' hnew' hcomma hrest

/-! ## Whole texts -/

theorem ofJson?_object (ms : List (String × Json)) :
    ofJson? (.object ms) = (({} : Draft).addMembers? ms).map Draft.finish :=
  rfl

/-- A text that denotes an object is read as the members of the object, in any order. -/
theorem readEither_of_spells (hgap : Gap start cs) (h : Spells cs (.value (.object ms)) rest) :
    (readEither start).toOption = (({} : Draft).addMembers? ms).map fun draft => (draft, rest) := by
  have hskip := h.skipSpace_eq hgap
  cases h with
  | @object cs _ _ written h hperm hms =>
    have hwritten : Distinct written := (hperm.map Prod.fst).nodup_iff.2 hms
    rw [readEither, hskip, ← Draft.addMembers?_perm _ hperm hwritten]
    simp only [if_pos]
    by_cases hempty : written = []
    · subst hempty
      cases h with
      | noMember hend => rw [readMembers_of_close true _ hend]; rfl
    · exact readMembers_of_spells true hempty hwritten (fun m _ => Draft.lacks_empty m.1) .none h

/-- **A text that denotes an object is read as the object is.** -/
theorem read_of_denotes (h : Denotes text (.object ms)) :
    (read text).toOption = ofJson? (.object ms) := by
  obtain ⟨cs, rest, hgap, hspells, hend⟩ := h
  have hskip : Json.skipSpace rest = [] := hend.skipSpace_eq
  show ((readEither text.toList).bind _).toOption = _
  rw [Json.toOption_bind, readEither_of_spells hgap hspells, ofJson?_object, Option.bind_map,
    Option.map_eq_bind]
  simp only [Function.comp_def, hskip, List.isEmpty_nil, if_pos]
  rfl

/-! ## Values of an editor -/

/-- A value without the key under which editors nest the settings is taken as it is. -/
theorem ofEditor?_object (h : editorSection ∉ ms.map Prod.fst) :
    ofEditor? (.object ms) = ofJson? (.object ms) := by
  have hlookup : ms.lookup editorSection = none :=
    List.lookup_eq_none_iff.2 fun m hm => bne_iff_ne.2 fun heq =>
      h (heq ▸ List.mem_map_of_mem hm)
  rw [ofEditor?, Json.member?, hlookup, Option.getD_none]

/-- Nested under that key, a value is taken instead of what it is nested in. -/
theorem ofEditor?_nested (v : Json) : ofEditor? (.object [(editorSection, v)]) = ofJson? v := by
  rw [ofEditor?, Json.member?, List.lookup_cons_self, Option.getD_some]

/-- Objects whose known members are the same, in whatever order, are read alike. -/
theorem ofJson?_of_known {ms' : List (String × Json)} (hms : Distinct ms)
    (h : (ms.filter isKnown).Perm (ms'.filter isKnown)) :
    ofJson? (.object ms) = ofJson? (.object ms') := by
  have hknown : Distinct (ms.filter isKnown) :=
    hms.sublist (List.filter_sublist.map Prod.fst)
  rw [ofJson?_object, ofJson?_object, ← Draft.addMembers?_known _ ms,
    ← Draft.addMembers?_known _ ms', Draft.addMembers?_perm _ h hknown]

theorem toOption_eq_some_iff {α : Type} {read : Except Json.Fault α} {a : α} :
    read.toOption = some a ↔ read = .ok a := by
  cases read with
  | error fault => exact iff_of_false (fun h => by cases h) (fun h => by cases h)
  | ok b => exact ⟨fun h => congrArg _ (Option.some_inj.1 h), fun h => congrArg _ (Except.ok.inj h)⟩

/-- **A settings file and an editor's value mean the same.**  Whatever text denotes an object, with
its members in any order, space between the pieces and characters escaped or not, gives the settings
that the object gives, and gives none where the object gives none.  The object may be nested under
the key of the editor, and only the members count whose keys are known. -/
theorem readers_agree (hsection : editorSection ∉ ms.map Prod.fst) :
    (∀ text, Denotes text (.object ms) →
      ∀ settings, ofEditor? (.object ms) = some settings ↔ read text = .ok settings) ∧
    ofEditor? (.object [(editorSection, .object ms)]) = ofEditor? (.object ms) ∧
    ∀ ms', editorSection ∉ ms'.map Prod.fst → Distinct ms →
      (ms.filter isKnown).Perm (ms'.filter isKnown) →
      ofEditor? (.object ms) = ofEditor? (.object ms') ∧
      ∀ text text', Denotes text (.object ms) → Denotes text' (.object ms') →
        (read text).toOption = (read text').toOption := by
  have heditor := ofEditor?_object hsection
  refine ⟨fun text h settings => ?_, ?_, fun ms' hsection' hms hknown => ⟨?_, ?_⟩⟩
  · rw [heditor, ← read_of_denotes h, toOption_eq_some_iff]
  · rw [heditor, ofEditor?_nested]
  · rw [heditor, ofEditor?_object hsection', ofJson?_of_known hms hknown]
  · intro text text' h h'
    rw [read_of_denotes h, read_of_denotes h', ofJson?_of_known hms hknown]

/-- Members of which one means nothing. -/
def strangeMembers : List (String × Json) :=
  [("x", .array [.whole (-1), .object []]), ("severity", .string "warn")]

/-- What is printed for these members is read as the one that means something. -/
theorem readers_agree_strangeMembers :
    editorSection ∉ strangeMembers.map Prod.fst ∧
      editorSection ∉ [("severity", Json.string "warn")].map Prod.fst ∧ Distinct strangeMembers ∧
      (strangeMembers.filter isKnown).Perm ([("severity", Json.string "warn")].filter isKnown) ∧
      Denotes (Json.print (.object strangeMembers)) (.object strangeMembers) ∧
      read (Json.print (.object strangeMembers)) = .ok { severity := .warning } ∧
      ofEditor? (.object strangeMembers) = ofEditor? (.object [("severity", .string "warn")]) := by
  have hsection : editorSection ∉ strangeMembers.map Prod.fst := by decide
  have hsection' : editorSection ∉ [("severity", Json.string "warn")].map Prod.fst := by decide
  have hms : Distinct strangeMembers := by unfold Distinct; decide
  have hknown : strangeMembers.filter isKnown = [("severity", Json.string "warn")].filter isKnown :=
    rfl
  have hvalues : ∀ m ∈ strangeMembers, m.2.IsPlain := by
    have helement : (Json.object []).IsPlain := .object List.nodup_nil (List.forall_mem_nil _)
    simp [strangeMembers, Json.IsPlain.string, Json.IsPlain.array, Json.IsPlain.whole, helement]
  have hdenotes := Json.denotes_print (.object hms hvalues)
  obtain ⟨hread, -, halike⟩ := readers_agree hsection
  exact ⟨hsection, hsection', hms, .of_eq hknown, hdenotes, (hread _ hdenotes _).1 (by decide),
    (halike _ hsection' hms (.of_eq hknown)).1⟩

end Settings
end EmojiLint
