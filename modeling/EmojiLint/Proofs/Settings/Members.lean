import EmojiLint.Proofs.Json.Grammar
import EmojiLint.Proofs.Settings.Print
import EmojiLint.Settings.Editor

/-!
# The members of settings in any order

A member of an editor's value puts one value in its place, so members of different keys may be taken
over in any order, and those that mean nothing may be left out.

* `addMember?_name` — what a member changes.
* `addMember?_comm` — two members with different names.
* `Lacks` — a key that no member had so far.
* `addMembers?_perm` — the members of an object in any order.
* `addMembers?_known` — only those count whose key is known.
-/

set_option autoImplicit false

namespace EmojiLint
namespace Settings

variable {settings settings' : Settings} {draft draft' : Draft} {key key' : Key}
  {name name' : String} {v v' : Json} {ms ms' : List (String × Json)}

/-! ## Names -/

theorem Key.eq_name_of_ofName? (h : Key.ofName? name = some key) : name = key.name := by
  simp only [ofName?] at h
  have hname := List.find?_some h
  exact (beq_iff_eq.1 hname).symm

/-- A member whose key is known. -/
def isKnown (m : String × Json) : Bool :=
  (Key.ofName? m.1).isSome

/-! ## One member -/

/-- Settings that hold a value in the place of a key, if the value fits there. -/
def Key.settings? (v : Json) : Key → Option Settings
  | severity => v.asString?.map fun s => { severity := .ofTextD s }
  | ignoreInComments => v.asBool?.map fun b => { ignore := { comments := b } }
  | ignoreInStrings => v.asBool?.map fun b => { ignore := { strings := b } }
  | ignoreMarkdown => v.asBool?.map fun b => { ignore := { markdown := b } }
  | excludePatterns =>
    (v.asArray?.bind fun vs => vs.mapM Json.asString?).map fun ss => { excludePatterns := ss }

namespace Draft

/-- A member with a known key puts its value in the place of the key. -/
theorem addMember?_name (draft : Draft) (key : Key) (v : Json) :
    draft.addMember? key.name v = (key.settings? v).map fun settings => draft.put settings key := by
  rw [addMember?, ofName?_name]
  cases key with
  | severity | ignoreInComments | ignoreInStrings | ignoreMarkdown =>
    simp only [Key.settings?, put, Option.map_map, Function.comp_def]
  | excludePatterns =>
    simp only [Key.settings?, put, Option.map_eq_bind, Option.bind_assoc, Option.bind_some,
      Function.comp_def, bind, pure]

/-- A member whose key is not known changes nothing. -/
theorem addMember?_of_ofName? (h : Key.ofName? name = none) (v : Json) :
    draft.addMember? name v = some draft := by
  rw [addMember?, h]

theorem put_comm (hne : key ≠ key') :
    (draft.put settings key).put settings' key' = (draft.put settings' key').put settings key := by
  cases key <;> cases key' <;> first | rfl | exact absurd rfl hne

/-- **Members with different names may be taken over in either order.** -/
theorem addMember?_comm (draft : Draft) (hne : name ≠ name') (v v' : Json) :
    ((draft.addMember? name v).bind fun draft => draft.addMember? name' v') =
      (draft.addMember? name' v').bind fun draft => draft.addMember? name v := by
  cases h : Key.ofName? name with
  | none => simp only [addMember?_of_ofName? h, Option.bind_some, Option.bind_fun_some]
  | some key =>
    cases h' : Key.ofName? name' with
    | none => simp only [addMember?_of_ofName? h', Option.bind_some, Option.bind_fun_some]
    | some key' =>
      obtain rfl := Key.eq_name_of_ofName? h
      obtain rfl := Key.eq_name_of_ofName? h'
      have hkey : key ≠ key' := fun heq => hne (congrArg Key.name heq)
      simp only [addMember?_name]
      cases key.settings? v <;> cases key'.settings? v' <;> simp [put_comm hkey]

/-- The values of other keys stay. -/
theorem has_of_addMember? (h : draft.addMember? name v = some draft') (hne : key.name ≠ name) :
    draft'.has key = draft.has key := by
  cases hname : Key.ofName? name with
  | none =>
    rw [addMember?_of_ofName? hname] at h
    rw [Option.some_inj.1 h]
  | some key' =>
    obtain rfl := Key.eq_name_of_ofName? hname
    rw [addMember?_name] at h
    obtain ⟨settings, -, rfl⟩ := Option.map_eq_some_iff.1 h
    exact has_put fun heq => hne (congrArg Key.name heq)

/-- The value that a name stands for is not there yet. -/
def Lacks (draft : Draft) (name : String) : Prop :=
  ∀ key ∈ Key.ofName? name, draft.has key = false

theorem lacks_empty (name : String) : ({} : Draft).Lacks name :=
  fun key _ => has_empty key

theorem Lacks.addMember? (h : draft.Lacks name) (hadd : draft.addMember? name' v = some draft')
    (hne : name ≠ name') : draft'.Lacks name := by
  intro key hkey
  have hname := Key.eq_name_of_ofName? hkey
  rw [has_of_addMember? hadd (hname ▸ hne)]
  exact h key hkey

/-! ## All members -/

/-- Take over members, from the first to the last. -/
def addMembers? (draft : Draft) (ms : List (String × Json)) : Option Draft :=
  ms.foldlM (fun draft m => draft.addMember? m.1 m.2) draft

theorem addMembers?_cons (draft : Draft) (m : String × Json) (ms : List (String × Json)) :
    draft.addMembers? (m :: ms) =
      (draft.addMember? m.1 m.2).bind fun draft => draft.addMembers? ms :=
  List.foldlM_cons

/-- **Members with distinct names may be taken over in any order.** -/
theorem addMembers?_perm (draft : Draft) (h : ms.Perm ms') (hms : Json.Distinct ms) :
    draft.addMembers? ms = draft.addMembers? ms' := by
  induction h generalizing draft with
  | nil => rfl
  | cons m h ih =>
    have hrest := (List.nodup_cons.1 hms).2
    simp only [addMembers?_cons, ih _ hrest]
  | swap m m' ms =>
    have hne : m'.1 ≠ m.1 := fun heq => (List.nodup_cons.1 hms).1 (heq ▸ List.mem_cons_self)
    simp only [addMembers?_cons, ← Option.bind_assoc, addMember?_comm draft hne]
  | trans h _ ih ih' => exact (ih draft hms).trans (ih' draft ((h.map Prod.fst).nodup hms))

/-- **Only members count whose key is known.** -/
theorem addMembers?_known (draft : Draft) (ms : List (String × Json)) :
    draft.addMembers? (ms.filter isKnown) = draft.addMembers? ms := by
  induction ms generalizing draft with
  | nil => rfl
  | cons m ms ih =>
    by_cases hm : isKnown m = true
    · rw [List.filter_cons_of_pos hm]
      simp only [addMembers?_cons, ih]
    · have hnone : Key.ofName? m.1 = none := by simpa [isKnown] using hm
      rw [List.filter_cons_of_neg hm, ih, addMembers?_cons, addMember?_of_ofName? hnone,
        Option.bind_some]

end Draft
end Settings
end EmojiLint
