/-!
# Association lists

Documents, pending tasks and the entries of a disk are lists of pairs whose keys are distinct, in
the order in which the keys came.  `Assoc.set` keeps both properties.
-/

set_option autoImplicit false

namespace EmojiLint
namespace Assoc

variable {κ α : Type} [DecidableEq κ]

/-- Replace the value of a key, or add the key at the end. -/
def set (key : κ) (value : α) : List (κ × α) → List (κ × α)
  | [] => [(key, value)]
  | entry :: rest => if entry.1 = key then (key, value) :: rest else entry :: set key value rest

/-- Remove a key. -/
def erase (key : κ) (entries : List (κ × α)) : List (κ × α) :=
  entries.filter fun entry => entry.1 ≠ key

theorem lookup_cons [BEq κ] [LawfulBEq κ] (k other : κ) (v : α) (rest : List (κ × α)) :
    List.lookup other ((k, v) :: rest) = if other = k then some v else rest.lookup other := by
  rw [List.lookup_cons]
  by_cases h : other = k
  · simp [h]
  · have hb : (other == k) = false := by simp [h]
    simp [h, hb]

theorem lookup_set [BEq κ] [LawfulBEq κ] (key other : κ) (value : α) (entries : List (κ × α)) :
    (set key value entries).lookup other
      = if other = key then some value else entries.lookup other := by
  induction entries with
  | nil => simp [set, lookup_cons]
  | cons entry rest ih =>
    obtain ⟨k, v⟩ := entry
    by_cases hk : k = key
    · subst hk
      by_cases h : other = k <;> simp [set, lookup_cons, h]
    · by_cases h : other = k
      · subst h
        simp [set, hk]
      · simp [set, lookup_cons, hk, h, ih]

theorem lookup_erase [BEq κ] [LawfulBEq κ] (key other : κ) (entries : List (κ × α)) :
    (erase key entries).lookup other = if other = key then none else entries.lookup other := by
  induction entries with
  | nil => simp [erase]
  | cons entry rest ih =>
    obtain ⟨k, v⟩ := entry
    unfold erase at ih ⊢
    by_cases hk : k = key
    · subst hk
      by_cases h : other = k
      · subst h
        simpa using ih
      · simpa [lookup_cons, h] using ih
    · by_cases h : other = k
      · subst h
        simp [hk]
      · simpa [lookup_cons, hk, h] using ih

/-- The keys stay when the value of one of them is replaced. -/
theorem map_fst_set {key : κ} {entries : List (κ × α)} (h : key ∈ entries.map Prod.fst)
    (value : α) : (set key value entries).map Prod.fst = entries.map Prod.fst := by
  induction entries with
  | nil => cases h
  | cons entry rest ih =>
    rw [set]
    split
    · next heq => rw [List.map_cons, List.map_cons, heq]
    · next hne =>
      rw [List.map_cons, List.mem_cons] at h
      rw [List.map_cons, List.map_cons, ih (h.resolve_left (Ne.symm hne))]

/-- The last value of a key counts. -/
theorem set_set (key : κ) (value other : α) (entries : List (κ × α)) :
    set key value (set key other entries) = set key value entries := by
  induction entries with
  | nil => simp [set]
  | cons entry rest ih =>
    by_cases h : entry.1 = key
    · simp [set, h]
    · simp [set, h, ih]

/-- A key that comes and goes leaves nothing behind. -/
theorem erase_set {key : κ} {entries : List (κ × α)} (h : key ∉ entries.map Prod.fst) (value : α) :
    erase key (set key value entries) = entries := by
  induction entries with
  | nil => simp [set, erase]
  | cons entry rest ih =>
    rw [List.map_cons, List.mem_cons, not_or] at h
    have hrest := ih h.2
    rw [set, if_neg (Ne.symm h.1), erase, List.filter_cons, if_pos (by simpa using Ne.symm h.1)]
    exact congrArg _ hrest

end Assoc
end EmojiLint
