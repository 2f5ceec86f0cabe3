import EmojiLint.Proofs.Disk.Follow

/-!
# What is written is read back

After a file was written, the path leads to it, whether it was there before or not and whatever
links stand on the way: writing puts a file where a file or nothing was, and nothing else changes.

* `node?_set` — what is stored after something was stored.
* `exists_find_of_write` — where a path leads after a file was written there.
* `read_of_write`, `read_of_write_of_read` — a file that was written has the content that was
  written.
-/

set_option autoImplicit false

namespace EmojiLint
namespace Disk

variable {disk disk' : Disk} {loc other : Location} {node : Node} {p : Path}
  {content : ByteArray} {permissions : Permissions}

theorem node?_nil (disk : Disk) : disk.node? [] = some (.folder folderPermissions) :=
  if_pos rfl

theorem node?_set (hloc : loc ≠ []) :
    (disk.set loc node).node? other = if other = loc then some node else disk.node? other := by
  by_cases hroot : other = []
  · rw [hroot, node?_nil, node?_nil, if_neg hloc.symm]
  · rw [node?, if_neg hroot, set, Assoc.lookup_set, node?, if_neg hroot]

/-- Where nothing or a file is, there is not the root of the disk. -/
theorem ne_nil_of_node? (h : ∀ permissions, disk.node? loc ≠ some (.folder permissions)) :
    loc ≠ [] :=
  fun heq => h folderPermissions (heq ▸ disk.node?_nil)

/-- A file in the place of nothing or of a file is in nobody's way. -/
theorem extends_set_file (hfolder : ∀ permissions, disk.node? loc ≠ some (.folder permissions))
    (hlink : ∀ target, disk.node? loc ≠ some (.link target)) :
    Extends disk (disk.set loc (.file content permissions)) where
  folder other permissions' h := by
    have hne : other ≠ loc := fun heq => hfolder permissions' (heq ▸ h)
    exact ⟨permissions', by rw [node?_set (ne_nil_of_node? hfolder), if_neg hne, h]⟩
  file other content' permissions' h := by
    rw [node?_set (ne_nil_of_node? hfolder)]
    split
    · exact ⟨content, permissions, rfl⟩
    · exact ⟨content', permissions', h⟩
  link other target h := by
    have hne : other ≠ loc := fun heq => hlink target (heq ▸ h)
    rw [node?_set (ne_nil_of_node? hfolder), if_neg hne, h]

/-- A way that leads to nothing ends where nothing is. -/
theorem node?_of_follow_eq_free {creating : Bool} {links : Nat} {start : Location}
    {way : List Hop} (h : disk.follow creating links start way = .ok (.free loc)) :
    disk.node? loc = none := by
  fun_induction follow disk creating links start way with
  | case11 links start rest permissions hfolder s _ hlength hnode hlast =>
    rw [← Spot.free.inj (Except.ok.inj h)]
    exact hnode
  | case6 _ _ _ _ _ ih | case7 _ _ _ _ _ ih | case8 _ _ _ _ _ ih => exact ih h
  | case15 _ _ _ _ _ _ _ _ _ _ _ ih => exact ih h
  | case16 _ _ _ _ _ _ _ _ _ _ _ ih => exact ih h
  | case1 => cases h
  | case2 | case3 | case4 | case5 | case9 | case10 | case12 | case13 | case14 => cases h

/-- A file that is put where a path leads is what the path leads to. -/
theorem find_set {spot : Spot} (hspot : disk.spot true p = .ok spot)
    (hloc : spot = .found loc ∧ (∃ old kept, disk.node? loc = some (.file old kept)) ∨
      spot = .free loc) :
    (disk.set loc (.file content permissions)).find p = .ok (loc, .file content permissions) := by
  have hnode : (∃ old kept, disk.node? loc = some (.file old kept)) ∨ disk.node? loc = none := by
    rw [Disk.spot] at hspot
    split at hspot
    · cases hspot
    · rcases hloc with ⟨-, hfile⟩ | rfl
      · exact Or.inl hfile
      · exact Or.inr (node?_of_follow_eq_free hspot)
  have hfolder : ∀ permissions, disk.node? loc ≠ some (.folder permissions) := by
    rintro permissions h
    rcases hnode with ⟨old, kept, hfile⟩ | hnone
    · rw [hfile] at h; cases h
    · rw [hnone] at h; cases h
  have hlink : ∀ target, disk.node? loc ≠ some (.link target) := by
    rintro target h
    rcases hnode with ⟨old, kept, hfile⟩ | hnone
    · rw [hfile] at h; cases h
    · rw [hnone] at h; cases h
  have hset : (disk.set loc (.file content permissions)).node? loc =
      some (.file content permissions) := by
    rw [node?_set (ne_nil_of_node? hfolder), if_pos rfl]
  have hfollow : (disk.set loc (.file content permissions)).spot false p = .ok (.found loc) := by
    rw [Disk.spot] at hspot ⊢
    cases hfault : pathFault? p with
    | some e => rw [hfault] at hspot; cases hspot
    | none =>
      rw [hfault] at hspot
      obtain ⟨left, hleads⟩ := leads_of_follow (extends_set_file hfolder hlink) hspot
        (hloc.imp And.left fun hfree => ⟨hfree, content, permissions, hset⟩)
      exact follow_of_leads hleads
  rw [find, hfollow]
  simp only [hset]

theorem read_of_find (hfind : disk.find p = .ok (loc, .file content permissions))
    (hreads : disk.refusal .readFile loc = none) : disk.read p = .ok content := by
  rw [read, hfind]
  simp only [hreads]

/-- What a path leads to when a file may be created, it leads to anyway. -/
theorem spot_of_spot_creating (h : disk.spot true p = .ok (.found loc)) :
    disk.spot false p = .ok (.found loc) := by
  rw [spot] at h ⊢
  cases hfault : pathFault? p with
  | some e => rw [hfault] at h; cases h
  | none =>
    rw [hfault] at h
    obtain ⟨left, hleads⟩ := leads_of_follow (Extends.refl disk) h (Or.inl rfl)
    exact follow_of_leads hleads

/-- A path leads to the file that was written, which is new or the file that the path led to. -/
theorem exists_find_of_write (h : disk.write p content = .ok disk') :
    ∃ loc permissions, disk'.find p = .ok (loc, .file content permissions) ∧
      disk'.refusal = disk.refusal ∧
      (disk.node? loc = none ∨ ∃ old, disk.find p = .ok (loc, .file old permissions)) := by
  rw [write] at h
  split at h
  · cases h
  · next loc hspot =>
    split at h
    · cases h
    · obtain rfl := Except.ok.inj h
      refine ⟨loc, filePermissions, find_set hspot (Or.inr rfl), rfl, Or.inl ?_⟩
      rw [spot] at hspot
      split at hspot
      · cases hspot
      · exact node?_of_follow_eq_free hspot
  · next loc hspot =>
    split at h
    · next old permissions hnode =>
      split at h
      · cases h
      · obtain rfl := Except.ok.inj h
        refine ⟨loc, permissions, find_set hspot (Or.inl ⟨rfl, old, permissions, hnode⟩), rfl,
          Or.inr ⟨old, ?_⟩⟩
        rw [find, spot_of_spot_creating hspot]
        simp only [hnode]
    · cases h

/-- **A file that was written has the content that was written.** -/
theorem read_of_write (h : disk.write p content = .ok disk')
    (hreads : ∀ loc, disk.refusal .readFile loc = none) : disk'.read p = .ok content := by
  obtain ⟨loc, permissions, hfind, hrefusal, -⟩ := exists_find_of_write h
  exact read_of_find hfind (hrefusal ▸ hreads loc)

/-- The bytes of a text are read as the text, and no other bytes are. -/
theorem fromUTF8?_eq_some_iff {text : String} :
    String.fromUTF8? content = some text ↔ content = text.toUTF8 := by
  refine ⟨fun h => ?_, ?_⟩
  · rw [String.fromUTF8?] at h
    split at h
    · rw [← Option.some_inj.1 h]
      rfl
    · cases h
  · rintro rfl
    exact dif_pos text.isValidUTF8

/-- Only what is there is refused to be read, and it is not said to be missing. -/
def RefusesOnlyStored (disk : Disk) : Prop :=
  ∀ loc e, disk.refusal .readFile loc = some e → disk.node? loc ≠ none ∧ e ≠ .notFound

/-- **A file that could be read, or was missing, has the content that was written.** -/
theorem read_of_write_of_read (h : disk.write p content = .ok disk')
    (hstored : disk.RefusesOnlyStored)
    (hread : disk.read p = .error .notFound ∨ ∃ old, disk.read p = .ok old) :
    disk'.read p = .ok content := by
  obtain ⟨loc, permissions, hfind, hrefusal, hnew⟩ := exists_find_of_write h
  refine read_of_find hfind ?_
  rw [hrefusal]
  cases hrefused : disk.refusal .readFile loc with
  | none => rfl
  | some e =>
    obtain ⟨hnode, hfound⟩ := hstored loc e hrefused
    rcases hnew with hnone | ⟨old, hold⟩
    · exact absurd hnone hnode
    · have hfails : disk.read p = .error e := by
        rw [read, hold]
        simp only [hrefused]
      rw [hfails] at hread
      rcases hread with hmissing | ⟨old, hok⟩
      · exact absurd (Except.error.inj hmissing) hfound
      · cases hok

end Disk
end EmojiLint
