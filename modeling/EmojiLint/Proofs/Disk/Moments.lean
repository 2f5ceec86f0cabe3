import EmojiLint.Proofs.Disk.Slot
import Mathlib.Logic.Relation

/-!
# What may be seen while a file is replaced

A file is replaced in small steps, and between any two of them somebody else may look, the machine
may stop, or the system may refuse to go on.  A `Moment` is the disk together with how far the
replacement has come, and `Step` is what may come next: the content is written piece by piece, and
every step may fail instead, whatever the reason.

* `Holds`, `Step.holds` — what is on the disk at each stage, kept by every step.
* `AllOrNothing`, `allOrNothing_of_reaches` — at every moment the path leads to what it led to or to
  all of the new content.
* `isRun_replaceSteps` — `replaceSteps` goes through such moments.
-/

set_option autoImplicit false

namespace EmojiLint
namespace Disk

/-- How far the replacement of a file has come. -/
inductive Stage
  | begun
  /-- The file of its own is there, and some of the content is left to be written. -/
  | filling (temp : Location) (left : ByteArray)
  | flushed (temp : Location)
  | permitted (temp : Location)
  /-- A step has failed, and the file of its own is still there. -/
  | failed (temp : Location) (e : OsError)
  | ended (result : Except OsError Unit)

/-- The file of its own, where it is being prepared. -/
def Stage.temp? : Stage → Option Location
  | filling temp _ => some temp
  | flushed temp => some temp
  | permitted temp => some temp
  | _ => none

/-- A disk on the way, and how far the replacement has come. -/
structure Moment where
  disk : Disk
  stage : Stage

/-- One step of replacing the file that `p` names by `content`. -/
inductive Step (p : Path) (content : ByteArray) : Moment → Moment → Prop
  /-- No file of its own can be created. -/
  | refuse {disk : Disk} {e : OsError} : Step p content ⟨disk, .begun⟩ ⟨disk, .ended (.error e)⟩
  | create {disk : Disk} {folder : Location} {s : String} {permissions : Permissions}
      (hfolder : disk.find (holder p) = .ok (folder, .folder permissions))
      (hfresh : disk.node? (folder ++ [s]) = none) (hname : p.name? ≠ some s) :
      Step p content ⟨disk, .begun⟩
        ⟨disk.set (folder ++ [s]) (.file .empty privatePermissions),
          .filling (folder ++ [s]) content⟩
  /-- Some more of the content is written. -/
  | write {disk : Disk} {temp : Location} {written more left : ByteArray}
      {permissions : Permissions} (hnode : disk.node? temp = some (.file written permissions)) :
      Step p content ⟨disk, .filling temp (more ++ left)⟩
        ⟨disk.set temp (.file (written ++ more) permissions), .filling temp left⟩
  | flush {disk : Disk} {temp : Location} :
      Step p content ⟨disk, .filling temp .empty⟩ ⟨disk, .flushed temp⟩
  /-- The permissions of the old file are copied. -/
  | permit {disk : Disk} {temp : Location} {written : ByteArray}
      {permissions kept : Permissions} (hnode : disk.node? temp = some (.file written permissions))
      (hkept : disk.permissions? p = some kept) :
      Step p content ⟨disk, .flushed temp⟩ ⟨disk.set temp (.file written kept), .permitted temp⟩
  /-- There is no old file. -/
  | skip {disk : Disk} {temp : Location} (hnone : disk.permissions? p = none) :
      Step p content ⟨disk, .flushed temp⟩ ⟨disk, .permitted temp⟩
  | rename {disk : Disk} {temp folder : Location} {name : String} {node : Node}
      (hnode : disk.node? temp = some node) (hslot : disk.slot p = .ok (folder, name))
      (hplain : ∀ permissions, disk.node? (folder ++ [name]) ≠ some (.folder permissions)) :
      Step p content ⟨disk, .permitted temp⟩
        ⟨(disk.erase temp).set (folder ++ [name]) node, .ended (.ok ())⟩
  /-- The next step fails. -/
  | fail {disk : Disk} {stage : Stage} {temp : Location} {e : OsError}
      (htemp : stage.temp? = some temp) : Step p content ⟨disk, stage⟩ ⟨disk, .failed temp e⟩
  | remove {disk : Disk} {temp : Location} {e : OsError} :
      Step p content ⟨disk, .failed temp e⟩ ⟨disk.erase temp, .ended (.error e)⟩

/-- The moments that replacing a file may lead to. -/
def Reaches (disk : Disk) (p : Path) (content : ByteArray) : Moment → Prop :=
  Relation.ReflTransGen (Step p content) ⟨disk, .begun⟩

/-- The permissions that a file has after it was replaced. -/
def keptPermissions (disk : Disk) (p : Path) : Permissions :=
  (disk.permissions? p).getD privatePermissions

/-- A path names a place in a folder, and a file or nothing is there. -/
structure Replaceable (disk : Disk) (p : Path) (target : Location) : Prop where
  slot : ∃ folder name, disk.slot p = .ok (folder, name) ∧ folder ++ [name] = target
  plain : disk.node? target = none ∨
    ∃ content permissions, disk.node? target = some (.file content permissions)

/-- A place where the file of its own may be stored. -/
structure IsSpare (disk : Disk) (target temp : Location) : Prop where
  fresh : disk.node? temp = none
  ne_target : temp ≠ target

variable {disk : Disk} {p : Path} {target temp : Location} {content written : ByteArray}
  {permissions : Permissions} {m m' : Moment}

theorem node?_eq_none_iff {loc : Location} (hloc : loc ≠ []) :
    disk.node? loc = none ↔ loc ∉ disk.entries.map Prod.fst := by
  rw [node?, if_neg hloc, List.lookup_eq_none_iff, List.mem_map]
  refine ⟨fun h hmem => ?_, fun h entry hentry => ?_⟩
  · obtain ⟨entry, hentry, heq⟩ := hmem
    simpa [heq] using h entry hentry
  · exact bne_iff_ne.2 fun heq => h ⟨entry, hentry, heq.symm⟩

namespace IsSpare

variable (h : IsSpare disk target temp)
include h

theorem ne_folder (permissions : Permissions) : disk.node? temp ≠ some (.folder permissions) := by
  simp [h.fresh]

theorem ne_nil : temp ≠ [] :=
  ne_nil_of_node? h.ne_folder

theorem node?_set_self (node : Node) : (disk.set temp node).node? temp = some node := by
  rw [node?_set h.ne_nil, if_pos rfl]

theorem node?_set_of_isSome {loc : Location} (hloc : disk.node? loc ≠ none) (node : Node) :
    (disk.set temp node).node? loc = disk.node? loc := by
  have hne : loc ≠ temp := fun heq => hloc (heq ▸ h.fresh)
  rw [node?_set h.ne_nil, if_neg hne]

theorem node?_set_target (node : Node) :
    (disk.set temp node).node? target = disk.node? target := by
  rw [node?_set h.ne_nil, if_neg h.ne_target.symm]

/-- Nothing is left of the file of its own when it is removed. -/
theorem erase_set_self (node : Node) : (disk.set temp node).erase temp = disk :=
  erase_set ((node?_eq_none_iff h.ne_nil).1 h.fresh) node

theorem extends_set : Extends disk (disk.set temp (.file written permissions)) :=
  extends_set_file h.ne_folder (by simp [h.fresh])

end IsSpare

namespace Replaceable

/-- What is at the place of the path is a file. -/
theorem exists_eq_file (h : Replaceable disk p target) {node : Node}
    (hnode : disk.node? target = some node) :
    ∃ content permissions, node = .file content permissions := by
  rcases h.plain with hnone | ⟨content, kept, hfile⟩
  · rw [hnone] at hnode
    cases hnode
  · exact ⟨content, kept, Option.some_inj.1 (hnode.symm.trans hfile)⟩

theorem ne_folder (h : Replaceable disk p target) (permissions : Permissions) :
    disk.node? target ≠ some (.folder permissions) :=
  fun hnode => nomatch h.exists_eq_file hnode

theorem ne_link (h : Replaceable disk p target) (link : Path) :
    disk.node? target ≠ some (.link link) :=
  fun hnode => nomatch h.exists_eq_file hnode

theorem toOption_find (h : Replaceable disk p target) :
    (disk.find p).toOption = (disk.node? target).map fun node => (target, node) := by
  obtain ⟨folder, name, hslot, rfl⟩ := h.slot
  exact toOption_find_of_slot hslot h.ne_link

/-- The permissions of the file that is there. -/
theorem permissions?_eq (h : Replaceable disk p target) :
    disk.permissions? p = (disk.node? target).bind fun
      | .file _ permissions => some permissions
      | _ => none := by
  have hfind := h.toOption_find
  rw [permissions?]
  cases hpath : disk.find p with
  | error e =>
    rw [hpath] at hfind
    rw [Option.map_eq_none_iff.1 hfind.symm]
    rfl
  | ok found =>
    rw [hpath] at hfind
    obtain ⟨node, hnode, rfl⟩ := Option.map_eq_some_iff.1 hfind.symm
    obtain ⟨content, permissions, rfl⟩ := h.exists_eq_file hnode
    rw [hnode]
    rfl

/-- Another file elsewhere changes nothing of it. -/
theorem set_temp (h : Replaceable disk p target) (htemp : IsSpare disk target temp) :
    Replaceable (disk.set temp (.file written permissions)) p target where
  slot := by
    obtain ⟨folder, name, hslot, htarget⟩ := h.slot
    exact ⟨folder, name, slot_of_extends htemp.extends_set hslot, htarget⟩
  plain := by
    rw [htemp.node?_set_target]
    exact h.plain

/-- **While the file of its own is being prepared, the path leads to what it led to.** -/
theorem toOption_find_set_temp (h : Replaceable disk p target) (htemp : IsSpare disk target temp) :
    ((disk.set temp (.file written permissions)).find p).toOption = (disk.find p).toOption := by
  rw [(h.set_temp htemp).toOption_find, h.toOption_find, htemp.node?_set_target]

theorem permissions?_set_temp (h : Replaceable disk p target) (htemp : IsSpare disk target temp) :
    (disk.set temp (.file written permissions)).permissions? p = disk.permissions? p := by
  rw [(h.set_temp htemp).permissions?_eq, h.permissions?_eq, htemp.node?_set_target]

/-- **After the file was renamed, the path leads to it.** -/
theorem find_set_target (h : Replaceable disk p target) :
    (disk.set target (.file content permissions)).find p =
      .ok (target, .file content permissions) := by
  obtain ⟨folder, name, hslot, rfl⟩ := h.slot
  have hext : Extends disk (disk.set (folder ++ [name]) (.file content permissions)) :=
    extends_set_file h.ne_folder h.ne_link
  refine find_of_slot (slot_of_extends hext hslot) ?_ fun target h => nomatch h
  rw [node?_set (ne_nil_of_node? h.ne_folder), if_pos rfl]

end Replaceable

/-! ## What is on the disk -/

/-- What is on the disk at each stage of replacing a file of `disk`. -/
def Holds (disk : Disk) (p : Path) (target : Location) (content : ByteArray) : Moment → Prop
  | ⟨now, .begun⟩ => now = disk
  | ⟨now, .filling temp left⟩ => IsSpare disk target temp ∧
      ∃ written, now = disk.set temp (.file written privatePermissions) ∧ written ++ left = content
  | ⟨now, .flushed temp⟩ => IsSpare disk target temp ∧
      now = disk.set temp (.file content privatePermissions)
  | ⟨now, .permitted temp⟩ => IsSpare disk target temp ∧
      now = disk.set temp (.file content (disk.keptPermissions p))
  | ⟨now, .failed temp _⟩ => IsSpare disk target temp ∧
      ∃ written permissions, now = disk.set temp (.file written permissions)
  | ⟨now, .ended (.error _)⟩ => now = disk
  | ⟨now, .ended (.ok ())⟩ => now = disk.set target (.file content (disk.keptPermissions p))

/-- A step may fail while the file of its own is there. -/
theorem Holds.fail {now : Disk} {stage : Stage}
    (hm : Holds disk p target content ⟨now, stage⟩) (htemp : stage.temp? = some temp)
    (e : OsError) : Holds disk p target content ⟨now, .failed temp e⟩ := by
  cases stage with
  | filling temp left =>
    cases htemp
    obtain ⟨htemp, written, hnow, -⟩ := hm
    exact ⟨htemp, written, _, hnow⟩
  | flushed temp | permitted temp =>
    cases htemp
    exact ⟨hm.1, _, _, hm.2⟩
  | begun | failed | ended => cases htemp

/-- **What is on the disk at each stage is kept by every step.** -/
theorem Step.holds (htarget : Replaceable disk p target) (h : Step p content m m')
    (hm : Holds disk p target content m) : Holds disk p target content m' := by
  cases h with
  | refuse => exact hm
  | @create now folder s permissions hfolder hfresh hname =>
    obtain rfl : now = disk := hm
    obtain ⟨folder', name, hslot, rfl⟩ := htarget.slot
    refine ⟨⟨hfresh, fun heq => hname ?_⟩, .empty, rfl, ByteArray.empty_append⟩
    obtain ⟨-, hs⟩ := List.append_inj' heq rfl
    rw [(List.cons.inj hs).1]
    exact (slot_eq_ok_iff.1 hslot).2.2.1
  | @write now temp written more left permissions hnode =>
    obtain ⟨htemp, before, rfl, hall⟩ := hm
    rw [htemp.node?_set_self, Option.some_inj] at hnode
    obtain ⟨rfl, rfl⟩ := Node.file.inj hnode
    exact ⟨htemp, before ++ more, set_set .., by rw [ByteArray.append_assoc, hall]⟩
  | flush =>
    obtain ⟨htemp, before, rfl, hall⟩ := hm
    exact ⟨htemp, by rw [← hall, ByteArray.append_empty]⟩
  | @permit now temp written permissions kept hnode hkept =>
    obtain ⟨htemp, rfl⟩ := hm
    rw [htemp.node?_set_self, Option.some_inj] at hnode
    cases hnode
    rw [htarget.permissions?_set_temp htemp] at hkept
    exact ⟨htemp, by rw [set_set, keptPermissions, hkept, Option.getD_some]⟩
  | skip hnone =>
    obtain ⟨htemp, rfl⟩ := hm
    rw [htarget.permissions?_set_temp htemp] at hnone
    exact ⟨htemp, by rw [keptPermissions, hnone, Option.getD_none]⟩
  | rename hnode hslot hplain =>
    obtain ⟨htemp, rfl⟩ := hm
    obtain ⟨folder, name, hslot', rfl⟩ := htarget.slot
    rw [slot_of_extends htemp.extends_set hslot'] at hslot
    cases hslot
    rw [htemp.node?_set_self, Option.some_inj] at hnode
    rw [← hnode, htemp.erase_set_self]
    rfl
  | @fail now stage temp e htemp => exact Holds.fail hm htemp e
  | remove =>
    obtain ⟨htemp, written, permissions, rfl⟩ := hm
    exact htemp.erase_set_self _

/-- What is on the disk at every moment. -/
theorem holds_of_reaches (htarget : Replaceable disk p target) (h : disk.Reaches p content m) :
    Holds disk p target content m := by
  induction h with
  | refl => rfl
  | tail _ hstep ih => exact hstep.holds htarget ih

/-- What is on the disk after an attempt to replace the file at `target`: everything as it was, or
the new content and nothing else that is new. -/
def Outcome (disk : Disk) (p : Path) (target : Location) (content : ByteArray) (now : Disk) :
    Except OsError Unit → Prop
  | .error _ => now = disk
  | .ok () => now.find p = .ok (target, .file content (disk.keptPermissions p)) ∧
      ∀ loc, loc ≠ target → now.node? loc = disk.node? loc

/-- What may be seen at a moment of replacing the file at `target`. -/
structure AllOrNothing (disk : Disk) (p : Path) (target : Location) (content : ByteArray)
    (m : Moment) : Prop where
  /-- The path leads to what it led to, if anything, or to all of the new content. -/
  whole : (m.disk.find p).toOption = (disk.find p).toOption ∨
    m.disk.find p = .ok (target, .file content (disk.keptPermissions p))
  /-- Nothing else that was there has changed. -/
  others : ∀ loc, disk.node? loc ≠ none → loc ≠ target → m.disk.node? loc = disk.node? loc
  outcome : ∀ result, m.stage = .ended result → Outcome disk p target content m.disk result

/-- While the file of its own is being prepared, nothing that was there has changed. -/
theorem allOrNothing_set_temp (htarget : Replaceable disk p target)
    (htemp : IsSpare disk target temp) {stage : Stage} (hstage : ∀ result, stage ≠ .ended result) :
    AllOrNothing disk p target content ⟨disk.set temp (.file written permissions), stage⟩ where
  whole := Or.inl (htarget.toOption_find_set_temp htemp)
  others _ hloc _ := htemp.node?_set_of_isSome hloc _
  outcome result h := absurd h (hstage result)

/-- **A file is replaced in whole or not at all**, wherever the replacement stops. -/
theorem allOrNothing_of_reaches (htarget : Replaceable disk p target)
    (h : disk.Reaches p content m) : AllOrNothing disk p target content m := by
  have hholds := holds_of_reaches htarget h
  obtain ⟨now, stage⟩ := m
  cases stage with
  | begun =>
    obtain rfl : now = disk := hholds
    exact ⟨Or.inl rfl, fun _ _ _ => rfl, nofun⟩
  | filling temp left =>
    obtain ⟨htemp, written, rfl, -⟩ := hholds
    exact allOrNothing_set_temp htarget htemp (by simp)
  | flushed temp | permitted temp =>
    obtain ⟨htemp, rfl⟩ := hholds
    exact allOrNothing_set_temp htarget htemp (by simp)
  | failed temp e =>
    obtain ⟨htemp, written, permissions, rfl⟩ := hholds
    exact allOrNothing_set_temp htarget htemp (by simp)
  | ended result =>
    cases result with
    | error e =>
      obtain rfl : now = disk := hholds
      refine ⟨Or.inl rfl, fun _ _ _ => rfl, fun result h => ?_⟩
      cases h
      rfl
    | ok =>
      obtain rfl : now = disk.set target (.file content (disk.keptPermissions p)) := hholds
      have hothers : ∀ loc, loc ≠ target →
          (disk.set target (.file content (disk.keptPermissions p))).node? loc =
            disk.node? loc := by
        intro loc hloc
        rw [node?_set (ne_nil_of_node? htarget.ne_folder), if_neg hloc]
      refine ⟨Or.inr htarget.find_set_target, fun loc _ => hothers loc, fun result h => ?_⟩
      cases h
      exact ⟨htarget.find_set_target, hothers⟩

/-! ## The steps of the program -/

/-- A replacement goes through moments that may be seen, and ends with its result. -/
structure Replacement.IsRun (r : Replacement) (disk : Disk) (p : Path) (content : ByteArray) :
    Prop where
  between : ∀ now ∈ r.between, ∃ stage, disk.Reaches p content ⟨now, stage⟩
  last : disk.Reaches p content ⟨r.last, .ended r.result⟩

/-- After a step has failed, the file of its own is removed. -/
theorem Reaches.fail {now : Disk} {stage : Stage} (h : disk.Reaches p content ⟨now, stage⟩)
    (htemp : stage.temp? = some temp) (e : OsError) :
    disk.Reaches p content ⟨now.erase temp, .ended (.error e)⟩ :=
  (h.tail (.fail htemp)).tail .remove

/-- The content can be written in one piece. -/
theorem Reaches.write (htemp : IsSpare disk target temp)
    (h : disk.Reaches p content
      ⟨disk.set temp (.file .empty privatePermissions), .filling temp content⟩) :
    disk.Reaches p content
      ⟨disk.set temp (.file content privatePermissions), .filling temp .empty⟩ := by
  have hstep : Step p content
      ⟨disk.set temp (.file .empty privatePermissions), .filling temp (content ++ .empty)⟩
      ⟨(disk.set temp (.file .empty privatePermissions)).set temp
        (.file (.empty ++ content) privatePermissions), .filling temp .empty⟩ :=
    .write (htemp.node?_set_self _)
  rw [ByteArray.append_empty, ByteArray.empty_append, set_set] at hstep
  exact h.tail hstep

/-- The permissions are copied, if there are any. -/
theorem Reaches.permit (htarget : Replaceable disk p target) (htemp : IsSpare disk target temp)
    (h : disk.Reaches p content
      ⟨disk.set temp (.file content privatePermissions), .flushed temp⟩) :
    disk.Reaches p content
      ⟨disk.set temp (.file content (disk.keptPermissions p)), .permitted temp⟩ := by
  have hkept : (disk.set temp (.file content privatePermissions)).permissions? p =
      disk.permissions? p := htarget.permissions?_set_temp htemp
  rw [keptPermissions]
  cases hpermissions : disk.permissions? p with
  | none => exact h.tail (.skip (hkept.trans hpermissions))
  | some kept =>
    have hstep : Step p content ⟨_, .flushed temp⟩ ⟨_, .permitted temp⟩ :=
      .permit (htemp.node?_set_self _) (hkept.trans hpermissions)
    rw [set_set] at hstep
    exact h.tail hstep

section Program

variable {folder : Location} {name : String}

/-- **The name of the file of its own is spare.** -/
theorem isSpare_freshName (hfresh : name ≠ disk.freshName) :
    IsSpare disk (folder ++ [name]) (folder ++ [disk.freshName]) := by
  have hne : folder ++ [disk.freshName] ≠ [] :=
    List.append_ne_nil_of_right_ne_nil folder (List.cons_ne_nil disk.freshName [])
  refine ⟨(node?_eq_none_iff hne).2 (disk.fresh_notMem folder), fun heq => hfresh ?_⟩
  exact (List.cons.inj (List.append_inj' heq rfl).2).1.symm

/-- **Replacing a file is a run**, whatever the system refuses. -/
theorem isRun_replaceAt (htarget : Replaceable disk p (folder ++ [name]))
    (hslot : disk.slot p = .ok (folder, name)) (hfresh : name ≠ disk.freshName)
    (content : ByteArray) :
    (disk.replaceAt folder name (disk.permissions? p) content).IsRun disk p content := by
  have htemp : IsSpare disk (folder ++ [name]) (folder ++ [disk.freshName]) :=
    isSpare_freshName hfresh
  obtain ⟨⟨permissions, hfolder⟩, -, hname, -⟩ := slot_eq_ok_iff.1 hslot
  have hother : p.name? ≠ some disk.freshName := by rwa [hname, ne_eq, Option.some_inj]
  have hcreated : disk.Reaches p content ⟨_, .filling _ content⟩ :=
    .single (.create hfolder htemp.fresh hother)
  have hwritten := hcreated.write htemp
  have hflushed : disk.Reaches p content ⟨_, .flushed _⟩ := hwritten.tail .flush
  have hpermitted := hflushed.permit htarget htemp
  unfold replaceAt
  simp only [set_set]
  split
  · exact ⟨nofun, .single .refuse⟩
  split
  · exact ⟨by simpa using ⟨_, hcreated⟩, hcreated.fail rfl _⟩
  have hsofar : ∀ now ∈ [disk.set (folder ++ [disk.freshName]) (.file .empty privatePermissions),
      disk.set (folder ++ [disk.freshName]) (.file content privatePermissions)],
      ∃ stage, disk.Reaches p content ⟨now, stage⟩ := by
    simpa using ⟨⟨_, hcreated⟩, ⟨_, hwritten⟩⟩
  split
  · exact ⟨hsofar, hwritten.fail rfl _⟩
  split
  · exact ⟨hsofar, hflushed.fail rfl _⟩
  next permitted hpermit =>
  obtain rfl : permitted =
      disk.set (folder ++ [disk.freshName]) (.file content (disk.keptPermissions p)) := by
    rw [keptPermissions]
    cases hkept : disk.permissions? p with
    | none =>
      rw [hkept] at hpermit
      exact (Except.ok.inj hpermit).symm
    | some kept =>
      rw [hkept] at hpermit
      dsimp only at hpermit
      split at hpermit
      · cases hpermit
      · exact (Except.ok.inj hpermit).symm
  have hall := List.forall_mem_append.2 ⟨hsofar, List.forall_mem_singleton.2 ⟨_, hpermitted⟩⟩
  split
  · exact ⟨hall, hpermitted.fail rfl _⟩
  split
  · exact ⟨hall, hpermitted.fail rfl _⟩
  · exact ⟨hall, hpermitted.tail (.rename (htemp.node?_set_self _)
      (slot_of_extends htemp.extends_set hslot) (htarget.set_temp htemp).ne_folder)⟩

end Program

/-- **The steps of the program are a run**, wherever the path leads. -/
theorem isRun_replaceSteps (htarget : Replaceable disk p target)
    (hfresh : p.name? ≠ some disk.freshName) (content : ByteArray) :
    (disk.replaceSteps p content).IsRun disk p content := by
  obtain ⟨folder, name, hslot, rfl⟩ := htarget.slot
  have hname : p.name? = some name := (slot_eq_ok_iff.1 hslot).2.2.1
  rw [hname, ne_eq, Option.some_inj] at hfresh
  delta replaceSteps
  rw [hslot]
  exact isRun_replaceAt htarget hslot hfresh content

end Disk
end EmojiLint
