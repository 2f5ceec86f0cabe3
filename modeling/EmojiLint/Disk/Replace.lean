import EmojiLint.Disk.Basic

/-!
# Replacing a file

A file is replaced without ever being half-written: the new content goes to a file of its own in
the same folder, which is then renamed over the old one.  `Disk.replaceSteps` lists the disks that
follow one another on the way, so that one can see what anybody else could see in between.

The new file has the permissions of the old one.  Whatever goes wrong, the file of its own is
removed again.
-/

set_option autoImplicit false

namespace EmojiLint
namespace Disk

/-- The permissions of a file that nobody else should read yet. -/
def privatePermissions : Permissions := 0x180

/-- A name longer than any on the disk, so that it is new in every folder. -/
def freshName (disk : Disk) : String :=
  let longest := disk.entries.foldl (fun n entry => entry.1.foldl (fun n s => max n s.length) n) 0
  String.ofList (".tmp".toList ++ List.replicate longest 'x')

/-- The path of the folder that holds what a path names. -/
def holder (p : Path) : Path :=
  match p.parent? with
  | some parent => if parent.text.isEmpty then .ofText "." else parent
  | none => .ofText "."

/-- Where a path would be renamed to: the folder that holds it and its name there.  A link at the
end of the path is not followed, and after the name no slash may stand. -/
def slot (disk : Disk) (p : Path) : Except OsError (Location × String) :=
  match disk.find (holder p) with
  | .error e => .error e
  | .ok (loc, .folder _) =>
    match pathFault? p with
    | some e => .error e
    | none =>
      match p.name? with
      | some name =>
        if !p.endsInName then .error .notAFolder
        else if nameLimit < name.utf8ByteSize then .error .nameTooLong
        else .ok (loc, name)
      | none => .error .isAFolder
  | .ok _ => .error .notAFolder

/-- What replacing a file leads to: the disks on the way, the last one being what remains, and
whether it worked. -/
structure Replacement where
  between : List Disk
  last : Disk
  result : Except OsError Unit

/-- Replace the entry `name` of the folder at `folder`.  `permissions` are those of the file that a
path led to before, if any. -/
def replaceAt (disk : Disk) (folder : Location) (name : String)
    (permissions : Option Permissions) (content : ByteArray) : Replacement :=
  let temp := folder ++ [disk.freshName]
  let target := folder ++ [name]
  match disk.refusal .createFile temp with
  | some e => ⟨[], disk, .error e⟩
  | none =>
    let created := disk.set temp (.file .empty privatePermissions)
    match disk.refusal .writeFile temp with
    | some e => ⟨[created], created.erase temp, .error e⟩
    | none =>
      let written := created.set temp (.file content privatePermissions)
      match disk.refusal .flushFile temp with
      | some e => ⟨[created, written], written.erase temp, .error e⟩
      | none =>
        let permit : Except OsError Disk :=
          match permissions with
          | none => .ok written
          | some permissions =>
            match disk.refusal .setPermissions temp with
            | some e => .error e
            | none => .ok (written.set temp (.file content permissions))
        match permit with
        | .error e => ⟨[created, written], written.erase temp, .error e⟩
        | .ok permitted =>
          match disk.node? target with
          | some (.folder _) =>
            ⟨[created, written, permitted], permitted.erase temp, .error .isAFolder⟩
          | _ =>
            match disk.refusal .renameFile target with
            | some e => ⟨[created, written, permitted], permitted.erase temp, .error e⟩
            | none =>
              ⟨[created, written, permitted],
                (permitted.erase temp).set target
                  (.file content (permissions.getD privatePermissions)), .ok ()⟩

/-- The permissions of the file or folder that a path leads to. -/
def permissions? (disk : Disk) (p : Path) : Option Permissions :=
  match disk.find p with
  | .ok (_, .file _ permissions) => some permissions
  | .ok (_, .folder permissions) => some permissions
  | _ => none

/-- Replace the file that a path names, step by step. -/
def replaceSteps (disk : Disk) (p : Path) (content : ByteArray) : Replacement :=
  match disk.slot p with
  | .error e => ⟨[], disk, .error e⟩
  | .ok (folder, name) => disk.replaceAt folder name (disk.permissions? p) content

/-- Replace the file that a path names. -/
def replace (disk : Disk) (p : Path) (content : ByteArray) : Except OsError Unit × Disk :=
  let replacement := disk.replaceSteps p content
  (replacement.result, replacement.last)

end Disk
end EmojiLint
