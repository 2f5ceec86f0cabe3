import EmojiLint.Assoc
import EmojiLint.Path.Basic

/-!
# The disk

A `Disk` is a value: what is stored where, and what the system refuses to do.  Files, folders and
links are listed by their `Location`, which is the names on the way to them from the root of the
disk.  A path is turned into a location by `Disk.find`, which follows links.

Reading never changes a disk, and writing returns a new one.  A refusal stands for everything that
can go wrong although the path is right, such as missing rights or a full disk.
-/

set_option autoImplicit false

namespace EmojiLint

/-- Why the system did not do what it was asked for. -/
inductive OsError
  | notFound
  | inputOutput
  | permissionDenied
  | notAFolder
  | isAFolder
  | noSpace
  | nameTooLong
  | tooManyLinks
  /-- The system was not even asked, because it ends texts with this byte. -/
  | nulByte
deriving DecidableEq, Repr

namespace OsError

/-- The number of the error, if it is one of the system. -/
def code? : OsError → Option Nat
  | notFound => some 2
  | inputOutput => some 5
  | permissionDenied => some 13
  | notAFolder => some 20
  | isAFolder => some 21
  | noSpace => some 28
  | nameTooLong => some 36
  | tooManyLinks => some 40
  | nulByte => none

/-- The name of the error. -/
def label : OsError → String
  | notFound => "No such file or directory"
  | inputOutput => "Input/output error"
  | permissionDenied => "Permission denied"
  | notAFolder => "Not a directory"
  | isAFolder => "Is a directory"
  | noSpace => "No space left on device"
  | nameTooLong => "File name too long"
  | tooManyLinks => "Too many levels of symbolic links"
  | nulByte => "file name contained an unexpected NUL byte"

/-- What is said of the error. -/
def message (e : OsError) : String :=
  match e.code? with
  | none => e.label
  | some code => e.label ++ " (os error " ++ toString code ++ ")"

end OsError

/-- The names on the way from the root of a disk. -/
abbrev Location := List String

/-- The permission bits of a file or folder. -/
abbrev Permissions := Nat

/-- Contents are compared byte by byte. -/
instance (priority := high) instDecidableEqContent : DecidableEq ByteArray :=
  ByteArray.decEq

/-- What is stored at a location. -/
inductive Node
  | file (content : ByteArray) (permissions : Permissions)
  | folder (permissions : Permissions)
  | link (target : Path)
deriving DecidableEq

/-- What the system can refuse although the path is right. -/
inductive Access
  | readFile
  | listFolder
  | createFile
  | writeFile
  | flushFile
  | setPermissions
  | renameFile
deriving DecidableEq, Repr

structure Disk where
  /-- What is stored, in the order in which folders list it. -/
  entries : List (Location × Node) := []
  /-- What the system refuses. -/
  refusal : Access → Location → Option OsError := fun _ _ => none

namespace Disk

/-- The permissions of a new folder. -/
def folderPermissions : Permissions := 0x1ED

/-- The permissions of a new file. -/
def filePermissions : Permissions := 0x1A4

/-! ## Locations -/

/-- What is stored at a location.  The root is always a folder. -/
def node? (disk : Disk) (loc : Location) : Option Node :=
  if loc = [] then some (.folder folderPermissions) else disk.entries.lookup loc

/-- Store something at a location. -/
def set (disk : Disk) (loc : Location) (node : Node) : Disk :=
  { disk with entries := Assoc.set loc node disk.entries }

/-- Remove what is stored at a location, but nothing below it. -/
def erase (disk : Disk) (loc : Location) : Disk :=
  { disk with entries := Assoc.erase loc disk.entries }

/-- The names in a folder. -/
def names (disk : Disk) (folder : Location) : List String :=
  disk.entries.filterMap fun entry =>
    if entry.1.dropLast = folder then entry.1.getLast? else none

/-! ## Following paths -/

/-- The greatest number of bytes in a name. -/
def nameLimit : Nat := 255

/-- The greatest number of bytes in a path. -/
def pathLimit : Nat := 4095

/-- The number of links that are followed for one path. -/
def linkLimit : Nat := 40

/-- One hop on the way that a path describes. -/
inductive Hop
  /-- To an entry of the folder. -/
  | name (s : String)
  /-- To an entry whose name is no text.  There is none. -/
  | stray
  /-- Nowhere, but only if this is a folder. -/
  | stay
  /-- To the folder above. -/
  | up
  /-- Nowhere, like `stay`.  A slash at the end says that a folder is meant. -/
  | slash
deriving DecidableEq, Repr

def Hop.ofSegment (isText : Bool) (segment : List Char) : Hop :=
  match Path.Component.ofSegment? isText segment with
  | some (.name s) => .name (String.ofList s)
  | some (.stray _) => .stray
  | some .up => .up
  | _ => .stay

/-- The hops of a path. -/
def hops (p : Path) : List Hop :=
  let named := p.body.filter fun segment => !segment.isEmpty
  named.map (Hop.ofSegment p.isText) ++ if p.body.getLast? = some [] then [.slash] else []

/-- Where a path leads. -/
inductive Spot
  /-- To something. -/
  | found (loc : Location)
  /-- To nothing, but its folder is there. -/
  | free (loc : Location)
deriving DecidableEq, Repr

/-- Follow the hops from a location.  At most `links` links are followed.  Where a file may be
created, a slash after its name is refused before anybody looks whether it is there. -/
def follow (disk : Disk) (creating : Bool) (links : Nat) (loc : Location) (way : List Hop) :
    Except OsError Spot :=
  match way with
  | [] => .ok (.found loc)
  | hop :: rest =>
    match disk.node? loc with
    | none => .error .notFound
    | some (.file _ _) => .error .notAFolder
    | some (.link _) => .error .notAFolder
    | some (.folder _) =>
      match hop with
      | .stray => .error .notFound
      | .stay => follow disk creating links loc rest
      | .slash => follow disk creating links loc rest
      | .up => follow disk creating links loc.dropLast rest
      | .name s =>
        if creating ∧ rest = [.slash] then .error .isAFolder
        else if nameLimit < s.utf8ByteSize then .error .nameTooLong
        else
          match disk.node? (loc ++ [s]) with
          | none => if rest.isEmpty then .ok (.free (loc ++ [s])) else .error .notFound
          | some (.link target) =>
            match links with
            | 0 => .error .tooManyLinks
            | links + 1 =>
              if target.text.isEmpty then .error .notFound
              else
                follow disk creating links (if target.isAbsolute then [] else loc)
                  (hops target ++ rest)
          | some _ => follow disk creating links (loc ++ [s]) rest
termination_by (links, way.length)

/-- What is wrong with a path wherever it may lead. -/
def pathFault? (p : Path) : Option OsError :=
  if p.text.toList.contains '\x00' then some .nulByte
  else if p.text.isEmpty then some .notFound
  else if pathLimit < p.text.utf8ByteSize then some .nameTooLong
  else none

/-- Where a path leads, seen from the root of the disk. -/
def spot (disk : Disk) (creating : Bool) (p : Path) : Except OsError Spot :=
  match pathFault? p with
  | some e => .error e
  | none => disk.follow creating linkLimit [] (hops p)

/-- The location of what a path leads to, and what is stored there. -/
def find (disk : Disk) (p : Path) : Except OsError (Location × Node) :=
  match disk.spot false p with
  | .error e => .error e
  | .ok (.free _) => .error .notFound
  | .ok (.found loc) =>
    match disk.node? loc with
    | some node => .ok (loc, node)
    | none => .error .notFound

/-! ## Asking -/

/-- Whether a path leads to anything. -/
def exists? (disk : Disk) (p : Path) : Bool :=
  match disk.find p with
  | .ok _ => true
  | .error _ => false

def isFolder (disk : Disk) (p : Path) : Bool :=
  match disk.find p with
  | .ok (_, .folder _) => true
  | _ => false

def isFile (disk : Disk) (p : Path) : Bool :=
  match disk.find p with
  | .ok (_, .file _ _) => true
  | _ => false

/-- The content of a file. -/
def read (disk : Disk) (p : Path) : Except OsError ByteArray :=
  match disk.find p with
  | .error e => .error e
  | .ok (loc, .file content _) =>
    match disk.refusal .readFile loc with
    | some e => .error e
    | none => .ok content
  | .ok _ => .error .isAFolder

/-- The names in a folder. -/
def list (disk : Disk) (p : Path) : Except OsError (List String) :=
  match disk.find p with
  | .error e => .error e
  | .ok (loc, .folder _) =>
    match disk.refusal .listFolder loc with
    | some e => .error e
    | none => .ok (disk.names loc)
  | .ok _ => .error .notAFolder

/-- The greatest number of names on the way to anything. -/
def depth (disk : Disk) : Nat :=
  disk.entries.foldl (fun n entry => max n entry.1.length) 0

/-! ## Writing in place -/

/-- Write a file in place: its permissions stay.  A file that is missing is created if its folder
is there. -/
def write (disk : Disk) (p : Path) (content : ByteArray) : Except OsError Disk :=
  match disk.spot true p with
  | .error e => .error e
  | .ok (.free loc) =>
    match disk.refusal .createFile loc with
    | some e => .error e
    | none => .ok (disk.set loc (.file content filePermissions))
  | .ok (.found loc) =>
    match disk.node? loc with
    | some (.file _ permissions) =>
      match disk.refusal .writeFile loc with
      | some e => .error e
      | none => .ok (disk.set loc (.file content permissions))
    | _ => .error .isAFolder

end Disk
end EmojiLint
