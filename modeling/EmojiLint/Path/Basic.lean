import EmojiLint.Text.Fields

/-!
# Paths

A path is a text whose segments are separated by slashes.  What it names is told by its
`components`: repeated slashes, slashes at the end and single dots do not count, except that a dot
at the very start of a relative path does.  Two dots are kept, since they mean nothing certain
before the disk is asked.

A path can hold bytes that are no text.  They are shown as the replacement character, but a name
with such bytes is not the name that is shown.

* `components` and `Same` — what a path names, and when two paths name the same.
* `join`, `parent?`, `stripFront?`, `name?` — the usual operations.  They keep the spelling of the
  middle of a path: only its two ends are cleaned up.
-/

set_option autoImplicit false

namespace EmojiLint

structure Path where
  /-- The path as it is shown. -/
  text : String
  /-- Whether every byte of the path is shown as it is. -/
  isText : Bool
  /-- Other bytes are shown by a replacement character. -/
  isShown : isText = false → '\uFFFD' ∈ text.toList
deriving DecidableEq, Repr

namespace Path

/-- The path that a text spells. -/
def ofText (text : String) : Path :=
  ⟨text, true, fun h => Bool.noConfusion h⟩

theorem ofText_text {p : Path} (h : p.isText = true) : ofText p.text = p := by
  cases p
  cases h
  rfl

instance : Inhabited Path :=
  ⟨ofText ""⟩

/-- The path that is shown by a part of the text of `p`.  It is text when no replacement character
is left. -/
def cutTo (p : Path) (text : String) : Path :=
  ⟨text, p.isText || !text.toList.contains '\uFFFD', fun h => by
    rw [Bool.or_eq_false_iff, Bool.not_eq_false'] at h
    exact List.contains_iff_mem.1 h.2⟩

@[simp] theorem text_cutTo (p : Path) (text : String) : (p.cutTo text).text = text :=
  rfl

@[simp] theorem isText_cutTo (p : Path) (text : String) :
    (p.cutTo text).isText = (p.isText || !text.toList.contains '\uFFFD') :=
  rfl

/-- A part of what a path names. -/
inductive Component
  /-- The root, of an absolute path. -/
  | root
  /-- The dot at the start of a relative path. -/
  | here
  /-- Two dots. -/
  | up
  | name (s : List Char)
  /-- A name of which some bytes are no text. -/
  | stray (shown : List Char)
deriving DecidableEq, Repr

/-! ## Segments -/

/-- The texts between the slashes of a path. -/
def segments (cs : List Char) : List (List Char) :=
  Text.fields '/' cs

/-- Segments with slashes between them. -/
def unsegment : List (List Char) → List Char
  | [] => []
  | [s] => s
  | s :: ss => s ++ '/' :: unsegment ss

/-- Whether a segment names anything: the empty segment and a single dot do not. -/
def isNamed (segment : List Char) : Bool :=
  !segment.isEmpty && segment != ['.']

/-- The component that a segment stands for.  In a path that is not text, replacement characters
stand for other bytes. -/
def Component.ofSegment? (isText : Bool) (segment : List Char) : Option Component :=
  if !isNamed segment then none
  else if segment = ['.', '.'] then some .up
  else if !isText && segment.contains '\uFFFD' then some (.stray segment)
  else some (.name segment)

/-- Cut off the segments at the end that name nothing. -/
def cleanEnd (ss : List (List Char)) : List (List Char) :=
  ss.foldr (fun s rest => if rest.isEmpty && !isNamed s then [] else s :: rest) []

/-- Cut off the segments at the start that name nothing. -/
def cleanStart (ss : List (List Char)) : List (List Char) :=
  ss.dropWhile fun s => !isNamed s

/-- Cut off the first `n` segments that name something, with what stands before them. -/
def dropNamed : Nat → List (List Char) → List (List Char)
  | 0, ss => ss
  | _ + 1, [] => []
  | n + 1, s :: ss => if isNamed s then dropNamed n ss else dropNamed (n + 1) ss

/-! ## What a path names -/

def isAbsolute (p : Path) : Bool :=
  p.text.toList.head? == some '/'

/-- The segments of a path, from the first slash on if it is absolute. -/
def body (p : Path) : List (List Char) :=
  if p.isAbsolute then segments (p.text.toList.drop 1) else segments p.text.toList

/-- Whether a path starts with a dot that counts. -/
def startsHere (p : Path) : Bool :=
  !p.isAbsolute && p.body.head? == some ['.']

/-- The components before the named ones. -/
def anchor (p : Path) : List Component :=
  if p.isAbsolute then [.root] else if p.startsHere then [.here] else []

def components (p : Path) : List Component :=
  p.anchor ++ p.body.filterMap (Component.ofSegment? p.isText)

/-- Whether a path ends with a name, without a slash or a dot after it. -/
def endsInName (p : Path) : Bool :=
  (p.body.getLast?.map isNamed).getD false

/-- Two paths are the same when they have the same components. -/
def Same (p q : Path) : Prop :=
  p.components = q.components

instance (p q : Path) : Decidable (Same p q) :=
  inferInstanceAs (Decidable (p.components = q.components))

/-! ## Operations -/

/-- What stands between a path and one that is seen from it. -/
def slash (p : Path) : String :=
  if p.text.isEmpty || p.text.toList.getLast? == some '/' then "" else "/"

/-- The path `q` seen from `p`.  An absolute `q` stands for itself. -/
def join (p q : Path) : Path :=
  if q.isAbsolute then q
  else
    ⟨p.text ++ p.slash ++ q.text, p.isText && q.isText, fun h => by
      rw [String.toList_append, String.toList_append]
      rcases Bool.and_eq_false_iff.1 h with hp | hq
      · exact List.mem_append_left _ (List.mem_append_left _ (p.isShown hp))
      · exact List.mem_append_right _ (q.isShown hq)⟩

theorem text_join {p q : Path} (h : q.isAbsolute = false) :
    (p.join q).text = p.text ++ p.slash ++ q.text := by
  rw [join, h, if_neg Bool.false_ne_true]

/-- An entry of a directory. -/
def child (p : Path) (name : String) : Path :=
  p.join (.ofText name)

/-- A path with clean ends, up to segments that are cut off from its body.  The anchor stays. -/
def withBody (p : Path) (ss : List (List Char)) : Path :=
  let front : List Char := if p.isAbsolute then ['/'] else []
  let dot : List (List Char) := if p.startsHere then [['.']] else []
  p.cutTo (String.ofList (front ++ unsegment (dot ++ cleanEnd ss)))

/-- The body of a path after its anchor. -/
def afterAnchor (p : Path) : List (List Char) :=
  if p.startsHere then p.body.drop 1 else p.body

/-- The part of a path after its first components, when these are the components of `front`. -/
def stripFront? (p front : Path) : Option Path :=
  let n := front.components.length
  if p.components.take n ≠ front.components then none
  else if n = 0 then some (p.withBody p.afterAnchor)
  else
    let rest := dropNamed (n - p.anchor.length) p.afterAnchor
    some (p.cutTo (String.ofList (unsegment (cleanEnd (cleanStart rest)))))

/-- The path without its last component.  A root has no parent. -/
def parent? (p : Path) : Option Path :=
  match p.components.getLast? with
  | none => none
  | some .root => none
  | some .here => some (.ofText "")
  | some _ => some (p.withBody (cleanEnd p.afterAnchor).dropLast)

/-- The last component, when it is a name that is text. -/
def name? (p : Path) : Option String :=
  match p.components.getLast? with
  | some (.name s) => some (String.ofList s)
  | _ => none

end Path
end EmojiLint
