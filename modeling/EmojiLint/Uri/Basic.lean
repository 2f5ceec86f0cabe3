import EmojiLint.Path.Basic
import EmojiLint.Proofs.Text.Lossy
import EmojiLint.Uri.Percent

/-!
# Uniform resource identifiers

Editors name documents by URIs.  A `Uri` is one that was read and put into its normal form, so two
of them name the same document exactly when their texts agree.

* `Uri.text` — the normal form in full.
* `Uri.path?` — the path on the disk that a URI names.
* `Uri.isScannable` — whether documents with a URI are checked at all.
-/

set_option autoImplicit false

namespace EmojiLint

/-- The path that bytes spell. -/
def Path.ofBytes (bytes : List UInt8) : Path :=
  let text := Text.ofBytes bytes
  ⟨String.ofList text, Text.bytes text = bytes, fun h => by
    rw [String.toList_ofList]
    exact Decidable.by_contra fun hnot => of_decide_eq_false h (Text.bytes_ofBytes hnot)⟩

/-- What stands between two slashes and the path of a URI. -/
structure Authority where
  /-- A user, perhaps with a password, and the at sign after them. -/
  userinfo : List Char := []
  host : List Char
  port : Option Nat := none
deriving DecidableEq, Repr

/-- The path of a URI. -/
inductive UriPath
  /-- A path that starts with a slash, by its segments. -/
  | rooted (segments : List (List Char))
  /-- A text that is not divided. -/
  | plain (text : List Char)
deriving DecidableEq, Repr

structure Uri where
  scheme : List Char
  authority : Option Authority
  path : UriPath
  query : Option (List Char) := none
  fragment : Option (List Char) := none
deriving DecidableEq, Repr

namespace Authority

def text (authority : Authority) : List Char :=
  let port : List Char :=
    match authority.port with
    | none => []
    | some port => ':' :: (toString port).toList
  authority.userinfo ++ authority.host ++ port

end Authority

namespace Uri

/-! ## The text -/

/-- Something that may be missing, after the character that announces it. -/
def announced (mark : Char) : Option (List Char) → List Char
  | none => []
  | some cs => mark :: cs

/-- The path as it is written.  Without an authority, a path must not seem to start with one. -/
def pathText (uri : Uri) : List Char :=
  match uri.path with
  | .plain text => text
  | .rooted segments =>
    let text := segments.flatMap fun s => '/' :: s
    match uri.authority, segments with
    | none, [] :: _ :: _ => '/' :: '.' :: text
    | _, _ => text

/-- The URI in full. -/
def text (uri : Uri) : String :=
  let authority : List Char :=
    match uri.authority with
    | none => []
    | some authority => '/' :: '/' :: authority.text
  String.ofList (uri.scheme ++ ':' :: authority ++ uri.pathText ++ announced '?' uri.query
    ++ announced '#' uri.fragment)

/-! ## Paths on the disk -/

/-- Whether a URI leaves out the host or names the local one. -/
def isLocal (uri : Uri) : Bool :=
  match uri.authority with
  | none => true
  | some authority => authority.host.isEmpty || authority.host = "localhost".toList

/-- Whether bytes end like the name of a drive, which has a slash after it. -/
def endsWithDrive (bytes : List UInt8) : Bool :=
  match bytes.reverse with
  | mark :: letter :: _ :: _ =>
    (mark = 0x3A || mark = 0x7C) && (Char.ofNat letter.toNat).isAlpha
  | _ => false

/-- The path that a URI names, whatever its scheme.  URIs of other hosts name none. -/
def path? (uri : Uri) : Option Path :=
  match uri.path with
  | .rooted (first :: more) =>
    if uri.isLocal then
      let bytes := (first :: more).flatMap fun s => 0x2F :: Percent.decode s
      let bytes := if endsWithDrive bytes then bytes ++ [0x2F] else bytes
      some (.ofBytes bytes)
    else none
  | _ => none

/-- Whether documents with this URI are checked: files, and texts without a file yet. -/
def isScannable (text : String) : Bool :=
  "file:".toList.isPrefixOf text.toList || "untitled:".toList.isPrefixOf text.toList

end Uri
end EmojiLint
