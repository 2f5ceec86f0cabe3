import EmojiLint.Path.Name
import EmojiLint.Uri.Basic
import EmojiLint.Uri.Host

/-!
# Reading URIs

A URI is put into its normal form while it is read: the scheme and the host are written in lower
case, the segments `.` and `..` are resolved, and characters that may not stand where they do are
escaped.  In the well-known schemes a backslash counts as a slash.  What cannot be read at all is
refused, first of all a text without a scheme.
-/

set_option autoImplicit false

namespace EmojiLint
namespace Uri

/-! ## Schemes -/

/-- The well-known schemes other than `file`, with their usual ports. -/
def usualPorts : List (String × Nat) :=
  [("http", 80), ("https", 443), ("ws", 80), ("wss", 443), ("ftp", 21)]

/-- How the rest of a URI is read. -/
inductive SchemeKind
  | file
  /-- Another well-known scheme. -/
  | special
  | other
deriving DecidableEq, Repr

def SchemeKind.ofScheme (scheme : List Char) : SchemeKind :=
  if scheme = "file".toList then .file
  else if (usualPorts.lookup (String.ofList scheme)).isSome then .special
  else .other

def isSchemeChar (c : Char) : Bool :=
  c.isAlphanum || c = '+' || c = '-' || c = '.'

/-- Read the scheme, and the rest after the colon. -/
def scheme? (cs : List Char) : Option (List Char × List Char) :=
  let scheme := cs.takeWhile isSchemeChar
  match scheme, cs.drop scheme.length with
  | c :: more, ':' :: rest => if c.isAlpha then some ((c :: more).map Char.toLower, rest) else none
  | _, _ => none

/-! ## Authorities -/

/-- The user and the password, escaped, with an at sign after them unless both are empty. -/
def userinfo (cs : List Char) : List Char :=
  let user := Percent.encode Percent.inUserinfo (cs.takeWhile (· ≠ ':'))
  let password := Percent.encode Percent.inUserinfo ((cs.dropWhile (· ≠ ':')).drop 1)
  if user.isEmpty && password.isEmpty then []
  else if password.isEmpty then user ++ ['@']
  else user ++ ':' :: password ++ ['@']

/-- Divide an authority at its last at sign. -/
def splitUser (cs : List Char) : Option (List Char) × List Char :=
  if cs.contains '@' then
    let reversed := cs.reverse
    (some ((reversed.dropWhile (· ≠ '@')).drop 1).reverse, (reversed.takeWhile (· ≠ '@')).reverse)
  else (none, cs)

/-- Divide a host from its port, at the first colon that is not in brackets. -/
def splitPort (inBrackets : Bool) : List Char → List Char × Option (List Char)
  | [] => ([], none)
  | c :: cs =>
    if c = ':' && !inBrackets then ([], some cs)
    else
      let inBrackets := if c = '[' then true else if c = ']' then false else inBrackets
      let (host, port) := splitPort inBrackets cs
      (c :: host, port)

/-- Read a port.  The usual one of the scheme is not written. -/
def port? (scheme digits : List Char) : Option (Option Nat) :=
  if !digits.all Char.isDigit then none
  else
    let port := digits.foldl (fun n c => 10 * n + (c.toNat - '0'.toNat)) 0
    if 65535 < port then none
    else if digits.isEmpty || usualPorts.lookup (String.ofList scheme) = some port then some none
    else some (some port)

/-- Read the authority at the start of a text, and what is left of it.  Only schemes that are not
well known may leave out the host, and only when no user and no port is written.  A lone at sign may
stand in for the host at the very end of a URI, as `isAll` says.  A backslash after the digits of a
port ends the authority. -/
def authority? (scheme : List Char) (isAll : Bool) (cs : List Char) :
    Option (Authority × List Char) := do
  let special := decide (SchemeKind.ofScheme scheme = .special)
  let (user, rest) := splitUser cs
  let (hostText, portText) := splitPort false rest
  let user' := (user.map userinfo).getD []
  let needsHost := special || portText.isSome || !user'.isEmpty || (user = some [] && !isAll)
  if hostText.isEmpty && needsHost then none
  else
    let host ← if special then Host.domain? hostText else Host.plain? hostText
    let digits := (portText.getD []).takeWhile (· ≠ '\\')
    let port ← port? scheme digits
    return (⟨user', host, port⟩, (portText.getD []).drop digits.length)

/-! ## Paths -/

/-- A segment in which an escaped dot counts as a dot. -/
def plainDots : List Char → List Char
  | '%' :: '2' :: c :: cs =>
    if c = 'e' || c = 'E' then '.' :: plainDots cs else '%' :: plainDots ('2' :: c :: cs)
  | c :: cs => c :: plainDots cs
  | [] => []

/-- Whether a segment is the name of a drive. -/
def isDrive : List Char → Bool
  | [letter, mark] => letter.isAlpha && (mark = ':' || mark = '|')
  | _ => false

/-- The segments without the last one.  The name of a drive is never left. -/
def leave (segments : List (List Char)) : List (List Char) :=
  match segments.getLast? with
  | some last => if isDrive last then segments else segments.dropLast
  | none => []

/-- The segment that is written for a segment.  The name of a drive at the start of the path of a
file gets its colon. -/
def place (file : Bool) (done : List (List Char)) (segment : List Char) : List Char :=
  if file && done.isEmpty && isDrive segment then segment.take 1 ++ [':']
  else Percent.encode Percent.inPath segment

/-- Resolve the segments of a path, of which some are done.  A path that ends in dots ends with a
slash. -/
def resolve (file : Bool) (done : List (List Char)) : List (List Char) → List (List Char)
  | [] => done
  | segment :: rest =>
    let slash : List (List Char) := if rest.isEmpty then [[]] else []
    let dots := plainDots segment
    if dots = ['.', '.'] then resolve file (leave done ++ slash) rest
    else if dots = ['.'] then resolve file (done ++ slash) rest
    else resolve file (done ++ [place file done segment]) rest

/-- Read a path that starts with a slash, or that is taken to. -/
def segments (kind : SchemeKind) (cs : List Char) : List (List Char) :=
  resolve (kind = .file) [] (Path.segments (if cs.head? = some '/' then cs.drop 1 else cs))

/-- Slashes at the start of the path of a file count once. -/
def dropEmpty : List (List Char) → List (List Char)
  | [] :: s :: ss => dropEmpty (s :: ss)
  | ss => ss

/-! ## The whole -/

/-- What is left of a text without the control characters and blanks at its two ends, and without
tabs and line ends. -/
def clean (cs : List Char) : List Char :=
  let isEdge (c : Char) : Bool := c.toNat ≤ 0x20
  let trimmed := ((cs.dropWhile isEdge).reverse.dropWhile isEdge).reverse
  trimmed.filter fun c => !(c = '\t' || c = '\n' || c = '\r')

/-- Divide a text at the first character of a kind, which is dropped. -/
def splitAtFirst (mark : Char) (cs : List Char) : List Char × Option (List Char) :=
  let front := cs.takeWhile (· ≠ mark)
  match cs.drop front.length with
  | [] => (front, none)
  | _ :: after => (front, some after)

/-- Read the authority and the path of a file.  The local host goes without saying, and so does any
host of a path that starts with a drive. -/
def filePlace? (body : List Char) : Option (Option Authority × UriPath) :=
  let place (host text : List Char) : Option Authority × UriPath :=
    let ss := segments .file text
    let unsaid := host = "localhost".toList || (ss.head?.map isDrive).getD false
    (some ⟨[], if unsaid then [] else host, none⟩, .rooted (dropEmpty ss))
  match body with
  | '/' :: '/' :: rest =>
    let hostText := rest.takeWhile (· ≠ '/')
    if hostText.isEmpty || isDrive hostText then some (place [] rest)
    else (Host.domain? hostText).map fun host => place host (rest.drop hostText.length)
  | _ => some (place [] body)

/-- Read what stands between the scheme and the query.  `isAll` says that there is no query and no
fragment. -/
def place? (scheme : List Char) (isAll : Bool) (body : List Char) :
    Option (Option Authority × UriPath) :=
  match SchemeKind.ofScheme scheme with
  | .file => filePlace? (Path.forwardSlashes body)
  | .special => do
    let body := (Path.forwardSlashes body).dropWhile (· = '/')
    let text := body.takeWhile (· ≠ '/')
    let after := body.drop text.length
    let (authority, _) ← authority? scheme (isAll && after.isEmpty) text
    return (some authority, .rooted (segments .special after))
  | .other =>
    match body with
    | '/' :: '/' :: rest => do
      let text := rest.takeWhile (· ≠ '/')
      let after := rest.drop text.length
      let (authority, left) ← authority? scheme (isAll && after.isEmpty) text
      let after := left ++ after
      return (some authority, .rooted (if after.isEmpty then [] else segments .other after))
    | '/' :: _ => some (none, .rooted (segments .other body))
    | _ => some (none, .plain (Percent.encode Percent.isControl body))

/-- Read a URI. -/
def read (text : String) : Option Uri := do
  let (scheme, rest) ← scheme? (clean text.toList)
  let (front, fragment) := splitAtFirst '#' rest
  let (body, query) := splitAtFirst '?' front
  let (authority, path) ← place? scheme (query.isNone && fragment.isNone) body
  let inQuery :=
    if SchemeKind.ofScheme scheme = .other then Percent.inQuery else Percent.inSpecialQuery
  return {
    scheme, authority, path
    query := query.map (Percent.encode inQuery)
    fragment := fragment.map (Percent.encode Percent.inFragment) }

end Uri
end EmojiLint
