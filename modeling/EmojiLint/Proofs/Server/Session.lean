import EmojiLint.Proofs.Debounce
import EmojiLint.Server.Basic

/-!
# A session with an editor

What an editor shows of a document is what the server published for it last.  This file follows a
server through a session, from the answer to the first request until it is told to shut down:
messages arrive one after the other, in any order, and any amount of time passes in between.

* `Session.Reachable` — how far a session can have come.
* `shown` — what the editor shows of a document, given all that was said.
* `Server.due` — what it should show.
-/

set_option autoImplicit false

namespace EmojiLint

/-- What an editor shows of a document: its problems, and the version that they are from. -/
abbrev Shown := List Server.Problem × Option Int

/-- What happens to a server.  The disk and the editor may have changed in any way before. -/
inductive Event
  /-- A message arrives that the server understands. -/
  | call (disk : Disk) (client : Client) (call : Server.Call)
  /-- Time passes. -/
  | pause (milliseconds : Nat)

/-- A server, and all that it has said. -/
structure Session where
  server : Server
  said : List Server.Notice := []

namespace Server

/-- If the arguments of a command exclude a file, then the settings file can be written. -/
def Saves (server : Server) (disk : Disk) (name : String) (arguments : List Json) : Prop :=
  ∀ target uri more path, Command.ofName? name = some (.exclude target) →
    uriArguments (Command.exclude target).schemes arguments = uri :: more →
    uri.path? = some path → ∃ outcome, (server.workspace.exclude disk path target).1 = .ok outcome

/-- What an editor should show of a document: what is found in it, if it is open and checked. -/
def due (server : Server) (uri : String) : Shown :=
  match server.workspace.document? uri with
  | none => ([], none)
  | some doc =>
    if Uri.isScannable uri then
      (problems doc.text (server.workspace.diagnostics uri), some doc.version)
    else ([], none)

end Server

namespace Session

/-- The session once the first request was answered. -/
def start (disk : Disk) (client : Client) (root : Option Path) (options : Option Json) : Session :=
  let effect := ({} : Server).handle disk client (.start root options)
  ⟨effect.server, effect.notices⟩

/-- One event of a session. -/
def step (s : Session) : Event → Session
  | .call disk client call =>
    let effect := s.server.handle disk client call
    ⟨effect.server, s.said ++ effect.notices⟩
  | .pause milliseconds =>
    let (notices, server) := s.server.wait milliseconds
    ⟨server, s.said ++ notices⟩

/-- The events of a session that goes on, and in which every exclusion is saved. -/
def Allows (s : Session) : Event → Prop
  | .call _ _ (.start _ _) => False
  | .call _ _ .shutdown => False
  | .call disk _ (.executeCommand name arguments) => s.server.Saves disk name arguments
  | .call _ _ _ => True
  | .pause _ => True

/-- How far a session can have come. -/
inductive Reachable : Session → Prop
  | start (disk : Disk) (client : Client) (root : Option Path) (options : Option Json) :
      Reachable (start disk client root options)
  | step {s : Session} (h : Reachable s) {event : Event} (hevent : s.Allows event) :
      Reachable (s.step event)

end Session

/-! ## What is shown -/

/-- What a notice shows of a document. -/
def Server.Notice.shows? (uri : String) : Server.Notice → Option Shown
  | publish other problems version => if other = uri then some (problems, version) else none
  | showError _ | showInfo _ | logInfo _ | applyEdit _ => none

/-- What an editor shows of a document: what was published last, or nothing. -/
def shown (said : List Server.Notice) (uri : String) : Shown :=
  ((said.filterMap (Server.Notice.shows? uri)).getLast?).getD ([], none)

variable {said more : List Server.Notice} {uri : String}

/-- What is not about a document leaves it as it was shown. -/
theorem shown_append_of_silent (h : ∀ notice ∈ more, notice.shows? uri = none) :
    shown (said ++ more) uri = shown said uri := by
  have hnone : more.filterMap (Server.Notice.shows? uri) = [] :=
    List.filterMap_eq_nil_iff.2 h
  rw [shown, List.filterMap_append, hnone, List.append_nil, shown]

/-- When everything that is said about a document says the same, then this is shown. -/
theorem shown_append_of_agree {view : Shown}
    (h : ∀ notice ∈ more, notice.shows? uri = none ∨ notice.shows? uri = some view)
    (hsome : ∃ notice ∈ more, notice.shows? uri = some view) :
    shown (said ++ more) uri = view := by
  have hall : ∀ v ∈ more.filterMap (Server.Notice.shows? uri), v = view := by
    intro v hv
    obtain ⟨notice, hnotice, hshows⟩ := List.mem_filterMap.1 hv
    rcases h notice hnotice with hnone | hview
    · rw [hshows] at hnone
      cases hnone
    · exact Option.some_inj.1 (hshows.symm.trans hview)
  obtain ⟨notice, hnotice, hview⟩ := hsome
  have hne : more.filterMap (Server.Notice.shows? uri) ≠ [] :=
    List.ne_nil_of_mem (List.mem_filterMap.2 ⟨notice, hnotice, hview⟩)
  rw [shown, List.filterMap_append, List.getLast?_append, List.getLast?_eq_some_getLast hne,
    Option.some_or, Option.getD_some]
  exact hall _ (List.getLast_mem hne)

end EmojiLint
