import EmojiLint.Proofs.Debounce.Task
import EmojiLint.Proofs.Server.Scans
import EmojiLint.Proofs.Server.Session

/-!
# A burst of edits is scanned once

While a document is being edited, its scan is put off again and again.

* `filterMap_shows?_wait` — what is said about a document while time passes.
* `shows_editAll` — a burst of edits is followed by one scan, of the last text.
* `debounced` — what becomes of every task, and of a burst of edits.
-/

set_option autoImplicit false

namespace EmojiLint

open Debouncer

namespace Server

variable {server : Server} {uri : String}

/-! ## What is said about one document -/

/-- What a scan of a document says, if it is open. -/
def report? (ws : Workspace) (uri : String) : Option Shown :=
  (ws.document? uri).map fun doc => (problems doc.text (ws.diagnostics uri), some doc.version)

theorem shows?_scan (ws : Workspace) (uri other : String) :
    (scan ws other).bind (Notice.shows? uri) = if other = uri then report? ws uri else none := by
  rw [scan]
  cases hdoc : ws.document? other with
  | none =>
    split_ifs with h
    · rw [report?, ← h, hdoc]
      rfl
    · rfl
  | some doc =>
    rw [Option.map_some, Option.bind_some, Notice.shows?]
    split_ifs with h
    · rw [report?, ← h, hdoc]
      rfl
    · rfl

/-- **What is said about a document while time passes comes of the scans under its URI.** -/
theorem filterMap_shows?_wait (server : Server) (uri : String) (milliseconds : Nat) :
    (server.wait milliseconds).1.filterMap (Notice.shows? uri) =
      if server.stage.maySpeak then
        (under (fun k => k = uri) (server.scans.advance milliseconds).1).filterMap
          fun _ => report? server.workspace uri
      else [] := by
  rw [wait]
  dsimp only
  split_ifs
  · rw [List.filterMap_filterMap, under, List.filterMap_filter]
    simp only [shows?_scan, decide_eq_true_eq]
  · rfl

/-! ## A burst of edits -/

/-- An edit of a document, and the time until the next one. -/
structure Change where
  text : String
  version : Int
  pause : Nat

/-- Edit a document several times. -/
def editAll (server : Server) (uri : Uri) : List Change → List Notice × Server
  | [] => ([], server)
  | change :: rest =>
    let (notices, server) :=
      (server.changeDocument uri (some change.text) change.version).wait change.pause
    let (more, server) := server.editAll uri rest
    (notices ++ more, server)

/-- A document that is open is edited, and its scan is put off. -/
theorem wait_changeDocument (hstage : server.stage.maySpeak = true) {uri : Uri}
    (hopen : server.workspace.document? uri.text ≠ none)
    (hscannable : Uri.isScannable uri.text = true) (change : Change) :
    ∃ notices last,
      (server.changeDocument uri (some change.text) change.version).wait change.pause =
        (notices, last) ∧
      last.stage = server.stage ∧
      (∃ doc, last.workspace.document? uri.text = some doc ∧ doc.text = change.text ∧
        doc.version = change.version) ∧
      notices.filterMap (Notice.shows? uri.text) =
        (if editDelay ≤ change.pause then
          [(problems change.text (last.workspace.diagnostics uri.text), some change.version)]
        else []) ∧
      (last.scans.isPending uri.text = true ↔ change.pause < editDelay) := by
  obtain ⟨doc, hdoc⟩ := Option.ne_none_iff_exists'.1 hopen
  let ws := server.workspace.updateDocument uri.text change.text change.version
  let changed : Server :=
    { server with workspace := ws, scans := server.scans.schedule uri.text editDelay () [] }
  have hchanged : server.changeDocument uri (some change.text) change.version = changed :=
    if_pos hscannable
  have hws : ws.document? uri.text =
      some { doc with text := change.text, version := change.version } := by
    rw [Workspace.document?_updateDocument, if_pos rfl, hdoc]
    rfl
  obtain ⟨hevents, hpending⟩ :=
    under_advance_schedule server.scans uri.text editDelay () change.pause
  refine ⟨(changed.wait change.pause).1, (changed.wait change.pause).2, by rw [hchanged], rfl,
    ⟨_, hws, rfl, rfl⟩, ?_, hpending⟩
  rw [filterMap_shows?_wait, if_pos hstage, hevents]
  have hreport : report? ws uri.text =
      some (problems change.text (ws.diagnostics uri.text), some change.version) := by
    rw [report?, hws]
    rfl
  have hlast : (changed.wait change.pause).2.workspace = ws := rfl
  rw [hlast]
  split_ifs
  · exact List.filterMap_cons_some hreport
  · rfl

/-- **A burst of edits is followed by one scan, of the last text.** -/
theorem shows_editAll (hstage : server.stage.maySpeak = true) {uri : Uri}
    (hopen : server.workspace.document? uri.text ≠ none)
    (hscannable : Uri.isScannable uri.text = true) {burst : List Change} {change : Change}
    (hburst : ∀ earlier ∈ burst, earlier.pause < editDelay) (hpause : editDelay ≤ change.pause) :
    ∃ notices last, server.editAll uri (burst ++ [change]) = (notices, last) ∧
      notices.filterMap (Notice.shows? uri.text) =
        [(problems change.text (last.workspace.diagnostics uri.text), some change.version)] ∧
      (∃ doc, last.workspace.document? uri.text = some doc ∧ doc.text = change.text ∧
        doc.version = change.version) ∧
      last.scans.isPending uri.text = false := by
  induction burst generalizing server with
  | nil =>
    obtain ⟨notices, last, heq, -, hdoc, hshows, hpending⟩ :=
      wait_changeDocument hstage hopen hscannable change
    refine ⟨notices ++ [], last, ?_, ?_, hdoc, ?_⟩
    · rw [List.nil_append, editAll, heq]
      rfl
    · rw [List.append_nil, hshows, if_pos hpause]
    · exact Bool.eq_false_iff.2 fun h => Nat.not_lt.2 hpause (hpending.1 h)
  | cons earlier burst ih =>
    obtain ⟨hearlier, hburst⟩ := List.forall_mem_cons.1 hburst
    obtain ⟨notices, last, heq, hkept, ⟨doc, hdoc, -⟩, hshows, -⟩ :=
      wait_changeDocument hstage hopen hscannable earlier
    have hopen' : last.workspace.document? uri.text ≠ none := by
      rw [hdoc]
      exact Option.some_ne_none doc
    obtain ⟨more, last', heq', hshows', hrest⟩ := ih (hkept ▸ hstage) hopen' hburst
    refine ⟨notices ++ more, last', ?_, ?_, hrest⟩
    · rw [List.cons_append, editAll, heq]
      dsimp only
      rw [heq']
    · rw [List.filterMap_append, hshows, if_neg (Nat.not_le.2 hearlier), List.nil_append, hshows']

end Server

/-! ## What becomes of every task -/

/-- **Every task begins exactly when its time is reached before another act ends it**, once at most.
One task of a key at most is pending, and other keys do not matter.  A burst of edits of one
document is followed by one scan, of the last text. -/
theorem debounced :
    (∀ {κ α : Type} [DecidableEq κ] [DecidableEq α] (key : κ) (acts : List (Act κ α)),
      (∀ (d : Debouncer κ α) (milliseconds : Nat),
        (d.timed milliseconds).map Prod.snd = (d.advance milliseconds).1) ∧
      (keys (after {} acts).jobs).Nodup ∧
      eventsOf key (history {} acts) = course key 0 acts ∧
      eventsOf key (history {} acts) = eventsOf key (history {} (acts.filter (Act.concerns key))) ∧
      ∀ (before rest : List (Act κ α)) (delay : Nat) (task : α) (later : List (Nat × α)),
        acts = before ++ .schedule key delay task later :: rest →
        task ∉ before.flatMap (Act.tasks key) → task ∉ later.map Prod.snd →
        task ∉ rest.flatMap (Act.tasks key) →
        let now := (before.map Act.elapsed).sum
        ((eventsOf key (history {} acts)).filter (fun e => e.2 = task) =
            if reaches key (now + delay) now rest then [(now + delay, task)] else []) ∧
        (reaches key (now + delay) now rest = true ↔ Reached key (now + delay) now rest)) ∧
    ∀ (server : Server) (uri : Uri) (burst : List Server.Change) (change : Server.Change),
      server.stage.maySpeak = true → server.workspace.document? uri.text ≠ none →
      Uri.isScannable uri.text = true → (∀ earlier ∈ burst, earlier.pause < Server.editDelay) →
      Server.editDelay ≤ change.pause →
      ∃ notices last, server.editAll uri (burst ++ [change]) = (notices, last) ∧
        notices.filterMap (Server.Notice.shows? uri.text) =
          [(Server.problems change.text (last.workspace.diagnostics uri.text),
            some change.version)] ∧
        (∃ doc, last.workspace.document? uri.text = some doc ∧ doc.text = change.text ∧
          doc.version = change.version) ∧
        last.scans.isPending uri.text = false := by
  refine ⟨fun key acts => ⟨map_snd_timed,
    nodup_keys_after (d := {}) List.nodup_nil acts,
    eventsOf_history_eq_course key acts, ?_, ?_⟩,
    fun server uri burst change hstage hopen hscannable hburst hpause =>
      Server.shows_editAll hstage hopen hscannable hburst hpause⟩
  · rw [eventsOf_history_eq_course, eventsOf_history_eq_course, course_filter_concerns]
  · rintro before rest delay task later rfl hbefore hlater hrest
    exact ⟨filter_eventsOf_history hbefore hlater hrest delay, reaches_iff⟩

/-- Two tasks of one key and one of another. -/
def sampleActs : List (Act String Nat) :=
  [.schedule "a" 100 1 [], .pause 50, .schedule "a" 100 2 [], .schedule "b" 0 3 [], .pause 100]

/-- A URI of a text without a file. -/
def sampleUri : Uri :=
  { scheme := "untitled".toList, authority := none, path := .plain ['a'] }

/-- A server with an open document. -/
def sampleServer : Server where
  stage := .running
  workspace := ({} : Workspace).openDocument sampleUri.text none "😀" "plaintext" 1

/-- The second task takes the place of the first one, and the second edit that of the first one. -/
theorem debounced_sample :
    (eventsOf "a" (history {} sampleActs)).filter (fun e => e.2 = 2) = [(150, 2)] ∧
    ∃ notices last,
      sampleServer.editAll sampleUri [⟨"1😀", 2, 100⟩, ⟨"2😀", 3, 200⟩] = (notices, last) ∧
      notices.filterMap (Server.Notice.shows? sampleUri.text) =
        [(Server.problems "2😀" (last.workspace.diagnostics sampleUri.text), some 3)] := by
  have hreaches : reaches "a" 150 50 [.schedule "b" 0 3 [], .pause 100] = true := by decide
  obtain ⟨-, -, -, -, htask⟩ := debounced.1 "a" sampleActs
  obtain ⟨hevents, -⟩ :=
    htask [.schedule "a" 100 1 [], .pause 50] [.schedule "b" 0 3 [], .pause 100] 100 2 [] rfl
      (by decide) (by decide) (by decide)
  obtain ⟨notices, last, heq, hshows, -⟩ :=
    debounced.2 sampleServer sampleUri [⟨"1😀", 2, 100⟩] ⟨"2😀", 3, 200⟩ rfl (by decide) (by decide)
      (by decide) (by decide)
  exact ⟨hevents.trans (if_pos hreaches), notices, last, heq, hshows⟩

end EmojiLint
