import EmojiLint.Proofs.Server.Scans
import EmojiLint.Proofs.Server.Session
import Mathlib.Tactic.ByContra

/-!
# What is shown is what is due

A document without a scan to come is shown as it should be, whatever has happened in the session:
every change either publishes at once or leaves a scan behind.  There is one exception.  A rescan
reads the text of a URI again, and some URIs in normal form read as another one the second time.
Documents under such a URI are passed over.

* `Settled` — a document is shown as it should be, or a scan will see to it.
* `Invariant` — what holds at every moment of a session.
* `Invariant.handle`, `Invariant.wait` — one event keeps it.
* `invariant_of_reachable` — it holds in every session.
-/

set_option autoImplicit false

namespace EmojiLint

open Server

/-- A document is shown as it should be, or it is open and a scan is still to come. -/
def Settled (server : Server) (said : List Notice) (uri : String) : Prop :=
  shown said uri = server.due uri ∨
    (server.scans.isPending uri = true ∧ server.workspace.document? uri ≠ none)

/-- What holds at every moment of a session. -/
structure Invariant (server : Server) (said : List Notice) : Prop where
  running : server.stage = .running
  /-- Only documents that are checked wait for a scan. -/
  scannable : ∀ uri, server.scans.isPending uri = true → Uri.isScannable uri = true
  settled : ∀ uri, (Uri.isScannable uri = true → Uri.ReadsBack uri) → Settled server said uri

variable {server : Server} {said : List Notice} {uri : String}

/-! ## What is due -/

theorem due_of_document?_eq_none (h : server.workspace.document? uri = none) :
    server.due uri = ([], none) := by
  rw [due, h]

theorem due_of_document?_eq_some {doc : Document} (h : server.workspace.document? uri = some doc)
    (hscannable : Uri.isScannable uri = true) : server.due uri =
      (problems doc.text (server.workspace.diagnostics uri), some doc.version) := by
  rw [due, h]
  exact if_pos hscannable

theorem due_of_not_isScannable (h : Uri.isScannable uri = false) :
    server.due uri = ([], none) := by
  rw [due]
  cases server.workspace.document? uri with
  | none => rfl
  | some doc => exact if_neg (by rw [h]; exact Bool.false_ne_true)

/-- Nothing is due of a document that is not open or not checked. -/
theorem due_eq_nil (h : server.workspace.document? uri = none ∨ Uri.isScannable uri = false) :
    server.due uri = ([], none) :=
  h.elim due_of_document?_eq_none due_of_not_isScannable

/-- What is due depends on the document, on the settings and on the root. -/
theorem due_congr {server' : Server}
    (hdocument : server'.workspace.document? uri = server.workspace.document? uri)
    (hsettings : server'.workspace.settings = server.workspace.settings)
    (hroot : server'.workspace.root = server.workspace.root) :
    server'.due uri = server.due uri := by
  have hexcluded : server'.workspace.isExcluded uri = server.workspace.isExcluded uri := by
    simp only [Workspace.isExcluded, Workspace.relative, hdocument, hsettings, hroot]
  simp only [due, Workspace.diagnostics, hdocument, hsettings, hexcluded]

/-! ## One event -/

/-- What does not concern a document leaves it settled. -/
theorem Settled.congr {server' : Server} {said' : List Notice} (h : Settled server said uri)
    (hshown : shown said' uri = shown said uri) (hdue : server'.due uri = server.due uri)
    (hdocument : server'.workspace.document? uri = server.workspace.document? uri)
    (hpending : server.scans.isPending uri = true → server'.scans.isPending uri = true) :
    Settled server' said' uri := by
  rw [Settled, hshown, hdue, hdocument]
  exact h.imp_right fun ⟨hwaits, hopen⟩ => ⟨hpending hwaits, hopen⟩

/-- A document that is not open, or not checked, is shown as it should be. -/
theorem Settled.shown_eq_nil (h : Settled server said uri)
    (hscannable : server.scans.isPending uri = true → Uri.isScannable uri = true)
    (hnot : server.workspace.document? uri = none ∨ Uri.isScannable uri = false) :
    shown said uri = ([], none) := by
  rcases h with h | ⟨hpending, hopen⟩
  · rw [h, due_eq_nil hnot]
  · rcases hnot with hnone | hnot
    · exact absurd hnone hopen
    · rw [hscannable hpending] at hnot
      cases hnot

theorem not_checked {document : Option Document}
    (h : ¬ (document ≠ none ∧ Uri.isScannable uri = true)) :
    document = none ∨ Uri.isScannable uri = false := by
  cases document with
  | none => exact Or.inl rfl
  | some doc =>
    exact Or.inr (Bool.eq_false_iff.2 fun hscannable => h ⟨Option.some_ne_none doc, hscannable⟩)

namespace Invariant

theorem maySpeak (h : Invariant server said) : server.stage.maySpeak = true := by
  rw [h.running]
  rfl

/-- Whatever the server says that is not about documents. -/
theorem say (h : Invariant server said) {more : List Notice}
    (hsilent : ∀ notice ∈ more, ∀ uri, notice.shows? uri = none) :
    Invariant server (said ++ more) where
  running := h.running
  scannable := h.scannable
  settled uri hread :=
    (h.settled uri hread).congr (shown_append_of_silent fun notice hnotice =>
      hsilent notice hnotice uri) rfl rfl id

/-- A document is opened or changed, and a scan of it is scheduled. -/
theorem scheduleScan (h : Invariant server said) (ws : Workspace)
    (hsettings : ws.settings = server.workspace.settings) (hroot : ws.root = server.workspace.root)
    (hothers : ∀ other, other ≠ uri → ws.document? other = server.workspace.document? other)
    (hopened : ws.document? uri = none → server.workspace.document? uri = none) (delay : Nat) :
    Invariant ({ server with workspace := ws }.scheduleScan uri delay) said where
  running := stage_scheduleScan delay |>.trans h.running
  scannable other hpending := by
    rcases (isPending_scheduleScan delay).1 hpending with hpending | ⟨rfl, hscannable⟩
    · exact h.scannable other hpending
    · exact hscannable
  settled other hread := by
    have hworkspace : ({ server with workspace := ws }.scheduleScan uri delay).workspace = ws :=
      workspace_scheduleScan delay
    by_cases hother : other = uri
    · subst hother
      by_cases hchecked : ws.document? other ≠ none ∧ Uri.isScannable other = true
      · refine Or.inr ⟨?_, ?_⟩
        · exact (isPending_scheduleScan delay).2 (Or.inr ⟨rfl, hchecked.2⟩)
        · rw [hworkspace]
          exact hchecked.1
      · have hnot := not_checked hchecked
        have hshown := (h.settled other hread).shown_eq_nil (h.scannable other)
          (hnot.imp_left hopened)
        refine Or.inl ?_
        rw [hshown, due_eq_nil]
        rw [hworkspace]
        exact hnot
    · have hdocument : ({ server with workspace := ws }.scheduleScan uri delay).workspace.document?
          other = server.workspace.document? other := by
        rw [hworkspace, hothers other hother]
      refine (h.settled other hread).congr rfl (due_congr hdocument ?_ ?_) hdocument fun hpending =>
        (isPending_scheduleScan delay).2 (Or.inl hpending)
      · rw [hworkspace, hsettings]
      · rw [hworkspace, hroot]

/-- The settings change, and everything is scanned again. -/
theorem rescan (h : Invariant server said) {ws : Workspace}
    (hdocuments : ws.documents = server.workspace.documents) :
    Invariant { server with workspace := ws }.rescan said where
  running := stage_rescan.trans h.running
  scannable uri hpending := by
    rcases isPending_rescan.1 hpending with hpending | ⟨_, hscannable⟩
    · exact h.scannable uri hpending
    · exact hscannable
  settled uri hread := by
    have hdocument : ({ server with workspace := ws }.rescan).workspace.document? uri =
        server.workspace.document? uri := by
      rw [workspace_rescan, Workspace.document?, hdocuments, Workspace.document?]
    by_cases hchecked : server.workspace.document? uri ≠ none ∧ Uri.isScannable uri = true
    · refine Or.inr ⟨?_, hdocument ▸ hchecked.1⟩
      refine isPending_rescan_of_readsBack ?_ hchecked.2 (hread hchecked.2)
      rw [workspace_rescan] at hdocument
      exact hdocument ▸ hchecked.1
    · have hnot := not_checked hchecked
      refine Or.inl ?_
      rw [due_eq_nil (hnot.imp_left hdocument.trans)]
      exact (h.settled uri hread).shown_eq_nil (h.scannable uri) hnot

/-- A document is closed. -/
theorem closeDocument (h : Invariant server said) (uri : Uri) :
    Invariant (server.closeDocument uri) (said ++ [.publish uri.text [] none]) where
  running := h.running
  scannable other hpending := h.scannable other (Debouncer.isPending_cancel.1 hpending).1
  settled other hread := by
    have hdocument : (server.closeDocument uri).workspace.document? other =
        if other = uri.text then none else server.workspace.document? other :=
      Workspace.document?_closeDocument
    by_cases hother : other = uri.text
    · refine Or.inl ?_
      rw [if_pos hother] at hdocument
      rw [due_of_document?_eq_none hdocument]
      refine shown_append_of_agree ?_ ⟨_, List.mem_cons_self, if_pos hother.symm⟩
      intro notice hnotice
      rw [List.mem_singleton.1 hnotice]
      exact Or.inr (if_pos hother.symm)
    · rw [if_neg hother] at hdocument
      refine (h.settled other hread).congr (shown_append_of_silent fun notice hnotice => ?_)
        (due_congr hdocument rfl rfl) hdocument fun hpending =>
          Debouncer.isPending_cancel.2 ⟨hpending, hother⟩
      rw [List.mem_singleton.1 hnotice]
      exact if_neg (Ne.symm hother)

/-- While time passes, a document is published as it should be. -/
theorem shows?_of_mem_wait (h : Invariant server said) {milliseconds : Nat} {notice : Notice}
    (hnotice : notice ∈ (server.wait milliseconds).1) (uri : String) :
    notice.shows? uri = none ∨ notice.shows? uri = some (server.due uri) := by
  obtain ⟨other, helapsed, hscan⟩ := (mem_wait_iff h.maySpeak).1 hnotice
  obtain ⟨doc, hdoc, rfl⟩ := Option.map_eq_some_iff.1 hscan
  by_cases hother : other = uri
  · subst hother
    have hpending := (isPending_iff_wait milliseconds).2 (Or.inr helapsed)
    rw [due_of_document?_eq_some hdoc (h.scannable other hpending)]
    exact Or.inr (if_pos rfl)
  · exact Or.inl (if_neg hother)

/-- An open document is published when its scan becomes due. -/
theorem exists_mem_wait (h : Invariant server said) {milliseconds : Nat}
    (helapsed : uri ∈ server.elapsed milliseconds)
    (hopen : server.workspace.document? uri ≠ none) :
    ∃ notice ∈ (server.wait milliseconds).1, notice.shows? uri ≠ none := by
  obtain ⟨doc, hdoc⟩ := Option.ne_none_iff_exists'.1 hopen
  have hscan : scan server.workspace uri = some (.publish uri
      (problems doc.text (server.workspace.diagnostics uri)) (some doc.version)) := by
    rw [scan, hdoc]
    rfl
  refine ⟨_, (mem_wait_iff h.maySpeak).2 ⟨uri, helapsed, hscan⟩, ?_⟩
  rw [Notice.shows?, if_pos rfl]
  exact Option.some_ne_none _

/-- Time passes. -/
theorem wait (h : Invariant server said) (milliseconds : Nat) :
    Invariant (server.wait milliseconds).2 (said ++ (server.wait milliseconds).1) where
  running := h.running
  scannable uri hpending := h.scannable uri ((isPending_iff_wait milliseconds).2 (Or.inl hpending))
  settled uri hread := by
    by_cases hspoken : ∃ notice ∈ (server.wait milliseconds).1, notice.shows? uri ≠ none
    · obtain ⟨notice, hnotice, hshows⟩ := hspoken
      have hview := (h.shows?_of_mem_wait hnotice uri).resolve_left hshows
      exact Or.inl (shown_append_of_agree (fun other hother => h.shows?_of_mem_wait hother uri)
        ⟨notice, hnotice, hview⟩)
    · have hsilent : ∀ notice ∈ (server.wait milliseconds).1, notice.shows? uri = none :=
        fun notice hnotice => Decidable.byContradiction fun hshows =>
          hspoken ⟨notice, hnotice, hshows⟩
      rw [Settled, shown_append_of_silent hsilent]
      refine (h.settled uri hread).imp_right fun ⟨hpending, hopen⟩ => ⟨?_, hopen⟩
      exact ((isPending_iff_wait milliseconds).1 hpending).resolve_right fun helapsed =>
        hspoken (h.exists_mem_wait helapsed hopen)

end Invariant

/-! ## Messages -/

/-- A notice that is not about what is shown. -/
def Server.Notice.IsSilent (notice : Notice) : Prop :=
  ∀ uri, notice.shows? uri = none

/-- **While emoji are removed from files, the only notices are the edits of open documents.** -/
theorem forall_mem_removal {P : Notice → Prop} {client : Client} {ws : Workspace}
    (hedit : ∀ uri edit, removalEdit? ws uri = some edit → P (.applyEdit edit)) (uris : List Uri)
    {removal : Removal} (h : ∀ notice ∈ removal.notices, P notice) :
    ∀ notice ∈ (uris.foldl (Removal.add client ws) removal).notices, P notice := by
  induction uris generalizing removal with
  | nil => exact h
  | cons uri uris ih =>
    refine ih ?_
    rw [Removal.add]
    split
    · split
      · exact h
      · next edit hremoval =>
        intro notice hnotice
        rcases List.mem_append.1 hnotice with hnotice | hnotice
        · exact h notice hnotice
        · rw [List.mem_singleton.1 hnotice]
          exact hedit uri.text edit hremoval
    · split
      · exact h
      · exact h

theorem settings_updateDocument (ws : Workspace) (uri text : String) (version : Int) :
    (ws.updateDocument uri text version).settings = ws.settings ∧
      (ws.updateDocument uri text version).root = ws.root := by
  rw [Workspace.updateDocument]
  split <;> exact ⟨rfl, rfl⟩

theorem documents_exclude (ws : Workspace) (disk : Disk) (path : Path) (target : Exclude.Target) :
    (ws.exclude disk path target).2.1.documents = ws.documents := by
  rw [Workspace.exclude]
  split <;> rfl

namespace Invariant

variable {disk : Disk} {client : Client}

theorem openDocument (h : Invariant server said) (uri : Uri) (language text : String)
    (version : Int) : Invariant (server.openDocument uri language text version) said := by
  obtain ⟨doc, hdoc⟩ := server.workspace.document?_openDocument uri.text uri.path? text language
    version
  refine h.scheduleScan (server.workspace.openDocument uri.text uri.path? text language version)
    rfl rfl (fun other hother => ?_) (fun hnone => ?_) 0
  · exact (hdoc other).trans (if_neg hother)
  · rw [hdoc, if_pos rfl] at hnone
    cases hnone

theorem changeDocument (h : Invariant server said) (uri : Uri) (text : Option String)
    (version : Int) : Invariant (server.changeDocument uri text version) said := by
  cases text with
  | none => exact h.scheduleScan server.workspace rfl rfl (fun _ _ => rfl) id editDelay
  | some text =>
    obtain ⟨hsettings, hroot⟩ := settings_updateDocument server.workspace uri.text text version
    refine h.scheduleScan (server.workspace.updateDocument uri.text text version) hsettings hroot
      (fun other hother => ?_) (fun hnone => ?_) editDelay
    · rw [Workspace.document?_updateDocument, if_neg hother]
    · rw [Workspace.document?_updateDocument, if_pos rfl, Option.map_eq_none_iff] at hnone
      exact hnone

theorem changeSettings (h : Invariant server said) (value : Json) :
    Invariant (server.changeSettings value) said := by
  rw [Server.changeSettings]
  split
  · exact h
  · next ws hws =>
    obtain ⟨settings, _, hset⟩ := Option.bind_eq_some_iff.1 hws
    refine h.rescan ?_
    rw [Workspace.setSettings?, Option.ite_none_left_eq_some, Option.some_inj] at hset
    rw [← hset.2]

theorem exclude (h : Invariant server said) {uri : Uri} {target : Exclude.Target}
    (hsaved : ∀ path, uri.path? = some path →
      ∃ outcome, (server.workspace.exclude disk path target).1 = .ok outcome) :
    Invariant (server.exclude disk uri target).1
      (said ++ (server.exclude disk uri target).2.2) := by
  rw [Server.exclude]
  cases hpath : uri.path? with
  | none =>
    rw [List.append_nil]
    exact h
  | some path =>
    obtain ⟨outcome, hok⟩ := hsaved path hpath
    have hdocuments := documents_exclude server.workspace disk path target
    rcases hresult : server.workspace.exclude disk path target with ⟨result, ws, disk'⟩
    rw [hresult] at hok hdocuments
    obtain rfl : result = .ok outcome := hok
    simp only [hresult]
    refine (h.rescan hdocuments).say fun notice hnotice => ?_
    rw [List.mem_singleton.1 hnotice]
    exact fun _ => rfl

theorem execute (h : Invariant server said) {command : Command} {arguments : List Json}
    (hsaved : ∀ target uri more path, command = .exclude target →
      uriArguments command.schemes arguments = uri :: more → uri.path? = some path →
        ∃ outcome, (server.workspace.exclude disk path target).1 = .ok outcome) :
    Invariant (server.execute disk client command arguments).1
      (said ++ (server.execute disk client command arguments).2.2) := by
  cases huris : uriArguments command.schemes arguments with
  | nil =>
    simp only [Server.execute, huris, List.append_nil]
    exact h
  | cons uri more =>
    simp only [Server.execute, huris]
    cases command with
    | removeEmoji =>
      refine h.say fun notice hnotice => ?_
      obtain ⟨edit, _, rfl⟩ := Option.map_eq_some_iff.1 (Option.mem_toList.1 hnotice)
      exact fun _ => rfl
    | removeFromFiles =>
      refine h.say fun notice hnotice => ?_
      rcases List.mem_append.1 hnotice with hnotice | hnotice
      · refine forall_mem_removal (P := Notice.IsSilent) (fun _ _ _ _ => rfl) (uri :: more) ?_
          notice hnotice
        exact fun _ hmem => absurd hmem List.not_mem_nil
      · rw [List.mem_singleton.1 hnotice]
        exact fun _ => rfl
    | exclude target =>
      exact h.exclude fun path hpath => hsaved target uri more path rfl huris hpath

/-- **A message keeps the invariant.** -/
theorem handle (h : Invariant server said) {call : Call}
    (hallowed : Session.Allows ⟨server, said⟩ (.call disk client call)) :
    Invariant (server.handle disk client call).server
      (said ++ (server.handle disk client call).notices) := by
  cases call with
  | start root options => exact hallowed.elim
  | shutdown => exact hallowed.elim
  | started =>
    refine h.say fun notice hnotice => ?_
    rw [List.mem_singleton.1 hnotice]
    exact fun _ => rfl
  | didOpen uri language text version =>
    simp only [Server.handle, List.append_nil]
    exact h.openDocument uri language text version
  | didChange uri text version =>
    simp only [Server.handle, List.append_nil]
    exact h.changeDocument uri text version
  | didClose uri => exact h.closeDocument uri
  | didChangeConfiguration value => exact (List.append_nil said).symm ▸ h.changeSettings value
  | codeAction uri extent => exact (List.append_nil said).symm ▸ h
  | question => exact (List.append_nil said).symm ▸ h
  | executeCommand name arguments =>
    rw [Server.handle]
    cases hcommand : Command.ofName? name with
    | none =>
      rw [List.append_nil]
      exact h
    | some command =>
      refine h.execute ?_
      rintro target uri more path rfl huris hpath
      exact hallowed target uri more path hcommand huris hpath

end Invariant

/-! ## A whole session -/

theorem invariant_start (disk : Disk) (client : Client) (root : Option Path)
    (options : Option Json) :
    Invariant (Session.start disk client root options).server
      (Session.start disk client root options).said where
  running := rfl
  scannable uri hpending := by cases hpending
  settled uri _ := Or.inl rfl

/-- **What holds of one event holds of a whole session.** -/
theorem invariant_of_reachable {s : Session} (h : s.Reachable) : Invariant s.server s.said := by
  induction h with
  | start disk client root options => exact invariant_start disk client root options
  | @step s h event hevent ih =>
    cases event with
    | call disk client call => exact ih.handle hevent
    | pause milliseconds => exact ih.wait milliseconds

end EmojiLint
