import EmojiLint.Proofs.Debounce
import EmojiLint.Server.Basic

/-!
# Documents and their scans

What the operations of a server do to its documents and to the scans that are still to come.

* `document?_updateDocument` and its like — an operation on one document leaves the others alone.
* `isPending_scheduleScan`, `isPending_rescan` — which documents are waiting for a scan afterwards.
* `isPending_iff_wait`, `mem_wait_iff` — a scan that waits no longer was done.
-/

set_option autoImplicit false

namespace EmojiLint

/-- A URI is read from its own text. -/
def Uri.ReadsBack (uri : String) : Prop :=
  (Uri.read uri).map Uri.text = some uri

/-! ## Documents -/

namespace Workspace

variable {ws : Workspace} {uri other : String}

theorem document?_openDocument (uri : String) (path : Option Path) (text language : String)
    (version : Int) :
    ∃ doc, ∀ other, (ws.openDocument uri path text language version).document? other =
      if other = uri then some doc else ws.document? other :=
  ⟨_, fun other => Assoc.lookup_set uri other _ ws.documents⟩

/-- A document that is not open is not opened by a change. -/
theorem document?_updateDocument (text : String) (version : Int) :
    (ws.updateDocument uri text version).document? other =
      if other = uri then
        (ws.document? uri).map fun doc => { doc with text := text, version := version }
      else ws.document? other := by
  rw [updateDocument]
  cases hdoc : ws.document? uri with
  | none =>
    split_ifs with h
    · rw [h, hdoc]
      rfl
    · rfl
  | some doc => exact Assoc.lookup_set uri other _ ws.documents

theorem document?_closeDocument : (ws.closeDocument uri).document? other =
    if other = uri then none else ws.document? other :=
  Assoc.lookup_erase uri other ws.documents

theorem mem_uris : uri ∈ ws.uris ↔ ws.document? uri ≠ none := by
  rw [uris, List.mem_mergeSort, List.mem_map, document?, ← Option.isSome_iff_ne_none,
    List.lookup_isSome_iff]
  simp only [beq_iff_eq, eq_comm (a := uri)]

end Workspace

namespace Server

variable {server : Server} {uri other : String}

/-! ## Scheduling a scan -/

theorem workspace_scheduleScan (delay : Nat) :
    (server.scheduleScan uri delay).workspace = server.workspace := by
  rw [scheduleScan]
  split_ifs <;> rfl

theorem stage_scheduleScan (delay : Nat) :
    (server.scheduleScan uri delay).stage = server.stage := by
  rw [scheduleScan]
  split_ifs <;> rfl

/-- Only documents that are checked are scanned. -/
theorem isPending_scheduleScan (delay : Nat) :
    (server.scheduleScan uri delay).scans.isPending other = true ↔
      server.scans.isPending other = true ∨ (other = uri ∧ Uri.isScannable uri = true) := by
  rw [scheduleScan]
  split_ifs with h
  · rw [and_iff_left h]
    exact Debouncer.isPending_schedule _ _ _
  · exact (or_iff_left fun hboth => h hboth.2).symm

/-! ## Scanning everything again -/

/-- Read the text of a URI again and scan the document that it names. -/
def rescanDocument (server : Server) (text : String) : Server :=
  match Uri.read text with
  | none => server
  | some uri => server.scheduleScan uri.text 0

theorem rescan_eq : server.rescan = server.workspace.uris.foldl rescanDocument server :=
  rfl

theorem workspace_rescanDocument (text : String) :
    (server.rescanDocument text).workspace = server.workspace := by
  rw [rescanDocument]
  split
  · rfl
  · exact workspace_scheduleScan 0

theorem stage_rescanDocument (text : String) :
    (server.rescanDocument text).stage = server.stage := by
  rw [rescanDocument]
  split
  · rfl
  · exact stage_scheduleScan 0

theorem isPending_rescanDocument (text : String) :
    (server.rescanDocument text).scans.isPending other = true ↔
      server.scans.isPending other = true ∨
        ((Uri.read text).map Uri.text = some other ∧ Uri.isScannable other = true) := by
  rw [rescanDocument]
  cases Uri.read text with
  | none =>
    refine (or_iff_left ?_).symm
    rintro ⟨h, _⟩
    cases h
  | some uri =>
    rw [isPending_scheduleScan, Option.map_some, Option.some_inj]
    refine or_congr_right ⟨?_, ?_⟩
    · rintro ⟨rfl, h⟩
      exact ⟨rfl, h⟩
    · rintro ⟨rfl, h⟩
      exact ⟨rfl, h⟩

/-- Rescanning some documents leaves the workspace and the stage alone, and makes those wait that
the texts are read as. -/
theorem foldl_rescanDocument (texts : List String) (server : Server) :
    (texts.foldl rescanDocument server).workspace = server.workspace ∧
      (texts.foldl rescanDocument server).stage = server.stage ∧
      ∀ other, (texts.foldl rescanDocument server).scans.isPending other = true ↔
        server.scans.isPending other = true ∨
          ((∃ text ∈ texts, (Uri.read text).map Uri.text = some other) ∧
            Uri.isScannable other = true) := by
  induction texts generalizing server with
  | nil =>
    refine ⟨rfl, rfl, fun other => (or_iff_left ?_).symm⟩
    rintro ⟨⟨text, htext, _⟩, _⟩
    exact absurd htext List.not_mem_nil
  | cons text texts ih =>
    obtain ⟨hworkspace, hstage, hpending⟩ := ih (server.rescanDocument text)
    refine ⟨hworkspace.trans (workspace_rescanDocument text),
      hstage.trans (stage_rescanDocument text), fun other => ?_⟩
    rw [List.foldl_cons, hpending, isPending_rescanDocument, or_assoc, ← or_and_right]
    simp only [List.mem_cons, exists_eq_or_imp]

theorem workspace_rescan : server.rescan.workspace = server.workspace :=
  (foldl_rescanDocument _ server).1

theorem stage_rescan : server.rescan.stage = server.stage :=
  (foldl_rescanDocument _ server).2.1

theorem isPending_rescan : server.rescan.scans.isPending other = true ↔
    server.scans.isPending other = true ∨
      ((∃ text, server.workspace.document? text ≠ none ∧
        (Uri.read text).map Uri.text = some other) ∧ Uri.isScannable other = true) := by
  rw [rescan_eq, (foldl_rescanDocument _ server).2.2 other]
  simp only [Workspace.mem_uris]

/-- **An open document that is checked waits for a scan after a rescan**, if its URI reads back. -/
theorem isPending_rescan_of_readsBack (hopen : server.workspace.document? uri ≠ none)
    (hscannable : Uri.isScannable uri = true) (hread : Uri.ReadsBack uri) :
    server.rescan.scans.isPending uri = true :=
  isPending_rescan.2 (Or.inr ⟨⟨uri, hopen, hread⟩, hscannable⟩)

/-! ## Doing the scans -/

/-- The documents whose scans become due. -/
def elapsed (server : Server) (milliseconds : Nat) : List String :=
  (server.scans.advance milliseconds).1.map Prod.fst

/-- A scan waits until it becomes due. -/
theorem isPending_iff_wait (milliseconds : Nat) : server.scans.isPending uri = true ↔
    (server.wait milliseconds).2.scans.isPending uri = true ∨ uri ∈ server.elapsed milliseconds :=
  Debouncer.isPending_iff_advance milliseconds

/-- What is said while time passes: the problems of the documents whose scans become due, as far as
they are open. -/
theorem mem_wait_iff (hstage : server.stage.maySpeak = true) {milliseconds : Nat}
    {notice : Notice} : notice ∈ (server.wait milliseconds).1 ↔
      ∃ uri ∈ server.elapsed milliseconds, scan server.workspace uri = some notice := by
  have hwait : (server.wait milliseconds).1 = (server.scans.advance milliseconds).1.filterMap
      fun event => scan server.workspace event.1 := if_pos hstage
  rw [hwait, List.mem_filterMap]
  refine ⟨?_, ?_⟩
  · rintro ⟨event, hevent, hscan⟩
    exact ⟨event.1, List.mem_map_of_mem hevent, hscan⟩
  · rintro ⟨uri, huri, hscan⟩
    obtain ⟨event, hevent, rfl⟩ := List.mem_map.1 huri
    exact ⟨event, hevent, hscan⟩

end Server
end EmojiLint
