import EmojiLint.Proofs.Server.Burst
import EmojiLint.Proofs.Server.Publication
import EmojiLint.Proofs.Uri.Read

/-!
# Servers that agree on a document

Two servers agree on a document when nothing that is asked or scanned under its URI tells them
apart.  The one danger is a rescan, which reads the texts of URIs again: a document must not be
scanned because another one reads as it does.

* `Agree` — the relation.
* `readsBack_of_rescan` — only documents whose URIs read back are scanned again.
* `Agree.rescan` — a rescan keeps servers in agreement.
* `Agree.wait` — **while time passes, servers that agree say the same**.
-/

set_option autoImplicit false

namespace EmojiLint
namespace Server

open Debouncer

variable {server left right : Server} {uri key : String}

/-- The scan of a document that is still to come. -/
def jobsOf (uri : String) (server : Server) : List (String × Job Unit) :=
  under (fun k => k = uri) server.scans.jobs

/-- Servers that cannot be told apart by what they say about a document. -/
structure Agree (uri : String) (left right : Server) : Prop where
  stage : left.stage = right.stage
  settings : left.workspace.settings = right.workspace.settings
  root : left.workspace.root = right.workspace.root
  now : left.scans.now = right.scans.now
  document : left.workspace.document? uri = right.workspace.document? uri
  /-- While a document is closed, nothing comes of its scans. -/
  jobs : (Uri.isScannable uri = true → left.workspace.document? uri ≠ none) →
    left.jobsOf uri = right.jobsOf uri

namespace Agree

theorem refl (uri : String) (server : Server) : Agree uri server server :=
  ⟨rfl, rfl, rfl, rfl, rfl, fun _ => rfl⟩

theorem symm (h : Agree uri left right) : Agree uri right left :=
  ⟨h.stage.symm, h.settings.symm, h.root.symm, h.now.symm, h.document.symm,
    fun hopen => (h.jobs (h.document ▸ hopen)).symm⟩

theorem trans {middle : Server} (h : Agree uri left middle) (h' : Agree uri middle right) :
    Agree uri left right where
  stage := h.stage.trans h'.stage
  settings := h.settings.trans h'.settings
  root := h.root.trans h'.root
  now := h.now.trans h'.now
  document := h.document.trans h'.document
  jobs hopen := (h.jobs hopen).trans (h'.jobs (h.document ▸ hopen))

end Agree

/-! ## What is said about a document -/

theorem diagnostics_congr {ws ws' : Workspace} (hdocument : ws.document? uri = ws'.document? uri)
    (hsettings : ws.settings = ws'.settings) (hroot : ws.root = ws'.root) :
    ws.diagnostics uri = ws'.diagnostics uri := by
  have hexcluded : ws.isExcluded uri = ws'.isExcluded uri := by
    simp only [Workspace.isExcluded, Workspace.relative, hdocument, hsettings, hroot]
  simp only [Workspace.diagnostics, hdocument, hsettings, hexcluded]

theorem Agree.diagnostics (h : Agree uri left right) :
    left.workspace.diagnostics uri = right.workspace.diagnostics uri :=
  diagnostics_congr h.document h.settings h.root

theorem Agree.report? (h : Agree uri left right) :
    Server.report? left.workspace uri = Server.report? right.workspace uri := by
  simp only [Server.report?, h.document, h.diagnostics]

theorem Agree.codeActions (h : Agree uri left right) (extent : Extent) :
    Server.codeActions left.workspace uri extent =
      Server.codeActions right.workspace uri extent := by
  simp only [Server.codeActions, Workspace.quickFixes, h.document, h.diagnostics]

/-! ## Scheduling a scan -/

theorem now_scheduleScan (delay : Nat) :
    (server.scheduleScan key delay).scans.now = server.scans.now := by
  rw [scheduleScan]
  split <;> rfl

/-- A scan takes the place of the one that was to come, unless the document is not checked. -/
theorem jobsOf_scheduleScan (delay : Nat) : (server.scheduleScan key delay).jobsOf uri =
    if key = uri ∧ Uri.isScannable uri = true then [(uri, ⟨server.scans.now + delay, (), []⟩)]
    else server.jobsOf uri := by
  by_cases hscannable : Uri.isScannable key = true
  · have hscheduled : server.scheduleScan key delay =
        { server with scans := server.scans.schedule key delay () [] } := if_pos hscannable
    rw [hscheduled]
    by_cases hkey : key = uri
    · subst hkey
      rw [if_pos ⟨rfl, hscannable⟩]
      exact jobUnder_schedule server.scans key delay () []
    · rw [if_neg fun hboth => hkey hboth.1]
      have hrestrict := restrict_schedule_of_neg (d := server.scans) (p := fun k => k = uri)
        (decide_eq_false hkey) delay () []
      exact congrArg Debouncer.jobs hrestrict
  · have hscheduled : server.scheduleScan key delay = server := if_neg hscannable
    rw [hscheduled, if_neg]
    rintro ⟨rfl, hyes⟩
    exact hscannable hyes

/-- A document is opened or changed in both servers, and a scan of it is scheduled. -/
theorem Agree.scheduleScan (h : Agree uri left right) (ws ws' : Workspace)
    (hsettings : ws.settings = ws'.settings) (hroot : ws.root = ws'.root)
    (hdocument : ws.document? uri = ws'.document? uri) (delay : Nat) :
    Agree uri ({ left with workspace := ws }.scheduleScan uri delay)
      ({ right with workspace := ws' }.scheduleScan uri delay) where
  stage := by rw [stage_scheduleScan, stage_scheduleScan, h.stage]
  settings := by rw [workspace_scheduleScan, workspace_scheduleScan, hsettings]
  root := by rw [workspace_scheduleScan, workspace_scheduleScan, hroot]
  now := by rw [now_scheduleScan, now_scheduleScan, h.now]
  document := by rw [workspace_scheduleScan, workspace_scheduleScan, hdocument]
  jobs := by
    intro _
    rw [jobsOf_scheduleScan, jobsOf_scheduleScan, h.now]
    by_cases hscannable : Uri.isScannable uri = true
    · rw [if_pos ⟨rfl, hscannable⟩, if_pos ⟨rfl, hscannable⟩]
    · rw [if_neg fun hboth => hscannable hboth.2, if_neg fun hboth => hscannable hboth.2]
      exact h.jobs fun hyes => absurd hyes hscannable

/-- Another document is opened or changed, and a scan of it is scheduled. -/
theorem agree_scheduleScan_of_ne (hkey : key ≠ uri) (ws : Workspace)
    (hsettings : ws.settings = server.workspace.settings) (hroot : ws.root = server.workspace.root)
    (hdocument : ws.document? uri = server.workspace.document? uri) (delay : Nat) :
    Agree uri server ({ server with workspace := ws }.scheduleScan key delay) where
  stage := by rw [stage_scheduleScan]
  settings := by rw [workspace_scheduleScan, hsettings]
  root := by rw [workspace_scheduleScan, hroot]
  now := by rw [now_scheduleScan]
  document := by rw [workspace_scheduleScan, hdocument]
  jobs _ := by
    rw [jobsOf_scheduleScan, if_neg fun h => hkey h.1]
    rfl

/-! ## Scanning everything again -/

/-- Every document is open under the text of a URI that was read. -/
def IsNormal (server : Server) : Prop :=
  ∀ text, server.workspace.document? text ≠ none →
    ∃ written uri, Uri.read written = some uri ∧ uri.text = text

/-- **A document that is checked is scanned again only if its URI reads back**, whatever other
documents are open. -/
theorem readsBack_of_rescan (h : server.IsNormal) (hscannable : Uri.isScannable uri = true)
    {text : String} (hopen : server.workspace.document? text ≠ none)
    (hread : (Uri.read text).map Uri.text = some uri) : Uri.ReadsBack uri := by
  obtain ⟨written, first, hfirst, rfl⟩ := h text hopen
  obtain ⟨second, hsecond, rfl⟩ := Option.map_eq_some_iff.1 hread
  exact Uri.readsBack_of_read hfirst hsecond hscannable

theorem now_rescanDocument (text : String) :
    (server.rescanDocument text).scans.now = server.scans.now := by
  rw [rescanDocument]
  split
  · rfl
  · exact now_scheduleScan 0

theorem jobsOf_rescanDocument (text : String) : (server.rescanDocument text).jobsOf uri =
    if (Uri.read text).map Uri.text = some uri ∧ Uri.isScannable uri = true then
      [(uri, ⟨server.scans.now, (), []⟩)]
    else server.jobsOf uri := by
  rw [rescanDocument]
  cases Uri.read text with
  | none => exact (if_neg (by rintro ⟨h, -⟩; cases h)).symm
  | some other =>
    rw [jobsOf_scheduleScan]
    exact if_congr (and_congr_left' Option.some_inj.symm) rfl rfl

theorem foldl_rescanDocument_now (texts : List String) (server : Server) :
    (texts.foldl rescanDocument server).scans.now = server.scans.now := by
  induction texts generalizing server with
  | nil => rfl
  | cons text texts ih => exact (ih (server.rescanDocument text)).trans (now_rescanDocument text)

theorem foldl_rescanDocument_jobsOf (texts : List String) (server : Server) :
    (texts.foldl rescanDocument server).jobsOf uri =
      if (∃ text ∈ texts, (Uri.read text).map Uri.text = some uri) ∧
        Uri.isScannable uri = true then [(uri, ⟨server.scans.now, (), []⟩)]
      else server.jobsOf uri := by
  induction texts generalizing server with
  | nil => exact (if_neg fun ⟨⟨_, h, _⟩, _⟩ => absurd h List.not_mem_nil).symm
  | cons text texts ih =>
    rw [List.foldl_cons, ih, jobsOf_rescanDocument, now_rescanDocument]
    by_cases hscannable : Uri.isScannable uri = true
    · simp only [hscannable, and_true, List.mem_cons, exists_eq_or_imp]
      by_cases hlater : ∃ text ∈ texts, (Uri.read text).map Uri.text = some uri
      · rw [if_pos hlater, if_pos (Or.inr hlater)]
      · rw [if_neg hlater]
        by_cases hfirst : (Uri.read text).map Uri.text = some uri
        · rw [if_pos hfirst, if_pos (Or.inl hfirst)]
        · rw [if_neg hfirst, if_neg fun h => h.elim hfirst hlater]
    · simp only [hscannable, and_false, if_false, Bool.false_eq_true]

theorem now_rescan : server.rescan.scans.now = server.scans.now :=
  foldl_rescanDocument_now _ server

/-- What a rescan does to a document depends on this document alone. -/
theorem jobsOf_rescan (h : server.IsNormal)
    (hopen : Uri.isScannable uri = true → server.workspace.document? uri ≠ none) :
    server.rescan.jobsOf uri =
      if (Uri.read uri).map Uri.text = some uri ∧ Uri.isScannable uri = true then
        [(uri, ⟨server.scans.now, (), []⟩)]
      else server.jobsOf uri := by
  rw [rescan_eq, foldl_rescanDocument_jobsOf]
  refine if_congr ⟨?_, ?_⟩ rfl rfl
  · rintro ⟨⟨text, htext, hread⟩, hscannable⟩
    exact ⟨readsBack_of_rescan h hscannable (Workspace.mem_uris.1 htext) hread, hscannable⟩
  · rintro ⟨hread, hscannable⟩
    exact ⟨⟨uri, Workspace.mem_uris.2 (hopen hscannable), hread⟩, hscannable⟩

theorem Agree.rescan (h : Agree uri left right) (hleft : left.IsNormal) (hright : right.IsNormal) :
    Agree uri left.rescan right.rescan where
  stage := by rw [stage_rescan, stage_rescan, h.stage]
  settings := by rw [workspace_rescan, workspace_rescan, h.settings]
  root := by rw [workspace_rescan, workspace_rescan, h.root]
  now := by rw [now_rescan, now_rescan, h.now]
  document := by rw [workspace_rescan, workspace_rescan, h.document]
  jobs := by
    intro hopen
    rw [workspace_rescan] at hopen
    rw [jobsOf_rescan hleft hopen, jobsOf_rescan hright (h.document ▸ hopen), h.now, h.jobs hopen]

/-! ## Time passes -/

theorem jobsOf_wait (server : Server) (uri : String) (milliseconds : Nat) :
    under (fun k => k = uri) (server.scans.advance milliseconds).1 =
        (runUntil (server.scans.now + milliseconds) (server.jobsOf uri)).1 ∧
      (server.wait milliseconds).2.jobsOf uri =
        (runUntil (server.scans.now + milliseconds) (server.jobsOf uri)).2 := by
  have hrun := runUntil_under (fun k => k = uri) (server.scans.now + milliseconds) server.scans.jobs
  exact ⟨(congrArg Prod.fst hrun).symm, (congrArg Prod.snd hrun).symm⟩

/-- Nothing is said of a document that is closed. -/
theorem filterMap_shows?_wait_of_closed (h : server.workspace.document? uri = none)
    (milliseconds : Nat) : (server.wait milliseconds).1.filterMap (Notice.shows? uri) = [] := by
  have hreport : report? server.workspace uri = none := by
    rw [report?, h]
    rfl
  rw [filterMap_shows?_wait, hreport]
  split
  · exact List.filterMap_eq_nil_iff.2 fun _ _ => rfl
  · rfl

/-- **While time passes, servers that agree say the same.** -/
theorem Agree.wait (h : Agree uri left right) (milliseconds : Nat) :
    Agree uri (left.wait milliseconds).2 (right.wait milliseconds).2 ∧
      (left.wait milliseconds).1.filterMap (Notice.shows? uri) =
        (right.wait milliseconds).1.filterMap (Notice.shows? uri) := by
  obtain ⟨hevents, hjobs⟩ := jobsOf_wait left uri milliseconds
  obtain ⟨hevents', hjobs'⟩ := jobsOf_wait right uri milliseconds
  refine ⟨⟨h.stage, h.settings, h.root, congrArg (· + milliseconds) h.now, h.document,
    fun hopen => ?_⟩, ?_⟩
  · rw [hjobs, hjobs', h.now, h.jobs hopen]
  · by_cases hopen : Uri.isScannable uri = true → left.workspace.document? uri ≠ none
    · rw [filterMap_shows?_wait, filterMap_shows?_wait, hevents, hevents', h.stage, h.report?,
        h.now, h.jobs hopen]
    · have hclosed : left.workspace.document? uri = none :=
        Decidable.byContradiction fun hnot => hopen fun _ => hnot
      rw [filterMap_shows?_wait_of_closed hclosed,
        filterMap_shows?_wait_of_closed (h.document ▸ hclosed)]

/-- No time passes, and nothing was left to do. -/
theorem agree_wait_zero
    (hquiet : (Uri.isScannable uri = true → server.workspace.document? uri ≠ none) →
      ∀ entry ∈ server.jobsOf uri, server.scans.now < entry.2.due) :
    Agree uri server (server.wait 0).2 ∧
      (server.wait 0).1.filterMap (Notice.shows? uri) = [] := by
  obtain ⟨hevents, hjobs⟩ := jobsOf_wait server uri 0
  rw [Nat.add_zero] at hevents hjobs
  refine ⟨⟨rfl, rfl, rfl, rfl, rfl, fun hopen => ?_⟩, ?_⟩
  · rw [hjobs, runUntil_of_forall_lt (hquiet hopen)]
  · by_cases hopen : Uri.isScannable uri = true → server.workspace.document? uri ≠ none
    · rw [filterMap_shows?_wait, hevents, runUntil_of_forall_lt (hquiet hopen), List.filterMap_nil,
        ite_self]
    · refine filterMap_shows?_wait_of_closed ?_ 0
      exact Decidable.byContradiction fun hnot => hopen fun _ => hnot

end Server
end EmojiLint
