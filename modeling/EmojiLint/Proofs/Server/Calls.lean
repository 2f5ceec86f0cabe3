import EmojiLint.Proofs.Server.Agree

/-!
# Calls to servers that agree on a document

Calls that are about the document, or about no document, keep servers in agreement, and calls about
other documents do not lead out of it.

* `agree_handle` — **a call leads from servers that agree to servers that agree**.
* `agree_handle_of_foreign` — **a call about another document does not matter**.
* `isNormal_handle` — the URIs of open documents stay in normal form.
-/

set_option autoImplicit false

namespace EmojiLint
namespace Server

open Debouncer

variable {server left right : Server} {uri key : String}

/-! ## Calls about the document -/

/-- The document that a call is about. -/
def Call.document? : Call → Option Uri
  | didOpen uri _ _ _ | didChange uri _ _ | didClose uri | codeAction uri _ => some uri
  | start _ _ | started | shutdown | didChangeConfiguration _ | executeCommand _ _ | question =>
    none

variable {disk : Disk} {client : Client} {call : Call} {other : Uri}

namespace Agree

theorem openDocument (h : Agree uri left right) (other : Uri) (language text : String)
    (version : Int) (hother : other.text = uri) :
    Agree uri (left.openDocument other language text version)
      (right.openDocument other language text version) := by
  subst hother
  refine h.scheduleScan (left.workspace.openDocument other.text other.path? text language version)
    (right.workspace.openDocument other.text other.path? text language version)
    h.settings h.root ?_ 0
  rw [Workspace.openDocument, Workspace.openDocument, Workspace.document?, Workspace.document?,
    Assoc.lookup_set, Assoc.lookup_set, if_pos rfl, if_pos rfl]

theorem changeDocument (h : Agree uri left right) (other : Uri) (text : Option String)
    (version : Int) (hother : other.text = uri) :
    Agree uri (left.changeDocument other text version)
      (right.changeDocument other text version) := by
  subst hother
  cases text with
  | none => exact h.scheduleScan _ _ h.settings h.root h.document editDelay
  | some text =>
    obtain ⟨hsettings, hroot⟩ := settings_updateDocument left.workspace other.text text version
    obtain ⟨hsettings', hroot'⟩ := settings_updateDocument right.workspace other.text text version
    refine h.scheduleScan _ _ ?_ ?_ ?_ editDelay
    · rw [hsettings, hsettings', h.settings]
    · rw [hroot, hroot', h.root]
    · rw [Workspace.document?_updateDocument, Workspace.document?_updateDocument, if_pos rfl,
        if_pos rfl, h.document]

theorem closeDocument (h : Agree uri left right) (other : Uri) (hother : other.text = uri) :
    Agree uri (left.closeDocument other) (right.closeDocument other) := by
  subst hother
  have hdocument : ∀ server : Server,
      (server.closeDocument other).workspace.document? other.text = none := fun server =>
    Workspace.document?_closeDocument.trans (if_pos rfl)
  have hjobs : ∀ server : Server, (server.closeDocument other).jobsOf other.text = [] := by
    intro server
    have hcancel := restrict_cancel_of_pos (p := fun k => k = other.text) server.scans other.text
    exact (congrArg Debouncer.jobs hcancel).trans (erase_under_self other.text server.scans.jobs)
  exact ⟨h.stage, h.settings, h.root, h.now, (hdocument left).trans (hdocument right).symm,
    fun _ => (hjobs left).trans (hjobs right).symm⟩

/-- The settings change in both servers. -/
theorem withSettings (h : Agree uri left right) (settings : Settings) :
    Agree uri { left with workspace := { left.workspace with settings } }
      { right with workspace := { right.workspace with settings } } :=
  ⟨h.stage, rfl, h.root, h.now, h.document, h.jobs⟩

theorem changeSettings (h : Agree uri left right) (hleft : left.IsNormal)
    (hright : right.IsNormal) (value : Json) :
    Agree uri (left.changeSettings value) (right.changeSettings value) := by
  cases hvalue : Settings.ofEditor? value with
  | none =>
    simp only [Server.changeSettings, hvalue, Option.bind_none]
    exact h
  | some settings =>
    simp only [Server.changeSettings, hvalue, Option.bind_some, Workspace.setSettings?, h.settings]
    by_cases hsame : settings = right.workspace.settings
    · simp only [if_pos hsame]
      exact h
    · simp only [if_neg hsame]
      exact (h.withSettings settings).rescan hleft hright

end Agree

/-- Excluding a path comes to the same in workspaces with the same settings and root. -/
theorem exists_exclude_eq {ws ws' : Workspace} (hsettings : ws.settings = ws'.settings)
    (hroot : ws.root = ws'.root) (disk : Disk) (path : Path) (target : Exclude.Target) :
    ∃ result settings disk', ws.exclude disk path target = (result, { ws with settings }, disk') ∧
      ws'.exclude disk path target = (result, { ws' with settings }, disk') := by
  have hpattern : ws.exclusionPattern path target = ws'.exclusionPattern path target := by
    rw [Workspace.exclusionPattern, Workspace.exclusionPattern, Workspace.relative,
      Workspace.relative, hroot]
  simp only [Workspace.exclude, Workspace.settingsPath?, hpattern, hsettings, hroot]
  cases ws'.root with
  | none => exact ⟨_, _, _, rfl, rfl⟩
  | some root => exact ⟨_, _, _, rfl, rfl⟩

theorem Agree.exclude (h : Agree uri left right) (hleft : left.IsNormal) (hright : right.IsNormal)
    (disk : Disk) (file : Uri) (target : Exclude.Target) :
    Agree uri (left.exclude disk file target).1 (right.exclude disk file target).1 := by
  rw [Server.exclude, Server.exclude]
  cases file.path? with
  | none => exact h
  | some path =>
    obtain ⟨result, settings, disk', heq, heq'⟩ :=
      exists_exclude_eq h.settings h.root disk path target
    simp only [heq, heq']
    cases result with
    | ok outcome => exact (h.withSettings settings).rescan hleft hright
    | error e => exact h.withSettings settings

theorem Agree.execute (h : Agree uri left right) (hleft : left.IsNormal) (hright : right.IsNormal)
    (disk : Disk) (client : Client) (command : Command) (arguments : List Json) :
    Agree uri (left.execute disk client command arguments).1
      (right.execute disk client command arguments).1 := by
  cases huris : uriArguments command.schemes arguments with
  | nil =>
    simp only [Server.execute, huris]
    exact h
  | cons file more =>
    simp only [Server.execute, huris]
    cases command with
    | removeEmoji | removeFromFiles => exact h
    | exclude target => exact h.exclude hleft hright disk file target

/-- What a command says is not about what is shown. -/
theorem isSilent_of_mem_execute {command : Command} {arguments : List Json} {notice : Notice}
    (h : notice ∈ (server.execute disk client command arguments).2.2) : notice.IsSilent := by
  cases huris : uriArguments command.schemes arguments with
  | nil =>
    simp only [execute, huris] at h
    cases h
  | cons file more =>
    simp only [execute, huris] at h
    cases command with
    | removeEmoji =>
      obtain ⟨edit, -, rfl⟩ := Option.map_eq_some_iff.1 (Option.mem_toList.1 h)
      exact fun _ => rfl
    | removeFromFiles =>
      rcases List.mem_append.1 h with h | h
      · refine forall_mem_removal (P := Notice.IsSilent) (fun _ _ _ _ => rfl) (file :: more) ?_ _ h
        exact fun _ hmem => absurd hmem List.not_mem_nil
      · rw [List.mem_singleton.1 h]
        exact fun _ => rfl
    | exclude target =>
      dsimp only [exclude] at h
      split at h
      · cases h
      · split at h
        · rw [List.mem_singleton.1 h]
          exact fun _ => rfl
        · rw [List.mem_singleton.1 h]
          exact fun _ => rfl

theorem filterMap_shows?_of_isSilent {notices : List Notice}
    (h : ∀ notice ∈ notices, notice.IsSilent) : notices.filterMap (Notice.shows? uri) = [] :=
  List.filterMap_eq_nil_iff.2 fun notice hnotice => h notice hnotice uri

/-- **A call about the document, or about no document, keeps two servers in agreement**: they say
the same about the document, and give the same answer. -/
theorem agree_handle (disk : Disk) (client : Client) (h : Agree uri left right)
    (hleft : left.IsNormal) (hright : right.IsNormal)
    (hcall : ∀ other, call.document? = some other → other.text = uri) :
    Agree uri (left.handle disk client call).server (right.handle disk client call).server ∧
      (left.handle disk client call).notices.filterMap (Notice.shows? uri) =
        (right.handle disk client call).notices.filterMap (Notice.shows? uri) ∧
      (left.handle disk client call).answer = (right.handle disk client call).answer := by
  cases call with
  | start root options => exact ⟨⟨rfl, rfl, rfl, h.now, h.document, h.jobs⟩, rfl, rfl⟩
  | started => exact ⟨h, rfl, rfl⟩
  | shutdown => exact ⟨⟨h.stage, h.settings, h.root, h.now, h.document, fun _ => rfl⟩, rfl, rfl⟩
  | didOpen other language text version =>
    refine ⟨?_, rfl, rfl⟩
    simp only [handle]
    exact h.openDocument other language text version (hcall other rfl)
  | didChange other text version =>
    refine ⟨?_, rfl, rfl⟩
    simp only [handle]
    exact h.changeDocument other text version (hcall other rfl)
  | didClose other => exact ⟨h.closeDocument other (hcall other rfl), rfl, rfl⟩
  | didChangeConfiguration value => exact ⟨h.changeSettings hleft hright value, rfl, rfl⟩
  | codeAction other extent =>
    obtain rfl := hcall other rfl
    refine ⟨h, rfl, ?_⟩
    rw [handle, handle]
    dsimp only
    rw [h.codeActions extent]
  | executeCommand name arguments =>
    rw [handle, handle]
    cases Command.ofName? name with
    | none => exact ⟨h, rfl, rfl⟩
    | some command =>
      refine ⟨h.execute hleft hright disk client command arguments, ?_, rfl⟩
      rw [filterMap_shows?_of_isSilent fun _ => isSilent_of_mem_execute,
        filterMap_shows?_of_isSilent fun _ => isSilent_of_mem_execute]
  | question => exact ⟨h, rfl, rfl⟩

/-! ## Calls about other documents -/

theorem agree_closeDocument_of_ne (hother : other.text ≠ uri) :
    Agree uri server (server.closeDocument other) where
  stage := rfl
  settings := rfl
  root := rfl
  now := rfl
  document := (Workspace.document?_closeDocument.trans (if_neg hother.symm)).symm
  jobs _ :=
    have hcancel := restrict_cancel_of_neg (d := server.scans) (p := fun k => k = uri)
      (decide_eq_false hother)
    (congrArg Debouncer.jobs hcancel).symm

/-- **A call about another document does not matter.** -/
theorem agree_handle_of_foreign (hcall : call.document? = some other) (hother : other.text ≠ uri) :
    Agree uri server (server.handle disk client call).server ∧
      (server.handle disk client call).notices.filterMap (Notice.shows? uri) = [] := by
  cases call with
  | start | started | shutdown | didChangeConfiguration | executeCommand | question => cases hcall
  | didOpen file language text version =>
    obtain rfl := Option.some_inj.1 hcall
    obtain ⟨doc, hdoc⟩ :=
      server.workspace.document?_openDocument file.text file.path? text language version
    simp only [handle]
    refine ⟨agree_scheduleScan_of_ne hother
      (server.workspace.openDocument file.text file.path? text language version) rfl rfl ?_ 0, rfl⟩
    exact (hdoc uri).trans (if_neg hother.symm)
  | didChange file text version =>
    obtain rfl := Option.some_inj.1 hcall
    simp only [handle]
    refine ⟨?_, rfl⟩
    cases text with
    | none => exact agree_scheduleScan_of_ne hother _ rfl rfl rfl editDelay
    | some text =>
      obtain ⟨hsettings, hroot⟩ := settings_updateDocument server.workspace file.text text version
      refine agree_scheduleScan_of_ne hother _ hsettings hroot ?_ editDelay
      rw [Workspace.document?_updateDocument, if_neg hother.symm]
  | didClose file =>
    obtain rfl := Option.some_inj.1 hcall
    refine ⟨agree_closeDocument_of_ne hother, ?_⟩
    exact List.filterMap_cons_none (if_neg hother)
  | codeAction file extent => exact ⟨Agree.refl uri server, rfl⟩

/-! ## Normal URIs -/

theorem isNormal_congr (h : server.IsNormal)
    (hdocuments : ∀ text, left.workspace.document? text ≠ none →
      server.workspace.document? text ≠ none) : left.IsNormal :=
  fun text hopen => h text (hdocuments text hopen)

theorem isNormal_execute (h : server.IsNormal) {command : Command} {arguments : List Json} :
    (server.execute disk client command arguments).1.IsNormal := by
  cases huris : uriArguments command.schemes arguments with
  | nil =>
    simp only [execute, huris]
    exact h
  | cons file more =>
    simp only [execute, huris]
    cases command with
    | removeEmoji | removeFromFiles => exact h
    | exclude target =>
      dsimp only [exclude]
      split
      · exact h
      · rename_i path _
        have hdocuments := documents_exclude server.workspace disk path target
        split
        · refine isNormal_congr h fun text hopen => ?_
          rw [workspace_rescan, Workspace.document?, hdocuments] at hopen
          exact hopen
        · refine isNormal_congr h fun text hopen => ?_
          rw [Workspace.document?, hdocuments] at hopen
          exact hopen

theorem isNormal_openDocument (h : server.IsNormal) {written : String}
    (hread : Uri.read written = some other) (language text : String) (version : Int) :
    (server.openDocument other language text version).IsNormal := by
  obtain ⟨doc, hdoc⟩ :=
    server.workspace.document?_openDocument other.text other.path? text language version
  intro name hopen
  have hworkspace : (server.openDocument other language text version).workspace =
      server.workspace.openDocument other.text other.path? text language version :=
    workspace_scheduleScan 0
  rw [hworkspace, hdoc] at hopen
  split at hopen
  · rename_i hname
    exact ⟨written, other, hread, hname.symm⟩
  · exact h name hopen

theorem isNormal_changeDocument (h : server.IsNormal) (other : Uri) (text : Option String)
    (version : Int) : (server.changeDocument other text version).IsNormal := by
  refine isNormal_congr h fun name hopen => ?_
  cases text with
  | none =>
    have hworkspace : (server.changeDocument other none version).workspace = server.workspace :=
      workspace_scheduleScan editDelay
    rwa [hworkspace] at hopen
  | some text =>
    have hworkspace : (server.changeDocument other (some text) version).workspace =
        server.workspace.updateDocument other.text text version :=
      workspace_scheduleScan editDelay
    rw [hworkspace, Workspace.document?_updateDocument] at hopen
    split at hopen
    · rename_i hname
      rw [hname]
      exact fun hnone => hopen (Option.map_eq_none_iff.2 hnone)
    · exact hopen

theorem isNormal_closeDocument (h : server.IsNormal) (other : Uri) :
    (server.closeDocument other).IsNormal := by
  refine isNormal_congr h fun name hopen => ?_
  have hdocument : (server.closeDocument other).workspace.document? name =
      if name = other.text then none else server.workspace.document? name :=
    Workspace.document?_closeDocument
  rw [hdocument] at hopen
  split at hopen
  · exact absurd rfl hopen
  · exact hopen

theorem isNormal_changeSettings (h : server.IsNormal) (value : Json) :
    (server.changeSettings value).IsNormal := by
  refine isNormal_congr h fun name hopen => ?_
  rw [changeSettings] at hopen
  split at hopen
  · exact hopen
  · rename_i ws hws
    obtain ⟨settings, -, hset⟩ := Option.bind_eq_some_iff.1 hws
    rw [Workspace.setSettings?, Option.ite_none_left_eq_some, Option.some_inj] at hset
    rw [workspace_rescan, ← hset.2] at hopen
    exact hopen

/-- **Documents stay under normal URIs.** -/
theorem isNormal_handle (h : server.IsNormal)
    (hcall : ∀ other, call.document? = some other → ∃ written, Uri.read written = some other) :
    (server.handle disk client call).server.IsNormal := by
  cases call with
  | start | started | shutdown | codeAction | question => exact h
  | didOpen other language text version =>
    obtain ⟨written, hread⟩ := hcall other rfl
    exact isNormal_openDocument h hread language text version
  | didChange other text version => exact isNormal_changeDocument h other text version
  | didClose other => exact isNormal_closeDocument h other
  | didChangeConfiguration value => exact isNormal_changeSettings h value
  | executeCommand name arguments =>
    rw [handle]
    cases Command.ofName? name with
    | none => exact h
    | some command => exact isNormal_execute h

end Server
end EmojiLint
