import EmojiLint.Proofs.Server.Publication

/-!
# Documents that are passed over

A rescan passes a document over when the text of its URI reads as another one.  What was shown of it
before is shown still, although the settings have changed.

* `Session.restyled` — a session in which a document is scanned and the severity is changed then.
* `Session.stale_restyled` — the document is passed over if its URI does not read back.
* `upToDate_iff` — **a document is shown as it should be, in every session, exactly when its URI
  reads back**.
-/

set_option autoImplicit false

namespace EmojiLint

open Server

/-- Without patterns nothing is excluded. -/
theorem isExcluded_of_excludePatterns_eq_nil {ws : Workspace} {uri : String}
    (h : ws.settings.excludePatterns = []) : ws.isExcluded uri = false := by
  rw [Workspace.isExcluded]
  split
  · rfl
  · rw [Settings.matcher, h]
    rfl

namespace Session

variable {uri : Uri} {severity : Severity}

/-- A workspace with one document, which is an emoji. -/
def sampleWorkspace (uri : Uri) (severity : Severity) : Workspace where
  documents := [(uri.text, ⟨uri.path?, "😀", "plaintext", 1⟩)]
  settings := { severity := severity }

/-- The problem with that document. -/
def sampleProblems (severity : Severity) : List Problem :=
  problems "😀" (diagnose { severity := severity } none "😀" "plaintext")

theorem severity_sampleProblems (severity : Severity) :
    (sampleProblems severity).map Problem.severity = [severity] := by
  have hreport : reportable "😀" "plaintext" {} = [⟨0, 4⟩] := by decide +kernel
  rw [sampleProblems, problems, diagnose, hreport]
  rfl

theorem document?_sampleWorkspace : (sampleWorkspace uri severity).document? uri.text =
    some ⟨uri.path?, "😀", "plaintext", 1⟩ :=
  List.lookup_cons_self

theorem document?_sampleWorkspace_of_ne {other : String} (h : other ≠ uri.text) :
    (sampleWorkspace uri severity).document? other = none := by
  rw [sampleWorkspace, Workspace.document?, Assoc.lookup_cons, if_neg h, List.lookup_nil]

theorem diagnostics_sampleWorkspace (h : Uri.isScannable uri.text = true) :
    (sampleWorkspace uri severity).diagnostics uri.text =
      diagnose { severity := severity } none "😀" "plaintext" := by
  have hexcluded : (sampleWorkspace uri severity).isExcluded uri.text = false :=
    isExcluded_of_excludePatterns_eq_nil rfl
  rw [Workspace.diagnostics, document?_sampleWorkspace, hexcluded, h]
  rfl

theorem scan_sampleWorkspace (h : Uri.isScannable uri.text = true) :
    scan (sampleWorkspace uri severity) uri.text =
      some (.publish uri.text (sampleProblems severity) (some 1)) := by
  rw [scan, document?_sampleWorkspace, Option.map_some, diagnostics_sampleWorkspace h]
  rfl

/-- A session in which the document is opened, -/
def opened (uri : Uri) : Session :=
  (start {} (fun _ => true) none none).step
    (.call {} (fun _ => true) (.didOpen uri "plaintext" "😀" 1))

/-- and scanned, -/
def scanned (uri : Uri) : Session :=
  (opened uri).step (.pause 0)

/-- before the settings change. -/
def restyled (uri : Uri) : Session :=
  (scanned uri).step
    (.call {} (fun _ => true) (.didChangeConfiguration (.object [("severity", .string "hint")])))

theorem reachable_restyled (uri : Uri) : (restyled uri).Reachable := by
  have hstart := Reachable.start {} (fun _ => true) none none
  have hopened : (opened uri).Reachable := hstart.step trivial
  have hscanned : (scanned uri).Reachable := hopened.step trivial
  exact hscanned.step trivial

theorem opened_eq (h : Uri.isScannable uri.text = true) : opened uri =
    ⟨⟨.running, sampleWorkspace uri .error, Debouncer.schedule {} uri.text 0 () []⟩, []⟩ := by
  rw [opened, step, Server.handle, Server.openDocument, Server.scheduleScan, if_pos h]
  rfl

theorem scanned_eq (h : Uri.isScannable uri.text = true) : scanned uri =
    ⟨⟨.running, sampleWorkspace uri .error, {}⟩,
      [.publish uri.text (sampleProblems .error) (some 1)]⟩ := by
  rw [scanned, opened_eq h, step, wait, Debouncer.advance_schedule]
  show Session.mk ⟨.running, sampleWorkspace uri .error, {}⟩
    ([(uri.text, ())].filterMap fun event => scan (sampleWorkspace uri .error) event.1) = _
  rw [List.filterMap_cons, scan_sampleWorkspace h]
  rfl

theorem restyled_eq (h : Uri.isScannable uri.text = true) : restyled uri =
    ⟨rescan ⟨.running, sampleWorkspace uri .hint, {}⟩,
      [.publish uri.text (sampleProblems .error) (some 1)]⟩ := by
  rw [restyled, scanned_eq h]
  rfl

theorem due_rescan_sampleWorkspace (h : Uri.isScannable uri.text = true) :
    (rescan ⟨.running, sampleWorkspace uri severity, {}⟩).due uri.text =
      (sampleProblems severity, some 1) := by
  have hdocument : (rescan ⟨.running, sampleWorkspace uri severity, {}⟩).workspace.document?
      uri.text = some ⟨uri.path?, "😀", "plaintext", 1⟩ := by
    rw [workspace_rescan]
    exact document?_sampleWorkspace
  rw [due_of_document?_eq_some hdocument h, workspace_rescan, diagnostics_sampleWorkspace h]
  rfl

/-- **A document is passed over when the settings change**, if its URI does not read back. -/
theorem stale_restyled (h : Uri.isScannable uri.text = true) (hread : ¬ Uri.ReadsBack uri.text) :
    (restyled uri).server.scans.isPending uri.text = false ∧
      shown (restyled uri).said uri.text ≠ (restyled uri).server.due uri.text := by
  rw [restyled_eq h]
  refine ⟨?_, ?_⟩
  · rw [Bool.eq_false_iff]
    intro hpending
    rcases isPending_rescan.1 hpending with hpending | ⟨⟨text, hopen, htext⟩, _⟩
    · cases hpending
    -- No other document is open whose URI could be read as this one.
    · have hself : text = uri.text := by
        by_contra hne
        exact hopen (document?_sampleWorkspace_of_ne hne)
      exact hread (hself ▸ htext)
  · rw [due_rescan_sampleWorkspace h, shown, List.filterMap_cons, Notice.shows?, if_pos rfl]
    intro heq
    have hproblems : sampleProblems .error = sampleProblems .hint := congrArg Prod.fst heq
    have hseverity := congrArg (List.map Problem.severity) hproblems
    rw [severity_sampleProblems, severity_sampleProblems] at hseverity
    cases hseverity

end Session

/-- **A document that waits for no scan is shown as it should be, in every session, exactly when its
URI reads back.** -/
theorem upToDate_iff (uri : Uri) :
    (∀ s : Session, s.Reachable → s.server.scans.isPending uri.text = false →
      shown s.said uri.text = s.server.due uri.text) ↔
      (Uri.isScannable uri.text = true → Uri.ReadsBack uri.text) := by
  refine ⟨fun h hscannable => ?_, fun hread s hs hpending => ?_⟩
  · by_contra hnot
    obtain ⟨hpending, hshown⟩ := Session.stale_restyled hscannable hnot
    exact hshown (h _ (Session.reachable_restyled uri) hpending)
  · refine ((invariant_of_reachable hs).settled uri.text hread).resolve_right fun ⟨hwaits, _⟩ => ?_
    rw [hpending] at hwaits
    cases hwaits

/-- A URI that reads back, of a document that was opened, scanned and shown. -/
theorem upToDate_iff_scanned : ∃ uri : Uri, Uri.read "file:///a" = some uri ∧
    Uri.isScannable uri.text = true ∧ Uri.ReadsBack uri.text ∧
      (Session.scanned uri).Reachable ∧
        (Session.scanned uri).server.scans.isPending uri.text = false ∧
          shown (Session.scanned uri).said uri.text = (Session.scanned uri).server.due uri.text := by
  let uri : Uri :=
    { scheme := "file".toList
      authority := some { host := [] }
      path := .rooted ["a".toList] }
  have hscannable : Uri.isScannable uri.text = true := by decide +kernel
  have hread : Uri.ReadsBack uri.text := by
    rw [Uri.ReadsBack]
    decide +kernel
  have hopened : (Session.opened uri).Reachable :=
    (Session.Reachable.start {} (fun _ => true) none none).step trivial
  have hreachable : (Session.scanned uri).Reachable :=
    hopened.step trivial
  have hpending : (Session.scanned uri).server.scans.isPending uri.text = false := by
    rw [Session.scanned_eq hscannable]
    rfl
  exact ⟨uri, by decide +kernel, hscannable, hread, hreachable, hpending,
    (upToDate_iff uri).2 (fun _ => hread) _ hreachable hpending⟩

/-- The normal form of a URI with two slashes before a drive does not read back. -/
theorem exists_stale : ∃ uri : Uri, Uri.read "file://a//C:/x" = some uri ∧
    ∃ s : Session, s.Reachable ∧ s.server.scans.isPending uri.text = false ∧
      shown s.said uri.text ≠ s.server.due uri.text := by
  let uri : Uri :=
    { scheme := "file".toList
      authority := some { host := "a".toList }
      path := .rooted ["C:".toList, "x".toList] }
  have hscannable : Uri.isScannable uri.text = true := by decide +kernel
  have hread : ¬ Uri.ReadsBack uri.text := by
    rw [Uri.ReadsBack]
    decide +kernel
  exact ⟨uri, by decide +kernel, Session.restyled uri, Session.reachable_restyled uri,
    Session.stale_restyled hscannable hread⟩

end EmojiLint
