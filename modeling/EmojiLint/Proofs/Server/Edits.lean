import EmojiLint.Proofs.Removal
import EmojiLint.Proofs.Server.PassedOver
import EmojiLint.Proofs.Text.Lines

/-!
# What the edits of the server mean

A checker names bytes, and an editor lines and columns.  What the server sends is read by the editor
from its own copy of the text, so it means the right bytes only if every position leads back to the
offset that it was made from.

* `Extent.Denotes` — the two ends of an extent lead back to those of a span.
* `Extent.DenotesEmoji` — and the extent is as wide as the emoji that it holds, on one line.
* `Server.DocumentEdit.IsMeant` — an edit deletes a diagnostic or replaces the whole text.
* `Server.Response.Sends` — what counts as an edit: one that is asked for, and one that is offered.
* `Server.isMeant_of_sends_receive` — whatever message arrives, only such edits are sent.
* `positions_lead_back` — that, and what it rests on: offsets, diagnostics, a whole text.
-/

set_option autoImplicit false

namespace EmojiLint

open LineIndex
open Text (byteLength unitLength)

/-- The two ends of an extent lead back to those of a span. -/
structure Extent.Denotes (extent : Extent) (text : List Char) (s : Span) : Prop where
  start : (ofText text).offsetOf text extent.start = s.start
  stop : (ofText text).offsetOf text extent.stop = s.stop

/-- An extent leads back to an emoji of a text, lies on one line and is as wide as the emoji. -/
structure Extent.DenotesEmoji (extent : Extent) (text : List Char) (s : Span) : Prop
    extends extent.Denotes text s where
  line : extent.start.line = extent.stop.line
  column : ∃ before word after, text = before ++ (word ++ after) ∧ word ∈ Emoji.grammar ∧
    s = ⟨byteLength before, byteLength word⟩ ∧
    extent.stop.column = extent.start.column + unitLength word

variable {text : List Char} {s : Span}

/-! ## Extents of spans -/

/-- A span that begins and ends between two characters is found again from its extent. -/
theorem denotes_extentOf (before word after : List Char) :
    ((ofText (before ++ (word ++ after))).extentOf (before ++ (word ++ after))
      ⟨byteLength before, byteLength word⟩).Denotes (before ++ (word ++ after))
      ⟨byteLength before, byteLength word⟩ := by
  refine ⟨offsetOf_positionOf before (word ++ after), ?_⟩
  have hstop := offsetOf_positionOf (before ++ word) after
  rw [List.append_assoc, Text.byteLength_append] at hstop
  exact hstop

/-- The span of a whole text. -/
theorem denotes_extentOf_whole (text : List Char) :
    ((ofText text).extentOf text ⟨0, byteLength text⟩).Denotes text ⟨0, byteLength text⟩ := by
  have h := denotes_extentOf [] text []
  rw [List.append_nil] at h
  exact h

/-- **The extent of an emoji that was found.** -/
theorem denotesEmoji_of_mem_find {text : String} (hs : s ∈ Emoji.find text) :
    ((ofText text.toList).extentOf text.toList s).DenotesEmoji text.toList s := by
  obtain ⟨before, word, after, htext, hword, rfl⟩ := Emoji.exists_of_mem_find hs
  have hstop := positionOf_append_word (Emoji.lineFeed_notMem hword) before after
  rw [Text.byteLength_append] at hstop
  rw [htext]
  refine ⟨denotes_extentOf before word after, ?_, before, word, after, rfl, hword, rfl, ?_⟩
  · exact (congrArg Position.line hstop).symm
  · exact congrArg Position.column hstop

/-! ## Diagnostics -/

theorem span_mem_find {settings : Settings} {file : Option String} {text language : String}
    {d : Diagnostic} (hd : d ∈ diagnose settings file text language) :
    d.span ∈ Emoji.find text := by
  obtain ⟨s, hs, rfl⟩ := List.mem_map.1 hd
  exact List.mem_of_mem_filter hs

/-- The diagnostics of an open document are in its text. -/
theorem span_mem_find_of_mem_diagnostics {ws : Workspace} {uri : String} {doc : Document}
    (hdoc : ws.document? uri = some doc) {d : Diagnostic} (hd : d ∈ ws.diagnostics uri) :
    d.span ∈ Emoji.find doc.text := by
  rw [Workspace.diagnostics, hdoc] at hd
  dsimp only at hd
  split at hd
  · cases hd
  · exact span_mem_find hd

/-! ## Edits -/

/-- What an edit is meant to do to the document that it names: delete a diagnostic, or replace the
whole text by what is left without emoji. -/
def Server.DocumentEdit.IsMeant (edit : Server.DocumentEdit) (ws : Workspace) : Prop :=
  ∃ doc, ws.document? edit.uri = some doc ∧
    ((∃ d ∈ ws.diagnostics edit.uri, edit.extent.DenotesEmoji doc.text.toList d.span ∧
        edit.newText = "") ∨
      edit.extent.Denotes doc.text.toList ⟨0, byteLength doc.text.toList⟩ ∧
        edit.newText = Emoji.remove doc.text)

namespace Server

/-- An effect sends an edit when it asks the editor to apply it, and when it offers it. -/
def Effect.Sends (effect : Effect) (edit : DocumentEdit) : Prop :=
  .applyEdit edit ∈ effect.notices ∨
    ∃ actions, effect.answer = .actions actions ∧ ∃ action ∈ actions, action.edit = edit

/-- A response sends an edit in the same two ways. -/
def Response.Sends (response : Response) (edit : DocumentEdit) : Prop :=
  .applyEdit edit ∈ response.notices ∨ ∃ actions,
    response.reply = some (.ok (.actions actions)) ∧ ∃ action ∈ actions, action.edit = edit

variable {server : Server} {ws : Workspace} {uri : String} {disk : Disk} {client : Client}
  {edit : DocumentEdit}

theorem isMeant_of_removalEdit? (h : removalEdit? ws uri = some edit) : edit.IsMeant ws := by
  simp only [removalEdit?, bind, Option.bind_eq_some_iff] at h
  obtain ⟨doc, hdoc, whole, hwhole, h⟩ := h
  rw [Workspace.removeAll?, hdoc, Option.bind_some] at hwhole
  obtain rfl := eq_of_removeAllEdit?_eq_some hwhole
  obtain rfl := Option.some_inj.1 h
  exact ⟨doc, hdoc, Or.inr ⟨denotes_extentOf_whole _, rfl⟩⟩

theorem isMeant_of_mem_codeActions {extent : Extent} {action : CodeAction}
    (h : action ∈ codeActions ws uri extent) : action.edit.IsMeant ws := by
  rw [codeActions] at h
  split at h
  · cases h
  · next doc hdoc =>
    obtain ⟨⟨d, fix⟩, hfix, rfl⟩ := List.mem_map.1 h
    obtain ⟨d', hd, heq⟩ := List.mem_map.1 hfix
    obtain ⟨rfl, rfl⟩ := Prod.mk.inj heq
    have hmem := List.mem_of_mem_filter hd
    have hfind := span_mem_find_of_mem_diagnostics hdoc hmem
    exact ⟨doc, hdoc, Or.inl ⟨d', hmem, denotesEmoji_of_mem_find hfind, rfl⟩⟩

/-- Every notice of a command that asks for an edit. -/
theorem isMeant_of_mem_execute {command : Command} {arguments : List Json}
    (h : .applyEdit edit ∈ (server.execute disk client command arguments).2.2) :
    edit.IsMeant server.workspace := by
  cases huris : uriArguments command.schemes arguments with
  | nil =>
    simp only [execute, huris] at h
    cases h
  | cons uri more =>
    simp only [execute, huris] at h
    cases command with
    | removeEmoji =>
      obtain ⟨edit', hedit, heq⟩ := Option.map_eq_some_iff.1 (Option.mem_toList.1 h)
      obtain rfl := Notice.applyEdit.inj heq
      exact isMeant_of_removalEdit? hedit
    | removeFromFiles =>
      rcases List.mem_append.1 h with h | h
      · refine forall_mem_removal
          (P := fun notice => ∀ edit, notice = .applyEdit edit → edit.IsMeant server.workspace) ?_
          (uri :: more) ?_ _ h edit rfl
        · intro uri edit hedit edit' heq
          exact Notice.applyEdit.inj heq ▸ isMeant_of_removalEdit? hedit
        · exact fun _ hmem => absurd hmem List.not_mem_nil
      · cases List.mem_singleton.1 h
    | exclude target =>
      dsimp only [exclude] at h
      split at h
      · cases h
      · split at h
        · cases List.mem_singleton.1 h
        · cases List.mem_singleton.1 h

/-- What a message does sends only such edits. -/
theorem isMeant_of_sends {call : Call} (h : (server.handle disk client call).Sends edit) :
    edit.IsMeant server.workspace := by
  cases call with
  | executeCommand name arguments =>
    rw [handle] at h
    rcases h with h | ⟨actions, hactions, _⟩
    · split at h
      · cases h
      · exact isMeant_of_mem_execute h
    · split at hactions
      · cases hactions
      · cases hactions
  | codeAction uri extent =>
    rcases h with h | ⟨actions, hactions, action, haction, rfl⟩
    · cases h
    · dsimp only [handle] at hactions
      split at hactions
      · cases hactions
      · obtain rfl := Answer.actions.inj hactions
        exact isMeant_of_mem_codeActions haction
  | started | didClose =>
    rcases h with h | ⟨actions, hactions, _⟩
    · cases List.mem_singleton.1 h
    · cases hactions
  | _ =>
    rcases h with h | ⟨actions, hactions, _⟩
    · cases h
    · cases hactions

/-- A response without notices or an answer sends no edit. -/
theorem not_sends {response : Response} (hnotices : response.notices = [])
    (hreply : ∀ answer, response.reply ≠ some (.ok answer)) : ¬ response.Sends edit := by
  rintro (h | ⟨actions, h, _⟩)
  · rw [hnotices] at h
    cases h
  · exact hreply _ h

theorem not_sends_refusal {refusal : Refusal} {request : Bool} :
    ¬ Response.Sends { server, disk, reply := if request then some (.error refusal) else none }
      edit := by
  refine not_sends rfl fun answer h => ?_
  cases request with
  | true => cases h
  | false => cases h

theorem isMeant_of_sends_respond {method : Method} {message : Message}
    (h : (server.respond disk client method message).Sends edit) :
    edit.IsMeant server.workspace := by
  rw [respond] at h
  dsimp only at h
  -- The stage of the server changes on the way, but not its workspace.
  have hworkspace : (if method = .shutdown then { server with stage := .stopped }
      else server : Server).workspace = server.workspace := by
    split <;> rfl
  split at h
  · exact absurd h not_sends_refusal
  · rw [← hworkspace]
    generalize (if method = .shutdown then { server with stage := .stopped } else server) = stopped
      at h
    split at h
    · exact absurd h not_sends_refusal
    · split at h
      · exact absurd h not_sends_refusal
      · exact absurd h not_sends_refusal
      · next call _ _ =>
        refine @isMeant_of_sends stopped disk client edit call ?_
        rcases h with h | ⟨actions, hreply, haction⟩
        · exact Or.inl h
        · cases hrequest : message.isRequest with
          | true =>
            rw [hrequest, if_pos rfl] at hreply
            exact Or.inr ⟨actions, Except.ok.inj (Option.some.inj hreply), haction⟩
          | false =>
            rw [hrequest, if_neg Bool.false_ne_true] at hreply
            cases hreply

/-- What is said while time passes is about diagnostics. -/
theorem applyEdit_notMem_wait {milliseconds : Nat} :
    .applyEdit edit ∉ (server.wait milliseconds).1 := by
  intro h
  dsimp only [wait] at h
  split at h
  · obtain ⟨event, _, hscan⟩ := List.mem_filterMap.1 h
    obtain ⟨doc, _, heq⟩ := Option.map_eq_some_iff.1 hscan
    cases heq
  · cases h

/-- **Every edit that the server sends means what the checker meant**, whatever message arrives. -/
theorem isMeant_of_sends_receive {message : Message}
    (h : (server.receive disk client message).Sends edit) : edit.IsMeant server.workspace := by
  rw [receive] at h
  split at h
  · exact absurd h (not_sends rfl fun _ heq => nomatch heq)
  · split at h
    · dsimp only at h
      refine absurd h (not_sends rfl fun answer heq => ?_)
      split at heq
      · cases heq
      · cases heq
    · exact absurd h (not_sends rfl fun _ heq => nomatch heq)
    · next method _ _ =>
      refine @isMeant_of_sends_respond server disk client edit method message ?_
      rcases h with h | hreply
      · exact Or.inl ((List.mem_append.1 h).resolve_right applyEdit_notMem_wait)
      · exact Or.inr hreply

end Server

/-- **Positions lead back to the offsets that they were made from.**  So do the extents of all
diagnostics, each of which lies on one line and is as wide as its emoji, and so does the extent of
the whole text.  Every edit that the server sends therefore denotes the bytes that the checker
meant. -/
theorem positions_lead_back :
    (∀ before after : List Char, (ofText (before ++ after)).offsetOf (before ++ after)
      ((ofText (before ++ after)).positionOf (before ++ after) (byteLength before)) =
        byteLength before) ∧
    (∀ (settings : Settings) (file : Option String) (text language : String),
      ∀ d ∈ diagnose settings file text language,
        ((ofText text.toList).extentOf text.toList d.span).DenotesEmoji text.toList d.span) ∧
    (∀ (ws : Workspace) (uri : String) (doc : Document), ws.document? uri = some doc →
      ∀ d ∈ ws.diagnostics uri,
        (Server.problem (ofText doc.text.toList) doc.text.toList d).extent.DenotesEmoji
          doc.text.toList d.span) ∧
    (∀ (text : String) (edit : TextEdit), removeAllEdit? text = some edit →
      ((ofText text.toList).extentOf text.toList edit.span).Denotes text.toList
        ⟨0, byteLength text.toList⟩) ∧
    (∀ (server : Server) (disk : Disk) (client : Client) (message : Server.Message)
      (edit : Server.DocumentEdit), (server.receive disk client message).Sends edit →
        edit.IsMeant server.workspace) := by
  refine ⟨offsetOf_positionOf, ?_, ?_, ?_, ?_⟩
  · intro settings file text language d hd
    exact denotesEmoji_of_mem_find (span_mem_find hd)
  · intro ws uri doc hdoc d hd
    exact denotesEmoji_of_mem_find (span_mem_find_of_mem_diagnostics hdoc hd)
  · intro text edit hedit
    rw [eq_of_removeAllEdit?_eq_some hedit]
    exact denotes_extentOf_whole _
  · intro server disk client message edit hsends
    exact Server.isMeant_of_sends_receive hsends

/-- The request to remove the emoji of a document. -/
def Server.removalRequest (uri : String) : Server.Message where
  isRequest := true
  method := "workspace/executeCommand"
  params := some (.object [("command", .string "emojiEraser.removeEmoji"),
    ("arguments", .array [.string uri])])

/-- An edit of an open document is asked for, and it means what the checker meant. -/
theorem positions_lead_back_request : ∃ uri : Uri, Uri.read "file:///a" = some uri ∧
    ∃ edit : Server.DocumentEdit,
      ((Session.opened uri).server.receive {} (fun _ => true)
        (Server.removalRequest "file:///a")).Sends edit ∧
      edit.extent = ⟨⟨0, 0⟩, ⟨0, 2⟩⟩ ∧ edit.IsMeant (Session.opened uri).server.workspace := by
  let uri : Uri :=
    { scheme := "file".toList
      authority := some { host := [] }
      path := .rooted ["a".toList] }
  have hedit : .applyEdit ⟨"file:///a", ⟨⟨0, 0⟩, ⟨0, 2⟩⟩, ""⟩ ∈
      ((Session.opened uri).server.receive {} (fun _ => true)
        (Server.removalRequest "file:///a")).notices := by decide +kernel
  obtain ⟨-, -, -, -, hmeant⟩ := positions_lead_back
  exact ⟨uri, by decide +kernel, _, .inl hedit, rfl, hmeant _ _ _ _ _ (.inl hedit)⟩

end EmojiLint
