import EmojiLint.Proofs.Server.Calls

/-!
# Documents do not interfere

A server keeps the clock, the settings and the scans to come for all of its documents together.  And
yet what it says about one document, and what it replies to questions about it, does not depend on
what becomes of the others: messages about other documents may be added, changed and left out at any
time.

* `Message.document?` — the document that a message is about, and `Input.isForeign`.
* `sights` — what is seen of a document while a server runs.
* `agree_step`, `agree_step_of_foreign` — one input, in two servers or in one.
* `sights_filter` — **messages about other documents do not matter**.
* `sights_eq_of_filter_eq` — servers whose other inputs are the same are seen to do the same.
-/

set_option autoImplicit false

namespace EmojiLint
namespace Server

open Debouncer

variable {server left right : Server} {uri : String} {disk : Disk} {client : Client}
  {method : Method} {message : Message}

/-! ## Messages about a document -/

/-- The document that a message is about, if it is understood. -/
def Message.document? (message : Message) : Option Uri := do
  let method ← Method.ofName? message.method
  let call ← Call.ofMessage? method message.params
  call.document?

/-- The request to shut down is about no document, and documents have normal URIs. -/
theorem of_document? {params : Option Json} {call : Call} {other : Uri}
    (h : Call.ofMessage? method params = some call) (hdocument : call.document? = some other) :
    method ≠ .shutdown ∧ ∃ written, Uri.read written = some other := by
  have hread : ∀ {value : Json}, documentUri? value = some other →
      ∃ written, Uri.read written = some other := fun hvalue =>
    let ⟨written, _, hwritten⟩ := Option.bind_eq_some_iff.1 hvalue
    ⟨written, hwritten⟩
  unfold Call.ofMessage? at h
  split at h
  · rw [← Option.some_inj.1 h] at hdocument
    cases hdocument
  · cases h
  · obtain ⟨value, -, hcall⟩ := Option.bind_eq_some_iff.1 h
    cases method with
    | shutdown | exit | cancel | remark => cases hcall
    | start | started | didChangeConfiguration | question =>
      rw [← Option.some_inj.1 hcall] at hdocument
      cases hdocument
    | didOpen =>
      simp only [Method.call?, didOpen?, bind, Option.bind_eq_some_iff] at hcall
      obtain ⟨uri, huri, language, -, text, -, version, -, hcall⟩ := hcall
      rw [← Option.some_inj.1 hcall] at hdocument
      exact ⟨by simp, hread (Option.some_inj.1 hdocument ▸ huri)⟩
    | didChange =>
      simp only [Method.call?, didChange?, bind, Option.bind_eq_some_iff] at hcall
      obtain ⟨changes, -, uri, huri, version, -, hcall⟩ := hcall
      rw [← Option.some_inj.1 hcall] at hdocument
      exact ⟨by simp, hread (Option.some_inj.1 hdocument ▸ huri)⟩
    | didClose =>
      obtain ⟨uri, huri, rfl⟩ := Option.map_eq_some_iff.1 hcall
      exact ⟨by simp, hread (Option.some_inj.1 hdocument ▸ huri)⟩
    | codeAction =>
      simp only [Method.call?, codeAction?, bind, Option.bind_eq_some_iff] at hcall
      obtain ⟨uri, huri, extent, -, hcall⟩ := hcall
      rw [← Option.some_inj.1 hcall] at hdocument
      exact ⟨by simp, hread (Option.some_inj.1 hdocument ▸ huri)⟩
    | executeCommand =>
      simp only [Method.call?, executeCommand?, bind, Option.bind_eq_some_iff] at hcall
      obtain ⟨name, -, hcall⟩ := hcall
      rw [← Option.some_inj.1 hcall] at hdocument
      cases hdocument

/-! ## Responses -/

/-- The server once it is known that a message comes at the right time. -/
def stoppedBy (server : Server) (method : Method) : Server :=
  if method = .shutdown then { server with stage := .stopped } else server

theorem Agree.stoppedBy (h : Agree uri left right) (method : Method) :
    Agree uri (left.stoppedBy method) (right.stoppedBy method) := by
  rw [Server.stoppedBy, Server.stoppedBy]
  split
  · exact ⟨rfl, h.settings, h.root, h.now, h.document, h.jobs⟩
  · exact h

theorem isNormal_stoppedBy (h : server.IsNormal) (method : Method) :
    (server.stoppedBy method).IsNormal := by
  rw [stoppedBy]
  split
  · exact h
  · exact h

/-- The response to a message that has an effect. -/
def Effect.response (effect : Effect) (message : Message) : Response where
  server := effect.server
  disk := effect.disk
  reply := if message.isRequest then some (.ok effect.answer) else none
  notices := effect.notices

/-- **The stage decides what becomes of a message**: it is refused before or after the server is
stopped, or it has the effect of the call that it is understood as. -/
theorem respond_of_stage (stage : Stage) (method : Method) (message : Message) :
    (∃ reply, ∀ (server : Server) (disk : Disk) (client : Client), server.stage = stage →
        server.respond disk client method message = { server, disk, reply }) ∨
      (∃ reply, ∀ (server : Server) (disk : Disk) (client : Client), server.stage = stage →
        server.respond disk client method message =
          { server := server.stoppedBy method, disk, reply }) ∨
      ∃ call, Call.ofMessage? method message.params = some call ∧
        ∀ (server : Server) (disk : Disk) (client : Client), server.stage = stage →
          server.respond disk client method message =
            ((server.stoppedBy method).handle disk client call).response message := by
  -- what is replied when the message is refused
  let refuse (refusal : Refusal) : Option (Except Refusal Answer) :=
    if message.isRequest then some (.error refusal) else none
  cases hrefusal : stage.refusal? method with
  | some refusal =>
    refine Or.inl ⟨refuse refusal, fun server disk client hstage => ?_⟩
    rw [respond, hstage, hrefusal]
  | none =>
    by_cases hkind : (message.isRequest != method.isRequest) = true
    · refine Or.inr (Or.inl ⟨refuse .invalidRequest, fun server disk client hstage => ?_⟩)
      rw [respond, hstage, hrefusal]
      exact if_pos hkind
    · cases hcall : Call.ofMessage? method message.params with
      | none =>
        refine Or.inr (Or.inl ⟨refuse .invalidParams, fun server disk client hstage => ?_⟩)
        rw [respond, hstage, hrefusal, hcall]
        exact if_neg hkind
      | some call =>
        cases call with
        | question =>
          refine Or.inr (Or.inl ⟨refuse .unknownMethod, fun server disk client hstage => ?_⟩)
          rw [respond, hstage, hrefusal, hcall]
          exact if_neg hkind
        | _ =>
          refine Or.inr (Or.inr ⟨_, rfl, fun server disk client hstage => ?_⟩)
          rw [respond, hstage, hrefusal, hcall]
          exact if_neg hkind

/-- Two servers in agreement respond alike to a message that is not about another document. -/
theorem agree_respond (disk : Disk) (client : Client) (h : Agree uri left right)
    (hleft : left.IsNormal) (hright : right.IsNormal)
    (hmethod : Method.ofName? message.method = some method)
    (hmessage : ∀ other, message.document? = some other → other.text = uri) :
    Agree uri (left.respond disk client method message).server
        (right.respond disk client method message).server ∧
      (left.respond disk client method message).notices.filterMap (Notice.shows? uri) =
        (right.respond disk client method message).notices.filterMap (Notice.shows? uri) ∧
      (left.respond disk client method message).reply =
        (right.respond disk client method message).reply := by
  rcases respond_of_stage right.stage method message with
    ⟨reply, heq⟩ | ⟨reply, heq⟩ | ⟨call, hcall, heq⟩
  · rw [heq left disk client h.stage, heq right disk client rfl]
    exact ⟨h, rfl, rfl⟩
  · rw [heq left disk client h.stage, heq right disk client rfl]
    exact ⟨h.stoppedBy method, rfl, rfl⟩
  · rw [heq left disk client h.stage, heq right disk client rfl]
    have hdocument : ∀ other, call.document? = some other → other.text = uri := by
      intro other hother
      refine hmessage other ?_
      simp only [Message.document?, hmethod, hcall, bind, Option.bind_some, hother]
    obtain ⟨hagree, hnotices, hanswer⟩ := agree_handle disk client (h.stoppedBy method)
      (isNormal_stoppedBy hleft method) (isNormal_stoppedBy hright method)
      hdocument
    refine ⟨hagree, hnotices, ?_⟩
    rw [Effect.response, Effect.response, hanswer]

/-- A server that responds to a message about another document stays as it was. -/
theorem agree_respond_of_foreign (server : Server) (disk : Disk) (client : Client) {other : Uri}
    (hmethod : Method.ofName? message.method = some method)
    (hmessage : message.document? = some other) (hother : other.text ≠ uri) :
    Agree uri server (server.respond disk client method message).server ∧
      (server.respond disk client method message).notices.filterMap (Notice.shows? uri) = [] := by
  obtain ⟨method', hmethod', hcalls⟩ := Option.bind_eq_some_iff.1 hmessage
  obtain rfl := Option.some_inj.1 (hmethod.symm.trans hmethod')
  obtain ⟨call, hcall, hdocument⟩ := Option.bind_eq_some_iff.1 hcalls
  have hrunning : server.stoppedBy method = server := if_neg (of_document? hcall hdocument).1
  rcases respond_of_stage server.stage method message with
    ⟨reply, heq⟩ | ⟨reply, heq⟩ | ⟨call', hcall', heq⟩
  · rw [heq server disk client rfl]
    exact ⟨Agree.refl uri server, rfl⟩
  · rw [heq server disk client rfl, hrunning]
    exact ⟨Agree.refl uri server, rfl⟩
  · obtain rfl := Option.some_inj.1 (hcall.symm.trans hcall')
    rw [heq server disk client rfl, hrunning]
    exact agree_handle_of_foreign hdocument hother

theorem isNormal_respond (h : server.IsNormal) :
    (server.respond disk client method message).server.IsNormal := by
  rcases respond_of_stage server.stage method message with
    ⟨reply, heq⟩ | ⟨reply, heq⟩ | ⟨call, hcall, heq⟩
  · rw [heq server disk client rfl]
    exact h
  · rw [heq server disk client rfl]
    exact isNormal_stoppedBy h method
  · rw [heq server disk client rfl]
    exact isNormal_handle (isNormal_stoppedBy h method) fun other hother =>
      (of_document? hcall hother).2

/-! ## Messages as they arrive -/

/-- What holds after every input. -/
structure IsSteady (server : Server) : Prop where
  normal : server.IsNormal
  /-- Every scan is still to come. -/
  quiet : ∀ entry ∈ server.scans.jobs, server.scans.now < entry.2.due

theorem isSteady_wait (h : server.IsNormal) (milliseconds : Nat) :
    (server.wait milliseconds).2.IsSteady :=
  ⟨h, fun _ hentry => lt_due_of_mem_runUntil hentry⟩

/-- A message with a method of the protocol is handled, and what is due at once is done. -/
theorem receive_of_method (hstage : server.stage ≠ .exited)
    (hmethod : Method.ofName? message.method = some method) (hexit : method ≠ .exit) :
    server.receive disk client message =
      let response := server.respond disk client method message
      { response with
        server := (response.server.wait 0).2
        notices := response.notices ++ (response.server.wait 0).1 } := by
  rw [receive, if_neg hstage, hmethod]
  cases method with
  | exit => exact absurd rfl hexit
  | _ => rfl

theorem receive_of_exited (hstage : server.stage = .exited) :
    server.receive disk client message = { server, disk } :=
  if_pos hstage

theorem receive_of_unknown (hstage : server.stage ≠ .exited)
    (hmethod : Method.ofName? message.method = none) :
    server.receive disk client message =
      { server, disk
        reply := if !message.isRequest || isOptional message.method then none
          else some (.error .unknownMethod) } := by
  rw [receive, if_neg hstage, hmethod]

theorem receive_of_exit (hstage : server.stage ≠ .exited)
    (hmethod : Method.ofName? message.method = some .exit) :
    server.receive disk client message = { server := { server with stage := .exited }, disk } := by
  rw [receive, if_neg hstage, hmethod]

theorem agree_receive (disk : Disk) (client : Client) (h : Agree uri left right)
    (hleft : left.IsNormal) (hright : right.IsNormal)
    (hmessage : ∀ other, message.document? = some other → other.text = uri) :
    Agree uri (left.receive disk client message).server
        (right.receive disk client message).server ∧
      (left.receive disk client message).notices.filterMap (Notice.shows? uri) =
        (right.receive disk client message).notices.filterMap (Notice.shows? uri) ∧
      (left.receive disk client message).reply = (right.receive disk client message).reply := by
  by_cases hstage : right.stage = .exited
  · rw [receive_of_exited hstage, receive_of_exited (h.stage.trans hstage)]
    exact ⟨h, rfl, rfl⟩
  have hstage' : left.stage ≠ .exited := h.stage ▸ hstage
  cases hmethod : Method.ofName? message.method with
  | none =>
    rw [receive_of_unknown hstage hmethod, receive_of_unknown hstage' hmethod]
    exact ⟨h, rfl, rfl⟩
  | some method =>
    by_cases hexit : method = .exit
    · subst hexit
      rw [receive_of_exit hstage hmethod, receive_of_exit hstage' hmethod]
      exact ⟨⟨rfl, h.settings, h.root, h.now, h.document, h.jobs⟩, rfl, rfl⟩
    · obtain ⟨hagree, hnotices, hreply⟩ :=
        agree_respond disk client h hleft hright hmethod hmessage
      obtain ⟨hwaited, hsaid⟩ := hagree.wait 0
      rw [receive_of_method hstage hmethod hexit, receive_of_method hstage' hmethod hexit]
      refine ⟨hwaited, ?_, hreply⟩
      rw [List.filterMap_append, List.filterMap_append, hnotices, hsaid]

theorem agree_receive_of_foreign (disk : Disk) (client : Client) (h : server.IsSteady) {other : Uri}
    (hmessage : message.document? = some other) (hother : other.text ≠ uri) :
    Agree uri server (server.receive disk client message).server ∧
      (server.receive disk client message).notices.filterMap (Notice.shows? uri) = [] := by
  by_cases hstage : server.stage = .exited
  · rw [receive_of_exited hstage]
    exact ⟨Agree.refl uri server, rfl⟩
  obtain ⟨method, hmethod, hcalls⟩ := Option.bind_eq_some_iff.1 hmessage
  have hexit : method ≠ .exit := by
    rintro rfl
    obtain ⟨call, hcall, -⟩ := Option.bind_eq_some_iff.1 hcalls
    unfold Call.ofMessage? at hcall
    split at hcall
    · contradiction
    · cases hcall
    · obtain ⟨value, -, hcall⟩ := Option.bind_eq_some_iff.1 hcall
      cases hcall
  obtain ⟨hagree, hnotices⟩ :=
    agree_respond_of_foreign server disk client hmethod hmessage hother
  -- The scan of the document was not due before, and it has not changed.
  have hquiet : (Uri.isScannable uri = true →
      (server.respond disk client method message).server.workspace.document? uri ≠ none) →
      ∀ entry ∈ (server.respond disk client method message).server.jobsOf uri,
        (server.respond disk client method message).server.scans.now < entry.2.due := by
    intro hopen entry hentry
    rw [← hagree.document] at hopen
    rw [← hagree.jobs hopen] at hentry
    rw [← hagree.now]
    exact h.quiet entry (mem_under.1 hentry).1
  obtain ⟨hwaited, hsaid⟩ := agree_wait_zero hquiet
  rw [receive_of_method hstage hmethod hexit]
  refine ⟨hagree.trans hwaited, ?_⟩
  rw [List.filterMap_append, hnotices, hsaid, List.nil_append]

theorem isSteady_receive (h : server.IsSteady) :
    (server.receive disk client message).server.IsSteady := by
  by_cases hstage : server.stage = .exited
  · rw [receive_of_exited hstage]
    exact h
  cases hmethod : Method.ofName? message.method with
  | none =>
    rw [receive_of_unknown hstage hmethod]
    exact h
  | some method =>
    by_cases hexit : method = .exit
    · subst hexit
      rw [receive_of_exit hstage hmethod]
      exact ⟨h.normal, h.quiet⟩
    · rw [receive_of_method hstage hmethod hexit]
      exact isSteady_wait (isNormal_respond h.normal) 0

/-! ## Inputs -/

/-- What happens to a server. -/
inductive Input
  /-- A message arrives.  The disk and the editor may have changed in any way before. -/
  | message (disk : Disk) (client : Client) (message : Message)
  /-- A millisecond passes.  Longer pauses are made of them. -/
  | tick

/-- What is seen of a document. -/
inductive Sight
  /-- All its problems are published. -/
  | published (time : Nat) (view : Shown)
  /-- A message that is not about another document is replied to, or not. -/
  | replied (time : Nat) (reply : Option (Except Refusal Answer))

/-- Whether an input is a message about another document. -/
def Input.isForeign (uri : String) : Input → Bool
  | .message _ _ message => message.document?.any fun other => other.text ≠ uri
  | .tick => false

/-- The server after an input. -/
def step (server : Server) : Input → Server
  | .message disk client message => (server.receive disk client message).server
  | .tick => (server.wait 1).2

/-- What is seen of a document because of an input. -/
def sightsOf (uri : String) (server : Server) (input : Input) : List Sight :=
  match input with
  | .message disk client message =>
    let response := server.receive disk client message
    (if input.isForeign uri then [] else [.replied server.scans.now response.reply]) ++
      (response.notices.filterMap (Notice.shows? uri)).map (.published server.scans.now)
  | .tick =>
    ((server.wait 1).1.filterMap (Notice.shows? uri)).map (.published (server.scans.now + 1))

/-- What is seen of a document while a server runs. -/
def sights (uri : String) (server : Server) : List Input → List Sight
  | [] => []
  | input :: rest => server.sightsOf uri input ++ (server.step input).sights uri rest

/-- One input that is not about another document. -/
theorem agree_step (h : Agree uri left right) (hleft : left.IsNormal) (hright : right.IsNormal)
    {input : Input} (hinput : input.isForeign uri = false) :
    Agree uri (left.step input) (right.step input) ∧
      left.sightsOf uri input = right.sightsOf uri input := by
  cases input with
  | message disk client message =>
    have hmessage : ∀ other, message.document? = some other → other.text = uri := by
      intro other hother
      have hforeign : (message.document?.any fun other => other.text ≠ uri) = false := hinput
      simpa [hother] using hforeign
    obtain ⟨hagree, hnotices, hreply⟩ :=
      agree_receive disk client h hleft hright hmessage
    refine ⟨hagree, ?_⟩
    simp only [sightsOf, hnotices, hreply, h.now]
  | tick =>
    obtain ⟨hagree, hnotices⟩ := h.wait 1
    refine ⟨hagree, ?_⟩
    rw [sightsOf, sightsOf, hnotices, h.now]

/-- A message about another document. -/
theorem agree_step_of_foreign (h : server.IsSteady) {input : Input}
    (hinput : input.isForeign uri = true) :
    Agree uri server (server.step input) ∧ server.sightsOf uri input = [] := by
  cases input with
  | message disk client message =>
    obtain ⟨other, hother, hne⟩ := (Option.any_eq_true _ _).1 hinput
    obtain ⟨hagree, hnotices⟩ :=
      agree_receive_of_foreign disk client h hother (of_decide_eq_true hne)
    refine ⟨hagree, ?_⟩
    rw [sightsOf, if_pos hinput, hnotices]
    rfl
  | tick => cases hinput

theorem isSteady_step (h : server.IsSteady) (input : Input) : (server.step input).IsSteady := by
  cases input with
  | message disk client message => exact isSteady_receive h
  | tick => exact isSteady_wait h.normal 1

theorem isSteady_start : ({} : Server).IsSteady where
  normal _ hopen := absurd rfl hopen
  quiet _ hentry := absurd hentry List.not_mem_nil

/-- **Messages about other documents do not matter.** -/
theorem sights_filter (h : Agree uri left right) (hleft : left.IsSteady) (hright : right.IsSteady)
    (inputs : List Input) :
    left.sights uri inputs =
      right.sights uri (inputs.filter fun input => !input.isForeign uri) := by
  induction inputs generalizing left right with
  | nil => rfl
  | cons input rest ih =>
    cases hinput : input.isForeign uri with
    | true =>
      obtain ⟨hagree, hnothing⟩ := agree_step_of_foreign hleft hinput
      rw [List.filter_cons_of_neg (by rw [hinput]; decide), sights, hnothing, List.nil_append,
        ih (hagree.symm.trans h) (isSteady_step hleft input) hright]
    | false =>
      obtain ⟨hagree, hsame⟩ := agree_step h hleft.normal hright.normal hinput
      rw [List.filter_cons_of_pos (by rw [hinput]; decide), sights, sights, hsame,
        ih hagree (isSteady_step hleft input) (isSteady_step hright input)]

/-- **Documents do not interfere.**  When two servers run, and but for the messages about other
documents the same happens to both at the same times, then the same is published about a document at
the same times, and the same is replied to all but those messages. -/
theorem sights_eq_of_filter_eq (uri : String) {inputs inputs' : List Input}
    (h : (inputs.filter fun input => !input.isForeign uri) =
      inputs'.filter fun input => !input.isForeign uri) :
    ({} : Server).sights uri inputs = ({} : Server).sights uri inputs' := by
  rw [sights_filter (Agree.refl uri {}) isSteady_start isSteady_start inputs, h,
    ← sights_filter (Agree.refl uri {}) isSteady_start isSteady_start inputs']

/-- The input by which a conversation begins. -/
def startInput : Input :=
  .message {} (fun _ => true) ⟨true, "initialize", some (.object [("capabilities", .object [])])⟩

/-- A document is opened. -/
def openInput (uri text : String) : Input :=
  .message {} (fun _ => true) ⟨false, "textDocument/didOpen", some (.object
    [("textDocument", .object [("uri", .string uri), ("languageId", .string "rust"),
      ("version", .whole 1), ("text", .string text)])])⟩

/-- The settings change. -/
def settingsInput (severity : String) : Input :=
  .message {} (fun _ => true) ⟨false, "workspace/didChangeConfiguration", some (.object
    [("settings", .object [("severity", .string severity)])])⟩

/-- A document is published twice, whether or not another one is open. -/
theorem sights_beside_another :
    let quiet := [startInput, openInput "file:///a" "😀", settingsInput "hint", .tick]
    let busy := [startInput, openInput "file:///b" "😀", openInput "file:///a" "😀",
      settingsInput "hint", .tick]
    (({} : Server).sights "file:///a" quiet).length = 5 ∧
      ({} : Server).sights "file:///a" busy = ({} : Server).sights "file:///a" quiet := by
  have hforeign : (openInput "file:///b" "😀").isForeign "file:///a" = true := by decide +kernel
  have hstart : startInput.isForeign "file:///a" = false := by decide +kernel
  refine ⟨by decide +kernel, sights_eq_of_filter_eq "file:///a" ?_⟩
  simp only [List.filter_cons, hforeign, hstart, Bool.not_true, Bool.false_eq_true, if_false]

end Server
end EmojiLint
