import EmojiLint.Proofs.Server.Publication

/-!
# Messages as they arrive

A session is told in terms of messages that were understood.  The server is given messages as the
editor wrote them, and it does at once the scans that are due right away.  Here it is shown that
this makes no difference: whatever the editor writes, a session goes on as a session.

* `respond_cases` — a message has no effect, or it has that of the call it was understood as.
* `reachable_receive` — a message that arrives leads from one session to another.
-/

set_option autoImplicit false

namespace EmojiLint

open Server

/-- Whether a session goes on after a call. -/
def Server.Call.GoesOn : Call → Prop
  | start _ _ | shutdown => False
  | _ => True

variable {server : Server} {disk : Disk} {client : Client} {method : Method} {message : Message}

/-- Only the first request and the one to shut down are understood as such. -/
theorem goesOn_of_ofMessage? {params : Option Json} {call : Call}
    (h : Call.ofMessage? method params = some call) (hstart : method ≠ .start)
    (hshutdown : method ≠ .shutdown) : call.GoesOn := by
  unfold Call.ofMessage? at h
  split at h
  · exact absurd rfl hshutdown
  · cases h
  · obtain ⟨value, _, hcall⟩ := Option.bind_eq_some_iff.1 h
    cases method with
    | start => exact absurd rfl hstart
    | shutdown => exact absurd rfl hshutdown
    | exit | cancel | remark => cases hcall
    | started | didChangeConfiguration | question =>
      rw [← Option.some_inj.1 hcall]
      exact trivial
    | didOpen =>
      simp only [Method.call?, didOpen?, bind, Option.bind_eq_some_iff] at hcall
      obtain ⟨uri, _, language, _, text, _, version, _, hcall⟩ := hcall
      rw [← Option.some_inj.1 hcall]
      exact trivial
    | didChange =>
      simp only [Method.call?, didChange?, bind, Option.bind_eq_some_iff] at hcall
      obtain ⟨changes, _, uri, _, version, _, hcall⟩ := hcall
      rw [← Option.some_inj.1 hcall]
      exact trivial
    | didClose =>
      obtain ⟨uri, _, rfl⟩ := Option.map_eq_some_iff.1 hcall
      exact trivial
    | codeAction =>
      simp only [Method.call?, codeAction?, bind, Option.bind_eq_some_iff] at hcall
      obtain ⟨uri, _, extent, _, hcall⟩ := hcall
      rw [← Option.some_inj.1 hcall]
      exact trivial
    | executeCommand =>
      simp only [Method.call?, executeCommand?, bind, Option.bind_eq_some_iff] at hcall
      obtain ⟨name, _, hcall⟩ := hcall
      rw [← Option.some_inj.1 hcall]
      exact trivial

/-- A message has no effect, or it has that of the call it was understood as. -/
theorem respond_cases (hrunning : server.stage = .running) (hshutdown : method ≠ .shutdown) :
    ((server.respond disk client method message).server = server ∧
        (server.respond disk client method message).notices = []) ∨
      ∃ call : Call, Call.ofMessage? method message.params = some call ∧ call.GoesOn ∧
        (server.respond disk client method message).server =
          (server.handle disk client call).server ∧
        (server.respond disk client method message).notices =
          (server.handle disk client call).notices := by
  have hstart : server.stage.refusal? method = none → method ≠ .start := by
    rintro h rfl
    rw [hrunning] at h
    cases h
  rw [Server.respond]
  cases hrefusal : server.stage.refusal? method with
  | some refusal => exact Or.inl ⟨rfl, rfl⟩
  | none =>
    simp only [if_neg hshutdown]
    by_cases hkind : (message.isRequest != method.isRequest) = true
    · rw [if_pos hkind]
      exact Or.inl ⟨rfl, rfl⟩
    · rw [if_neg hkind]
      cases hcall : Call.ofMessage? method message.params with
      | none => exact Or.inl ⟨rfl, rfl⟩
      | some call =>
        have hgoes := goesOn_of_ofMessage? hcall (hstart hrefusal) hshutdown
        cases call with
        | question => exact Or.inl ⟨rfl, rfl⟩
        | _ => exact Or.inr ⟨_, rfl, hgoes, rfl, rfl⟩

/-- **A message that arrives leads from one session to another**, unless it ends the session. -/
theorem reachable_receive {s : Session} (h : s.Reachable)
    (hgoes : Method.ofName? message.method ≠ some .shutdown ∧
      Method.ofName? message.method ≠ some .exit)
    (hsaved : ∀ method name arguments, Method.ofName? message.method = some method →
      Call.ofMessage? method message.params = some (.executeCommand name arguments) →
      s.server.Saves disk name arguments) :
    Session.Reachable ⟨(s.server.receive disk client message).server,
      s.said ++ (s.server.receive disk client message).notices⟩ := by
  have hrunning := (invariant_of_reachable h).running
  rw [Server.receive, hrunning, if_neg (by decide)]
  cases hmethod : Method.ofName? message.method with
  | none =>
    dsimp only
    rw [List.append_nil]
    exact h
  | some method =>
    have hshutdown : method ≠ .shutdown := fun heq => hgoes.1 (heq ▸ hmethod)
    have hexit : method ≠ .exit := fun heq => hgoes.2 (heq ▸ hmethod)
    -- What the message does leads to a session, and no time passes after it.
    have hresponse : Session.Reachable
        ⟨(s.server.respond disk client method message).server,
          s.said ++ (s.server.respond disk client method message).notices⟩ := by
      rcases respond_cases hrunning hshutdown with
        ⟨hserver, hnotices⟩ | ⟨call, hcall, hgoesOn, hserver, hnotices⟩
      · rw [hserver, hnotices, List.append_nil]
        exact h
      · rw [hserver, hnotices]
        refine @Session.Reachable.step _ h (.call disk client call) ?_
        cases call with
        | start | shutdown => exact hgoesOn
        | executeCommand name arguments => exact hsaved method name arguments hmethod hcall
        | _ => exact trivial
    have hpause := @Session.Reachable.step _ hresponse (.pause 0) trivial
    simp only [Session.step, List.append_assoc] at hpause
    cases method with
    | exit => exact absurd rfl hexit
    | _ => exact hpause

end EmojiLint
