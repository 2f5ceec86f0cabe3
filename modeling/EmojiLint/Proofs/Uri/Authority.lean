import EmojiLint.Proofs.Uri.Host
import EmojiLint.Uri.Read

/-!
# Authorities that were read

Outside the well-known schemes, an authority is read back from its text: the user is escaped only
once, the host stays as it is, and a port is written without zeros at its start.

* `userinfo_cases` — the user and the password are read as they are written.
* `splitUser_append`, `splitPort_host` — the three parts are found again.
* `IsNormal` — what holds of an authority that was read.
* `authority?_text` — it is read back.
-/

set_option autoImplicit false

namespace EmojiLint
namespace Uri

open Percent

variable {c : Char} {cs front back host user password digits scheme : List Char} {n : Nat}
  {authority : Authority} {isAll : Bool}

/-! ## The user -/

/-- The user and the password, without the at sign. -/
def userText (user password : List Char) : List Char :=
  if password.isEmpty then user else user ++ ':' :: password

theorem span_of_notMem (h : c ∉ front) (back : List Char) :
    (front ++ c :: back).takeWhile (· ≠ c) = front ∧
      (front ++ c :: back).dropWhile (· ≠ c) = c :: back := by
  have hall : ∀ d ∈ front, decide (d ≠ c) = true :=
    fun d hd => decide_eq_true fun heq => h (heq ▸ hd)
  rw [List.takeWhile_append_of_pos hall, List.dropWhile_append_of_pos hall]
  simp

theorem span_of_notMem_all (h : c ∉ front) :
    front.takeWhile (· ≠ c) = front ∧ front.dropWhile (· ≠ c) = [] := by
  have hall : ∀ d ∈ front, decide (d ≠ c) = true :=
    fun d hd => decide_eq_true fun heq => h (heq ▸ hd)
  have htake : (front ++ []).takeWhile (· ≠ c) = front ++ [].takeWhile (· ≠ c) :=
    List.takeWhile_append_of_pos hall
  have hdrop : (front ++ []).dropWhile (· ≠ c) = [].dropWhile (· ≠ c) :=
    List.dropWhile_append_of_pos hall
  rw [List.append_nil] at htake hdrop
  exact ⟨htake.trans (List.append_nil front), hdrop⟩

/-- A user and a password that are escaped are read as they are written. -/
theorem userinfo_userText (huser : encode inUserinfo user = user)
    (hpassword : encode inUserinfo password = password) :
    userinfo (userText user password) =
      if user.isEmpty && password.isEmpty then [] else userText user password ++ ['@'] := by
  have hcolon : ':' ∉ user := fun h => absurd (huser ▸ h)
    (notMem_encode_of_escaped spares_inUserinfo (by decide))
  cases password with
  | nil =>
    obtain ⟨htake, hdrop⟩ := span_of_notMem_all hcolon
    have htext : userText user [] = user := rfl
    rw [htext, userinfo, htake, hdrop, huser]
    rfl
  | cons c password =>
    obtain ⟨htake, hdrop⟩ := span_of_notMem hcolon (c :: password)
    have htext : userText user (c :: password) = user ++ ':' :: c :: password := rfl
    rw [htext, userinfo, htake, hdrop, huser, List.drop_one, List.tail_cons, hpassword]
    rfl

/-- **The user and the password are read as they are written.** -/
theorem userinfo_cases (cs : List Char) : userinfo cs = [] ∨
    ∃ user password, userinfo cs = userText user password ++ ['@'] ∧
      encode inUserinfo user = user ∧ encode inUserinfo password = password ∧
      ¬ (user = [] ∧ password = []) := by
  rw [userinfo]
  generalize huser : encode inUserinfo (cs.takeWhile (· ≠ ':')) = user
  generalize hpassword : encode inUserinfo ((cs.dropWhile (· ≠ ':')).drop 1) = password
  have huser' : encode inUserinfo user = user := by
    rw [← huser, encode_encode spares_inUserinfo]
  have hpassword' : encode inUserinfo password = password := by
    rw [← hpassword, encode_encode spares_inUserinfo]
  cases user with
  | nil =>
    cases password with
    | nil => exact Or.inl rfl
    | cons c password => exact Or.inr ⟨_, _, rfl, huser', hpassword', by simp⟩
  | cons c user =>
    cases password with
    | nil => exact Or.inr ⟨_, _, rfl, huser', hpassword', by simp⟩
    | cons d password => exact Or.inr ⟨_, _, rfl, huser', hpassword', by simp⟩

/-- An authority is divided at its last at sign. -/
theorem splitUser_append (hback : '@' ∉ back) (front : List Char) :
    splitUser (front ++ '@' :: back) = (some front, back) := by
  have hreverse : (front ++ '@' :: back).reverse = back.reverse ++ '@' :: front.reverse := by simp
  have hback' : '@' ∉ back.reverse := fun h => hback (List.mem_reverse.1 h)
  obtain ⟨htake, hdrop⟩ := span_of_notMem hback' front.reverse
  have hcontains : (front ++ '@' :: back).contains '@' = true := by simp
  rw [splitUser, if_pos hcontains, hreverse]
  dsimp only
  rw [htake, hdrop, List.drop_one, List.tail_cons, List.reverse_reverse, List.reverse_reverse]

theorem splitUser_of_notMem (h : '@' ∉ cs) : splitUser cs = (none, cs) := by
  rw [splitUser, if_neg (by simpa using h)]

/-! ## The port -/

theorem splitPort_cons (inBrackets : Bool) (c : Char) (cs : List Char) :
    splitPort inBrackets (c :: cs) =
      if c = ':' && !inBrackets then ([], some cs)
      else
        let parts := splitPort (if c = '[' then true else if c = ']' then false else inBrackets) cs
        (c :: parts.1, parts.2) :=
  rfl

theorem splitPort_append_of_notMem {inBrackets : Bool} (hopen : '[' ∉ front) (hclose : ']' ∉ front)
    (hcolon : inBrackets = false → ':' ∉ front) (back : List Char) :
    splitPort inBrackets (front ++ back) =
      (front ++ (splitPort inBrackets back).1, (splitPort inBrackets back).2) := by
  induction front with
  | nil => rfl
  | cons c front ih =>
    have hnot : (decide (c = ':') && !inBrackets) = false := by
      cases inBrackets with
      | true => rw [Bool.not_true, Bool.and_false]
      | false =>
        rw [decide_eq_false (List.ne_of_not_mem_cons (hcolon rfl)).symm, Bool.false_and]
    rw [List.cons_append, splitPort_cons, hnot, if_neg Bool.false_ne_true,
      if_neg (List.ne_of_not_mem_cons hopen).symm, if_neg (List.ne_of_not_mem_cons hclose).symm,
      ih (List.not_mem_of_not_mem_cons hopen) (List.not_mem_of_not_mem_cons hclose)
        fun h => List.not_mem_of_not_mem_cons (hcolon h)]
    rfl

/-- A port and the colon before it, if there is one. -/
def portText : Option Nat → List Char
  | none => []
  | some n => ':' :: (toString n).toList

/-- The port is found after a host. -/
theorem splitPort_host (h : Host.plain? host = some host) (port : Option Nat) :
    splitPort false (host ++ portText port) =
      (host, port.map fun n => (toString n).toList) := by
  have hport : splitPort false (portText port) = ([], port.map fun n => (toString n).toList) := by
    cases port <;> rfl
  rw [Host.plain?] at h
  split at h
  · -- Inside the brackets, a colon belongs to the host.
    obtain ⟨address, hwhole, hhost⟩ := Host.exists_of_bracketed? h
    have hhex : ∀ c ∈ address.text, c ≠ '[' ∧ c ≠ ']' := by
      intro c hc
      rcases Address.mem_text hc with rfl | hc
      · decide
      · have hopen : '[' ∉ Address.hexChars := by decide
        have hclose : ']' ∉ Address.hexChars := by decide
        exact ⟨fun heq => hopen (heq ▸ hc), fun heq => hclose (heq ▸ hc)⟩
    have htext : splitPort true (address.text ++ ']' :: portText port) =
        (address.text ++ (splitPort true (']' :: portText port)).1,
          (splitPort true (']' :: portText port)).2) :=
      splitPort_append_of_notMem (fun h => (hhex _ h).1 rfl) (fun h => (hhex _ h).2 rfl)
        (fun h => absurd h (by decide)) _
    have hclose : splitPort true (']' :: portText port) =
        ([']'], port.map fun n => (toString n).toList) := by
      rw [splitPort_cons, if_neg (by decide), if_neg (by decide), if_pos rfl, hport]
    have hassoc : '[' :: address.text ++ [']'] ++ portText port =
        '[' :: (address.text ++ ']' :: portText port) := by simp
    rw [hhost, hassoc, splitPort_cons, if_neg (by decide), if_pos rfl, htext, hclose]
    rfl
  · split at h
    · cases h
    · rename_i hany
      have hnot : ∀ c, Host.isForbidden c = true → c ∉ host :=
        fun c hbad hc => hany (List.any_eq_true.2 ⟨c, hc, hbad⟩)
      rw [splitPort_append_of_notMem (hnot _ (by decide)) (hnot _ (by decide))
        (fun _ => hnot _ (by decide)), hport, List.append_nil]

theorem lookup_usualPorts (h : SchemeKind.ofScheme scheme = .other) :
    usualPorts.lookup (String.ofList scheme) = none := by
  rw [SchemeKind.ofScheme] at h
  split at h
  · cases h
  · split at h
    · cases h
    · rename_i hnone
      exact Option.not_isSome_iff_eq_none.1 hnone

theorem isDigit_of_mem_toString (h : c ∈ (toString n).toList) : c.isDigit = true :=
  Host.isDigit_of_mem_byteText h

/-- A port is read as it is written. -/
theorem port?_toString (hkind : SchemeKind.ofScheme scheme = .other) (h : n ≤ 65535) :
    port? scheme (toString n).toList = some (some n) := by
  have hdigits : (toString n).toList.all Char.isDigit = true :=
    List.all_eq_true.2 fun c hc => isDigit_of_mem_toString hc
  have hvalue : (toString n).toList.foldl (fun n c => 10 * n + (c.toNat - '0'.toNat)) 0 = n := by
    rw [Nat.toString_eq_repr, Nat.toList_repr, ← Nat.ofDigitChars_eq_foldl]
    exact Nat.ofDigitChars_ten_toDigits
  have hne : (toString n).toList.isEmpty = false :=
    List.isEmpty_eq_false_iff.2 (Host.byteText_ne_nil n)
  rw [port?, hdigits, hvalue, hne, lookup_usualPorts hkind]
  simp [Nat.not_lt.2 h]

theorem le_of_port? {port : Option Nat} (h : port? scheme digits = some port) :
    (∀ n ∈ port, n ≤ 65535) ∧ (digits = [] → port = none) := by
  rw [port?] at h
  split at h
  · cases h
  · dsimp only at h
    split at h
    · cases h
    · rename_i hle
      split at h
      · cases h
        exact ⟨fun n hn => (nomatch hn), fun _ => rfl⟩
      · rename_i hnot
        cases h
        refine ⟨fun n hn => ?_, ?_⟩
        · rw [← Option.some_inj.1 hn]
          exact Nat.le_of_not_lt hle
        · rintro rfl
          exact absurd rfl hnot

/-! ## The authority -/

/-- What holds of an authority that was read, outside the well-known schemes. -/
structure IsNormal (authority : Authority) : Prop where
  user : authority.userinfo = [] ∨ ∃ user password,
    authority.userinfo = userText user password ++ ['@'] ∧
      encode inUserinfo user = user ∧ encode inUserinfo password = password ∧
      ¬ (user = [] ∧ password = [])
  host : Host.plain? authority.host = some authority.host
  port : ∀ n ∈ authority.port, n ≤ 65535
  /-- Without a host there is nothing. -/
  named : authority.host = [] → authority.userinfo = [] ∧ authority.port = none

/-- **An authority that was read is normal.** -/
theorem isNormal_of_authority? (hkind : SchemeKind.ofScheme scheme = .other)
    {left : List Char} (h : authority? scheme isAll cs = some (authority, left)) :
    IsNormal authority := by
  unfold authority? at h
  rw [hkind] at h
  generalize splitUser cs = divided at h
  obtain ⟨user, rest⟩ := divided
  dsimp only at h
  generalize splitPort false rest = parts at h
  obtain ⟨hostText, port⟩ := parts
  dsimp only at h
  split at h
  · cases h
  · rename_i hneeds
    rw [if_neg (by decide)] at h
    obtain ⟨host, hhost, h⟩ := Option.bind_eq_some_iff.1 h
    obtain ⟨port', hport, h⟩ := Option.bind_eq_some_iff.1 h
    cases h
    obtain ⟨hle, hnone⟩ := le_of_port? hport
    refine ⟨?_, Host.plain?_plain? hhost, hle, fun hnil => ?_⟩
    · cases user with
      | none => exact Or.inl rfl
      | some user => exact userinfo_cases user
    · have htext : hostText = [] := by
        by_contra hne
        exact Host.plain?_ne_nil hhost hne hnil
      simp only [htext, List.isEmpty_nil, Bool.true_and, Bool.or_eq_true, not_or] at hneeds
      obtain ⟨⟨⟨-, hnoPort⟩, hnoUser⟩, -⟩ := hneeds
      refine ⟨?_, hnone ?_⟩
      · simpa using hnoUser
      · rw [Option.not_isSome_iff_eq_none.1 hnoPort]
        rfl

theorem text_eq (authority : Authority) :
    authority.text = authority.userinfo ++ (authority.host ++ portText authority.port) := by
  rw [Authority.text, ← List.append_assoc]
  cases authority.port <;> rfl

theorem mem_portText {port : Option Nat} (h : c ∈ portText port) : c = ':' ∨ c.isDigit = true := by
  cases port with
  | none => cases h
  | some n => exact (List.mem_cons.1 h).imp_right isDigit_of_mem_toString

/-- The digits of a port are read, and nothing is left of them. -/
theorem port?_portText (hkind : SchemeKind.ofScheme scheme = .other) {port : Option Nat}
    (h : ∀ n ∈ port, n ≤ 65535) :
    ((port.map fun n => (toString n).toList).getD []).takeWhile (· ≠ '\\') =
        (port.map fun n => (toString n).toList).getD [] ∧
      port? scheme ((port.map fun n => (toString n).toList).getD []) = some port := by
  cases port with
  | none => exact ⟨rfl, rfl⟩
  | some n =>
    have hback : '\\' ∉ (toString n).toList :=
      fun hback => absurd (isDigit_of_mem_toString hback) (by decide)
    exact ⟨(span_of_notMem_all hback).1, port?_toString hkind (h n rfl)⟩

/-- **An authority is read back from its text.** -/
theorem authority?_text (hkind : SchemeKind.ofScheme scheme = .other) (h : IsNormal authority)
    (isAll : Bool) : authority? scheme isAll authority.text = some (authority, []) := by
  obtain ⟨userinfo, host, port⟩ := authority
  obtain ⟨huser, hhost, hport, hnamed⟩ := h
  dsimp only at huser hhost hport hnamed
  have hat : '@' ∉ host ++ portText port := by
    intro hat
    rcases List.mem_append.1 hat with hat | hat
    · exact absurd ((Host.isClear_of_plain? hhost hat).2 (by decide)) (by decide)
    · exact absurd (mem_portText hat) (by decide)
  obtain ⟨hdigits, hread⟩ := port?_portText hkind hport
  -- The user is found again, and is none or not empty.
  obtain ⟨user, hsplit, huser', hnot⟩ : ∃ user, splitUser (Authority.mk userinfo host port).text =
      (user, host ++ portText port) ∧ (user.map Uri.userinfo).getD [] = userinfo ∧
      user ≠ some [] := by
    rw [text_eq]
    rcases huser with huser | ⟨user, password, huser, hencode, hencode', hne⟩
    · refine ⟨none, ?_, huser.symm, by simp⟩
      dsimp only
      rw [huser, List.nil_append, splitUser_of_notMem hat]
    · refine ⟨some (userText user password), ?_, ?_, ?_⟩
      · dsimp only
        rw [huser, List.append_assoc, List.singleton_append, splitUser_append hat]
      · have hboth : (user.isEmpty && password.isEmpty) = false := by
          cases user <;> cases password <;> simp_all
        rw [Option.map_some, Option.getD_some, userinfo_userText hencode hencode', hboth, huser]
        rfl
      · cases password <;> cases user <;> simp_all [userText]
  have hneeds : (host.isEmpty && (false || (port.map fun n => (toString n).toList).isSome ||
      !userinfo.isEmpty || (decide (user = some []) && !isAll))) = false := by
    cases host with
    | nil =>
      obtain ⟨hnoUser, hnoPort⟩ := hnamed rfl
      rw [hnoUser, hnoPort, decide_eq_false hnot]
      rfl
    | cons => rfl
  unfold authority?
  rw [hkind, hsplit]
  dsimp only
  rw [splitPort_host hhost port, huser']
  dsimp only
  rw [decide_eq_false (by decide), hneeds, hdigits, hhost, hread, List.drop_length]
  rfl

end Uri
end EmojiLint
