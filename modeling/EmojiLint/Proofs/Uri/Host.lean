import EmojiLint.Proofs.Text.Ascii
import EmojiLint.Proofs.Uri.Domain
import EmojiLint.Proofs.Uri.Percent
import EmojiLint.Uri.Host

/-!
# Hosts that were read

A host in normal form is read as itself.  For the hosts of well-known schemes this holds from the
second time on: a domain that was written with escapes may be one in capital letters.

* `domain?_cases` — an address in brackets, an address of four bytes, or a domain.
* `domain?_bracketed`, `domain?_addressText` — addresses are read as they are written.
* `domain?_domain?` — what was read twice is read back.
* `plain?_plain?` — for other schemes, once is enough.
* `isClear_of_domain?`, `isClear_of_plain?` — the characters that stand in a host.
-/

set_option autoImplicit false

namespace EmojiLint

variable {c : Char} {cs : List Char}

/-! ## ASCII among bytes -/

namespace Text

theorem bytes_of_isAscii (h : ∀ c ∈ cs, isAscii c = true) :
    bytes cs = cs.map fun c => UInt8.ofNat c.toNat := by
  induction cs with
  | nil => rfl
  | cons c cs ih =>
    obtain ⟨hc, hcs⟩ := List.forall_mem_cons.1 h
    rw [bytes_cons, utf8EncodeChar_of_isAscii hc, ih hcs, List.map_cons, List.singleton_append]

/-- ASCII is read back from its bytes. -/
theorem ofBytes_bytes (h : ∀ c ∈ cs, isAscii c = true) : ofBytes (bytes cs) = cs := by
  rw [bytes_of_isAscii h]
  induction cs with
  | nil => rfl
  | cons c cs ih =>
    obtain ⟨hc, hcs⟩ := List.forall_mem_cons.1 h
    have hlt : c.toNat < 0x80 := of_decide_eq_true hc
    have hbyte : (UInt8.ofNat c.toNat).toNat = c.toNat := by
      rw [UInt8.toNat_ofNat', Nat.mod_eq_of_lt (by omega)]
    have hfirst : firstByte (UInt8.ofNat c.toNat) = some (.inl c) := by
      rw [firstByte, hbyte, if_pos hlt, Char.ofNat_toNat]
    have hrest := ih hcs
    rw [ofBytes] at hrest ⊢
    rw [List.map_cons, readBytes, hfirst]
    dsimp only
    rw [hrest]

end Text

namespace Percent

theorem decodeBytes_cons_of_ne {b : UInt8} (h : b ≠ 0x25) (bs : List UInt8) :
    decodeBytes (b :: bs) = b :: decodeBytes bs := by
  match bs with
  | [] => rfl
  | [_] => rfl
  | _ :: _ :: _ => rw [decodeBytes, if_neg h]

/-- Without a percent sign, the bytes that are meant are those of the text. -/
theorem decode_of_notMem (h : ∀ c ∈ cs, Text.isAscii c = true) (hpercent : '%' ∉ cs) :
    decode cs = Text.bytes cs := by
  rw [decode, Text.bytes_of_isAscii h]
  induction cs with
  | nil => rfl
  | cons c cs ih =>
    obtain ⟨hc, hcs⟩ := List.forall_mem_cons.1 h
    have hne : UInt8.ofNat c.toNat ≠ 0x25 := fun heq =>
      List.ne_of_not_mem_cons hpercent ((Text.ofNat_toNat_inj (d := '%') hc (by decide)).1 heq).symm
    rw [List.map_cons, decodeBytes_cons_of_ne hne, ih hcs (List.not_mem_of_not_mem_cons hpercent)]

end Percent

namespace Host

open Domain (ascii?)

variable {host host' domain : List Char} {n : Nat} {address : Address}

/-! ## The two ways to read a host -/

/-- Characters that stand in a domain. -/
structure IsName (host : List Char) : Prop where
  allowed : ∀ c ∈ host, isForbidden c = false
  control : ∀ c ∈ host, Percent.isControl c = false
  percent : '%' ∉ host

/-- What becomes of a domain in ASCII. -/
def checked? (domain : List Char) : Option (List Char) :=
  if domain.isEmpty || domain.any (fun c => isForbidden c || Percent.isControl c || c = '%') then
    none
  else if endsInNumber domain then (address? domain).map addressText
  else some domain

theorem domain?_eq (cs : List Char) : domain? cs =
    if cs.head? = some '[' then bracketed? cs
    else (ascii? (Text.ofBytes (Percent.decode cs))).bind checked? :=
  rfl

theorem IsName.isAscii (h : IsName host) : ∀ c ∈ host, Text.isAscii c = true := by
  intro c hc
  have hcontrol := h.control c hc
  rw [Percent.isControl, Bool.or_eq_false_iff, decide_eq_false_iff_not,
    decide_eq_false_iff_not] at hcontrol
  rw [Text.isAscii, decide_eq_true_eq]
  omega

theorem IsName.notMem (h : IsName host) (hc : isForbidden c = true) : c ∉ host :=
  fun hmem => absurd (hc.symm.trans (h.allowed c hmem)) (by decide)

theorem domain?_of_isName (h : IsName host) : domain? host = (ascii? host).bind checked? := by
  have hhead : host.head? ≠ some '[' := fun hhead =>
    h.notMem (by decide) (List.mem_of_head? hhead)
  rw [domain?_eq, if_neg hhead, Percent.decode_of_notMem h.isAscii h.percent,
    Text.ofBytes_bytes h.isAscii]

/-! ## Addresses in brackets -/

theorem exists_of_bracketed? (h : bracketed? cs = some host) :
    ∃ address : Address, address.IsWhole ∧ host = '[' :: address.text ++ [']'] := by
  rw [bracketed?] at h
  split at h
  · obtain ⟨address, hread, rfl⟩ := Option.map_eq_some_iff.1 h
    exact ⟨address, Address.isWhole_of_read? hread, rfl⟩
  · cases h

theorem bracketed?_text (h : address.IsWhole) :
    bracketed? ('[' :: address.text ++ [']']) = some ('[' :: address.text ++ [']']) := by
  rw [bracketed?, if_pos List.getLast?_concat, List.cons_append, List.drop_one, List.tail_cons,
    List.dropLast_concat, Address.read?_text h]
  rfl

/-- **An address in brackets is read as it is written.** -/
theorem domain?_bracketed (h : address.IsWhole) :
    domain? ('[' :: address.text ++ [']']) = some ('[' :: address.text ++ [']']) := by
  rw [domain?_eq, List.cons_append, List.head?_cons, if_pos rfl]
  exact bracketed?_text h

/-! ## Addresses of four bytes -/

/-- A byte as a decimal number. -/
def byteText (n : Nat) : List Char :=
  (toString n).toList

theorem isDigit_of_mem_byteText (h : c ∈ byteText n) : c.isDigit = true := by
  rw [byteText, Nat.toString_eq_repr, Nat.toList_repr] at h
  exact Nat.isDigit_of_mem_toDigits (by decide) (by decide) h

theorem byteText_ne_nil (n : Nat) : byteText n ≠ [] := by
  rw [byteText, Nat.toString_eq_repr, Nat.toList_repr]
  exact Nat.toDigits_ne_nil

theorem number?_byteText (h : n < 256) : number? (byteText n) = some n := by
  have hall : ∀ n < 256, number? (byteText n) = some n := by decide +kernel
  exact hall n h

/-- The bytes of an address, the highest first. -/
def bytesOf (n : Nat) : List Nat :=
  [n / 256 ^ 3 % 256, n / 256 ^ 2 % 256, n / 256 ^ 1 % 256, n / 256 ^ 0 % 256]

theorem addressText_eq (n : Nat) :
    addressText n = (((bytesOf n).map byteText).intersperse ['.']).flatten := by
  simp [addressText, bytesOf, byteText]

theorem lt_of_mem_bytesOf {b : Nat} (h : b ∈ bytesOf n) : b < 256 := by
  simp only [bytesOf, List.mem_cons, List.not_mem_nil, or_false] at h
  omega

theorem fields_addressText (n : Nat) :
    Text.fields '.' (addressText n) = (bytesOf n).map byteText := by
  rw [addressText_eq]
  refine Text.fields_flatten_intersperse (by simp [bytesOf]) fun f hf hdot => ?_
  obtain ⟨b, -, rfl⟩ := List.mem_map.1 hf
  exact absurd (isDigit_of_mem_byteText hdot) (by decide)

theorem mem_addressText (h : c ∈ addressText n) : c = '.' ∨ c.isDigit = true := by
  have hbyte : ∀ b, c ∈ byteText b → c = '.' ∨ c.isDigit = true :=
    fun b hb => Or.inr (isDigit_of_mem_byteText hb)
  have heq : addressText n = byteText (n / 256 ^ 3 % 256) ++ '.' :: byteText (n / 256 ^ 2 % 256) ++
      '.' :: byteText (n / 256 ^ 1 % 256) ++ '.' :: byteText (n / 256 ^ 0 % 256) := rfl
  simp only [heq, List.mem_append, List.mem_cons] at h
  rcases h with ((h | rfl | h) | rfl | h) | rfl | h
  · exact hbyte _ h
  · exact Or.inl rfl
  · exact hbyte _ h
  · exact Or.inl rfl
  · exact hbyte _ h
  · exact Or.inl rfl
  · exact hbyte _ h

/-- What holds of digits and dots holds of the characters of an address. -/
theorem forall_mem_addressText {P : Char → Prop} (hdot : P '.')
    (hdigit : ∀ k < 0x80, (Char.ofNat k).isDigit = true → P (Char.ofNat k)) :
    ∀ c ∈ addressText n, P c := by
  intro c hc
  rcases mem_addressText hc with rfl | hc
  · exact hdot
  · refine Text.forall_isAscii (P := fun c => c.isDigit = true → P c) hdigit ?_ hc
    exact Text.isAscii_of_isAlphanum (by rw [Char.isAlphanum, hc, Bool.or_true])

theorem isName_addressText (n : Nat) : IsName (addressText n) where
  allowed := forall_mem_addressText (by decide) (by decide +kernel)
  control := forall_mem_addressText (by decide) (by decide +kernel)
  percent := fun h => forall_mem_addressText (P := fun c => c ≠ '%') (by decide)
    (by decide +kernel) '%' h rfl

theorem ascii?_addressText (n : Nat) : ascii? (addressText n) = some (addressText n) := by
  have hlower : (addressText n).map Char.toLower = addressText n :=
    (List.map_congr_left (forall_mem_addressText (P := fun c => c.toLower = id c) (by decide)
      (by decide +kernel))).trans (List.map_id _)
  have hread := Domain.ascii?_of_isAscii (isName_addressText n).isAscii fun label hlabel => by
    rw [hlower, fields_addressText] at hlabel
    obtain ⟨b, -, rfl⟩ := List.mem_map.1 hlabel
    refine Bool.eq_false_iff.2 fun hmark => ?_
    have hx : 'x' ∈ byteText b :=
      (List.isPrefixOf_iff_prefix.1 hmark).subset (by decide)
    exact absurd (isDigit_of_mem_byteText hx) (by decide)
  rwa [hlower] at hread

theorem parts_addressText (n : Nat) : parts (addressText n) = (bytesOf n).map byteText := by
  rw [parts, fields_addressText]
  refine if_neg fun h => ?_
  rw [Bool.and_eq_true, decide_eq_true_eq, decide_eq_true_eq] at h
  exact byteText_ne_nil _ (Option.some_inj.1 h.2)

theorem endsInNumber_addressText (n : Nat) : endsInNumber (addressText n) = true := by
  have hlast : ((bytesOf n).map byteText).getLast? = some (byteText (n / 256 ^ 0 % 256)) := rfl
  have hdigits : (byteText (n / 256 ^ 0 % 256)).all Char.isDigit = true :=
    List.all_eq_true.2 fun c hc => isDigit_of_mem_byteText hc
  rw [endsInNumber, parts_addressText, hlast]
  dsimp only
  rw [hdigits, List.isEmpty_eq_false_iff.2 (byteText_ne_nil _)]
  rfl

theorem address?_addressText (h : n < 256 ^ 4) : address? (addressText n) = some n := by
  have hread : ((bytesOf n).map byteText).mapM number? = some (bytesOf n) := by
    rw [mapM_eq_some_iff, List.map_map]
    exact List.map_congr_left fun b hb => number?_byteText (lt_of_mem_bytesOf hb)
  -- The last number fills one byte, since three others come before it.
  have hbytes :
      ((n / 16777216 % 256 ≤ 255 ∧ n / 65536 % 256 ≤ 255 ∧ n / 256 % 256 ≤ 255) ∧ n % 256 < 256) ∧
        (256 * (256 * (n / 16777216 % 256) + n / 65536 % 256) + n / 256 % 256) * 256 + n % 256 =
          n := by
    omega
  rw [address?, parts_addressText, hread]
  simpa [bytesOf] using hbytes

/-- The value of an address is one of four bytes. -/
theorem lt_of_address? (h : address? domain = some n) : n < 256 ^ 4 := by
  unfold address? at h
  obtain ⟨numbers, -, h⟩ := Option.bind_eq_some_iff.1 h
  obtain ⟨last, -, h⟩ := Option.bind_eq_some_iff.1 h
  dsimp only at h
  generalize numbers.dropLast = front at h
  split at h
  · cases h
  · rename_i hfits
    simp only [Bool.or_eq_true, decide_eq_true_eq, not_or, Nat.not_lt, Nat.not_le,
      List.any_eq_true, not_exists, not_and] at hfits
    obtain ⟨⟨hlength, hbytes⟩, hlast⟩ := hfits
    have hsmall : ∀ b ∈ front, b < 256 := fun b hb => Nat.lt_succ_of_le (hbytes b hb)
    have hfront := foldl_lt_pow hsmall
    rw [← Option.some_inj.1 h]
    generalize front.foldl (fun n k => 256 * n + k) 0 = high at hfront
    change last < 256 ^ (4 - front.length) at hlast
    change high * 256 ^ (4 - front.length) + last < 256 ^ 4
    calc high * 256 ^ (4 - front.length) + last
        < high * 256 ^ (4 - front.length) + 256 ^ (4 - front.length) := Nat.add_lt_add_left hlast _
      _ = (high + 1) * 256 ^ (4 - front.length) := (Nat.succ_mul _ _).symm
      _ ≤ 256 ^ front.length * 256 ^ (4 - front.length) := Nat.mul_le_mul_right _ hfront
      _ = 256 ^ 4 := by rw [← Nat.pow_add, Nat.add_sub_cancel' (by omega)]

/-- **An address of four bytes is read as it is written.** -/
theorem domain?_addressText (h : n < 256 ^ 4) :
    domain? (addressText n) = some (addressText n) := by
  have hname := isName_addressText n
  have hne : addressText n ≠ [] := by
    rw [addressText_eq]
    exact List.append_ne_nil_of_left_ne_nil (byteText_ne_nil _) _
  have hany : ((addressText n).any fun c => isForbidden c || Percent.isControl c || c = '%') =
      false := by
    refine List.any_eq_false.2 fun c hc => ?_
    rw [hname.allowed c hc, hname.control c hc, Bool.false_or, Bool.false_or, decide_eq_true_eq]
    rintro rfl
    exact hname.percent hc
  rw [domain?_of_isName hname, ascii?_addressText, Option.bind_some, checked?,
    List.isEmpty_eq_false_iff.2 hne, hany, Bool.or_self, if_neg Bool.false_ne_true,
    if_pos (endsInNumber_addressText n), address?_addressText h]
  rfl

/-! ## Domains -/

theorem checked?_cases (h : checked? domain = some host) :
    (∃ n < 256 ^ 4, host = addressText n) ∨ (IsName host ∧ host = domain) := by
  rw [checked?] at h
  split at h
  · cases h
  · rename_i hname
    split at h
    · obtain ⟨n, hn, rfl⟩ := Option.map_eq_some_iff.1 h
      exact Or.inl ⟨n, lt_of_address? hn, rfl⟩
    · obtain rfl := Option.some_inj.1 h
      rw [Bool.or_eq_true, not_or, List.any_eq_true] at hname
      have hall : ∀ c ∈ domain, isForbidden c = false ∧ Percent.isControl c = false ∧ c ≠ '%' := by
        intro c hc
        have hnot := fun hbad => hname.2 ⟨c, hc, hbad⟩
        simpa [and_assoc] using hnot
      exact Or.inr ⟨⟨fun c hc => (hall c hc).1, fun c hc => (hall c hc).2.1,
        fun hc => (hall '%' hc).2.2 rfl⟩, rfl⟩

/-- **The hosts of well-known schemes**: addresses in brackets, addresses of four bytes, and
domains. -/
theorem domain?_cases (h : domain? cs = some host) :
    (∃ address : Address, address.IsWhole ∧ host = '[' :: address.text ++ [']']) ∨
      (∃ n < 256 ^ 4, host = addressText n) ∨ IsName host := by
  rw [domain?_eq] at h
  split at h
  · exact Or.inl (exists_of_bracketed? h)
  · obtain ⟨domain, -, h⟩ := Option.bind_eq_some_iff.1 h
    exact Or.inr ((checked?_cases h).imp_right And.left)

/-- Capital letters make no difference. -/
theorem ascii?_map_toLower (h : ∀ c ∈ cs, Text.isAscii c = true) :
    ascii? (cs.map Char.toLower) = ascii? cs := by
  have hlower : ∀ c ∈ cs.map Char.toLower, Text.isAscii c = true ∧ c.isUpper = false :=
    fun c hc => Domain.isAscii_of_mem_map_toLower h hc
  have htwice : (cs.map Char.toLower).map Char.toLower = cs.map Char.toLower :=
    (List.map_congr_left fun c hc =>
      Text.toLower_of_isUpper_eq_false (hlower c hc).2).trans (List.map_id _)
  rw [ascii?, Domain.mapped?_of_isAscii fun c hc => (hlower c hc).1, htwice, ascii?,
    Domain.mapped?_of_isAscii h]

/-- **What was read twice is read back.** -/
theorem domain?_domain? (h : domain? cs = some host) (h' : domain? host = some host') :
    domain? host' = some host' := by
  rcases domain?_cases h with ⟨address, hwhole, rfl⟩ | ⟨n, hn, rfl⟩ | hname
  · rw [domain?_bracketed hwhole] at h'
    rw [← Option.some_inj.1 h', domain?_bracketed hwhole]
  · rw [domain?_addressText hn] at h'
    rw [← Option.some_inj.1 h', domain?_addressText hn]
  · rw [domain?_of_isName hname] at h'
    obtain ⟨domain, hdomain, hchecked⟩ := Option.bind_eq_some_iff.1 h'
    rcases checked?_cases hchecked with ⟨n, hn, rfl⟩ | ⟨hname', rfl⟩
    · exact domain?_addressText hn
    · -- The second time, only capital letters can have changed.
      have hlower := Domain.eq_map_toLower_of_ascii? hname.isAscii hdomain
      have hagain : ascii? host' = some host' := by
        rw [hlower, ascii?_map_toLower hname.isAscii, hdomain, hlower]
      rw [domain?_of_isName hname', hagain, Option.bind_some, hchecked]

/-! ## Other schemes -/

/-- **Hosts of other schemes are read as they are written.** -/
theorem plain?_plain? (h : plain? cs = some host) : plain? host = some host := by
  rw [plain?] at h
  split at h
  · obtain ⟨address, hwhole, rfl⟩ := exists_of_bracketed? h
    have hhead : ('[' :: address.text ++ [']']).head? = some '[' := rfl
    rw [plain?, if_pos hhead, bracketed?_text hwhole]
  · split at h
    · cases h
    · rename_i hany
      obtain rfl := Option.some_inj.1 h
      have hallowed : ∀ c ∈ Percent.encode Percent.isControl cs, isForbidden c = false := by
        intro c hc
        rcases Percent.mem_encode hc with ⟨hmem, -⟩ | hescape
        · exact Bool.eq_false_iff.2 fun hbad => hany (List.any_eq_true.2 ⟨c, hmem, hbad⟩)
        · have hspares : Percent.Spares isForbidden := Percent.spares_of_all (by decide)
          exact hspares c hescape
      have hhead : (Percent.encode Percent.isControl cs).head? ≠ some '[' := fun hhead =>
        absurd (hallowed '[' (List.mem_of_head? hhead)) (by decide)
      have hnone : ¬ (Percent.encode Percent.isControl cs).any isForbidden = true := by
        rw [List.any_eq_true]
        rintro ⟨c, hc, hbad⟩
        exact absurd (hbad.symm.trans (hallowed c hc)) (by decide)
      rw [plain?, if_neg hhead, if_neg hnone,
        Percent.encode_encode Percent.spares_isControl]

theorem plain?_ne_nil (h : plain? cs = some host) (hcs : cs ≠ []) : host ≠ [] := by
  rw [plain?] at h
  split at h
  · obtain ⟨address, -, rfl⟩ := exists_of_bracketed? h
    exact List.cons_ne_nil _ _
  · split at h
    · cases h
    · rw [← Option.some_inj.1 h]
      exact fun hnil => hcs (Percent.encode_eq_nil_iff.1 hnil)

/-! ## The characters of a host -/

/-- Characters that may stand in a host: some that stand in no domain stand in brackets. -/
def IsClear (c : Char) : Prop :=
  Percent.isControl c = false ∧ (isForbidden c = true → c = '[' ∨ c = ':' ∨ c = ']')

theorem isClear_of_mem_bracketed (h : c ∈ '[' :: address.text ++ [']']) : IsClear c := by
  have hall : (Address.hexChars.all fun c => !Percent.isControl c && !isForbidden c) = true := by
    decide
  simp only [List.cons_append, List.mem_cons, List.mem_append, List.not_mem_nil, or_false] at h
  rcases h with rfl | h | rfl
  · exact ⟨by decide, fun _ => Or.inl rfl⟩
  · rcases Address.mem_text h with rfl | h
    · exact ⟨by decide, fun _ => Or.inr (Or.inl rfl)⟩
    · obtain ⟨hcontrol, hforbidden⟩ : Percent.isControl c = false ∧ isForbidden c = false := by
        simpa using List.all_eq_true.1 hall c h
      exact ⟨hcontrol, fun hbad => absurd (hbad.symm.trans hforbidden) (by decide)⟩
  · exact ⟨by decide, fun _ => Or.inr (Or.inr rfl)⟩

theorem IsName.isClear (h : IsName host) (hc : c ∈ host) : IsClear c :=
  ⟨h.control c hc, fun hbad => absurd hc (h.notMem hbad)⟩

theorem isClear_of_domain? (h : domain? cs = some host) (hc : c ∈ host) : IsClear c := by
  rcases domain?_cases h with ⟨address, -, rfl⟩ | ⟨n, -, rfl⟩ | hname
  · exact isClear_of_mem_bracketed hc
  · exact (isName_addressText n).isClear hc
  · exact hname.isClear hc

theorem isClear_of_plain? (h : plain? cs = some host) (hc : c ∈ host) : IsClear c := by
  have htwice := plain?_plain? h
  rw [plain?] at htwice
  split at htwice
  · obtain ⟨address, -, rfl⟩ := exists_of_bracketed? htwice
    exact isClear_of_mem_bracketed hc
  · split at htwice
    · cases htwice
    · rename_i hany
      refine ⟨?_, fun hbad => absurd (List.any_eq_true.2 ⟨c, hc, hbad⟩) hany⟩
      rw [← Option.some_inj.1 htwice] at hc
      exact Percent.eq_false_of_mem_encode Percent.spares_isControl hc

end Host
end EmojiLint
