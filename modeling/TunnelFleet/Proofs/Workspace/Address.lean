import TunnelFleet.Workspace.Basic

/-!
# Which addresses name a port

Whether a colon stands before a port or inside a literal address is decided by brackets, by the
number of colons, and by whether the rest is a port. The two splitters are described by where
they cut, and then every form in which a host can be given has its own rule. The form with
brackets and no port gets a second pair of brackets.
-/

namespace TunnelFleet

namespace Address

variable {host port cs : List Char}

/-! ## Where an address is cut -/

theorem splitLastColon_eq_none_iff : splitLastColon cs = none ↔ ':' ∉ cs := by
  induction cs with
  | nil => simp [splitLastColon]
  | cons c cs ih =>
    unfold splitLastColon
    cases hrest : splitLastColon cs with
    | some cut =>
      have hcolon : ':' ∈ cs := Decidable.not_not.mp fun hnot => by
        rw [ih.mpr hnot] at hrest
        cases hrest
      simp [hcolon]
    | none =>
      have hplain : ':' ∉ cs := ih.mp hrest
      by_cases hc : c = ':'
      · simp [hc]
      · simp [hc, Ne.symm hc, hplain]

/-- The cut is at a colon behind which there is no other. -/
theorem eq_of_splitLastColon (h : splitLastColon cs = some (host, port)) :
    cs = host ++ ':' :: port ∧ ':' ∉ port := by
  induction cs generalizing host with
  | nil => cases h
  | cons c cs ih =>
    unfold splitLastColon at h
    cases hrest : splitLastColon cs with
    | some cut =>
      obtain ⟨host', port'⟩ := cut
      rw [hrest] at h
      obtain ⟨rfl, rfl⟩ := Prod.mk.inj (Option.some.inj h)
      obtain ⟨hcs, hport⟩ := ih hrest
      exact ⟨by rw [hcs, List.cons_append], hport⟩
    | none =>
      simp only [hrest, Option.ite_none_right_eq_some, beq_iff_eq, Option.some.injEq,
        Prod.mk.injEq] at h
      obtain ⟨rfl, rfl, rfl⟩ := h
      exact ⟨rfl, splitLastColon_eq_none_iff.mp hrest⟩

theorem splitLastColon_append (hport : ':' ∉ port) :
    splitLastColon (host ++ ':' :: port) = some (host, port) := by
  induction host with
  | nil =>
    rw [List.nil_append, splitLastColon, splitLastColon_eq_none_iff.mpr hport]
    rfl
  | cons c host ih => rw [List.cons_append, splitLastColon, ih]

private theorem splitBracket_cons {c : Char} (hc : c ≠ ']') (cs : List Char) :
    splitBracket (c :: cs) = (splitBracket cs).map fun (host, port) => (c :: host, port) := by
  rw [splitBracket]
  exact fun rest hbracket => absurd hbracket hc

/-- The cut is at the first closing bracket, if a colon comes next. -/
theorem splitBracket_append (hhost : ']' ∉ host) :
    splitBracket (host ++ ']' :: ':' :: port) = some (host, port) := by
  induction host with
  | nil => rfl
  | cons c host ih =>
    rw [List.mem_cons, not_or] at hhost
    rw [List.cons_append, splitBracket_cons (Ne.symm hhost.1), ih hhost.2]
    rfl

/-- There is no cut where the text ends with the first closing bracket. -/
theorem splitBracket_concat (hhost : ']' ∉ host) : splitBracket (host ++ [']']) = none := by
  induction host with
  | nil => rfl
  | cons c host ih =>
    rw [List.mem_cons, not_or] at hhost
    rw [List.cons_append, splitBracket_cons (Ne.symm hhost.1), ih hhost.2]
    rfl

/-! ## Which addresses name a port -/

private theorem hasPort_of_head (hcs : cs.head? ≠ some '[') :
    hasPort cs =
      match splitLastColon cs with
      | some (host, port) => !host.contains ':' && Text.isPort port
      | none => false := by
  unfold hasPort
  split
  · exact absurd rfl hcs
  · rfl

/-- Without a colon no port is named. -/
theorem hasPort_of_no_colon (hbracket : '[' ∉ cs) (hcolon : ':' ∉ cs) : hasPort cs = false := by
  rw [hasPort_of_head fun h => hbracket (List.mem_of_head? h),
    splitLastColon_eq_none_iff.mpr hcolon]

/-- The only colon names what is behind it as the port, if it is one. -/
theorem hasPort_append (hbracket : '[' ∉ host) (hhost : ':' ∉ host) (hport : ':' ∉ port) :
    hasPort (host ++ ':' :: port) = Text.isPort port := by
  rw [hasPort_of_head, splitLastColon_append hport]
  · simp [hhost]
  · cases host with
    | nil => simp
    | cons c host =>
      intro hhead
      obtain rfl := Option.some.inj hhead
      exact hbracket List.mem_cons_self

/-- Two colons without brackets belong to a literal address, whatever is behind them. -/
theorem hasPort_of_two_colons (hbracket : '[' ∉ cs) (hcolons : 2 ≤ cs.count ':') :
    hasPort cs = false := by
  rw [hasPort_of_head fun h => hbracket (List.mem_of_head? h)]
  cases hcut : splitLastColon cs with
  | none => rfl
  | some cut =>
    obtain ⟨host, port⟩ := cut
    obtain ⟨rfl, hport⟩ := eq_of_splitLastColon hcut
    rw [List.count_append, List.count_cons_self, List.count_eq_zero.mpr hport] at hcolons
    have hhost : ':' ∈ host := List.count_pos_iff.mp (by omega)
    simp [hhost]

/-- Behind brackets the port is named by a colon. -/
theorem hasPort_bracketed (hhost : ']' ∉ host) :
    hasPort ('[' :: (host ++ ']' :: ':' :: port)) = Text.isPort port := by
  rw [hasPort, splitBracket_append hhost]

/-- Brackets alone name no port. -/
theorem hasPort_bracketed_alone (hhost : ']' ∉ host) :
    hasPort ('[' :: (host ++ [']'])) = false := by
  rw [hasPort, splitBracket_concat hhost]

/-! ## Ports in digits -/

/-- A port in decimal digits, with any number of zeros in front. -/
def IsPortText (digits : String) : Prop :=
  digits.toList ≠ [] ∧ (∀ c ∈ digits.toList, c.isDigit = true) ∧
    Text.digitsValue digits.toList ≤ 65535

/-- The digits of a port are such a text. -/
theorem isPortText_toNat (p : UInt16) : IsPortText (toString p.toNat) := by
  have hle : p.toNat ≤ 65535 := Nat.le_of_lt_succ p.toNat_lt
  have hdigits : (toString p.toNat).toList = Nat.toDigits 10 p.toNat := String.toList_ofList
  have hread := Text.readDigits_toDigits hle
  unfold Text.readDigits at hread
  split at hread
  · cases hread
  · next hnumber =>
    obtain ⟨hvalue, -⟩ := Option.ite_none_right_eq_some.mp hread
    simp only [Bool.or_eq_true, Bool.not_eq_true', not_or, List.isEmpty_iff,
      Bool.not_eq_false, List.all_eq_true] at hnumber
    rw [IsPortText, hdigits]
    exact ⟨hnumber.1, hnumber.2, hvalue⟩

namespace IsPortText

variable {digits : String}

theorem isPort (h : IsPortText digits) : Text.isPort digits.toList = true := by
  obtain ⟨hne, hdigits, hvalue⟩ := h
  have hall : digits.toList.all Char.isDigit = true := List.all_eq_true.mpr hdigits
  have hread : Text.readDigits 65535 digits.toList = some (Text.digitsValue digits.toList) := by
    simp [Text.readDigits, hne, hall, hvalue]
  unfold Text.isPort Text.readUnsigned
  split
  · next cs heq =>
    have hplus : Char.isDigit '+' = true := hdigits '+' (by rw [heq]; exact List.mem_cons_self)
    cases hplus
  · rw [hread]
    rfl

theorem not_mem (h : IsPortText digits) {c : Char} (hc : c.isDigit = false) : c ∉ digits.toList :=
  fun hmem => by
    rw [h.2.1 c hmem] at hc
    cases hc

end IsPortText

/-! ## Hosts -/

/-- A host that is a name or a literal address without colons. -/
def IsHost (h : String) : Prop := h ≠ "" ∧ ∀ c ∈ h.toList, c ≠ ':' ∧ c ≠ '[' ∧ c ≠ ']'

theorem IsHost.no_colon {h : String} (hh : IsHost h) : ':' ∉ h.toList :=
  fun hmem => (hh.2 _ hmem).1 rfl

theorem IsHost.no_bracket {h : String} (hh : IsHost h) : '[' ∉ h.toList :=
  fun hmem => (hh.2 _ hmem).2.1 rfl

/-- A literal address with colons, without brackets. -/
def IsLiteral (v : String) : Prop :=
  2 ≤ v.toList.count ':' ∧ ∀ c ∈ v.toList, c ≠ '[' ∧ c ≠ ']'

namespace IsLiteral

variable {v : String}

theorem colon (hv : IsLiteral v) : ':' ∈ v.toList :=
  List.count_pos_iff.mp (Nat.lt_of_lt_of_le Nat.zero_lt_two hv.1)

theorem no_open (hv : IsLiteral v) : '[' ∉ v.toList := fun hmem => (hv.2 _ hmem).1 rfl

theorem no_close (hv : IsLiteral v) : ']' ∉ v.toList := fun hmem => (hv.2 _ hmem).2 rfl

end IsLiteral

instance (h : String) : Decidable (IsHost h) :=
  decidable_of_iff (h ≠ "" ∧ h.toList.all (fun c => c != ':' && c != '[' && c != ']') = true)
    (by simp [IsHost, and_assoc])

instance (v : String) : Decidable (IsLiteral v) :=
  decidable_of_iff
    (2 ≤ v.toList.count ':' ∧ v.toList.all (fun c => c != '[' && c != ']') = true)
    (by simp [IsLiteral])

instance (digits : String) : Decidable (IsPortText digits) :=
  decidable_of_iff
    (digits.toList ≠ [] ∧ digits.toList.all Char.isDigit = true ∧
      Text.digitsValue digits.toList ≤ 65535)
    (by simp [IsPortText])

/-! ## The characters of an address -/

private theorem toList_host_port (h digits : String) :
    s!"{h}:{digits}".toList = h.toList ++ ':' :: digits.toList := by
  change (h ++ ":" ++ digits).toList = _
  simp

private theorem toList_bracketed_port (v digits : String) :
    s!"[{v}]:{digits}".toList = '[' :: (v.toList ++ ']' :: ':' :: digits.toList) := by
  change ("[" ++ v ++ "]:" ++ digits).toList = _
  simp

private theorem toList_bracketed (v : String) :
    s!"[{v}]".toList = '[' :: (v.toList ++ [']']) := by
  change ("[" ++ v ++ "]").toList = _
  simp

/-! ## Ports that are appended -/

variable {address : String} {r : UInt16}

theorem withPort_of_hasPort (hport : hasPort address.toList = true) :
    withPort address r = address := by
  rw [withPort, if_pos hport]

theorem withPort_of_plain (hport : hasPort address.toList = false) (hcolon : ':' ∉ address.toList) :
    withPort address r = s!"{address}:{r.toNat}" := by
  rw [withPort, hport, if_neg Bool.false_ne_true, if_neg (by simpa using hcolon)]

theorem withPort_of_literal (hport : hasPort address.toList = false)
    (hcolon : ':' ∈ address.toList) : withPort address r = s!"[{address}]:{r.toNat}" := by
  rw [withPort, hport, if_neg Bool.false_ne_true, if_pos (by simpa using hcolon)]

end Address

namespace Workspace

open Address

/-- What the address of an SSH service comes to, for every form of the workspace's address. A host
without a port gets the remote port, and brackets if it is a literal address with colons; a host
with a port stays as it is. A literal address that has its brackets but no port is not known as
such: it gets a second pair. -/
theorem sshAddress_forms (w : Workspace) (r : UInt16) :
    (∀ h, IsHost h → w.address = h → w.sshAddress r = s!"{h}:{r.toNat}") ∧
    (∀ h digits, IsHost h → IsPortText digits → w.address = s!"{h}:{digits}" →
      w.sshAddress r = s!"{h}:{digits}") ∧
    (∀ v, IsLiteral v → w.address = v → w.sshAddress r = s!"[{v}]:{r.toNat}") ∧
    (∀ v digits, IsLiteral v → IsPortText digits → w.address = s!"[{v}]:{digits}" →
      w.sshAddress r = s!"[{v}]:{digits}") ∧
    (∀ v, IsLiteral v → w.address = s!"[{v}]" → w.sshAddress r = s!"[[{v}]]:{r.toNat}") := by
  refine ⟨fun h hh haddress => ?_, fun h digits hh hdigits haddress => ?_, fun v hv haddress => ?_,
    fun v digits hv hdigits haddress => ?_, fun v hv haddress => ?_⟩
  · rw [sshAddress, haddress]
    exact withPort_of_plain (hasPort_of_no_colon hh.no_bracket hh.no_colon) hh.no_colon
  · have hport : hasPort s!"{h}:{digits}".toList = true := by
      rw [toList_host_port, hasPort_append hh.no_bracket hh.no_colon (hdigits.not_mem rfl),
        hdigits.isPort]
    rw [sshAddress, haddress]
    exact withPort_of_hasPort hport
  · rw [sshAddress, haddress]
    exact withPort_of_literal (hasPort_of_two_colons hv.no_open hv.1) hv.colon
  · have hport : hasPort s!"[{v}]:{digits}".toList = true := by
      rw [toList_bracketed_port, hasPort_bracketed hv.no_close, hdigits.isPort]
    rw [sshAddress, haddress]
    exact withPort_of_hasPort hport
  · have hport : hasPort s!"[{v}]".toList = false := by
      rw [toList_bracketed, hasPort_bracketed_alone hv.no_close]
    have hcolon : ':' ∈ s!"[{v}]".toList := by
      rw [toList_bracketed]
      exact List.mem_cons_of_mem _ (List.mem_append_left _ hv.colon)
    rw [sshAddress, haddress, withPort_of_literal hport hcolon, ← String.toList_inj]
    change ("[" ++ ("[" ++ v ++ "]") ++ "]:" ++ toString r.toNat).toList =
      ("[[" ++ v ++ "]]:" ++ toString r.toNat).toList
    simp

/-- A literal address whose last group could be a port, and one with the last port in brackets. -/
theorem sshAddress_forms_literal :
    let w : Workspace := { id := "1", name := "a", address := "2001:db8::22" }
    let x : Workspace := { w with address := "[::1]:65535" }
    IsLiteral "2001:db8::22" ∧ w.sshAddress 22 = "[2001:db8::22]:22" ∧
      IsLiteral "::1" ∧ IsPortText "65535" ∧ x.sshAddress 2200 = "[::1]:65535" := by
  intro w x
  have hlong : IsLiteral "2001:db8::22" := by decide
  have hshort : IsLiteral "::1" := by decide
  have hdigits : IsPortText "65535" := isPortText_toNat 65535
  obtain ⟨-, -, hliteral, -⟩ := sshAddress_forms w 22
  obtain ⟨-, -, -, hbracketed, -⟩ := sshAddress_forms x 2200
  exact ⟨hlong, hliteral _ hlong rfl, hshort, hdigits, hbracketed _ _ hshort hdigits rfl⟩

/-- An address that has its brackets, but no port, ends up in two pairs of brackets. -/
theorem bracketed_twice :
    ¬∀ (w : Workspace) (r : UInt16) (v : String), IsLiteral v → w.address = s!"[{v}]" →
      w.sshAddress r = s!"[{v}]:{r.toNat}" := by
  intro hclaim
  have h := hclaim { id := "1", name := "a", address := "[::1]" } 22 "::1" (by decide) rfl
  exact absurd h (by decide)

end Workspace

end TunnelFleet
