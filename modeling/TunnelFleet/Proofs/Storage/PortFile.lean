import TunnelFleet.Proofs.Files.Writing
import TunnelFleet.Proofs.Storage.Texts
import TunnelFleet.Storage.PortFile

/-!
# What the port file holds

Setting and removing a pin change the pins in the file as they would change a map, or fail and
leave them alone.
-/

namespace TunnelFleet

variable {f : PortFile} {t t' : FileTree} {l k : LocalId} {p : UInt16} {pins : Pins}

namespace PortFile

/-! ## Pins in the file -/

/-- Writing pins leaves exactly these in the file, or fails and at most makes directories. -/
theorem write_cases (f : PortFile) (pins : Pins) (t : FileTree) :
    ((f.write pins t).1 = .ok () ∧ f.list (f.write pins t).2 = .ok pins) ∨
      ∃ e, (f.write pins t).1 = .error e ∧ t.Grows (f.write pins t).2 := by
  obtain ⟨hok, hhas, htext⟩ | hfailed := t.saveText_cases f.path pins.text
  · refine .inl ⟨hok, ?_⟩
    simp [list, write, hhas, htext, Pins.parse?_text]
  · exact .inr hfailed

theorem get_eq_some :
    f.get l t = .ok (some p) ↔ ∃ pins, f.list t = .ok pins ∧ pins[l]? = some p := by
  unfold get
  cases f.list t with
  | error e => simp [Except.map]
  | ok pins => simp [Except.map]

/-- A pin stays as long as the file stays. -/
theorem get_of_grows (h : t.Grows t') (hp : f.get l t = .ok (some p)) :
    f.get l t' = .ok (some p) := by
  obtain ⟨pins, hlist, hpin⟩ := get_eq_some.mp hp
  refine get_eq_some.mpr ⟨pins, ?_, hpin⟩
  unfold list at hlist ⊢
  cases hhas : t.has f.path with
  | false =>
    rw [hhas] at hlist
    cases hlist
    simp at hpin
  | true =>
    rw [hhas, if_pos rfl] at hlist
    rw [h.has hhas, if_pos rfl]
    cases hload : t.loadText f.path with
    | error e =>
      rw [hload] at hlist
      cases hlist
    | ok text =>
      rw [hload] at hlist
      rw [h.loadText hload]
      exact hlist

/-- A pin that is among the new pins as it was among the old ones is still there once the new
ones were written, even if writing them failed. -/
theorem get_write {pins' : Pins} (hp : f.get l t = .ok (some p)) (hlist : f.list t = .ok pins)
    (hsame : pins'[l]? = pins[l]?) : f.get l (f.write pins' t).2 = .ok (some p) := by
  obtain ⟨-, hwritten⟩ | ⟨e, -, hgrows⟩ := f.write_cases pins' t
  · obtain ⟨before, hbefore, hpin⟩ := get_eq_some.mp hp
    obtain rfl : pins = before := Except.ok.inj (hlist.symm.trans hbefore)
    exact get_eq_some.mpr ⟨pins', hwritten, hsame.trans hpin⟩
  · exact get_of_grows hgrows hp

/-- Setting a pin is refused, or adds the pin to those in the file. -/
theorem set_cases (f : PortFile) (l : LocalId) (p : UInt16) (t : FileTree) :
    (∃ e, f.set l p t = (.error e, t)) ∨
      ∃ pins, f.list t = .ok pins ∧ f.set l p t = f.write (pins.insert l p) t := by
  unfold set
  cases l.check with
  | error e => exact .inl ⟨e, rfl⟩
  | ok u =>
    dsimp only
    split
    · exact .inl ⟨_, rfl⟩
    · cases f.list t with
      | error e => exact .inl ⟨e, rfl⟩
      | ok pins => exact .inr ⟨pins, rfl, rfl⟩

/-- Removing a pin leaves the tree alone, or takes the pin from those in the file. -/
theorem remove_cases (f : PortFile) (l : LocalId) (t : FileTree) :
    (f.remove l t).2 = t ∨
      ∃ pins, f.list t = .ok pins ∧ (f.remove l t).2 = (f.write (pins.erase l) t).2 := by
  unfold remove
  cases f.list t with
  | error e => exact .inl rfl
  | ok pins =>
    by_cases hl : l ∈ pins
    · refine .inr ⟨pins, rfl, ?_⟩
      simp only [hl, if_true]
      split
      · next heq => rw [heq]
      · next heq => rw [heq]
    · exact .inl (by simp [hl])

/-- A workspace that was pinned to a port has this pin. -/
theorem get_set (h : (f.set l p t).1 = .ok ()) : f.get l (f.set l p t).2 = .ok (some p) := by
  obtain ⟨e, hset⟩ | ⟨pins, -, hset⟩ := f.set_cases l p t
  · rw [hset] at h
    cases h
  · rw [hset] at h ⊢
    obtain ⟨-, hlist⟩ | ⟨e, hwrite, -⟩ := f.write_cases (pins.insert l p) t
    · exact get_eq_some.mpr ⟨_, hlist, by simp⟩
    · rw [hwrite] at h
      cases h

/-- Pinning a workspace leaves the pins of the others alone, whether it succeeds or not. -/
theorem get_set_of_ne (hk : k ≠ l) (q : UInt16) (hp : f.get l t = .ok (some p)) :
    f.get l (f.set k q t).2 = .ok (some p) := by
  obtain ⟨e, hset⟩ | ⟨pins, hlist, hset⟩ := f.set_cases k q t
  · rw [hset]
    exact hp
  · rw [hset]
    exact get_write hp hlist (by simp [Std.ExtTreeMap.getElem?_insert, hk])

/-- Removing a pin leaves the others alone, whether it succeeds or not. -/
theorem get_remove_of_ne (hk : k ≠ l) (hp : f.get l t = .ok (some p)) :
    f.get l (f.remove k t).2 = .ok (some p) := by
  obtain hremove | ⟨pins, hlist, hremove⟩ := f.remove_cases k t
  · rw [hremove]
    exact hp
  · rw [hremove]
    exact get_write hp hlist (by simp [Std.ExtTreeMap.getElem?_erase, hk])

/-! ## The file as a store of ports -/

theorem lookup_asStore_eq_ok {pin : Option UInt16} :
    f.asStore.lookup t l = .ok pin ↔ f.get l t = .ok pin :=
  mapError_eq_ok

theorem save_asStore_eq_ok : (f.asStore.save t l p).1 = .ok () ↔ (f.set l p t).1 = .ok () :=
  mapError_eq_ok

end PortFile

end TunnelFleet
