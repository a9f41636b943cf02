import TunnelFleet.Proofs.Ports.Settled
import TunnelFleet.Proofs.Storage.PortFile
import TunnelFleet.Proofs.Storage.Serving

/-!
# The port file as a map

Whatever is asked of a port file that can be written, it answers like a map from local ids to
ports. The map is the one that the file spells in the beginning, no matter who wrote it: a
repeated key counts once, with its last port, and keys and ports that could not be set today
are in the map like all others. A call that is refused leaves the file as it was.
-/

namespace TunnelFleet

variable {f : PortFile} {t : FileTree} {l : LocalId} {p : UInt16} {pins : Pins}

namespace Pins

/-! ## What a file spells -/

/-- Whether these are the pins of an object with these members. Every value is a port, and of a
repeated key the last one counts. -/
structure Reads (pins : Pins) (members : List (String × Json)) : Prop where
  ports : ∀ member ∈ members, ∃ n, member.2.nat? 65535 = some n
  last : ∀ l : LocalId, pins[l]? =
    ((members.reverse.lookup l.text).bind (Json.nat? 65535)).map UInt16.ofNat

namespace Reads

variable {pins' : Pins} {members : List (String × Json)}

theorem unique (h : pins.Reads members) (h' : pins'.Reads members) : pins = pins' :=
  Std.ExtTreeMap.ext_getElem? fun l => (h.last l).trans (h'.last l).symm

theorem nil : Reads ∅ [] := ⟨nofun, fun l => by simp⟩

/-- A further member takes the place of an earlier one with the same key. -/
theorem concat (h : pins.Reads members) (key : String) {value : Json} {n : Nat}
    (hn : value.nat? 65535 = some n) :
    Reads (pins.insert ⟨key⟩ (UInt16.ofNat n)) (members ++ [(key, value)]) where
  ports member hmember := by
    rcases List.mem_append.mp hmember with hmember | hmember
    · exact h.ports member hmember
    · exact ⟨n, by rw [List.mem_singleton.mp hmember, hn]⟩
  last l := by
    obtain ⟨text⟩ := l
    rw [List.reverse_append, List.reverse_singleton, List.singleton_append, List.lookup_cons,
      Std.ExtTreeMap.getElem?_insert]
    by_cases hkey : text = key
    · simp [hkey, hn]
    · have hne : compare (LocalId.mk key) ⟨text⟩ ≠ .eq := fun heq =>
        hkey (congrArg LocalId.text (Std.LawfulEqOrd.eq_of_compare heq)).symm
      rw [if_neg hne, h.last, beq_eq_false_iff_ne.mpr hkey]

end Reads

/-- An object of ports stands for the pins of its members, whatever its keys are. -/
theorem exists_reads {value : Json} {members : List (String × Json)}
    (hmembers : value.members? = some members)
    (hports : ∀ member ∈ members, ∃ n, member.2.nat? 65535 = some n) :
    ∃ pins, ofJson? value = some pins ∧ Reads pins members := by
  unfold ofJson?
  rw [hmembers]
  simp only [Option.bind_eq_bind, Option.bind_some]
  clear hmembers
  induction members using List.reverseRecOn with
  | nil => exact ⟨∅, rfl, .nil⟩
  | append_singleton members member ih =>
    obtain ⟨key, port⟩ := member
    obtain ⟨pins, hpins, hreads⟩ := ih fun m hm => hports m (List.mem_append_left _ hm)
    obtain ⟨n, hn⟩ := hports (key, port) (by simp)
    refine ⟨pins.insert ⟨key⟩ (UInt16.ofNat n), ?_, hreads.concat key hn⟩
    rw [List.foldlM_append, hpins]
    simp [hn]

/-- An object that stands for pins holds nothing but ports. -/
theorem ports_of_ofJson? {value : Json} {members : List (String × Json)} {pins : Pins}
    (hmembers : value.members? = some members) (h : ofJson? value = some pins) :
    ∀ member ∈ members, ∃ n, member.2.nat? 65535 = some n := by
  unfold ofJson? at h
  rw [hmembers] at h
  simp only [Option.bind_eq_bind, Option.bind_some] at h
  clear hmembers
  -- The induction follows the members, so it is about any pins read before them.
  generalize (∅ : Std.ExtTreeMap LocalId UInt16) = before at h
  induction members generalizing before with
  | nil => exact fun member hmember => nomatch hmember
  | cons member members ih =>
    obtain ⟨key, port⟩ := member
    rw [List.foldlM_cons] at h
    cases hn : port.nat? (UInt16.size - 1) with
    | none => simp only [hn, Option.bind_eq_bind, Option.bind_none, reduceCtorEq] at h
    | some n =>
      simp only [hn, Option.bind_eq_bind, Option.bind_some, Option.pure_def] at h
      rintro member (_ | ⟨_, hmember⟩)
      · exact ⟨n, hn⟩
      · exact ih _ h member hmember

/-- What a value stands for are the pins of its members, if it is an object of ports. -/
theorem ofJson?_eq_some {value : Json} {pins : Pins} : ofJson? value = some pins ↔
    ∃ members, value.members? = some members ∧ Reads pins members := by
  constructor
  · intro h
    cases hmembers : value.members? with
    | none => simp [ofJson?, hmembers] at h
    | some members =>
      obtain ⟨pins', h', hreads⟩ := exists_reads hmembers (ports_of_ofJson? hmembers h)
      obtain rfl := Option.some.inj (h'.symm.trans h)
      exact ⟨members, rfl, hreads⟩
  · rintro ⟨members, hmembers, hreads⟩
    obtain ⟨pins', h', hreads'⟩ := exists_reads hmembers hreads.ports
    rw [h', hreads'.unique hreads]

end Pins

/-! ## Calls -/

/-- A call of a port file. The last two are those of an assigner. -/
inductive PortCall
  | set (l : LocalId) (port : UInt16)
  | remove (l : LocalId)
  | get (l : LocalId)
  | list
  | lookup (l : LocalId)
  | save (l : LocalId) (port : UInt16)
  deriving DecidableEq

/-- Whether a call is refused whatever the file holds: it is to pin a local id that is not allowed,
or to pin one to a port that cannot be bound by number. -/
def PortCall.Refused : PortCall → Prop
  | .set l port | .save l port => ¬(l.NameAllowed ∧ port ≠ 0)
  | _ => False

/-- Whether a call is to change the pins. -/
def PortCall.Changes : PortCall → Prop
  | .set _ _ | .save _ _ | .remove _ => True
  | .get _ | .lookup _ | .list => False

/-- The answer to a call of a port file. -/
inductive PortAnswer
  | set (result : Except StoreError Unit)
  | remove (result : Except StoreError Bool)
  | get (result : Except StoreError (Option UInt16))
  | list (result : Except StoreError (List (LocalId × UInt16)))
  | lookup (result : Except StoreUnavailable (Option UInt16))
  | save (result : Except StoreUnavailable Unit)

/-- Whether an answer is no error. -/
def PortAnswer.isOk : PortAnswer → Bool
  | .set result => result.isOk
  | .remove result => result.isOk
  | .get result => result.isOk
  | .list result => result.isOk
  | .lookup result => result.isOk
  | .save result => result.isOk

/-- Answers a call from the file. -/
def PortFile.perform (f : PortFile) (call : PortCall) (t : FileTree) : PortAnswer × FileTree :=
  match call with
  | .set l port => (.set (f.set l port t).1, (f.set l port t).2)
  | .remove l => (.remove (f.remove l t).1, (f.remove l t).2)
  | .get l => (.get (f.get l t), t)
  | .list => (.list ((f.list t).map (·.toList)), t)
  | .lookup l => (.lookup (f.asStore.lookup t l), t)
  | .save l port => (.save (f.asStore.save t l port).1, (f.asStore.save t l port).2)

namespace Pins

/-- Pins a local id to a port in a map, if the local id is allowed and the port can be bound by
number. -/
def set (pins : Pins) (l : LocalId) (port : UInt16) : Except StoreError Unit × Pins :=
  if l.NameAllowed ∧ port ≠ 0 then (.ok (), pins.insert l port)
  else (l.check.bind fun _ => .error (.invalidPort port), pins)

/-- Answers a call from a map. -/
def perform (call : PortCall) (pins : Pins) : PortAnswer × Pins :=
  match call with
  | .set l port => (.set (pins.set l port).1, (pins.set l port).2)
  | .remove l => (.remove (.ok (pins.contains l)), pins.erase l)
  | .get l => (.get (.ok pins[l]?), pins)
  | .list => (.list (.ok pins.toList), pins)
  | .lookup l => (.lookup (.ok pins[l]?), pins)
  | .save l port =>
    (.save ((pins.set l port).1.mapError fun e => ⟨e.message⟩), (pins.set l port).2)

theorem erase_of_not_mem (hl : l ∉ pins) : pins.erase l = pins := by
  refine Std.ExtTreeMap.ext_getElem? fun k => ?_
  rw [Std.ExtTreeMap.getElem?_erase]
  split
  · next heq =>
    obtain rfl := Std.LawfulEqOrd.eq_of_compare heq
    exact (Std.ExtTreeMap.getElem?_eq_none hl).symm
  · rfl

end Pins

namespace PortFile

/-! ## Calls that leave the file alone -/

/-- A pin that must not be set is refused before the file is looked at. -/
theorem set_refused (f : PortFile) (t : FileTree) (h : ¬(l.NameAllowed ∧ p ≠ 0)) :
    ∃ e, (l.check.bind fun _ => .error (.invalidPort p) : Except StoreError Unit) = .error e ∧
      f.set l p t = (.error e, t) := by
  unfold set
  cases hcheck : l.check with
  | error e => exact ⟨e, rfl, rfl⟩
  | ok u =>
    have hp : p = 0 := not_not.mp fun hp => h ⟨LocalId.check_eq_ok_iff.mp hcheck, hp⟩
    exact ⟨.invalidPort p, rfl, by simp [hp]⟩

/-- A pin that may be set is set among the pins in the file. -/
theorem set_allowed (h : l.NameAllowed ∧ p ≠ 0) (hlist : f.list t = .ok pins) :
    f.set l p t = f.write (pins.insert l p) t := by
  simp only [set, LocalId.check_eq_ok_iff.mpr h.1, beq_iff_eq, h.2, if_false, hlist]

/-- Nothing is done with a file that cannot be read. -/
theorem set_of_unreadable {e : StoreError} (hlist : f.list t = .error e) (l : LocalId)
    (p : UInt16) : ∃ e, f.set l p t = (.error e, t) := by
  by_cases h : l.NameAllowed ∧ p ≠ 0
  · refine ⟨e, ?_⟩
    simp only [set, LocalId.check_eq_ok_iff.mpr h.1, beq_iff_eq, h.2, if_false, hlist]
  · obtain ⟨e, -, hset⟩ := set_refused f t h
    exact ⟨e, hset⟩

theorem remove_absent (hlist : f.list t = .ok pins) (hl : l ∉ pins) :
    f.remove l t = (.ok false, t) := by
  simp only [remove, hlist, if_neg hl]

theorem remove_present (hlist : f.list t = .ok pins) (hl : l ∈ pins) :
    f.remove l t = ((f.write (pins.erase l) t).1.map fun _ => true,
      (f.write (pins.erase l) t).2) := by
  simp only [remove, hlist, if_pos hl]
  rcases f.write (pins.erase l) t with ⟨_ | _, t'⟩ <;> rfl

/-- Pins that could not be written leave every file as it was. -/
theorem sameFiles_write (h : (f.write pins t).1 ≠ .ok ()) : t.SameFiles (f.write pins t).2 := by
  cases hwrite : (f.write pins t).1 with
  | ok u => exact absurd hwrite h
  | error e => exact FileTree.sameFiles_saveText hwrite

theorem sameFiles_set (h : (f.set l p t).1.isOk = false) : t.SameFiles (f.set l p t).2 := by
  obtain ⟨e, hset⟩ | ⟨pins, -, hset⟩ := f.set_cases l p t
  · rw [hset]
    exact .refl t
  · rw [hset] at h ⊢
    exact sameFiles_write fun hok => by simp [hok, Except.isOk, Except.toBool] at h

theorem sameFiles_remove (h : (f.remove l t).1.isOk = false) : t.SameFiles (f.remove l t).2 := by
  cases hlist : f.list t with
  | error e =>
    rw [remove, hlist]
    exact .refl t
  | ok pins =>
    by_cases hl : l ∈ pins
    · rw [remove_present hlist hl] at h ⊢
      exact sameFiles_write fun hok => by simp [hok, Except.map, Except.isOk, Except.toBool] at h
    · rw [remove_absent hlist hl]
      exact .refl t

theorem save_asStore (f : PortFile) (t : FileTree) (l : LocalId) (p : UInt16) :
    f.asStore.save t l p =
      ((f.set l p t).1.mapError fun e => ⟨e.message⟩, (f.set l p t).2) := rfl

theorem lookup_asStore (f : PortFile) (t : FileTree) (l : LocalId) :
    f.asStore.lookup t l = (f.get l t).mapError fun e => ⟨e.message⟩ := rfl

theorem perform_refused {call : PortCall} (h : call.Refused) (f : PortFile) (t : FileTree) :
    (f.perform call t).1.isOk = false ∧ (f.perform call t).2 = t := by
  cases call with
  | set l p =>
    obtain ⟨e, -, hset⟩ := set_refused f t h
    rw [perform, hset]
    exact ⟨rfl, rfl⟩
  | save l p =>
    obtain ⟨e, -, hset⟩ := set_refused f t h
    rw [perform, save_asStore, hset]
    exact ⟨rfl, rfl⟩
  | remove l => exact h.elim
  | get l => exact h.elim
  | list => exact h.elim
  | lookup l => exact h.elim

theorem perform_of_unreadable {e : StoreError} (hlist : f.list t = .error e) (call : PortCall) :
    (f.perform call t).1.isOk = false ∧ (f.perform call t).2 = t := by
  cases call with
  | set l p =>
    obtain ⟨e, hset⟩ := set_of_unreadable hlist l p
    rw [perform, hset]
    exact ⟨rfl, rfl⟩
  | save l p =>
    obtain ⟨e, hset⟩ := set_of_unreadable hlist l p
    rw [perform, save_asStore, hset]
    exact ⟨rfl, rfl⟩
  | remove l =>
    rw [perform, remove, hlist]
    exact ⟨rfl, rfl⟩
  | get l =>
    rw [perform, get, hlist]
    exact ⟨rfl, rfl⟩
  | list =>
    rw [perform, hlist]
    exact ⟨rfl, rfl⟩
  | lookup l =>
    rw [perform, lookup_asStore, get, hlist]
    exact ⟨rfl, rfl⟩

theorem sameFiles_perform {call : PortCall} (h : (f.perform call t).1.isOk = false) :
    t.SameFiles (f.perform call t).2 := by
  cases call with
  | set l p => exact sameFiles_set h
  | remove l => exact sameFiles_remove h
  | save l p =>
    refine sameFiles_set ?_
    rw [perform, save_asStore] at h
    change ((f.set l p t).1.mapError _).isOk = false at h
    cases hset : (f.set l p t).1 with
    | error e => rfl
    | ok u =>
      rw [hset] at h
      cases h
  | get l => exact .refl t
  | list => exact .refl t
  | lookup l => exact .refl t

/-- Pins are listed in the order of their local ids. -/
theorem pairwise_of_perform {call : PortCall} {entries : List (LocalId × UInt16)}
    (h : (f.perform call t).1 = .list (.ok entries)) :
    entries.Pairwise fun a b => compare a.1 b.1 = .lt := by
  cases call with
  | list =>
    have hlisted : (f.list t).map (·.toList) = .ok entries := PortAnswer.list.inj h
    cases hlist : f.list t with
    | error e =>
      rw [hlist] at hlisted
      cases hlisted
    | ok pins =>
      rw [hlist] at hlisted
      cases hlisted
      exact Std.ExtTreeMap.ordered_keys_toList
  | set l p => cases h
  | remove l => cases h
  | get l => cases h
  | lookup l => cases h
  | save l p => cases h

/-! ## A file that can be written -/

/-- Whether the file system lets the file be written. -/
def Writable (f : PortFile) (t : FileTree) : Prop := ∃ text, (t.saveText f.path text).1 = .ok ()

/-- Whether the file holds these pins: it is missing and there are none, or its text is an object
of which they are read. -/
def Holds (f : PortFile) (t : FileTree) (pins : Pins) : Prop :=
  t.has f.path = false ∧ pins = ∅ ∨
    t.has f.path = true ∧ ∃ text members, t.loadText f.path = .ok text ∧
      (Json.parse? text).bind Json.members? = some members ∧ pins.Reads members

theorem list_eq_ok : f.list t = .ok pins ↔ f.Holds t pins := by
  unfold list Holds Pins.parse?
  cases t.has f.path with
  | false => simp [eq_comm]
  | true =>
    cases t.loadText f.path with
    | error e => simp
    | ok text =>
      cases hvalue : Json.parse? text with
      | none => simp [hvalue]
      | some value =>
        have hreads : Pins.ofJson? value = some pins ↔ _ := Pins.ofJson?_eq_some
        cases hpins : Pins.ofJson? value with
        | none => simpa [hvalue, hpins] using hreads
        | some pins' => simpa [hvalue, hpins] using hreads

/-- Pins that are written are in the file afterwards, unless the file cannot be written. -/
theorem write_outcomes (f : PortFile) (pins : Pins) (t : FileTree) :
    ((f.write pins t).1 = .ok () ∧ f.list (f.write pins t).2 = .ok pins) ∨
      ((f.write pins t).1.isOk = false ∧ ¬f.Writable t) := by
  obtain hwritten | ⟨e, hfailed, -⟩ := f.write_cases pins t
  · exact .inl hwritten
  · refine .inr ⟨by rw [hfailed]; rfl, fun ⟨text, hsave⟩ => ?_⟩
    have hok : (f.write pins t).1 = .ok () := FileTree.saveText_instead hsave pins.text
    rw [hok] at hfailed
    cases hfailed

/-- A pin is set in the file as it would be set in the map that the file holds. -/
theorem set_outcomes (hlist : f.list t = .ok pins) (l : LocalId) (p : UInt16) :
    ((f.set l p t).1 = (pins.set l p).1 ∧ f.list (f.set l p t).2 = .ok (pins.set l p).2) ∨
      ((f.set l p t).1.isOk = false ∧ ¬f.Writable t) := by
  unfold Pins.set
  by_cases h : l.NameAllowed ∧ p ≠ 0
  · rw [set_allowed h hlist, if_pos h]
    exact f.write_outcomes _ t
  · obtain ⟨e, hrefused, hset⟩ := set_refused f t h
    rw [hset, if_neg h, hrefused]
    exact .inl ⟨rfl, hlist⟩

/-- A pin is removed from the file as it would be removed from the map that the file holds. -/
theorem remove_outcomes (hlist : f.list t = .ok pins) (l : LocalId) :
    ((f.remove l t).1 = .ok (pins.contains l) ∧ f.list (f.remove l t).2 = .ok (pins.erase l)) ∨
      ((f.remove l t).1.isOk = false ∧ ¬f.Writable t) := by
  by_cases hl : l ∈ pins
  · rw [remove_present hlist hl, Std.ExtTreeMap.mem_iff_contains.mp hl]
    obtain ⟨hok, hwritten⟩ | ⟨hfailed, hstuck⟩ := f.write_outcomes (pins.erase l) t
    · rw [hok]
      exact .inl ⟨rfl, hwritten⟩
    · refine .inr ⟨?_, hstuck⟩
      cases hwrite : (f.write (pins.erase l) t).1 with
      | ok u => simp [hwrite, Except.isOk, Except.toBool] at hfailed
      | error e => rfl
  · have hcontains : pins.contains l = false := Bool.eq_false_iff.mpr hl
    rw [remove_absent hlist hl, Pins.erase_of_not_mem hl, hcontains]
    exact .inl ⟨rfl, hlist⟩

/-- A call is answered from the map that the file holds, and leaves the file with the map that the
call leaves. If the file cannot be written, a call to change the pins may fail instead. -/
theorem perform_outcomes (hlist : f.list t = .ok pins) (call : PortCall) :
    ((f.perform call t).1 = (pins.perform call).1 ∧
      f.list (f.perform call t).2 = .ok (pins.perform call).2) ∨
    (call.Changes ∧ (f.perform call t).1.isOk = false ∧ ¬f.Writable t) := by
  have hget : ∀ l, f.get l t = .ok pins[l]? := fun l => by
    rw [get, hlist]
    rfl
  cases call with
  | set l p =>
    obtain ⟨hanswer, hset⟩ | hfailed := set_outcomes hlist l p
    · exact .inl ⟨congrArg PortAnswer.set hanswer, hset⟩
    · exact .inr ⟨trivial, hfailed⟩
  | remove l =>
    obtain ⟨hanswer, hremove⟩ | hfailed := remove_outcomes hlist l
    · exact .inl ⟨congrArg PortAnswer.remove hanswer, hremove⟩
    · exact .inr ⟨trivial, hfailed⟩
  | get l => exact .inl ⟨congrArg PortAnswer.get (hget l), hlist⟩
  | list =>
    refine .inl ⟨?_, hlist⟩
    rw [perform, hlist]
    rfl
  | lookup l => exact .inl ⟨congrArg PortAnswer.lookup (lookup_asStore_eq_ok.mpr (hget l)), hlist⟩
  | save l p =>
    rw [perform, save_asStore, Pins.perform]
    obtain ⟨hanswer, hset⟩ | ⟨hfailed, hstuck⟩ := set_outcomes hlist l p
    · rw [hanswer]
      exact .inl ⟨rfl, hset⟩
    · refine .inr ⟨trivial, ?_, hstuck⟩
      cases hset : (f.set l p t).1 with
      | ok u => simp [hset, Except.isOk, Except.toBool] at hfailed
      | error e => rfl

theorem writable_write (h : f.Writable t) (pins : Pins) : f.Writable (f.write pins t).2 := by
  obtain ⟨text, hsave⟩ := h
  exact ⟨"", FileTree.saveText_again (FileTree.saveText_instead hsave pins.text) ""⟩

/-- Whatever is called, a file that can be written can be written again. -/
theorem writable_perform (h : f.Writable t) (call : PortCall) :
    f.Writable (f.perform call t).2 := by
  have hset : ∀ l p, f.Writable (f.set l p t).2 := by
    intro l p
    obtain ⟨e, hrefused⟩ | ⟨pins, -, hwrite⟩ := f.set_cases l p t
    · rwa [hrefused]
    · rw [hwrite]
      exact writable_write h _
  cases call with
  | set l p => exact hset l p
  | save l p => exact hset l p
  | remove l =>
    change f.Writable (f.remove l t).2
    obtain hsame | ⟨pins, -, hwrite⟩ := f.remove_cases l t
    · rwa [hsame]
    · rw [hwrite]
      exact writable_write h _
  | get l => exact h
  | list => exact h
  | lookup l => exact h

/-! ## Sequences of calls -/

/-- A port file refines a map from local ids to ports. While the file system lets it be written,
every sequence of calls is answered as from the map that the file holds in the beginning, and
the file holds what becomes of the map. If it cannot be written, each call is still answered like
that, unless it is to change the pins and fails. Whatever a file holds, a call that answers with
an error leaves every file as it was. If the call must not be carried out or the file is not one
of pins, nothing at all is touched, and neither is it by the removal of a pin that is not there.
Pins are listed in the order of their local ids. -/
theorem calls_answered_by_map (f : PortFile) :
    (∀ t pins, f.Holds t pins → f.Writable t → ∀ calls,
      (serve f.perform calls t).1 = (serve Pins.perform calls pins).1 ∧
        f.list (serve f.perform calls t).2 = .ok (serve Pins.perform calls pins).2) ∧
    ∀ t call,
      let answer := (f.perform call t).1
      let t' := (f.perform call t).2
      (∀ pins, f.Holds t pins →
        answer = (pins.perform call).1 ∧ f.list t' = .ok (pins.perform call).2 ∨
          call.Changes ∧ answer.isOk = false ∧ ¬f.Writable t) ∧
      (∀ e, f.list t = .error e → answer.isOk = false ∧ t' = t) ∧
      (call.Refused → answer.isOk = false ∧ t' = t) ∧
      (∀ l pins, call = .remove l → f.Holds t pins → l ∉ pins →
        answer = .remove (.ok false) ∧ t' = t) ∧
      (answer.isOk = false → t.SameFiles t') ∧
      ∀ entries, answer = .list (.ok entries) →
        entries.Pairwise fun a b => compare a.1 b.1 = .lt := by
  refine ⟨fun t pins hholds hwritable calls => ?_, fun t call => ⟨?_, ?_, ?_, ?_, ?_, ?_⟩⟩
  · -- What is kept from call to call is that the file holds the map and can be written.
    have hstep : ∀ call t pins, f.list t = .ok pins ∧ f.Writable t →
        (f.perform call t).1 = (pins.perform call).1 ∧
          f.list (f.perform call t).2 = .ok (pins.perform call).2 ∧
            f.Writable (f.perform call t).2 := by
      rintro call t pins ⟨hlist, hwritable⟩
      obtain ⟨hanswer, hlist'⟩ | ⟨-, -, hstuck⟩ := perform_outcomes hlist call
      · exact ⟨hanswer, hlist', writable_perform hwritable call⟩
      · exact absurd hwritable hstuck
    obtain ⟨hanswers, hlist, -⟩ := serve_alike hstep ⟨list_eq_ok.mpr hholds, hwritable⟩ calls
    exact ⟨hanswers, hlist⟩
  · exact fun pins hholds => perform_outcomes (list_eq_ok.mpr hholds) call
  · exact fun e hlist => perform_of_unreadable hlist call
  · exact fun h => perform_refused h f t
  · rintro l pins rfl hholds hl
    rw [perform, remove_absent (list_eq_ok.mpr hholds) hl]
    exact ⟨rfl, rfl⟩
  · exact sameFiles_perform
  · exact fun entries => pairwise_of_perform

/-- A file with a repeated key and with a key and a port that could not be set, and calls of all
kinds. A broken file stays broken. -/
theorem calls_answered_by_map_odd_file :
    let f : PortFile := ⟨⟨["", "ports.json"]⟩⟩
    let holding (text : String) : FileTree :=
      { entries := .ofList [(["ports.json"], Entry.file text.toUTF8)] compare }
    let t := holding "\x7b\"web-1\": 7, \"../x\": 9, \"web-1\": 2201, \"db-2\": 0\x7d"
    let broken := holding "\x7bbroken"
    let web : LocalId := ⟨"web-1"⟩
    let db : LocalId := ⟨"db-2"⟩
    let odd : LocalId := ⟨"../x"⟩
    let pins : Pins := .ofList [(web, 2201), (odd, 9), (db, 0)] compare
    let calls : List PortCall :=
      [.remove odd, .remove odd, .set odd 9, .save db 0, .set db 2202, .get web, .lookup odd, .list]
    f.Holds t pins ∧ f.Writable t ∧
      (serve f.perform calls t).1 = (serve Pins.perform calls pins).1 ∧
      f.list (serve f.perform calls t).2 = .ok (.ofList [(db, 2202), (web, 2201)] compare) ∧
      (f.perform (.set odd 9) broken).2 = broken ∧ (f.perform (.remove web) broken).2 = broken ∧
      (f.perform (.remove ⟨"api-3"⟩) t).2 = t := by
  intro f holding t broken web db odd pins calls
  have hholds : f.Holds t pins := list_eq_ok.mp (by decide +kernel)
  have hwritable : f.Writable t := ⟨"", by decide +kernel⟩
  obtain ⟨hmap, hlone⟩ := calls_answered_by_map f
  obtain ⟨hanswers, hlist⟩ := hmap t pins hholds hwritable calls
  obtain ⟨-, -, hrefused, -⟩ := hlone broken (.set odd 9)
  obtain ⟨-, hunreadable, -⟩ := hlone broken (.remove web)
  obtain ⟨-, -, -, habsent, -⟩ := hlone t (.remove ⟨"api-3"⟩)
  refine ⟨hholds, hwritable, hanswers, hlist.trans (by decide +kernel), ?_, ?_, ?_⟩
  · exact (hrefused fun h => absurd h.1 (by decide)).2
  · exact (hunreadable (.malformed f.path) (by decide +kernel)).2
  · exact (habsent ⟨"api-3"⟩ pins rfl hholds (by decide +kernel)).2

/-- A file that holds pins and can be written is a store of ports that nobody disturbs but the
assigner. -/
theorem undisturbed (f : PortFile) :
    f.asStore.Undisturbed fun t => (∃ pins, f.Holds t pins) ∧ f.Writable t where
  saved l p h := by
    obtain ⟨⟨pins, hholds⟩, hwritable⟩ := h
    refine ⟨?_, writable_perform hwritable (.save l p)⟩
    obtain ⟨-, hlist⟩ | ⟨-, hstuck⟩ := set_outcomes (list_eq_ok.mpr hholds) l p
    · exact ⟨_, list_eq_ok.mp hlist⟩
    · exact absurd hwritable hstuck
  kept {t k pin} l p h hlookup := by
    obtain ⟨⟨pins, hholds⟩, hwritable⟩ := h
    have hlist := list_eq_ok.mpr hholds
    have hset := (set_outcomes hlist l p).resolve_right fun hstuck => hstuck.2 hwritable
    simp only [lookup_asStore_eq_ok, save_asStore, get, hlist, hset.2, Except.map,
      Except.ok.injEq] at hlookup ⊢
    rw [← hlookup]
    unfold Pins.set
    split
    · by_cases hk : k = l
      · exact .inr ⟨hk, by simp [hk]⟩
      · exact .inl (by simp [Std.ExtTreeMap.getElem?_insert, Ne.symm hk])
    · exact .inl rfl

end PortFile

end TunnelFleet
