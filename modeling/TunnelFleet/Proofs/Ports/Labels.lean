import TunnelFleet.Ports.Label

/-!
# What labels tell of ports

A report with labels tells which of its ports are the same, and nothing else of the ports that
were drawn. Each port has one label throughout a report and shares it with no other, except that
ports which cannot have been drawn are not told apart. And if other ports had been drawn in the
same places, the labels would be the same.
-/

namespace TunnelFleet.PortLabels

variable {ls ls' : PortLabels} {p q : UInt16} {ps : List UInt16}

/-- Whether a port is neither known beforehand nor in a range that ports are drawn from. -/
def IsOutside (ls : PortLabels) (p : UInt16) : Prop :=
  p.toNat ∉ ls.known ∧ ls.ranges.any (·.contains p) = false

/-- Whether a port is one that can have been drawn and is not known beforehand. -/
def IsDrawn (ls : PortLabels) (p : UInt16) : Prop :=
  p.toNat ∉ ls.known ∧ ls.ranges.any (·.contains p) = true

/-- The labels of ports in the order in which they appear in a report. -/
def labelAll : List UInt16 → PortLabels → List PortLabel × PortLabels
  | [], ls => ([], ls)
  | p :: ps, ls =>
    let (label, ls) := ls.label p
    let (labels, ls) := labelAll ps ls
    (label :: labels, ls)

/-- A port is known, or outside, or it has its place among the drawn ports and keeps it, or it
takes the next place. -/
theorem label_cases (p : UInt16) (ls : PortLabels) :
    (p.toNat ∈ ls.known ∧ ls.label p = (.number p.toNat, ls)) ∨
    (ls.IsOutside p ∧ ls.label p = (.outside, ls)) ∨
    (ls.IsDrawn p ∧ ∃ i, ls.drawn.idxOf? p = some i ∧ ls.label p = (.drawn (i + 1), ls)) ∨
    (ls.IsDrawn p ∧ ls.drawn.idxOf? p = none ∧
      ls.label p = (.drawn (ls.drawn.length + 1), { ls with drawn := ls.drawn ++ [p] })) := by
  unfold label IsOutside IsDrawn
  by_cases hknown : p.toNat ∈ ls.known
  · exact .inl ⟨hknown, by simp [hknown]⟩
  · cases hrange : ls.ranges.any (·.contains p) with
    | false => exact .inr (.inl ⟨⟨hknown, rfl⟩, by simp [hknown]⟩)
    | true =>
      cases hplace : ls.drawn.idxOf? p with
      | some i => exact .inr (.inr (.inl ⟨⟨hknown, rfl⟩, i, rfl, by simp [hknown]⟩))
      | none => exact .inr (.inr (.inr ⟨⟨hknown, rfl⟩, rfl, by simp [hknown]⟩))

/-! ## One label for each port -/

/-- What is known is the same, and the drawn ports that had places keep them. -/
structure Extends (ls' ls : PortLabels) : Prop where
  known : ls'.known = ls.known
  ranges : ls'.ranges = ls.ranges
  drawn : ls.drawn <+: ls'.drawn

theorem Extends.trans {ls'' : PortLabels} (h : ls''.Extends ls') (h' : ls'.Extends ls) :
    ls''.Extends ls :=
  ⟨h.known.trans h'.known, h.ranges.trans h'.ranges, h'.drawn.trans h.drawn⟩

theorem extends_label (p : UInt16) (ls : PortLabels) : (ls.label p).2.Extends ls := by
  obtain ⟨-, h⟩ | ⟨-, h⟩ | ⟨-, i, -, h⟩ | ⟨-, -, h⟩ := ls.label_cases p
  · rw [h]
    exact ⟨rfl, rfl, List.prefix_refl _⟩
  · rw [h]
    exact ⟨rfl, rfl, List.prefix_refl _⟩
  · rw [h]
    exact ⟨rfl, rfl, List.prefix_refl _⟩
  · rw [h]
    exact ⟨rfl, rfl, List.prefix_append _ _⟩

theorem extends_labelAll (ps : List UInt16) (ls : PortLabels) :
    (labelAll ps ls).2.Extends ls := by
  induction ps generalizing ls with
  | nil => exact ⟨rfl, rfl, List.prefix_refl _⟩
  | cons p ps ih => exact (ih (ls.label p).2).trans (extends_label p ls)

/-- A place that a port has taken stays its place. -/
theorem idxOf?_of_prefix {drawn more : List UInt16} {i : Nat} (h : drawn <+: more)
    (hi : drawn.idxOf? p = some i) : more.idxOf? p = some i := by
  obtain ⟨rest, rfl⟩ := h
  rw [List.idxOf?, List.findIdx?_append]
  rw [List.idxOf?] at hi
  rw [hi, Option.some_or]

/-- A port that has been labelled once is labelled in the same way ever after. -/
theorem label_of_extends (h : ls'.Extends (ls.label p).2) :
    ls'.label p = ((ls.label p).1, ls') := by
  obtain ⟨hknown, hlabel⟩ | ⟨hout, hlabel⟩ | ⟨hdrawn, i, hi, hlabel⟩ | ⟨hdrawn, hi, hlabel⟩ :=
    ls.label_cases p
  all_goals rw [hlabel] at h ⊢
  · simp [label, h.known, hknown]
  · simp [label, h.known, h.ranges, hout.1, hout.2]
  · have hplace := idxOf?_of_prefix h.drawn hi
    simp [label, h.known, h.ranges, hdrawn.1, hdrawn.2, hplace]
  · have hlast : (ls.drawn ++ [p]).idxOf? p = some ls.drawn.length := by
      rw [List.idxOf?] at hi
      rw [List.idxOf?, List.findIdx?_append, hi]
      simp
    have hplace := idxOf?_of_prefix h.drawn hlast
    simp [label, h.known, h.ranges, hdrawn.1, hdrawn.2, hplace]

/-- The labels of a report are those that its ports have in the end. -/
theorem labelAll_eq_map (h : ls'.Extends (labelAll ps ls).2) :
    (labelAll ps ls).1 = ps.map fun p => (ls'.label p).1 := by
  induction ps generalizing ls with
  | nil => rfl
  | cons p ps ih =>
    have hfirst := label_of_extends (h.trans (extends_labelAll ps (ls.label p).2))
    rw [List.map_cons, hfirst, ← ih h]
    rfl

/-- In the end every port of a report has its place. -/
theorem label_of_mem (hp : p ∈ ps) :
    ((labelAll ps ls).2.label p).2 = (labelAll ps ls).2 := by
  induction ps generalizing ls with
  | nil => cases hp
  | cons first ps ih =>
    rcases List.mem_cons.mp hp with rfl | hp
    · exact congrArg Prod.snd (label_of_extends (extends_labelAll ps (ls.label p).2))
    · exact ih hp

/-- The label of a port that has its place. -/
theorem label_of_placed (hp : (ls.label p).2 = ls) :
    (p.toNat ∈ ls.known ∧ (ls.label p).1 = .number p.toNat) ∨
    (ls.IsOutside p ∧ (ls.label p).1 = .outside) ∨
    ∃ i, ls.drawn[i]? = some p ∧ (ls.label p).1 = .drawn (i + 1) := by
  obtain ⟨hknown, h⟩ | ⟨hout, h⟩ | ⟨-, i, hi, h⟩ | ⟨-, -, h⟩ := ls.label_cases p
  all_goals rw [h] at hp ⊢
  · exact .inl ⟨hknown, rfl⟩
  · exact .inr (.inl ⟨hout, rfl⟩)
  · obtain ⟨hlt, hplace, -⟩ := List.findIdx?_eq_some_iff_getElem.mp hi
    exact .inr (.inr ⟨i, by rw [List.getElem?_eq_getElem hlt, eq_of_beq hplace], rfl⟩)
  · have hlength := congrArg (fun ls => ls.drawn.length) hp
    simp at hlength

/-- Ports that have their places have the same label only if they are the same or outside. -/
theorem label_inj (hp : (ls.label p).2 = ls) (hq : (ls.label q).2 = ls) :
    (ls.label p).1 = (ls.label q).1 ↔ p = q ∨ ls.IsOutside p ∧ ls.IsOutside q := by
  constructor
  · intro hsame
    obtain ⟨-, h⟩ | ⟨hout, h⟩ | ⟨i, hi, h⟩ := label_of_placed hp
    all_goals
      obtain ⟨-, h'⟩ | ⟨hout', h'⟩ | ⟨j, hj, h'⟩ := label_of_placed hq
      all_goals rw [h, h'] at hsame
    · exact .inl (UInt16.toNat_inj.mp (PortLabel.number.inj hsame))
    · cases hsame
    · cases hsame
    · cases hsame
    · exact .inr ⟨hout, hout'⟩
    · cases hsame
    · cases hsame
    · cases hsame
    · obtain rfl : i = j := Nat.succ.inj (PortLabel.drawn.inj hsame)
      exact .inl (Option.some.inj (hi.symm.trans hj))
  · rintro (rfl | ⟨hout, hout'⟩)
    · rfl
    · simp [label, hout.1, hout.2, hout'.1, hout'.2]

/-- A report shows each port by one label. Two of its ports have the same label exactly if they are
the same port, or none of the two can have been drawn or is known. -/
theorem labels_faithful (ps : List UInt16) (ls : PortLabels) : ∃ shown : UInt16 → PortLabel,
    (labelAll ps ls).1 = ps.map shown ∧
      ∀ p ∈ ps, ∀ q ∈ ps, shown p = shown q ↔ p = q ∨ ls.IsOutside p ∧ ls.IsOutside q := by
  have hend : (labelAll ps ls).2.Extends (labelAll ps ls).2 := ⟨rfl, rfl, List.prefix_refl _⟩
  refine ⟨fun p => ((labelAll ps ls).2.label p).1, labelAll_eq_map hend, fun p hp q hq => ?_⟩
  have hsame := extends_labelAll ps ls
  rw [label_inj (label_of_mem hp) (label_of_mem hq), IsOutside, IsOutside, hsame.known,
    hsame.ranges]
  rfl

/-! ## The same labels for other ports -/

/-- The drawn ports with other numbers. -/
def rename (f : UInt16 → UInt16) (ls : PortLabels) : PortLabels :=
  { ls with drawn := ls.drawn.map f }

/-- Whether other ports could have been drawn in the places of these: the known ports are the same
ones, and what was drawn from the ranges is still drawn from them. -/
structure Renames (ls : PortLabels) (f : UInt16 → UInt16) : Prop where
  inj : ∀ {p q : UInt16}, f p = f q → p = q
  known : ∀ {p : UInt16}, p.toNat ∈ ls.known → f p = p
  ranges : ∀ p : UInt16, ls.ranges.any (·.contains (f p)) = ls.ranges.any (·.contains p)

theorem Renames.mem_known {f : UInt16 → UInt16} (h : ls.Renames f) :
    (f p).toNat ∈ ls.known ↔ p.toNat ∈ ls.known := by
  constructor
  · intro hp
    have hsame : f p = p := h.inj (h.known hp)
    rwa [hsame] at hp
  · intro hp
    rwa [h.known hp]

theorem Renames.idxOf? {f : UInt16 → UInt16} (h : ls.Renames f) (drawn : List UInt16) :
    (drawn.map f).idxOf? (f p) = drawn.idxOf? p := by
  have hsame : ((· == f p) ∘ f) = (· == p) := by
    funext q
    rw [Function.comp_apply, Bool.eq_iff_iff, beq_iff_eq, beq_iff_eq]
    exact ⟨h.inj, congrArg f⟩
  rw [List.idxOf?, List.findIdx?_map, hsame, List.idxOf?]

/-- A port that was drawn in the place of another one gets its label. -/
theorem label_rename {f : UInt16 → UInt16} (h : ls.Renames f) (p : UInt16) :
    (ls.rename f).label (f p) = ((ls.label p).1, (ls.label p).2.rename f) := by
  have hknown : (f p).toNat ∈ ls.known ↔ p.toNat ∈ ls.known := h.mem_known
  have hranges := h.ranges p
  have hplace := h.idxOf? (p := p) ls.drawn
  obtain ⟨hp, hlabel⟩ | ⟨hp, hlabel⟩ | ⟨hp, i, hi, hlabel⟩ | ⟨hp, hi, hlabel⟩ := ls.label_cases p
  all_goals rw [hlabel]
  · simp [label, rename, h.known hp, hp]
  · simp [label, rename, hknown, hranges, hp.1, hp.2]
  · simp [label, rename, hknown, hranges, hp.1, hp.2, hplace, hi]
  · simp [label, rename, hknown, hranges, hp.1, hp.2, hplace, hi]

/-- Reports that differ in nothing but the ports that were drawn have the same labels. -/
theorem labels_rename {f : UInt16 → UInt16} (h : ls.Renames f) (ps : List UInt16) :
    (labelAll (ps.map f) (ls.rename f)).1 = (labelAll ps ls).1 := by
  induction ps generalizing ls with
  | nil => rfl
  | cons p ps ih =>
    have hsame := extends_label p ls
    have hrest : (ls.label p).2.Renames f :=
      ⟨h.inj, fun hp => h.known (hsame.known ▸ hp), fun q => hsame.ranges.symm ▸ h.ranges q⟩
    have hfirst := label_rename h p
    simp only [List.map_cons, labelAll, hfirst, ih hrest]

/-! ## Labels in texts -/

/-- A port that a text names after the word `port` is shown by its label. -/
theorem relabel_port (p : UInt16) {rest : List Char} (hrest : rest.takeWhile Char.isDigit = [])
    (ls : PortLabels) :
    let shown := ls.label p
    let more := shown.2.relabel rest
    ls.relabel ("port ".toList ++ Nat.toDigits 10 p.toNat ++ rest) =
      ("port ".toList ++ shown.1.text.toList ++ more.1, more.2) := by
  intro shown more
  have hdigits : ∀ c ∈ Nat.toDigits 10 p.toNat, c.isDigit = true := fun c hc =>
    Nat.isDigit_of_mem_toDigits (by decide) (by decide) hc
  have hdrop : rest.dropWhile Char.isDigit = rest := by
    have hwhole := List.takeWhile_append_dropWhile (p := Char.isDigit) (l := rest)
    rwa [hrest, List.nil_append] at hwhole
  have htaken : (Nat.toDigits 10 p.toNat ++ rest).takeWhile Char.isDigit =
      Nat.toDigits 10 p.toNat := by
    rw [List.takeWhile_append_of_pos hdigits, hrest, List.append_nil]
  have hleft : (Nat.toDigits 10 p.toNat ++ rest).dropWhile Char.isDigit = rest := by
    rw [List.dropWhile_append_of_pos hdigits, hdrop]
  have hread : Text.readDigits 65535 (Nat.toDigits 10 p.toNat) = some p.toNat :=
    Text.readDigits_toDigits (Nat.le_of_lt_succ p.toNat_lt)
  have hlabel : ls.labelDigits (Nat.toDigits 10 p.toNat) = (shown.1.text.toList, shown.2) := by
    simp only [labelDigits, hread, UInt16.ofNat_toNat, shown]
  change ls.relabel ('p' :: 'o' :: 'r' :: 't' :: ' ' :: (Nat.toDigits 10 p.toNat ++ rest)) = _
  rw [relabel, htaken, hleft, hlabel]
  rfl

end TunnelFleet.PortLabels
