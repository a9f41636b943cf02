/-!
# Lines

A text that is written line by line has a line break at the end of each line. Whoever reads
it takes it apart at its line breaks; the last one may be missing. Some readers also take a
carriage return before a line break for a part of it, and some do not. The lines come back
as they were written unless there is a line break in one of them, or for the former readers a
carriage return at its end.
-/

namespace TunnelFleet.Text

/-- What the line breaks of a text cut it into: one piece more than there are line breaks. -/
def pieces (text : String) : List String := (text.toList.splitOn '\n').map String.ofList

/-- The lines of a text. What stands behind the last line break is one of them unless it is
empty. -/
def splitLines (text : String) : List String :=
  if (pieces text).getLast? = some "" then (pieces text).dropLast else pieces text

/-- A text without its carriage returns before line breaks. -/
def dropReturns : List Char → List Char
  | [] => []
  | c :: cs =>
    if c = '\r' ∧ cs.head? = some '\n' then dropReturns cs else c :: dropReturns cs

/-- The lines of a text for a reader to whom a carriage return before a line break belongs to
the break. -/
def lines (text : String) : List String :=
  splitLines (String.ofList (dropReturns text.toList))

/-! ## Cutting at line breaks -/

theorem pieces_append_break (text rest : String) :
    pieces (text ++ "\n" ++ rest) = pieces text ++ pieces rest := by
  have hchars : (text ++ "\n" ++ rest).toList = text.toList ++ '\n' :: rest.toList := by simp
  rw [pieces, hchars, List.splitOn_append_cons_self, List.map_append, pieces, pieces]

theorem pieces_of_no_break {text : String} (h : '\n' ∉ text.toList) : pieces text = [text] := by
  rw [pieces, List.splitOn_eq_singleton h, List.map_singleton, String.ofList_toList]

private theorem no_break_of_mem_splitOn {cs piece : List Char} (h : piece ∈ cs.splitOn '\n') :
    '\n' ∉ piece := by
  induction cs generalizing piece with
  | nil =>
    rw [List.splitOn_nil, List.mem_singleton] at h
    simp [h]
  | cons c cs ih =>
    obtain ⟨first, rest, hsplit⟩ := List.exists_cons_of_ne_nil (List.splitOn_ne_nil '\n' cs)
    rw [hsplit] at ih
    rw [List.splitOn_cons_eq_if_modifyHead, hsplit, List.modifyHead_cons] at h
    split at h
    · rcases List.mem_cons.mp h with rfl | h
      · exact List.not_mem_nil
      · exact ih h
    · next hc =>
      rcases List.mem_cons.mp h with rfl | h
      · rw [List.mem_cons, not_or]
        exact ⟨fun hbreak => hc (beq_iff_eq.mpr hbreak.symm), ih List.mem_cons_self⟩
      · exact ih (List.mem_cons_of_mem first h)

/-- There is no line break in any piece. -/
theorem no_break_of_mem_pieces {text piece : String} (h : piece ∈ pieces text) :
    '\n' ∉ piece.toList := by
  obtain ⟨chars, hchars, rfl⟩ := List.mem_map.mp h
  rw [String.toList_ofList]
  exact no_break_of_mem_splitOn hchars

/-! ## Reading what was written line by line -/

/-- Lines that are written one after another, each with a line break at its end, are cut into the
pieces of each. -/
theorem splitLines_join (lines : List String) :
    splitLines (String.join (lines.map (· ++ "\n"))) = lines.flatMap pieces := by
  have hpieces : pieces (String.join (lines.map (· ++ "\n"))) = lines.flatMap pieces ++ [""] := by
    induction lines with
    | nil => decide
    | cons line lines ih =>
      rw [List.map_cons, String.join_cons, pieces_append_break, ih, List.flatMap_cons,
        List.append_assoc]
  simp [splitLines, hpieces]

/-- Lines are read as they were written exactly if there is no line break in any of them. -/
theorem flatMap_pieces_eq_iff {lines : List String} :
    lines.flatMap pieces = lines ↔ ∀ line ∈ lines, '\n' ∉ line.toList := by
  constructor
  · intro h line hline
    rw [← h] at hline
    obtain ⟨whole, -, hpiece⟩ := List.mem_flatMap.mp hline
    exact no_break_of_mem_pieces hpiece
  · intro h
    induction lines with
    | nil => rfl
    | cons line lines ih =>
      rw [List.flatMap_cons, pieces_of_no_break (h line List.mem_cons_self),
        ih fun other hother => h other (List.mem_cons_of_mem _ hother)]
      rfl

/-- Up to the end of a line that has no carriage return there, nothing is dropped. -/
theorem dropReturns_append_break {line : List Char} (hbreak : '\n' ∉ line)
    (hreturn : line.getLast? ≠ some '\r') (rest : List Char) :
    dropReturns (line ++ '\n' :: rest) = line ++ '\n' :: dropReturns rest := by
  induction line with
  | nil => simp [dropReturns]
  | cons c line ih =>
    have hkept : ¬(c = '\r' ∧ (line ++ '\n' :: rest).head? = some '\n') := by
      rintro ⟨rfl, hhead⟩
      cases line with
      | nil => exact hreturn rfl
      | cons d line =>
        obtain rfl : d = '\n' := Option.some.inj hhead
        exact hbreak (List.mem_cons_of_mem _ List.mem_cons_self)
    have hlast : line.getLast? ≠ some '\r' := by
      cases line with
      | nil => exact nofun
      | cons d line => simpa using hreturn
    rw [List.cons_append, dropReturns, if_neg hkept, ih (List.not_mem_of_not_mem_cons hbreak) hlast,
      List.cons_append]

/-- Lines without a line break in them and without a carriage return at their ends are read by
everybody as they were written. -/
theorem lines_join {written : List String} (hbreak : ∀ line ∈ written, '\n' ∉ line.toList)
    (hreturn : ∀ line ∈ written, line.toList.getLast? ≠ some '\r') :
    lines (String.join (written.map (· ++ "\n"))) = written := by
  have hsame : dropReturns (String.join (written.map (· ++ "\n"))).toList =
      (String.join (written.map (· ++ "\n"))).toList := by
    induction written with
    | nil => rfl
    | cons line rest ih =>
      have hchars : (String.join ((line :: rest).map (· ++ "\n"))).toList =
          line.toList ++ '\n' :: (String.join (rest.map (· ++ "\n"))).toList := by
        simp [String.join_cons]
      rw [hchars, dropReturns_append_break (hbreak line List.mem_cons_self)
        (hreturn line List.mem_cons_self),
        ih (fun other hother => hbreak other (List.mem_cons_of_mem _ hother))
          fun other hother => hreturn other (List.mem_cons_of_mem _ hother)]
  rw [lines, hsame, String.ofList_toList, splitLines_join, flatMap_pieces_eq_iff.mpr hbreak]

end TunnelFleet.Text
