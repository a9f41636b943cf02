import TunnelFleet.Json.Printer

/-!
# Tokens of written JSON

The scanner turns a written value back into its tokens: line breaks and indentation are
skipped, a string ends at the quote that was written behind it, and a number ends where its
digits do. `Yields` says that scanning gets from one text to another that follows it, and
which tokens it finds on the way; it is what the steps of a longer text are joined by.
-/

namespace TunnelFleet.Json

namespace Token

variable {cs mid rest : List Char} {ts us : List Token}

/-- Scanning `cs` finds the tokens `ts` and comes to `rest`. -/
def Yields (cs : List Char) (ts : List Token) (rest : List Char) : Prop :=
  ∀ read fuel, cs.length ≤ fuel → ∃ fuel', rest.length ≤ fuel' ∧
    scanAll read fuel cs = scanAll (ts.reverse ++ read) fuel' rest

namespace Yields

theorem refl (cs : List Char) : Yields cs [] cs := fun _ fuel h => ⟨fuel, h, rfl⟩

/-- First one part of a text is scanned, then the next. -/
theorem trans (h : Yields cs ts mid) (h' : Yields mid us rest) : Yields cs (ts ++ us) rest := by
  intro read fuel hfuel
  obtain ⟨fuel', hfuel', hscan⟩ := h read fuel hfuel
  obtain ⟨fuel'', hfuel'', hscan'⟩ := h' (ts.reverse ++ read) fuel' hfuel'
  refine ⟨fuel'', hfuel'', hscan.trans (hscan'.trans ?_)⟩
  rw [List.reverse_append, List.append_assoc]

/-- One token, of which at least the first character is consumed. -/
theorem token {c : Char} {t : Token} (hgap : isGap c = false)
    (hscan : scan (c :: cs) = some (t, rest)) (hlength : rest.length ≤ cs.length) :
    Yields (c :: cs) [t] rest := by
  intro read fuel hfuel
  obtain ⟨fuel, rfl⟩ : ∃ n, fuel = n + 1 := ⟨fuel - 1, by simp at hfuel; omega⟩
  refine ⟨fuel, by simp at hfuel; omega, ?_⟩
  simp [scanAll, hgap, hscan]

/-- A gap in front of a text is skipped. -/
theorem skip {c : Char} (hgap : isGap c = true) (h : Yields cs ts rest) :
    Yields (c :: cs) ts rest := by
  intro read fuel hfuel
  obtain ⟨fuel, rfl⟩ : ∃ n, fuel = n + 1 := ⟨fuel - 1, by simp at hfuel; omega⟩
  have hstep : scanAll read (fuel + 1) (c :: cs) = scanAll read fuel cs := by
    rw [scanAll, if_pos hgap]
  rw [hstep]
  exact h read fuel (by simpa using hfuel)

/-- A line break and the indentation of a level are skipped. -/
theorem newLine (level : Nat) (rest : List Char) : Yields (newLine level ++ rest) [] rest := by
  refine skip rfl ?_
  generalize 2 * level = n
  induction n with
  | zero => exact refl rest
  | succ n ih => exact skip rfl ih

/-- A token of one character, behind which the text goes on. -/
theorem mark {c : Char} {t : Token} (hscan : ∀ cs, scan (c :: cs) = some (t, cs))
    (hgap : isGap c = false) (h : Yields cs ts rest) : Yields (c :: cs) (t :: ts) rest := by
  have hfirst : Yields (c :: cs) [t] cs := token hgap (hscan _) (Nat.le_refl _)
  exact hfirst.trans h

/-- A token of one character, behind which a new line begins. -/
theorem thenLine {c : Char} {t : Token} (hscan : ∀ cs, scan (c :: cs) = some (t, cs))
    (hgap : isGap c = false) (level : Nat) (h : Yields cs ts rest) :
    Yields (c :: (Json.newLine level ++ cs)) (t :: ts) rest :=
  mark hscan hgap ((newLine level cs).trans h)

end Yields

/-! ## Strings -/

/-- The piece by which a character is written. -/
def pieceOf (c : Char) : Piece :=
  if (shortEscapeOf? c).isNone && c.toNat < 0x20 then .unit c.toNat else .char c

theorem shortEscape?_of_shortEscapeOf? {c letter : Char} (h : shortEscapeOf? c = some letter) :
    shortEscape? letter = some c ∧ letter ≠ 'u' := by
  unfold shortEscapeOf? at h
  repeat'
    split at h
    · next hc =>
      obtain rfl := eq_of_beq hc
      obtain rfl := Option.some.inj h
      decide
  cases h

theorem hexDigit?_digitChar {n : Nat} (h : n < 16) : hexDigit? (Nat.digitChar n) = some n := by
  have hall : ∀ n < 16, hexDigit? (Nat.digitChar n) = some n := by decide
  exact hall n h

/-- A control character is escaped with two zeros and its code in two digits. -/
theorem hexUnit?_control {n : Nat} (h : n < 0x20) :
    hexUnit? '0' '0' (Nat.digitChar (n / 16)) (Nat.digitChar (n % 16)) = some n := by
  have hzero : hexDigit? '0' = some 0 := by decide
  have hfirst : hexDigit? (Nat.digitChar (n / 16)) = some (n / 16) :=
    hexDigit?_digitChar (by omega)
  have hsecond : hexDigit? (Nat.digitChar (n % 16)) = some (n % 16) :=
    hexDigit?_digitChar (by omega)
  simp only [hexUnit?, hzero, hfirst, hsecond, Option.bind_eq_bind, Option.bind_some,
    Option.pure_def, Option.some.injEq]
  omega

/-- A written character is scanned as one piece. -/
theorem scanPieces_escapeChar (read : List Piece) (c : Char) (rest : List Char) :
    scanPieces read (escapeChar c ++ rest) = scanPieces (pieceOf c :: read) rest := by
  unfold escapeChar pieceOf
  cases hletter : shortEscapeOf? c with
  | some letter =>
    obtain ⟨hshort, hu⟩ := shortEscape?_of_shortEscapeOf? hletter
    simp [scanPieces, hshort, hu]
  | none =>
    by_cases hc : c.toNat < 0x20
    · simp [scanPieces, hexUnit?_control hc, hc]
    · have hquote : c ≠ '"' := by
        rintro rfl
        cases hletter
      have hslash : c ≠ '\\' := by
        rintro rfl
        cases hletter
      simp [scanPieces, hc, hslash]

/-- A written string is scanned up to its own closing quote. -/
theorem scanPieces_flatMap (read : List Piece) (cs rest : List Char) :
    scanPieces read (cs.flatMap escapeChar ++ '"' :: rest) =
      some (read.reverse ++ cs.map pieceOf, rest) := by
  induction cs generalizing read with
  | nil => simp [scanPieces]
  | cons c cs ih =>
    rw [List.flatMap_cons, List.append_assoc, scanPieces_escapeChar, ih]
    simp

/-- The code of a control character is no half of a pair, whatever follows it. -/
theorem assemble_control {n : Nat} (h : n < 0x20) (ps : List Piece) :
    assemble (.unit n :: ps) = (assemble ps).map (Char.ofNat n :: ·) := by
  have hleading : isLeading n = false := by
    simp only [isLeading, Bool.and_eq_false_iff, decide_eq_false_iff_not]
    omega
  have htrailing : isTrailing n = false := by
    simp only [isTrailing, Bool.and_eq_false_iff, decide_eq_false_iff_not]
    omega
  cases ps with
  | nil => simp [assemble, hleading, htrailing]
  | cons p ps =>
    cases p with
    | char c => simp [assemble, hleading, htrailing]
    | unit m =>
      rw [assemble]
      simp [hleading, htrailing]

theorem assemble_map_pieceOf (cs : List Char) : assemble (cs.map pieceOf) = some cs := by
  induction cs with
  | nil => rfl
  | cons c cs ih =>
    rw [List.map_cons, pieceOf]
    split
    · next h =>
      simp only [Bool.and_eq_true, decide_eq_true_eq] at h
      rw [assemble_control h.2, ih]
      simp
    · rw [assemble, ih]
      rfl

/-- A written string is scanned as the string, whether it is a text or not. -/
theorem Yields.string (content : Content) (rest : List Char) :
    Yields (writeContent content ++ rest) [.string content] rest := by
  cases content with
  | none => exact token rfl rfl (Nat.le_add_right _ 7)
  | some text =>
    have hpieces : scanPieces [] (text.toList.flatMap escapeChar ++ '"' :: rest) =
        some (text.toList.map pieceOf, rest) := scanPieces_flatMap [] _ _
    rw [writeContent, List.cons_append, List.cons_append, List.append_assoc]
    refine token rfl ?_ (by simp; omega)
    simp [scan, hpieces, contentOf, assemble_map_pieceOf]

/-! ## Numbers -/

/-- Whether a number ends where a text begins: the text does not go on with a character that
could stand in a number. -/
def EndsNumber (rest : List Char) : Prop :=
  ∀ c ∈ rest.head?, c.isDigit = false ∧ c ≠ '.' ∧ c ≠ 'e' ∧ c ≠ 'E'

theorem endsNumber_nil : EndsNumber [] := fun _ h => nomatch h

theorem takeDigits_append {digits : List Char} (hdigits : ∀ c ∈ digits, c.isDigit = true)
    (hrest : EndsNumber rest) : takeDigits (digits ++ rest) = (digits, rest) := by
  have hstop : rest.takeWhile Char.isDigit = [] ∧ rest.dropWhile Char.isDigit = rest := by
    cases rest with
    | nil => exact ⟨rfl, rfl⟩
    | cons c cs => simp [(hrest c rfl).1]
  rw [takeDigits, List.takeWhile_append_of_pos hdigits, List.dropWhile_append_of_pos hdigits,
    hstop.1, hstop.2, List.append_nil]

/-- Only zero is spelled with a zero at the beginning. -/
theorem exists_toDigits_eq_cons (n : Nat) :
    ∃ d ds, Nat.toDigits 10 n = d :: ds ∧ (n ≠ 0 → d ≠ '0') := by
  induction n using Nat.strongRecOn with
  | ind n ih =>
    rw [Nat.toDigits_eq_if (by decide)]
    split
    · exact ⟨_, [], rfl, fun hn => mt Nat.digitChar_eq_zero.mp hn⟩
    · next hn =>
      obtain ⟨d, ds, heq, hzero⟩ := ih (n / 10) (by omega)
      exact ⟨d, ds ++ [Nat.digitChar (n % 10)], by rw [heq]; rfl, fun _ => hzero (by omega)⟩

theorem isDigit_of_mem_spelling {n : Nat} {c : Char} (h : c ∈ Nat.toDigits 10 n) :
    c.isDigit = true :=
  Nat.isDigit_of_mem_toDigits (by decide) (by decide) h

theorem scanWhole_toDigits (n : Nat) (hrest : EndsNumber rest) :
    scanWhole (Nat.toDigits 10 n ++ rest) = some (Nat.toDigits 10 n, rest) := by
  by_cases hn : n = 0
  · subst hn
    rfl
  · have htake := takeDigits_append (fun c => isDigit_of_mem_spelling (n := n)) hrest
    obtain ⟨d, ds, heq, hzero⟩ := exists_toDigits_eq_cons n
    rw [heq, List.cons_append] at htake ⊢
    rw [scanWhole.eq_def]
    split
    · next h => exact absurd (List.cons.inj h).1 (hzero hn)
    · simp [someDigits, htake]

theorem scanMagnitude_toDigits (n : Nat) (hrest : EndsNumber rest) :
    scanMagnitude (Nat.toDigits 10 n ++ rest) = some (Nat.toDigits 10 n, rest) := by
  have hfraction : scanFraction rest = some ([], rest) := by
    cases rest with
    | nil => rfl
    | cons c cs => simp [scanFraction, (hrest c rfl).2.1]
  have hexponent : scanExponent rest = some ([], rest) := by
    cases rest with
    | nil => rfl
    | cons c cs => simp [scanExponent, (hrest c rfl).2.2.1, (hrest c rfl).2.2.2]
  simp [scanMagnitude, scanWhole_toDigits n hrest, hfraction, hexponent]

/-- A digit begins a number without a sign and no other token. -/
theorem scan_of_isDigit {d : Char} (hd : d.isDigit = true) (cs : List Char) :
    scan (d :: cs) = (scanMagnitude (d :: cs)).map fun (spelling, rest) =>
      (.number (String.ofList spelling), rest) := by
  have hne : ∀ c, c.isDigit = false → d ≠ c := by
    rintro c hc rfl
    rw [hd] at hc
    cases hc
  unfold scan
  split
  case h_11 =>
    unfold scanNumber
    split
    · next h => exact absurd (List.cons.inj h).1 (hne _ rfl)
    · rfl
  all_goals
    next h => exact absurd (List.cons.inj h).1 (hne _ rfl)

/-- A natural number in its usual spelling is scanned up to the end of its digits. -/
theorem Yields.number (n : Nat) (hrest : EndsNumber rest) :
    Yields ((toString n).toList ++ rest) [.number (toString n)] rest := by
  have hscan := scanMagnitude_toDigits n hrest
  rw [Nat.toString_eq_ofList_toDigits, String.toList_ofList]
  obtain ⟨d, ds, heq, -⟩ := exists_toDigits_eq_cons n
  have hd : d.isDigit = true := isDigit_of_mem_spelling (n := n) (by simp [heq])
  rw [heq, List.cons_append] at hscan ⊢
  refine token ?_ ?_ (by simp)
  · simp only [isGap, Bool.or_eq_false_iff, beq_eq_false_iff_ne, ne_eq]
    refine ⟨⟨⟨?_, ?_⟩, ?_⟩, ?_⟩
    all_goals
      rintro rfl
      cases hd
  · rw [scan_of_isDigit hd, hscan]
    rfl

end Token

end TunnelFleet.Json
