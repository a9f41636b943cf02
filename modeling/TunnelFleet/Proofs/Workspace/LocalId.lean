import Mathlib.Data.List.DropRight
import TunnelFleet.Workspace.LocalId

/-!
# The two parts of a local id

A local id is a cleaned name and the end of an id, joined by a hyphen. Both parts may hold
hyphens, so the hyphen does not say where the one ends and the other begins. The length does:
the ids of workspaces have at least four characters, hence the part from the id has exactly
four, and two workspaces share a local id only if they share both parts.

What is not a letter, a digit or a hyphen can come from the id alone.
-/

namespace TunnelFleet.LocalId

variable {c : Char} {cs name id suffix : List Char}

/-! ## Cleaned names -/

/-- What a name is cleaned to: letters, digits and hyphens. -/
def isCleanChar (c : Char) : Bool := c.isAlphanum || c == '-'

theorem isNameChar_of_isCleanChar (h : isCleanChar c = true) : isNameChar c = true := by
  unfold isNameChar
  rw [show (c.isAlphanum || c == '-') = true from h, Bool.true_or]

/-- Cleaning has nothing to do on a clean character. -/
theorem cleanChar_of_isCleanChar (h : isCleanChar c = true) : cleanChar c = some c := by
  have hblank : Text.isBlank c = false := by
    rcases Bool.or_eq_true_iff.mp h with halphanum | hhyphen
    · exact Text.isBlank_of_isAlphanum halphanum
    · rw [eq_of_beq hhyphen]
      decide
  unfold cleanChar
  rw [hblank, if_neg Bool.false_ne_true]
  exact if_pos h

/-- What a character is cleaned to is clean. -/
theorem isCleanChar_of_cleanChar {d : Char} (h : cleanChar c = some d) : isCleanChar d = true := by
  unfold cleanChar at h
  split at h
  · obtain rfl := Option.some.inj h
    decide
  · obtain ⟨hclean, h⟩ := Option.ite_none_right_eq_some.mp h
    obtain rfl := Option.some.inj h
    exact hclean

theorem trimHyphens_eq (cs : List Char) :
    trimHyphens cs = (cs.dropWhile (· == '-')).rdropWhile (· == '-') := rfl

theorem mem_of_mem_trimHyphens (h : c ∈ trimHyphens cs) : c ∈ cs :=
  (List.dropWhile_suffix _).subset ((List.rdropWhile_prefix _ _).subset h)

/-- Trimming leaves no hyphen in front. -/
theorem dropWhile_trimHyphens (cs : List Char) :
    (trimHyphens cs).dropWhile (· == '-') = trimHyphens cs := by
  rw [List.dropWhile_eq_self_iff]
  intro hlength
  have hbegins : trimHyphens cs <+: cs.dropWhile (· == '-') := List.rdropWhile_prefix _ _
  rw [hbegins.getElem hlength]
  exact List.dropWhile_get_zero_not _ cs (hlength.trans_le hbegins.length_le)

/-- Whoever was trimmed needs no trimming. -/
theorem trimHyphens_trimHyphens (cs : List Char) :
    trimHyphens (trimHyphens cs) = trimHyphens cs := by
  rw [trimHyphens_eq (trimHyphens cs), dropWhile_trimHyphens, trimHyphens_eq,
    List.rdropWhile_idempotent]

/-- A cleaned name is made of clean characters. -/
theorem isCleanChar_of_mem_cleanName (h : c ∈ cleanName name) : isCleanChar c = true := by
  obtain ⟨d, -, hd⟩ := List.mem_filterMap.mp (mem_of_mem_trimHyphens h)
  exact isCleanChar_of_cleanChar hd

/-- Cleaning a cleaned name changes nothing. -/
theorem cleanName_cleanName (name : List Char) : cleanName (cleanName name) = cleanName name := by
  have hkept : (cleanName name).filterMap cleanChar = cleanName name := by
    rw [List.filterMap_congr fun c hc => cleanChar_of_isCleanChar (isCleanChar_of_mem_cleanName hc),
      List.filterMap_some]
  calc cleanName (cleanName name)
      = trimHyphens ((cleanName name).filterMap cleanChar) := rfl
    _ = trimHyphens (cleanName name) := by rw [hkept]
    _ = cleanName name := trimHyphens_trimHyphens _

/-! ## Ends of ids -/

theorem length_idSuffix_le (id : List Char) : (idSuffix id).length ≤ suffixLength := by
  rw [idSuffix, List.length_drop]
  omega

/-- The part from an id that is long enough has four characters. -/
theorem length_idSuffix (h : suffixLength ≤ id.length) : (idSuffix id).length = suffixLength := by
  rw [idSuffix, List.length_drop]
  omega

/-! ## Joining the parts -/

theorem join_of_ne_nil (hname : name ≠ []) (hsuffix : suffix ≠ []) :
    join name suffix = name ++ '-' :: suffix := by
  simp [join, hname, hsuffix]

/-- Joining puts the part from the id behind clean characters. -/
theorem exists_join_eq (hname : ∀ c ∈ name, isCleanChar c = true) (suffix : List Char) :
    ∃ front, join name suffix = front ++ suffix ∧ ∀ c ∈ front, isCleanChar c = true := by
  by_cases hempty : name = []
  · exact ⟨[], by simp [join, hempty], by simp⟩
  · by_cases hsuffix : suffix = []
    · exact ⟨name, by simp [join, hsuffix], hname⟩
    · refine ⟨name ++ ['-'], by simp [join_of_ne_nil hempty hsuffix], fun c hc => ?_⟩
      rcases List.mem_append.mp hc with hold | hhyphen
      · exact hname c hold
      · rw [List.mem_singleton.mp hhyphen]
        decide

/-- Parts of the same length at the end can be told from the whole: an empty name makes the
whole shorter than any other name does. -/
theorem join_inj {name₁ name₂ suffix₁ suffix₂ : List Char} (hne : suffix₁ ≠ [])
    (hlength : suffix₁.length = suffix₂.length) :
    join name₁ suffix₁ = join name₂ suffix₂ ↔ name₁ = name₂ ∧ suffix₁ = suffix₂ := by
  have hne₂ : suffix₂ ≠ [] := by
    rw [← List.length_pos_iff, ← hlength]
    exact List.length_pos_of_ne_nil hne
  refine ⟨fun h => ?_, fun ⟨hname, hsuffix⟩ => by rw [hname, hsuffix]⟩
  have hsize := congrArg List.length h
  by_cases h₁ : name₁ = [] <;> by_cases h₂ : name₂ = []
  · subst h₁ h₂
    exact ⟨rfl, h⟩
  · rw [h₁, join_of_ne_nil h₂ hne₂] at hsize
    simp [join] at hsize
    omega
  · rw [h₂, join_of_ne_nil h₁ hne] at hsize
    simp [join] at hsize
    omega
  · rw [join_of_ne_nil h₁ hne, join_of_ne_nil h₂ hne₂] at h
    obtain ⟨hname, hsuffix⟩ := List.append_inj' h (by simp [hlength])
    exact ⟨hname, (List.cons.inj hsuffix).2⟩

/-! ## Local ids -/

theorem toList_text_ofNameAndId (name id : String) :
    (ofNameAndId name id).text.toList = join (cleanName name.toList) (idSuffix id.toList) :=
  String.toList_ofList

/-- A local id is a beginning of clean characters and the end of the id. -/
theorem exists_toList_text_eq (name id : String) :
    ∃ front, (ofNameAndId name id).text.toList = front ++ idSuffix id.toList ∧
      ∀ c ∈ front, isCleanChar c = true := by
  rw [toList_text_ofNameAndId]
  exact exists_join_eq (fun _ hc => isCleanChar_of_mem_cleanName hc) _

/-- When two workspaces share a local id, if their ids have at least four characters: exactly
if their cleaned names are the same and the last four characters of their ids are. Cleaning a
name first makes no difference, whatever the id. -/
theorem shared_iff :
    (∀ name₁ id₁ name₂ id₂ : String, suffixLength ≤ id₁.length → suffixLength ≤ id₂.length →
      (ofNameAndId name₁ id₁ = ofNameAndId name₂ id₂ ↔
        cleanName name₁.toList = cleanName name₂.toList ∧
          idSuffix id₁.toList = idSuffix id₂.toList)) ∧
    ∀ name id : String, cleanName (cleanName name.toList) = cleanName name.toList ∧
      ofNameAndId (String.ofList (cleanName name.toList)) id = ofNameAndId name id := by
  refine ⟨fun name₁ id₁ name₂ id₂ hid₁ hid₂ => ?_, fun name id => ⟨cleanName_cleanName _, ?_⟩⟩
  · have hlength₁ : (idSuffix id₁.toList).length = suffixLength := length_idSuffix hid₁
    have hlength₂ : (idSuffix id₂.toList).length = suffixLength := length_idSuffix hid₂
    have hne : idSuffix id₁.toList ≠ [] := List.ne_nil_of_length_pos (by rw [hlength₁]; decide)
    rw [← join_inj hne (hlength₁.trans hlength₂.symm), ofNameAndId, ofNameAndId, LocalId.mk.injEq,
      String.ofList_inj]
  · rw [ofNameAndId, String.toList_ofList, cleanName_cleanName, ofNameAndId]

/-- A hyphen at the end of a name does not pass for the one before the id, nor does a hyphen in
an id for the end of the name. -/
theorem shared_iff_hyphens :
    ofNameAndId "a-" "b-001" = ofNameAndId " a" "c-001" ∧
      ofNameAndId "a" "b-001" ≠ ofNameAndId "a--" "b1001" := by
  obtain ⟨hshared, -⟩ := shared_iff
  refine ⟨(hshared "a-" "b-001" " a" "c-001" (by decide) (by decide)).mpr (by decide), fun h => ?_⟩
  obtain ⟨-, hsuffix⟩ := (hshared "a" "b-001" "a--" "b1001" (by decide) (by decide)).mp h
  exact absurd hsuffix (by decide)

end TunnelFleet.LocalId
