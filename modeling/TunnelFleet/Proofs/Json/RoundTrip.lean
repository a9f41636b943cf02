import TunnelFleet.Proofs.Json.Scanning

/-!
# Reading written JSON

Every value is had back from its text, as long as its numbers are natural numbers in their
usual spelling. Between the two stand the tokens of a value: the scanner finds them in the
text, and the reader builds the value from them.
-/

namespace TunnelFleet.Json

/-! ## Tokens of a value -/

mutual

/-- The tokens of a value. -/
def tokens : Json → List Token
  | .null => [.null]
  | .bool b => [.bool b]
  | .number spelling => [.number spelling]
  | .string content => [.string content]
  | .array [] => [.openBracket, .closeBracket]
  | .array (item :: items) => .openBracket :: (tokens item ++ itemTokens items)
  | .object [] => [.openBrace, .closeBrace]
  | .object ((key, value) :: members) =>
    .openBrace :: .string key :: .colon :: (tokens value ++ memberTokens members)

/-- The tokens of the remaining items of an array and of its end. -/
def itemTokens : List Json → List Token
  | [] => [.closeBracket]
  | item :: items => .comma :: (tokens item ++ itemTokens items)

/-- The tokens of the remaining members of an object and of its end. -/
def memberTokens : List (Content × Json) → List Token
  | [] => [.closeBrace]
  | (key, value) :: members =>
    .comma :: .string key :: .colon :: (tokens value ++ memberTokens members)

end

/-! ## From tokens to values -/

/-- No value begins with the end of an array, so the first item of an array is read as any
other value is. -/
theorem foldlM_firstItem (value : Json) (around : List Frame) (rest : List Token) :
    (value.tokens ++ rest).foldlM Reading.step (.firstItem around) =
      (value.tokens ++ rest).foldlM Reading.step (.value (.array [] :: around)) := by
  cases value with
  | array items => cases items <;> simp [tokens, Reading.step]
  | object members =>
    rcases members with _ | ⟨⟨key, value⟩, members⟩ <;> simp [tokens, Reading.step]
  | _ => simp [tokens, Reading.step]

mutual

/-- The tokens of a value are read as the value, whatever is around it and behind it. -/
theorem foldlM_tokens (around : List Frame) (rest : List Token) : (value : Json) →
    (value.tokens ++ rest).foldlM Reading.step (.value around) =
      rest.foldlM Reading.step (.complete value around)
  | .null => rfl
  | .bool b => rfl
  | .number spelling => rfl
  | .string content => rfl
  | .array [] => rfl
  | .array (item :: items) => by
    have hitem := foldlM_tokens (.array [] :: around) (itemTokens items ++ rest) item
    have hitems := foldlM_itemTokens [item] around rest items
    rw [← foldlM_firstItem] at hitem
    rw [tokens, List.cons_append, List.append_assoc]
    exact hitem.trans hitems
  | .object [] => rfl
  | .object ((key, value) :: members) => by
    have hvalue := foldlM_tokens (.object [] key :: around) (memberTokens members ++ rest) value
    have hmembers := foldlM_memberTokens [(key, value)] around rest members
    rw [tokens, List.cons_append, List.cons_append, List.cons_append, List.append_assoc]
    exact hvalue.trans hmembers

/-- The remaining items of an array are read behind those in `read`, the last one first. -/
theorem foldlM_itemTokens (read : List Json) (around : List Frame) (rest : List Token) :
    (items : List Json) →
    (itemTokens items ++ rest).foldlM Reading.step (.afterItem read around) =
      rest.foldlM Reading.step (.complete (.array (read.reverse ++ items)) around)
  | [] => by
    rw [List.append_nil]
    rfl
  | item :: items => by
    have hitem := foldlM_tokens (.array read :: around) (itemTokens items ++ rest) item
    have hitems := foldlM_itemTokens (item :: read) around rest items
    rw [List.reverse_cons, List.append_assoc] at hitems
    rw [itemTokens, List.cons_append, List.append_assoc]
    exact hitem.trans hitems

/-- The remaining members of an object are read behind those in `read`, the last one first. -/
theorem foldlM_memberTokens (read : List (Content × Json)) (around : List Frame)
    (rest : List Token) : (members : List (Content × Json)) →
    (memberTokens members ++ rest).foldlM Reading.step (.afterMember read around) =
      rest.foldlM Reading.step (.complete (.object (read.reverse ++ members)) around)
  | [] => by
    rw [List.append_nil]
    rfl
  | (key, value) :: members => by
    have hvalue := foldlM_tokens (.object read key :: around) (memberTokens members ++ rest) value
    have hmembers := foldlM_memberTokens ((key, value) :: read) around rest members
    rw [List.reverse_cons, List.append_assoc] at hmembers
    rw [memberTokens, List.cons_append, List.cons_append, List.cons_append, List.append_assoc]
    exact hvalue.trans hmembers

end

/-- The tokens of a value spell the value. -/
theorem ofTokens?_tokens (value : Json) : ofTokens? value.tokens = some value := by
  have hread := foldlM_tokens [] [] value
  rw [List.append_nil] at hread
  rw [ofTokens?, hread]
  rfl

/-! ## From texts to tokens -/

/-- Whether every number in a value is a natural number in its usual spelling. -/
inductive Plain : Json → Prop
  | null : Plain .null
  | bool (b : Bool) : Plain (.bool b)
  | ofNat (n : Nat) : Plain (.ofNat n)
  | string (content : Content) : Plain (.string content)
  | array {items : List Json} (hitems : ∀ item ∈ items, Plain item) : Plain (.array items)
  | object {members : List (Content × Json)} (hmembers : ∀ member ∈ members, Plain member.2) :
    Plain (.object members)

open Token (Yields EndsNumber)

/-- What follows an item ends a number that the item may be. -/
theorem endsNumber_writePrettyItems (level : Nat) (items : List Json) (rest : List Char) :
    EndsNumber (writePrettyItems level items ++ rest) := by
  cases items
  all_goals
    rintro c ⟨⟩
    decide

/-- What follows a member ends a number that its value may be. -/
theorem endsNumber_writePrettyMembers (level : Nat) (members : List (Content × Json))
    (rest : List Char) : EndsNumber (writePrettyMembers level members ++ rest) := by
  rcases members with _ | ⟨⟨key, value⟩, members⟩
  all_goals
    rintro c ⟨⟩
    decide

/-- A key and the colon behind it. -/
theorem yields_key (key : Content) (rest : List Char) :
    Yields (Token.writeContent key ++ ':' :: ' ' :: rest) [.string key, .colon] rest := by
  have hcolon : Yields (':' :: ' ' :: rest) [.colon] (' ' :: rest) :=
    .token rfl rfl (Nat.le_refl _)
  exact (Yields.string key _).trans (hcolon.trans (.skip rfl (.refl rest)))

mutual

/-- The tokens of a value are found in its text. -/
theorem yields_writePretty (level : Nat) (rest : List Char) (hrest : EndsNumber rest) :
    (value : Json) → value.Plain → Yields (writePretty level value ++ rest) value.tokens rest
  | .null, _ => .token rfl rfl (Nat.le_add_right _ 3)
  | .bool true, _ => .token rfl rfl (Nat.le_add_right _ 3)
  | .bool false, _ => .token rfl rfl (Nat.le_add_right _ 4)
  | .number _, .ofNat n => .number n hrest
  | .string content, _ => .string content rest
  | .array [], _ =>
    (Yields.token rfl rfl (Nat.le_refl _)).trans (.token rfl rfl (Nat.le_refl _))
  | .array (item :: items), .array hplain => by
    have hitem := yields_writePretty (level + 1) (writePrettyItems level items ++ rest)
      (endsNumber_writePrettyItems level items rest) item (hplain item List.mem_cons_self)
    have hitems := yields_writePrettyItems level rest items fun i hi =>
      hplain i (List.mem_cons_of_mem _ hi)
    simp only [writePretty, List.cons_append, List.append_assoc]
    exact .thenLine (fun _ => rfl) rfl (level + 1) (hitem.trans hitems)
  | .object [], _ =>
    (Yields.token rfl rfl (Nat.le_refl _)).trans (.token rfl rfl (Nat.le_refl _))
  | .object ((key, value) :: members), .object hplain => by
    have hvalue := yields_writePretty (level + 1) (writePrettyMembers level members ++ rest)
      (endsNumber_writePrettyMembers level members rest) value
      (hplain (key, value) List.mem_cons_self)
    have hmembers := yields_writePrettyMembers level rest members fun m hm =>
      hplain m (List.mem_cons_of_mem _ hm)
    simp only [writePretty, List.cons_append, List.append_assoc]
    exact .thenLine (fun _ => rfl) rfl (level + 1)
      ((yields_key key _).trans (hvalue.trans hmembers))

/-- The tokens of the remaining items of an array are found in its text. -/
theorem yields_writePrettyItems (level : Nat) (rest : List Char) : (items : List Json) →
    (∀ item ∈ items, item.Plain) →
    Yields (writePrettyItems level items ++ rest) (itemTokens items) rest
  | [], _ => by
    rw [writePrettyItems, List.append_assoc]
    exact (Yields.newLine level _).trans (.token rfl rfl (Nat.le_refl _))
  | item :: items, hplain => by
    have hitem := yields_writePretty (level + 1) (writePrettyItems level items ++ rest)
      (endsNumber_writePrettyItems level items rest) item (hplain item List.mem_cons_self)
    have hitems := yields_writePrettyItems level rest items fun i hi =>
      hplain i (List.mem_cons_of_mem _ hi)
    simp only [writePrettyItems, List.cons_append, List.append_assoc]
    exact .thenLine (fun _ => rfl) rfl (level + 1) (hitem.trans hitems)

/-- The tokens of the remaining members of an object are found in its text. -/
theorem yields_writePrettyMembers (level : Nat) (rest : List Char) :
    (members : List (Content × Json)) → (∀ member ∈ members, member.2.Plain) →
    Yields (writePrettyMembers level members ++ rest) (memberTokens members) rest
  | [], _ => by
    rw [writePrettyMembers, List.append_assoc]
    exact (Yields.newLine level _).trans (.token rfl rfl (Nat.le_refl _))
  | (key, value) :: members, hplain => by
    have hvalue := yields_writePretty (level + 1) (writePrettyMembers level members ++ rest)
      (endsNumber_writePrettyMembers level members rest) value
      (hplain (key, value) List.mem_cons_self)
    have hmembers := yields_writePrettyMembers level rest members fun m hm =>
      hplain m (List.mem_cons_of_mem _ hm)
    simp only [writePrettyMembers, List.cons_append, List.append_assoc]
    exact .thenLine (fun _ => rfl) rfl (level + 1)
      ((yields_key key _).trans (hvalue.trans hmembers))

end

/-- A text spells a value if the tokens of the value are found in it, and nothing else. -/
theorem parse?_of_yields {cs : List Char} {value : Json} (h : Yields cs value.tokens []) :
    parse? (String.ofList cs) = some value := by
  obtain ⟨fuel, -, hscan⟩ := h [] _ (Nat.le_refl _)
  have htokens : Token.ofText? (String.ofList cs) = some value.tokens := by
    rw [List.append_nil] at hscan
    rw [Token.ofText?, String.toList_ofList, hscan, Token.scanAll, List.reverse_reverse]
  rw [parse?, htokens]
  exact ofTokens?_tokens value

/-- The text of a value over several lines spells the value. -/
theorem parse?_pretty {value : Json} (hplain : value.Plain) : parse? value.pretty = some value := by
  have hyields := yields_writePretty 0 [] Token.endsNumber_nil value hplain
  rw [List.append_nil] at hyields
  exact parse?_of_yields hyields

/-! ## Texts on one line -/

/-- What follows an item on one line ends a number that the item may be. -/
theorem endsNumber_writeCompactItems (items : List Json) (rest : List Char) :
    EndsNumber (writeCompactItems items ++ rest) := by
  cases items
  all_goals
    rintro c ⟨⟩
    decide

/-- What follows a member on one line ends a number that its value may be. -/
theorem endsNumber_writeCompactMembers (members : List (Content × Json)) (rest : List Char) :
    EndsNumber (writeCompactMembers members ++ rest) := by
  rcases members with _ | ⟨⟨key, value⟩, members⟩
  all_goals
    rintro c ⟨⟩
    decide

/-- A key and the colon right behind it. -/
theorem yields_compactKey (key : Content) {cs rest : List Char} {ts : List Token}
    (h : Yields cs ts rest) :
    Yields (Token.writeContent key ++ ':' :: cs) (.string key :: .colon :: ts) rest :=
  (Yields.string key _).trans (.mark (fun _ => rfl) rfl h)

mutual

/-- The tokens of a value are found in its text on one line. -/
theorem yields_writeCompact (rest : List Char) (hrest : EndsNumber rest) :
    (value : Json) → value.Plain → Yields (writeCompact value ++ rest) value.tokens rest
  | .null, _ => .token rfl rfl (Nat.le_add_right _ 3)
  | .bool true, _ => .token rfl rfl (Nat.le_add_right _ 3)
  | .bool false, _ => .token rfl rfl (Nat.le_add_right _ 4)
  | .number _, .ofNat n => .number n hrest
  | .string content, _ => .string content rest
  | .array [], _ => .mark (fun _ => rfl) rfl (.mark (fun _ => rfl) rfl (.refl rest))
  | .array (item :: items), .array hplain => by
    have hitem := yields_writeCompact (writeCompactItems items ++ rest)
      (endsNumber_writeCompactItems items rest) item (hplain item List.mem_cons_self)
    have hitems := yields_writeCompactItems rest items fun i hi =>
      hplain i (List.mem_cons_of_mem _ hi)
    simp only [writeCompact, List.cons_append, List.append_assoc]
    exact .mark (fun _ => rfl) rfl (hitem.trans hitems)
  | .object [], _ => .mark (fun _ => rfl) rfl (.mark (fun _ => rfl) rfl (.refl rest))
  | .object ((key, value) :: members), .object hplain => by
    have hvalue := yields_writeCompact (writeCompactMembers members ++ rest)
      (endsNumber_writeCompactMembers members rest) value
      (hplain (key, value) List.mem_cons_self)
    have hmembers := yields_writeCompactMembers rest members fun m hm =>
      hplain m (List.mem_cons_of_mem _ hm)
    simp only [writeCompact, List.cons_append, List.append_assoc]
    exact .mark (fun _ => rfl) rfl (yields_compactKey key (hvalue.trans hmembers))

/-- The tokens of the remaining items of an array are found in its text on one line. -/
theorem yields_writeCompactItems (rest : List Char) : (items : List Json) →
    (∀ item ∈ items, item.Plain) → Yields (writeCompactItems items ++ rest) (itemTokens items) rest
  | [], _ => .mark (fun _ => rfl) rfl (.refl rest)
  | item :: items, hplain => by
    have hitem := yields_writeCompact (writeCompactItems items ++ rest)
      (endsNumber_writeCompactItems items rest) item (hplain item List.mem_cons_self)
    have hitems := yields_writeCompactItems rest items fun i hi =>
      hplain i (List.mem_cons_of_mem _ hi)
    simp only [writeCompactItems, List.cons_append, List.append_assoc]
    exact .mark (fun _ => rfl) rfl (hitem.trans hitems)

/-- The tokens of the remaining members of an object are found in its text on one line. -/
theorem yields_writeCompactMembers (rest : List Char) : (members : List (Content × Json)) →
    (∀ member ∈ members, member.2.Plain) →
    Yields (writeCompactMembers members ++ rest) (memberTokens members) rest
  | [], _ => .mark (fun _ => rfl) rfl (.refl rest)
  | (key, value) :: members, hplain => by
    have hvalue := yields_writeCompact (writeCompactMembers members ++ rest)
      (endsNumber_writeCompactMembers members rest) value
      (hplain (key, value) List.mem_cons_self)
    have hmembers := yields_writeCompactMembers rest members fun m hm =>
      hplain m (List.mem_cons_of_mem _ hm)
    simp only [writeCompactMembers, List.cons_append, List.append_assoc]
    exact .mark (fun _ => rfl) rfl (yields_compactKey key (hvalue.trans hmembers))

end

/-- The text of a value on one line spells the value. -/
theorem parse?_compact {value : Json} (hplain : value.Plain) :
    parse? value.compact = some value := by
  have hyields := yields_writeCompact [] Token.endsNumber_nil value hplain
  rw [List.append_nil] at hyields
  exact parse?_of_yields hyields

/-! ## Values that are made and taken apart -/

theorem plain_record {members : List (String × Json)} (h : ∀ member ∈ members, member.2.Plain) :
    (record members).Plain := by
  refine .object fun member hmember => ?_
  obtain ⟨⟨key, value⟩, hvalue, rfl⟩ := List.mem_map.mp hmember
  exact h (key, value) hvalue

@[simp] theorem members?_record (members : List (String × Json)) :
    (record members).members? = some members := by
  unfold record members?
  induction members with
  | nil => rfl
  | cons member members ih =>
    dsimp only at ih ⊢
    rw [List.map_cons, List.mapM_cons, ih]
    rfl

/-- A record has the fields of its members, if none is there twice. -/
theorem fields?_record (names : List String) (members : List (String × Json)) :
    (record members).fields? names =
      if names.all fun name => (members.filter (·.1 == name)).length ≤ 1 then
        some (names.map fun name => (members.find? (·.1 == name)).map (·.2))
      else none := by
  change ((record members).members?.bind fun members => ite _ _ _) = _
  rw [members?_record]
  rfl

/-- Which members of a record have a name is settled by those that have one of some names. -/
theorem filter_perm {names : List String} {members members' : List (String × Json)}
    (h : (members.filter (·.1 ∈ names)).Perm (members'.filter (·.1 ∈ names))) {name : String}
    (hname : name ∈ names) :
    (members.filter (·.1 == name)).Perm (members'.filter (·.1 == name)) := by
  have hnamed : ∀ ms : List (String × Json),
      (ms.filter (·.1 ∈ names)).filter (·.1 == name) = ms.filter (·.1 == name) := fun ms => by
    rw [List.filter_filter]
    refine List.filter_congr fun member _ => ?_
    by_cases hmember : member.1 = name
    · simp [hmember, hname]
    · simp [hmember]
  rw [← hnamed members, ← hnamed members']
  exact h.filter _

/-- The fields of a record depend neither on the order of its members nor on those that have none
of the names. -/
theorem fields?_congr {names : List String} {members members' : List (String × Json)}
    (h : (members.filter (·.1 ∈ names)).Perm (members'.filter (·.1 ∈ names))) :
    (record members).fields? names = (record members').fields? names := by
  have honce : (names.all fun name => (members.filter (·.1 == name)).length ≤ 1) =
      names.all fun name => (members'.filter (·.1 == name)).length ≤ 1 := by
    rw [Bool.eq_iff_iff, List.all_eq_true, List.all_eq_true]
    refine forall₂_congr fun name hname => ?_
    rw [(filter_perm h hname).length_eq]
  rw [fields?_record, fields?_record, honce]
  split
  · next hall =>
    refine congrArg some (List.map_congr_left fun name hname => ?_)
    have hshort := of_decide_eq_true (List.all_eq_true.mp hall name hname)
    have hsame : members.filter (·.1 == name) = members'.filter (·.1 == name) := by
      have hperm := filter_perm h hname
      cases hfound : members'.filter (·.1 == name) with
      | nil => exact List.perm_nil.mp (hfound ▸ hperm)
      | cons member rest =>
        obtain rfl : rest = [] := by
          rw [hfound] at hshort
          exact List.length_eq_zero_iff.mp (by simpa using hshort)
        exact List.perm_singleton.mp (hfound ▸ hperm)
    rw [← List.head?_filter, ← List.head?_filter, hsame]
  · rfl
theorem nat?_ofNat {limit n : Nat} (h : n ≤ limit) : (ofNat n).nat? limit = some n := by
  rw [ofNat, nat?, Nat.toString_eq_ofList_toDigits, String.toList_ofList]
  exact Text.readDigits_toDigits h

end TunnelFleet.Json
