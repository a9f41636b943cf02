import TunnelFleet.Proofs.Files.Writing
import TunnelFleet.Proofs.Storage.HostBlocks

/-!
# First entries and the last file

The managed ssh config keeps, for each local id, the first entry that is given for it, and
its text is put together from those entries alone. It is written anew each time, so nothing
is left of the entries of an earlier time.
-/

namespace TunnelFleet

/-- Texts made for parts and put together are the text made for the whole. -/
theorem join_flatMap {α β : Type} (f : β → String) (g : α → List β) (xs : List α) :
    String.join ((xs.flatMap g).map f) =
      String.join (xs.map fun x => String.join ((g x).map f)) := by
  induction xs with
  | nil => rfl
  | cons x xs ih =>
    rw [List.flatMap_cons, List.map_append, String.join_append, ih, List.map_cons,
      String.join_cons]

namespace SshConfig

variable {c : SshConfig} {e : HostEntry} {entries more : List HostEntry} {seen : List LocalId}

/-! ## The entries that are kept -/

/-- The entries whose local id does not occur before their place. -/
def withoutRepeats (entries : List HostEntry) : List HostEntry :=
  (entries.zipIdx.filter fun (e, i) =>
    e.localId ∉ (entries.take i).map HostEntry.localId).map Prod.fst

theorem withoutRepeats_concat (entries : List HostEntry) (e : HostEntry) :
    withoutRepeats (entries ++ [e]) = withoutRepeats entries ++
      if e.localId ∈ entries.map HostEntry.localId then [] else [e] := by
  have hearlier : entries.zipIdx.filter (fun (x, i) =>
        x.localId ∉ ((entries ++ [e]).take i).map HostEntry.localId) =
      entries.zipIdx.filter fun (x, i) =>
        x.localId ∉ (entries.take i).map HostEntry.localId := by
    refine List.filter_congr fun ⟨x, i⟩ hx => ?_
    have hi : i < 0 + entries.length := (List.mem_zipIdx hx).2.1
    have htake : (entries ++ [e]).take i = entries.take i :=
      List.take_append_of_le_length (by omega)
    dsimp only
    rw [htake]
  rw [withoutRepeats, List.zipIdx_append, List.filter_append, List.map_append, hearlier,
    withoutRepeats]
  congr 1
  by_cases he : e.localId ∈ entries.map HostEntry.localId
  · simp [he]
  · simp [he]

/-- What is kept after entries that were seen is what is kept anyway, less the local ids that
were seen. -/
theorem firstEntries_eq_filter (seen : List LocalId) (entries : List HostEntry) :
    firstEntries seen entries = (firstEntries [] entries).filter (·.localId ∉ seen) := by
  induction entries generalizing seen with
  | nil => rfl
  | cons first entries ih =>
    rw [firstEntries, firstEntries, if_neg List.not_mem_nil, ih [first.localId]]
    by_cases hfirst : first.localId ∈ seen
    · rw [if_pos hfirst, ih seen, List.filter_cons_of_neg (by simpa using hfirst),
        List.filter_filter]
      refine List.filter_congr fun e _ => ?_
      by_cases heq : e.localId = first.localId
      · simp [heq, hfirst]
      · simp [heq]
    · rw [if_neg hfirst, ih (first.localId :: seen),
        List.filter_cons_of_pos (by simpa using hfirst), List.filter_filter]
      congr 1
      refine List.filter_congr fun e _ => ?_
      rw [Bool.eq_iff_iff]
      simp [and_comm]

/-- What is kept of two lists of entries, one after the other. -/
theorem firstEntries_append (entries more : List HostEntry) :
    firstEntries [] (entries ++ more) =
      firstEntries [] entries ++ firstEntries (entries.map HostEntry.localId) more := by
  induction entries with
  | nil => rfl
  | cons first entries ih =>
    have hboth : (firstEntries (entries.map HostEntry.localId) more).filter
        (·.localId ∉ [first.localId]) =
          firstEntries ((first :: entries).map HostEntry.localId) more := by
      rw [firstEntries_eq_filter, firstEntries_eq_filter (List.map _ (first :: entries)),
        List.filter_filter]
      refine List.filter_congr fun e _ => ?_
      rw [Bool.eq_iff_iff]
      simp
    rw [List.cons_append, firstEntries, firstEntries, if_neg List.not_mem_nil,
      if_neg List.not_mem_nil, firstEntries_eq_filter, ih, List.filter_append, hboth,
      ← firstEntries_eq_filter, List.cons_append]

/-- The entries that are kept are those whose local id does not occur before their place. -/
theorem firstEntries_eq (entries : List HostEntry) :
    firstEntries [] entries = withoutRepeats entries := by
  induction entries using List.reverseRecOn with
  | nil => rfl
  | append_singleton entries e ih =>
    rw [firstEntries_append, withoutRepeats_concat, ih]
    rfl

/-- Entries without repetition are all kept. -/
theorem firstEntries_of_nodup (h : (entries.map HostEntry.localId).Nodup) :
    firstEntries [] entries = entries := by
  induction entries with
  | nil => rfl
  | cons first entries ih =>
    rw [List.map_cons, List.nodup_cons] at h
    rw [firstEntries, if_neg List.not_mem_nil, firstEntries_eq_filter, ih h.2,
      List.filter_eq_self.mpr fun e he => ?_]
    have hne : e.localId ≠ first.localId := fun heq =>
      h.1 (heq ▸ List.mem_map_of_mem he)
    simpa using hne

/-- An entry whose local id occurred before makes no difference. -/
theorem firstEntries_of_repeat {before after : List HostEntry}
    (h : e.localId ∈ before.map HostEntry.localId) :
    firstEntries [] (before ++ e :: after) = firstEntries [] (before ++ after) := by
  rw [firstEntries_append, firstEntries_append, firstEntries, if_pos h]

/-- Of entries that share no local id with those before them, the same are kept as without
those. -/
theorem firstEntries_of_disjoint (h : ∀ e ∈ more, e.localId ∉ seen) :
    firstEntries seen more = firstEntries [] more := by
  rw [firstEntries_eq_filter, List.filter_eq_self]
  intro e he
  simpa using h e (mem_of_mem_firstEntries he).1

/-! ## The text -/

/-- The text of one block. -/
def stanza (c : SshConfig) (e : HostEntry) : String :=
  let key := match c.identity with
    | some key => s!"  IdentityFile \"{key}\"\n"
    | none => ""
  s!"\nHost {e.localId}\n  HostName 127.0.0.1\n  Port {e.port.toNat}\n  User {c.user}\n" ++ key ++
    "  NoHostAuthenticationForLocalhost yes\n"

theorem join_block (c : SshConfig) (e : HostEntry) :
    String.join ((c.block e).map (· ++ "\n")) = c.stanza e := by
  rw [← String.toList_inj]
  cases hidentity : c.identity with
  | none => simp [block, stanza, hidentity, String.join_cons, toString]
  | some key => simp [block, stanza, hidentity, String.join_cons, toString]

/-- The text of the file: the header, and one block after the other. -/
theorem render_eq (c : SshConfig) (entries : List HostEntry) :
    c.render entries =
      header ++ "\n" ++ String.join ((firstEntries [] entries).map c.stanza) := by
  have hblocks : (fun e => String.join ((c.block e).map (· ++ "\n"))) = c.stanza :=
    funext fun e => join_block c e
  rw [render, lines, List.map_cons, String.join_cons, join_flatMap, hblocks]

theorem render_append (h : ∀ e ∈ entries, ∀ e' ∈ more, e.localId ≠ e'.localId) :
    c.render (entries ++ more) =
      header ++ "\n" ++ (String.join ((firstEntries [] entries).map c.stanza) ++
        String.join ((firstEntries [] more).map c.stanza)) := by
  have hnew : ∀ e ∈ more, e.localId ∉ entries.map HostEntry.localId := by
    intro e he hmem
    obtain ⟨e', he', hsame⟩ := List.mem_map.mp hmem
    exact h e' he' e he hsame
  rw [render_eq, firstEntries_append, firstEntries_of_disjoint hnew, List.map_append,
    String.join_append]

/-! ## Writing the file -/

theorem sync_eq (c : SshConfig) (entries : List HostEntry) (t : FileTree) :
    (c.sync entries t).1 = (t.saveText c.path (c.render entries)).1 ∧
      (c.sync entries t).2.1 = (t.saveText c.path (c.render entries)).2 := by
  unfold sync FileTree.saveText
  cases t.makeParent c.path with
  | mk made t' =>
    cases made with
    | error e => exact ⟨rfl, rfl⟩
    | ok u =>
      dsimp only
      cases t'.writeText c.path (c.render entries) with
      | error fault => exact ⟨rfl, rfl⟩
      | ok t'' => exact ⟨rfl, rfl⟩

/-- The files after the file was written for these entries, if it could be written. -/
def written? (c : SshConfig) (entries : List HostEntry) (t : FileTree) : Option FileTree :=
  match c.sync entries t with
  | (.ok (), t, _) => some t
  | (.error _, _, _) => none

theorem written?_eq_some {t t' : FileTree} : c.written? entries t = some t' ↔
    (t.saveText c.path (c.render entries)).1 = .ok () ∧
      (t.saveText c.path (c.render entries)).2 = t' := by
  obtain ⟨hresult, htree⟩ := c.sync_eq entries t
  rw [← hresult, ← htree, written?]
  rcases c.sync entries t with ⟨_ | _, t', lines⟩
  · simp
  · simp

/-- The files after the file was written once for each list of entries, if it could be written
each time. -/
def writtenEach? (calls : List (SshConfig × List HostEntry)) (t : FileTree) : Option FileTree :=
  calls.foldlM (fun t (c, entries) => c.written? entries t) t

/-- What was written in the same place before makes no difference. -/
theorem written?_of_written? {c' : SshConfig} {t t' : FileTree} (hpath : c'.path = c.path)
    (h : c'.written? more t = some t') : c.written? entries t' = c.written? entries t := by
  obtain ⟨hok, rfl⟩ := written?_eq_some.mp h
  rw [hpath] at hok ⊢
  refine Option.ext fun t'' => ?_
  rw [written?_eq_some, written?_eq_some, FileTree.saveText_saveText hok]

/-- The file can be written for any entries in a place where it can be written for some. -/
theorem isSome_written? {c' : SshConfig} {t : FileTree} (hpath : c'.path = c.path)
    (h : (c.written? entries t).isSome) (more : List HostEntry) :
    (c'.written? more t).isSome := by
  obtain ⟨t', h⟩ := Option.isSome_iff_exists.mp h
  have hok := FileTree.saveText_instead (written?_eq_some.mp h).1 (c'.render more)
  rw [← hpath] at hok
  exact Option.isSome_iff_exists.mpr ⟨_, written?_eq_some.mpr ⟨hok, rfl⟩⟩

/-- Of files that are written one after the other in the same place, the last one counts. -/
theorem writtenEach?_concat {earlier : List (SshConfig × List HostEntry)}
    (h : ∀ call ∈ earlier, call.1.path = c.path) (entries : List HostEntry) (t : FileTree) :
    writtenEach? (earlier ++ [(c, entries)]) t = c.written? entries t := by
  induction earlier generalizing t with
  | nil => exact bind_pure _
  | cons call earlier ih =>
    obtain ⟨c', more⟩ := call
    obtain ⟨hpath, h⟩ := List.forall_mem_cons.mp h
    rw [writtenEach?, List.cons_append, List.foldlM_cons, Option.bind_eq_bind]
    dsimp only
    cases hfirst : c'.written? more t with
    | none =>
      -- Where the first of them cannot be written, neither can the last.
      rw [Option.bind_none, eq_comm, ← Option.not_isSome_iff_eq_none]
      intro hlast
      have hfirst' := isSome_written? hpath hlast more
      rw [hfirst] at hfirst'
      cases hfirst'
    | some t' => exact (ih h t').trans (written?_of_written? hpath hfirst)

theorem loadText_of_written? {t t' : FileTree} (h : c.written? entries t = some t') :
    t'.loadText c.path = .ok (c.render entries) := by
  obtain ⟨hok, rfl⟩ := written?_eq_some.mp h
  obtain ⟨-, -, htext⟩ | ⟨e, herror, -⟩ := t.saveText_cases c.path (c.render entries)
  · exact htext
  · rw [hok] at herror
    cases herror

/-- The text for some entries is the text for those of them whose local id does not occur before,
and consists of the header and one block for each of these, in their order. So the blocks of
entries that share no local id with those before them come after theirs, and the port of an entry
whose local id occurred before is nowhere in the text. When the file was written in one place for
one list of entries after another, whatever stood there at first and whichever users and keys it
was written for, it has come to be as if it had been written for the last list only, and its text
is the one for this list. -/
theorem first_entries_of_last_sync (c : SshConfig) (entries : List HostEntry) :
    c.render entries = c.render (withoutRepeats entries) ∧
    c.render entries = header ++ "\n" ++ String.join ((withoutRepeats entries).map c.stanza) ∧
    (∀ more : List HostEntry, (∀ e ∈ entries, ∀ e' ∈ more, e.localId ≠ e'.localId) →
      c.render (entries ++ more) =
        header ++ "\n" ++ (String.join ((withoutRepeats entries).map c.stanza) ++
          String.join ((withoutRepeats more).map c.stanza))) ∧
    (∀ before e after, entries = before ++ e :: after →
      e.localId ∈ before.map HostEntry.localId →
        ∀ port, c.render (before ++ { e with port } :: after) = c.render entries) ∧
    ∀ (earlier : List (SshConfig × List HostEntry)) (t : FileTree),
      (∀ call ∈ earlier, call.1.path = c.path) →
        writtenEach? (earlier ++ [(c, entries)]) t = c.written? entries t ∧
        ∀ t', writtenEach? (earlier ++ [(c, entries)]) t = some t' →
          t'.loadText c.path = .ok (c.render entries) := by
  refine ⟨?_, ?_, fun more hmore => ?_, ?_, fun earlier t hpath => ?_⟩
  · have hnodup := nodup_firstEntries [] entries
    rw [← firstEntries_eq, render_eq, render_eq, firstEntries_of_nodup hnodup]
  · rw [render_eq, firstEntries_eq]
  · rw [render_append hmore, firstEntries_eq, firstEntries_eq]
  · rintro before e after rfl hrepeat port
    have hother : firstEntries [] (before ++ { e with port } :: after) =
        firstEntries [] (before ++ after) := firstEntries_of_repeat hrepeat
    rw [render_eq, render_eq, hother, firstEntries_of_repeat hrepeat]
  · rw [writtenEach?_concat hpath]
    exact ⟨rfl, fun t' h => loadText_of_written? h⟩

/-- The file has another text at first, is written for another user, and then for three entries of
which the third one repeats a local id. -/
theorem first_entries_of_last_sync_repeated :
    let c : SshConfig := { path := ⟨["", "ssh_config"]⟩, user := "dev", identity := none }
    let t : FileTree :=
      { entries := .ofList [(["ssh_config"], Entry.file "Host web\n".toUTF8)] compare }
    let web : HostEntry := ⟨⟨"web-1001"⟩, 4001⟩
    let db : HostEntry := ⟨⟨"db-1002"⟩, 4002⟩
    let api : HostEntry := ⟨⟨"api-1003"⟩, 4003⟩
    let entries := [web, db, { web with port := 4009 }]
    let earlier : List (SshConfig × List HostEntry) := [({ c with user := "ops" }, [api])]
    c.render entries = header ++ "\n" ++ String.join [c.stanza web, c.stanza db] ∧
      c.render (entries ++ [api]) =
        header ++ "\n" ++ (String.join [c.stanza web, c.stanza db] ++ String.join [c.stanza api]) ∧
      c.render [web, db, { web with port := 4010 }] = c.render entries ∧
      ∃ t', writtenEach? (earlier ++ [(c, entries)]) t = some t' ∧
        t'.loadText c.path = .ok (c.render entries) := by
  intro c t web db api entries earlier
  have hkept : withoutRepeats entries = [web, db] := by decide
  have hpath : ∀ call ∈ earlier, call.1.path = c.path := by simp [earlier]
  obtain ⟨-, htext, happend, hrepeat, hlast⟩ := first_entries_of_last_sync c entries
  obtain ⟨hsame, hread⟩ := hlast earlier t hpath
  rw [hkept] at htext happend
  obtain ⟨t', hwritten⟩ : ∃ t', c.written? entries t = some t' :=
    Option.isSome_iff_exists.mp (by decide +kernel)
  refine ⟨htext, happend [api] (by decide), ?_, t', hsame.trans hwritten, ?_⟩
  · exact hrepeat [web, db] { web with port := 4009 } [] rfl (by decide) 4010
  · exact hread t' (hsame.trans hwritten)

end SshConfig

end TunnelFleet
