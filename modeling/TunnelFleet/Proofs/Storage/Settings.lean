import TunnelFleet.Proofs.Files.Writing
import TunnelFleet.Proofs.Storage.Serving
import TunnelFleet.Proofs.Storage.Texts

/-!
# Setting the settings

Each of the two setters is a lens on the settings in the file, whatever form the file was in
before: it changes its own field and no other one, the last call counts, and calls that set
different fields can be made in any order. A file that holds no settings is left alone.
-/

namespace TunnelFleet

/-! ## Calls -/

/-- A call of the settings file that sets a field. -/
inductive SettingsCall
  | setUser (user : String)
  | setIdentity (key : Option String)

namespace SettingsCall

/-- The user that a call sets. -/
def user? : SettingsCall → Option String
  | .setUser user => some user
  | .setIdentity _ => none

/-- The private key that a call sets, or `none` for one that it clears. -/
def identity? : SettingsCall → Option (Option String)
  | .setUser _ => none
  | .setIdentity key => some key

end SettingsCall

/-- The settings after a call. -/
def Settings.after (s : Settings) : SettingsCall → Settings
  | .setUser user => { s with sshUser := user }
  | .setIdentity key => { s with privateKey := key }

/-- Calls give each field the last value that one of them sets, and leave the others alone. -/
theorem Settings.foldl_after (s : Settings) (calls : List SettingsCall) :
    calls.foldl after s =
      { s with
        sshUser := (calls.filterMap SettingsCall.user?).getLast?.getD s.sshUser
        privateKey := (calls.filterMap SettingsCall.identity?).getLast?.getD s.privateKey } := by
  induction calls using List.reverseRecOn with
  | nil => rfl
  | append_singleton calls call ih =>
    rw [List.foldl_append, ih, List.filterMap_append, List.filterMap_append]
    cases call with
    | setUser user => simp [after, SettingsCall.user?, SettingsCall.identity?]
    | setIdentity key => simp [after, SettingsCall.user?, SettingsCall.identity?]

/-- Answers a call from the settings alone. -/
def Settings.perform (call : SettingsCall) (s : Settings) : Except StoreError Unit × Settings :=
  (.ok (), s.after call)

theorem Settings.serve_perform (calls : List SettingsCall) (s : Settings) :
    serve perform calls s = (calls.map fun _ => .ok (), calls.foldl after s) := by
  induction calls generalizing s with
  | nil => rfl
  | cons call calls ih =>
    rw [serve_cons, ih]
    rfl

namespace SettingsFile

variable {f : SettingsFile} {t : FileTree} {c : Settings}

/-- Answers a call from the file. -/
def perform (f : SettingsFile) : SettingsCall → FileTree → Except StoreError Unit × FileTree
  | .setUser user => f.setUser user
  | .setIdentity key => f.setIdentity key

theorem perform_eq (f : SettingsFile) (call : SettingsCall) (t : FileTree) :
    f.perform call t = f.modify (·.after call) t := by
  cases call with
  | setUser user => rfl
  | setIdentity key => rfl

/-- Whether the file system lets the file be written. -/
def Writable (f : SettingsFile) (t : FileTree) : Prop :=
  ∃ text, (t.saveText f.path text).1 = .ok ()

/-- Whether the file holds these settings: it is missing and they are the default ones, or its text
spells them. -/
def Holds (f : SettingsFile) (t : FileTree) (c : Settings) : Prop :=
  t.has f.path = false ∧ c = {} ∨
    t.has f.path = true ∧ ∃ text, t.loadText f.path = .ok text ∧ Settings.parse? text = some c

theorem load_eq_ok : f.load t = .ok c ↔ f.Holds t c := by
  unfold load Holds
  cases t.has f.path with
  | false => simp [eq_comm]
  | true =>
    cases t.loadText f.path with
    | error e => simp
    | ok text => cases hparse : Settings.parse? text <;> simp [hparse]

/-- A file that holds no settings is left alone by every call, with the same answer. -/
theorem perform_of_error {e : StoreError} (h : f.load t = .error e) (call : SettingsCall) :
    f.perform call t = (.error e, t) := by
  rw [perform_eq, modify, h]

/-- A call writes the settings that it leaves. -/
theorem perform_of_holds (h : f.Holds t c) (call : SettingsCall) :
    f.perform call t = f.save (c.after call) t := by
  rw [perform_eq, modify, load_eq_ok.mpr h]

/-- Settings that were written are in the file. -/
theorem holds_save (h : (f.save c t).1 = .ok ()) : f.Holds (f.save c t).2 c := by
  obtain ⟨-, hhas, htext⟩ | ⟨e, hfailed, -⟩ := t.saveText_cases f.path c.text
  · exact .inr ⟨hhas, c.text, htext, c.parse?_text⟩
  · cases h.symm.trans hfailed

/-- A file that can be written takes any settings. -/
theorem save_of_writable (h : f.Writable t) (c : Settings) : (f.save c t).1 = .ok () := by
  obtain ⟨text, hsave⟩ := h
  exact FileTree.saveText_instead hsave c.text

theorem save_save (h : (f.save c t).1 = .ok ()) (d : Settings) :
    f.save d (f.save c t).2 = f.save d t :=
  FileTree.saveText_saveText h d.text

/-! ## Sequences of calls -/

/-- Calls succeed, and leave the file as if the settings after the last of them had been written at
once. -/
theorem serve_of_holds (hholds : f.Holds t c) (hwritable : f.Writable t)
    {calls : List SettingsCall} (hne : calls ≠ []) :
    serve f.perform calls t =
      (calls.map fun _ => .ok (), (f.save (calls.foldl Settings.after c) t).2) := by
  -- What is kept from call to call is that the settings so far might have been written at once.
  have hstep : ∀ call t' c', t' = (f.save c' t).2 →
      (f.perform call t').1 = (Settings.perform call c').1 ∧
        (f.perform call t').2 = (f.save (Settings.perform call c').2 t).2 := by
    rintro call _ c' rfl
    have hok := save_of_writable hwritable c'
    rw [perform_of_holds (holds_save hok), save_save hok]
    exact ⟨save_of_writable hwritable _, rfl⟩
  obtain ⟨call, calls, rfl⟩ := List.exists_cons_of_ne_nil hne
  have hstart : (f.save (c.after call) t).2 = (f.save (c.after call) t).2 := rfl
  obtain ⟨hanswers, hend⟩ := serve_alike hstep hstart calls
  rw [serve_cons, perform_of_holds hholds, save_of_writable hwritable, hanswers, hend,
    Settings.serve_perform]
  rfl

/-- A file that holds no settings stays as it is, whatever is called. -/
theorem serve_of_error {e : StoreError} (h : f.load t = .error e) (calls : List SettingsCall) :
    serve f.perform calls t = (calls.map fun _ => .error e, t) := by
  induction calls with
  | nil => rfl
  | cons call calls ih =>
    rw [serve_cons, perform_of_error h, ih]
    rfl

/-- The setters of the settings file are lenses. Whatever settings a file holds in the beginning,
and in whatever form, any sequence of calls succeeds while the file system lets the file be
written, and afterwards each field that a setter was called for has the last value that it was
given, and all other fields are as they were. Only these last values matter for what is left
behind: calls for different fields commute, and a call overrules the earlier ones for its own
field. A file may spell its settings in any order and among members with other names. A file that
is there and spells no settings has every call fail, and stays as it is. -/
theorem setters_are_lenses (f : SettingsFile) :
    (∀ t c, f.Holds t c → f.Writable t →
      (∀ calls,
        let served := serve f.perform calls t
        (∀ answer ∈ served.1, answer = .ok ()) ∧
        f.load served.2 = .ok
          { sshUser := (calls.filterMap SettingsCall.user?).getLast?.getD c.sshUser
            privateKey := (calls.filterMap SettingsCall.identity?).getLast?.getD c.privateKey
            retryBudget := c.retryBudget
            probeTimeout := c.probeTimeout }) ∧
      ∀ calls calls', calls ≠ [] → calls' ≠ [] →
        (calls.filterMap SettingsCall.user?).getLast? =
          (calls'.filterMap SettingsCall.user?).getLast? →
        (calls.filterMap SettingsCall.identity?).getLast? =
          (calls'.filterMap SettingsCall.identity?).getLast? →
        (serve f.perform calls t).2 = (serve f.perform calls' t).2) ∧
    (∀ members members' : List (String × Json),
      (members.filter (·.1 ∈ Settings.fieldNames)).Perm
        (members'.filter (·.1 ∈ Settings.fieldNames)) →
      Settings.ofJson? (.record members) = Settings.ofJson? (.record members')) ∧
    ∀ t, (∀ c, ¬f.Holds t c) → ∃ e, f.load t = .error e ∧
      ∀ calls, serve f.perform calls t = (calls.map fun _ => .error e, t) := by
  refine ⟨fun t c hholds hwritable => ⟨fun calls => ?_, fun calls calls' hne hne' huser hkey => ?_⟩,
    fun members members' => Settings.ofJson?_congr, fun t hnone => ?_⟩
  · rw [← Settings.foldl_after]
    by_cases hne : calls = []
    · subst hne
      exact ⟨nofun, load_eq_ok.mpr hholds⟩
    · rw [serve_of_holds hholds hwritable hne]
      refine ⟨by simp, load_eq_ok.mpr (holds_save (save_of_writable hwritable _))⟩
  · rw [serve_of_holds hholds hwritable hne, serve_of_holds hholds hwritable hne',
      Settings.foldl_after, Settings.foldl_after, huser, hkey]
  · cases hload : f.load t with
    | ok c => exact absurd (load_eq_ok.mp hload) (hnone c)
    | error e => exact ⟨e, rfl, serve_of_error hload⟩

/-- A file with a field missing, the others out of order and a member of another name, calls for
both fields in two orders, and a file that is broken. -/
theorem setters_are_lenses_odd_file :
    let f : SettingsFile := ⟨⟨["", "config.json"]⟩⟩
    let holding (text : String) : FileTree :=
      { entries := .ofList [(["config.json"], Entry.file text.toUTF8)] compare }
    let t := holding "\x7b\"retry_budget\": 7, \"theme\": [1], \"ssh_user\": \"dev\"\x7d"
    let broken := holding "not json"
    let c : Settings := { sshUser := "dev", retryBudget := 7 }
    let ops : SettingsCall := .setUser "ops\n\"π\""
    let key : SettingsCall := .setIdentity (some "/keys/id_ed25519")
    f.Holds t c ∧ f.Writable t ∧
      f.load (serve f.perform [ops, key] t).2 =
        .ok { c with sshUser := "ops\n\"π\"", privateKey := some "/keys/id_ed25519" } ∧
      (serve f.perform [ops, key] t).2 = (serve f.perform [.setUser "dev", key, ops] t).2 ∧
      (serve f.perform [ops, key] broken).2 = broken := by
  intro f holding t broken c ops key
  have hholds : f.Holds t c := load_eq_ok.mp (by decide +kernel)
  have hwritable : f.Writable t := ⟨"", by decide +kernel⟩
  have hbroken : ∀ c, ¬f.Holds broken c := fun c hc => by
    have hload : f.load broken = .error (.malformed f.path) := by decide +kernel
    cases hload.symm.trans (load_eq_ok.mpr hc)
  obtain ⟨hlens, -, hleft⟩ := setters_are_lenses f
  obtain ⟨hread, hsame⟩ := hlens t c hholds hwritable
  obtain ⟨e, -, hstays⟩ := hleft broken hbroken
  refine ⟨hholds, hwritable, (hread [ops, key]).2, ?_, ?_⟩
  · exact hsame [ops, key] [.setUser "dev", key, ops] (by simp) (by simp) rfl rfl
  · rw [hstays]

end SettingsFile

end TunnelFleet
