import LanguageClient.Proofs.Data.Outcome
import LanguageClient.Proofs.Settings.Shape
import LanguageClient.Proofs.Storage.FileTree
import LanguageClient.Proofs.Text.Decimal
import LanguageClient.Settings.Load

/-!
# The files and variables that settings come from

* `Describes`, `IsUnreadable` — the table of a file, and the files that have none: `readTable` answers
  the one and fails for the others.
* `IsModeText`, `IsPortText` — the texts that a variable can give a mode and a port by.
* `Overridden` — what a variable gives if it is set, and what there is without it.
* **`override_eq_ok`**, **`override_eq_error`** — what the variables make of settings, and when they
  make nothing of them.
-/

namespace LanguageClient.Settings

open Toml (IsValue)

variable {files : FileTree} {here : Surroundings} {env : Environment} {scope : ConfigScope}
  {path : String} {table : List (String × Json)} {c c' : ClientConfig}

/-! ## Files -/

/-- The table that a file describes; a file that is not there describes an empty one. -/
def Describes (files : FileTree) (cwd : Place) (path : String) (table : List (String × Json)) : Prop :=
  if files.exists? cwd path then
    ∃ text, files.readText cwd path = .ok text ∧ Toml.parse? text = some table
  else table = []

/-- A file that is there, but has no text or describes no table. -/
def IsUnreadable (files : FileTree) (cwd : Place) (path : String) : Prop :=
  files.exists? cwd path = true ∧
    ∀ text, files.readText cwd path = .ok text → Toml.parse? text = none

theorem readTable_eq_ok :
    readTable files here scope path = .ok table ↔ Describes files here.cwd path table := by
  unfold readTable Describes
  split
  · cases hread : files.readText here.cwd path with
    | error e => simp
    | ok text => cases hparse : Toml.parse? text <;> simp [hparse]
  · simp [eq_comm]

theorem readTable_eq_error :
    (∃ e, readTable files here scope path = .error e) ↔ IsUnreadable files here.cwd path := by
  unfold readTable IsUnreadable
  split
  · next hexists =>
    cases hread : files.readText here.cwd path with
    | error e => simp [hexists]
    | ok text => cases hparse : Toml.parse? text <;> simp [hexists, hparse]
  · next hexists => simp [hexists]

theorem describes_of_file {cwd p : Place} {text : String} {executable : Bool}
    (hpath : files.resolve cwd path = .ok p)
    (hfile : files.node? p = some (.file (Utf8.ofString text) executable))
    (hparse : Toml.parse? text = some table) : Describes files cwd path table := by
  have hexists : files.exists? cwd path = true := by
    rw [FileTree.exists?, FileTree.find_eq_ok.2 ⟨hpath, hfile⟩]
    rfl
  have hread := FileTree.readText_eq_ok.2 (FileTree.read_eq_ok.2 ⟨p, executable, hpath, hfile⟩)
  rw [Describes, if_pos hexists]
  exact ⟨text, hread, hparse⟩

theorem Describes.unique {cwd : Place} {other : List (String × Json)}
    (h : Describes files cwd path table) (hother : Describes files cwd path other) :
    table = other := by
  unfold Describes at h hother
  split at h
  · next hexists =>
    rw [if_pos hexists] at hother
    obtain ⟨text, htext, hparse⟩ := h
    obtain ⟨text', htext', hparse'⟩ := hother
    rw [htext] at htext'
    cases htext'
    exact Option.some.inj (hparse.symm.trans hparse')
  · next hexists =>
    rw [if_neg hexists] at hother
    exact h.trans hother.symm

theorem Describes.not_isUnreadable {cwd : Place} (h : Describes files cwd path table) :
    ¬ IsUnreadable files cwd path := by
  rintro ⟨hexists, hnone⟩
  rw [Describes, if_pos hexists] at h
  obtain ⟨text, htext, hparse⟩ := h
  rw [hnone text htext] at hparse
  cases hparse

theorem Describes.isValue {cwd : Place} (h : Describes files cwd path table) :
    IsValue (.obj table) := by
  unfold Describes at h
  split at h
  · obtain ⟨text, -, hparse⟩ := h
    exact Toml.parse?_isValue hparse
  · subst h
    exact .obj .nil (List.forall_mem_nil _)

/-! ## Variables -/

/-- A text that names a mode, whatever its case and the blanks around it. -/
def IsModeText (text : String) (mode : TransportMode) : Prop :=
  (String.ofList (Text.lower (Text.trim text.toList)), mode) ∈
    [("stdio", TransportMode.stdio), ("debug", .stdio), ("client", .tcpClient),
      ("server", .tcpServer)]

/-- A text that is a port. -/
def IsPortText (text : String) (port : UInt16) : Prop := Text.IsNumeral text.toList port.toNat

theorem modeOf_eq_ok {text : String} {mode : TransportMode} :
    modeOf text = .ok mode ↔ IsModeText text mode := by
  rw [modeOf, mapError_eq_ok, TransportMode.parse, IsModeText]
  generalize String.ofList (Text.lower (Text.trim text.toList)) = name
  by_cases hstdio : name = "stdio"
  · subst hstdio
    cases mode <;> simp
  · have hnamed : TransportMode.ofName? name = some mode ↔ (name, mode) ∈
        [("stdio", TransportMode.stdio), ("debug", .stdio), ("client", .tcpClient),
          ("server", .tcpServer)] := by
      rw [TransportMode.ofName?_eq_some]
      cases mode <;> simp [TransportMode.name, hstdio]
    rw [if_neg (by simpa using hstdio), ← hnamed]
    cases TransportMode.ofName? name <;> simp

theorem portOf_eq_ok {text : String} {port : UInt16} :
    portOf text = .ok port ↔ IsPortText text port := by
  have hlimit : port.toNat ≤ 0xFFFF := Nat.le_pred_of_lt port.toNat_lt
  rw [portOf, IsPortText]
  cases hread : Text.readNat 0xFFFF text.toList with
  | error e =>
    refine ⟨nofun, fun h => ?_⟩
    rw [Text.readNat_eq_ok.2 ⟨h, hlimit⟩] at hread
    cases hread
  | ok n =>
    obtain ⟨hnumeral, hn⟩ := Text.readNat_eq_ok.1 hread
    have hvalue : (UInt16.ofNat n).toNat = n :=
      UInt16.toNat_ofNat_of_lt' (Nat.lt_of_le_pred (by decide) hn)
    constructor
    · intro h
      cases h
      rwa [hvalue]
    · intro h
      have hsame := Text.readNat_eq_ok.2 ⟨h, hlimit⟩
      rw [hread] at hsame
      cases hsame
      exact congrArg Except.ok UInt16.ofNat_toNat

/-! ## Overrides -/

/-- What a variable's text says, if the variable is set. -/
def Overridden {α : Type} (text? : Option String) (tells : String → α → Prop)
    (otherwise : α → Prop) (a : α) : Prop :=
  match text? with
  | some text => tells text a
  | none => otherwise a

section Overridden

variable {α : Type} {text? : Option String} {tells : String → α → Prop} {usual : α}

theorem exists_overridden (usual : α) :
    (∃ a, Overridden text? tells (· = usual) a) ↔ ∀ text, text? = some text → ∃ a, tells text a := by
  cases text? with
  | none => exact ⟨fun _ _ h => (by cases h), fun _ => ⟨usual, rfl⟩⟩
  | some text => exact ⟨fun h _ he => (by cases he; exact h), fun h => h text rfl⟩

theorem Overridden.imp {otherwise otherwise' : α → Prop} {a : α}
    (h : Overridden text? tells otherwise a) (himp : ∀ a, otherwise a → otherwise' a) :
    Overridden text? tells otherwise' a := by
  cases text? with
  | none => exact himp a h
  | some text => exact h

/-- A step that takes a value from a variable, or the one that there is without it. -/
theorem overridden_bind {ε β : Type} {read : String → Except ε α}
    (hread : ∀ {text a}, read text = .ok a ↔ tells text a) {f : α → Except ε β} {b : β} :
    (match text? with
      | some text => read text >>= f
      | none => Except.ok usual >>= f) = .ok b ↔
      ∃ a, Overridden text? tells (· = usual) a ∧ f a = .ok b := by
  cases text? with
  | none => exact ⟨fun h => ⟨usual, rfl, h⟩, fun ⟨_, ha, h⟩ => by cases ha; exact h⟩
  | some text => simp only [bind_eq_ok, hread, Overridden]

end Overridden

/-- The settings with this mode and this port, and with what else the variables say. -/
def withVariables (env : Environment) (c : ClientConfig) (mode : TransportMode) (port : UInt16) :
    ClientConfig :=
  { c with
    lsp := { c.lsp with
      mode
      host := (env.get? "AYA_LSP_HOST").getD c.lsp.host
      port
      path := (env.get? "AYA_LSP_PATH").or c.lsp.path }
    java := { home := c.java.home.or ((env.get? "JAVA_HOME").filter (!·.isEmpty)) } }

theorem override_eq_ok :
    override env c = .ok c' ↔
      ∃ mode port, Overridden (env.get? "AYA_LSP_MODE") IsModeText (· = c.lsp.mode) mode ∧
        Overridden (env.get? "AYA_LSP_PORT") IsPortText (· = c.lsp.port) port ∧
        c' = withVariables env c mode port := by
  unfold override
  extract_lets host path home server withMode
  refine (overridden_bind modeOf_eq_ok).trans (exists_congr fun mode => ?_)
  rw [exists_and_left]
  refine and_congr_right fun _ => ?_
  simp -zeta only [withMode]
  extract_lets withPort
  refine (overridden_bind portOf_eq_ok).trans (exists_congr fun port => and_congr_right fun _ => ?_)
  exact ⟨fun h => (Except.ok.inj h).symm, fun h => congrArg Except.ok h.symm⟩

theorem override_eq_error :
    (∃ e, override env c = .error e) ↔
      (∃ text, env.get? "AYA_LSP_MODE" = some text ∧ ∀ mode, ¬ IsModeText text mode) ∨
        ∃ text, env.get? "AYA_LSP_PORT" = some text ∧ ∀ port, ¬ IsPortText text port := by
  have hok : (∃ c', override env c = .ok c') ↔
      (∀ text, env.get? "AYA_LSP_MODE" = some text → ∃ mode, IsModeText text mode) ∧
        ∀ text, env.get? "AYA_LSP_PORT" = some text → ∃ port, IsPortText text port := by
    rw [← exists_overridden c.lsp.mode, ← exists_overridden c.lsp.port]
    simp only [override_eq_ok]
    exact ⟨fun ⟨_, mode, port, hmode, hport, _⟩ => ⟨⟨mode, hmode⟩, port, hport⟩,
      fun ⟨⟨mode, hmode⟩, port, hport⟩ => ⟨_, mode, port, hmode, hport, rfl⟩⟩
  rw [exists_error_iff, ← not_exists, hok, not_and_or]
  push Not
  rfl

end LanguageClient.Settings
