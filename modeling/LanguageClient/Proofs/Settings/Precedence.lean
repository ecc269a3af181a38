import LanguageClient.Proofs.Settings.Overlay
import LanguageClient.Proofs.Settings.Sources
import Mathlib

/-!
# Which setting counts

* `first?` — of several tables, what the first has that has an entry for a setting at all.  For the
  mode an empty table is no entry (`firstMode?`): laid over a table it leaves what is there.
* `Follows` — every setting is what its variable says or else its entry, or it has its default; for
  the Java home the variable stands in for the default.
* `follows_entries` — what is read from one table follows its entries, `Follows.overlaid` — what is read
  from two tables laid over each other follows the first entry of the two, and `Follows.override` — what
  the variables make of settings follows the variables first.
* **`settings_follow_their_sources`** — so do the settings that are loaded, of a project and of the
  person alone, and they are loaded unless a file, the shape of the table or a variable is wrong.
-/

namespace LanguageClient.Settings

open Decode (Fields Gets Means decode_obj read_fieldOr read_map read_seq)
open Toml (IsValue)

variable {env : Environment} {table below above : Table} {record key : String}
  {entry : String → String → Option Json} {mode? : Option Json} {c c' : ClientConfig}

/-! ## Entries -/

/-- What the first of the tables has that has an entry. -/
def first? (tables : List Table) (record key : String) : Option Json :=
  tables.findSome? (valueAt? record key)

/-- What a table has for the mode, other than an empty table. -/
def modeAt? (table : Table) : Option Json :=
  match valueAt? "lsp" "mode" table with
  | some (.obj []) => none
  | found => found

/-- What the first of the tables has that has an entry for the mode other than an empty table. -/
def firstMode? (tables : List Table) : Option Json := tables.findSome? modeAt?

/-- The records of a table are tables. -/
def HasRecords (table : Table) : Prop :=
  ∀ record ∈ ["lsp", "java", "timeouts"], IsTableAt record table

def IsFlag (v : Json) (b : Bool) : Prop := v = .bool b

def IsPort (v : Json) (n : UInt16) : Prop := v = .int n.toNat

/-- An optional text that is there. -/
def IsSomeText (v : Json) (text? : Option String) : Prop := ∃ text, text? = some text ∧ IsText v text

def IsSeconds (v : Json) (n : UInt64) : Prop := v = .int n.toNat

/-- Settings that follow the variables first, then the entries, and are else the defaults. -/
structure Follows (env : Environment) (entry : (record key : String) → Option Json)
    (mode? : Option Json) (c : ClientConfig) : Prop where
  enabled : Gets IsFlag ({} : ServerSettings).enabled (entry "lsp" "enabled") c.lsp.enabled
  mode : Overridden (env.get? "AYA_LSP_MODE") IsModeText
    (Gets IsNamed ({} : ServerSettings).mode mode?) c.lsp.mode
  host : Overridden (env.get? "AYA_LSP_HOST") (fun text host => host = text)
    (Gets IsText ({} : ServerSettings).host (entry "lsp" "host")) c.lsp.host
  port : Overridden (env.get? "AYA_LSP_PORT") IsPortText
    (Gets IsPort ({} : ServerSettings).port (entry "lsp" "port")) c.lsp.port
  path : Overridden (env.get? "AYA_LSP_PATH") (fun text path => path = some text)
    (Gets IsSomeText none (entry "lsp" "path")) c.lsp.path
  home : Gets IsSomeText ((env.get? "JAVA_HOME").filter (!·.isEmpty)) (entry "java" "home") c.java.home
  connectSecs : Gets IsSeconds ({} : TimeoutSettings).connectSecs
    (entry "timeouts" "connect_secs") c.timeouts.connectSecs
  acceptSecs : Gets IsSeconds ({} : TimeoutSettings).acceptSecs
    (entry "timeouts" "accept_secs") c.timeouts.acceptSecs
  initializeSecs : Gets IsSeconds ({} : TimeoutSettings).initializeSecs
    (entry "timeouts" "initialize_secs") c.timeouts.initializeSecs
  shutdownSecs : Gets IsSeconds ({} : TimeoutSettings).shutdownSecs
    (entry "timeouts" "shutdown_secs") c.timeouts.shutdownSecs

/-! ## One table -/

/-- An absent record is read as an empty one is. -/
theorem read_record {α : Type} {name : String} {r : Fields α} {usual a : α}
    (hempty : r.read ⟨name, r.size⟩ (.keyed []) 0 = .ok usual) (hvalue : IsValue (.obj table))
    (hat : IsTableAt record table) (h : Gets (Means (r.decode name)) usual (table.lookup record) a) :
    ∃ members, Decode.Source.IsValue (.keyed members) ∧
      (∀ key, valueAt? record key table = members.lookup key) ∧
      r.read ⟨name, r.size⟩ (.keyed members) 0 = .ok a := by
  cases hfound : table.lookup record with
  | none =>
    rw [hfound] at h
    cases h
    exact ⟨[], .obj .nil (List.forall_mem_nil _), fun key => by rw [valueAt?, hfound]; rfl, hempty⟩
  | some v =>
    obtain ⟨members, rfl⟩ := hat v hfound
    rw [hfound] at h
    exact ⟨members, hvalue.lookup hfound, fun key => by rw [valueAt?, hfound]; rfl, decode_obj.1 h⟩

section Members

variable {members : Table} (hvalue : Decode.Source.IsValue (.keyed members)) {title : Decode.Title}

include hvalue

theorem read_server {s : ServerSettings}
    (h : (ServerSettings.fields TransportMode.decodeEntry).read title (.keyed members) 0 = .ok s) :
    Gets IsFlag ({} : ServerSettings).enabled (members.lookup "enabled") s.enabled ∧
      Gets IsNamed ({} : ServerSettings).mode (members.lookup "mode") s.mode ∧
      Gets IsText ({} : ServerSettings).host (members.lookup "host") s.host ∧
      Gets IsPort ({} : ServerSettings).port (members.lookup "port") s.port ∧
      Gets IsSomeText none (members.lookup "path") s.path := by
  simp only [ServerSettings.fields, read_seq, read_map, read_fieldOr hvalue.distinct] at h
  obtain ⟨-, path, ⟨-, port, ⟨-, host, ⟨-, mode, ⟨enabled, henabled, rfl⟩, hmode, rfl⟩, hhost, rfl⟩,
    hport, rfl⟩, hpath, rfl⟩ := h
  exact ⟨henabled.imp fun _ _ => boolean_eq_ok.1,
    hmode.imp fun _ _ => TransportMode.decodeEntry_eq_ok.1,
    hhost.imp fun _ _ => string_eq_ok.1, hport.imp fun _ _ => uint16_eq_ok.1,
    hpath.imp fun v hv => (optional_string_eq_ok (hvalue.lookup hv).ne_null).1⟩

theorem read_java {s : JavaSettings}
    (h : JavaSettings.fields.read title (.keyed members) 0 = .ok s) :
    Gets IsSomeText none (members.lookup "home") s.home := by
  simp only [JavaSettings.fields, read_map, read_fieldOr hvalue.distinct] at h
  obtain ⟨home, hhome, rfl⟩ := h
  exact hhome.imp fun v hv => (optional_string_eq_ok (hvalue.lookup hv).ne_null).1

theorem read_timeouts {s : TimeoutSettings}
    (h : TimeoutSettings.fields.read title (.keyed members) 0 = .ok s) :
    Gets IsSeconds ({} : TimeoutSettings).connectSecs (members.lookup "connect_secs") s.connectSecs ∧
      Gets IsSeconds ({} : TimeoutSettings).acceptSecs (members.lookup "accept_secs") s.acceptSecs ∧
      Gets IsSeconds ({} : TimeoutSettings).initializeSecs (members.lookup "initialize_secs")
        s.initializeSecs ∧
      Gets IsSeconds ({} : TimeoutSettings).shutdownSecs (members.lookup "shutdown_secs")
        s.shutdownSecs := by
  simp only [TimeoutSettings.fields, read_seq, read_map, read_fieldOr hvalue.distinct] at h
  obtain ⟨-, shutdown, ⟨-, first, ⟨-, accept, ⟨connect, hconnect, rfl⟩, haccept, rfl⟩, hfirst, rfl⟩,
    hshutdown, rfl⟩ := h
  exact ⟨hconnect.imp fun _ _ => uint64_eq_ok.1, haccept.imp fun _ _ => uint64_eq_ok.1,
    hfirst.imp fun _ _ => uint64_eq_ok.1, hshutdown.imp fun _ _ => uint64_eq_ok.1⟩

end Members

/-- **Settings that are read from a table follow its entries.** -/
theorem follows_entries (hvalue : IsValue (.obj table)) (hrecords : HasRecords table)
    (h : ofTable table = .ok c) :
    Follows [] (fun record key => valueAt? record key table) (valueAt? "lsp" "mode" table) c := by
  have hread := decode_obj.1 (mapError_eq_ok.1 h)
  have hsource : Decode.Source.IsValue (.keyed table) := hvalue
  simp only [ClientConfig.fields, read_seq, read_map, read_fieldOr hsource.distinct] at hread
  obtain ⟨-, timeouts, ⟨-, java, ⟨server, hserver, rfl⟩, hjava, rfl⟩, htimeouts, rfl⟩ := hread
  obtain ⟨lsp, hlsp, hentry, hserver⟩ :=
    read_record (by rfl) hvalue (hrecords "lsp" (by simp)) hserver
  obtain ⟨others, hothers, hhome, hjava⟩ :=
    read_record (by rfl) hvalue (hrecords "java" (by simp)) hjava
  obtain ⟨waits, hwaits, hwait, htimeouts⟩ :=
    read_record (by rfl) hvalue (hrecords "timeouts" (by simp)) htimeouts
  obtain ⟨enabled, mode, host, port, path⟩ := read_server hlsp hserver
  obtain ⟨connectSecs, acceptSecs, initializeSecs, shutdownSecs⟩ := read_timeouts hwaits htimeouts
  have home := read_java hothers hjava
  simp only [← hentry] at enabled mode host port path
  simp only [← hhome] at home
  simp only [← hwait] at connectSecs acceptSecs initializeSecs shutdownSecs
  exact { enabled, mode, host, port, path, home, connectSecs, acceptSecs, initializeSecs, shutdownSecs }

/-! ## Two tables -/

section Overlaid

variable (hvalue : IsValue (.obj above)) (hbelow : HasRecords below) (habove : HasRecords above)

theorem findSome?_pair {f : Table → Option Json} :
    [above, below].findSome? f = (f above).or (f below) := by
  simp only [List.findSome?_cons, List.findSome?_nil]
  cases f above <;> cases f below <;> rfl

theorem findSome?_single {f : Table → Option Json} : [table].findSome? f = f table := by
  simp only [List.findSome?_cons, List.findSome?_nil]
  cases f table <;> rfl

theorem not_isNamed_empty {mode : TransportMode} : ¬ IsNamed (.obj []) mode := by
  rintro (h | h | h) <;> cases h

theorem modeAt?_of_ne {v : Json} (hentry : valueAt? "lsp" "mode" table = some v) (hne : v ≠ .obj []) :
    modeAt? table = some v := by
  rw [modeAt?, hentry]
  split
  · next he => cases he; exact absurd rfl hne
  · rfl

theorem gets_modeAt {usual mode : TransportMode}
    (h : Gets IsNamed usual (valueAt? "lsp" "mode" table) mode) :
    Gets IsNamed usual (modeAt? table) mode := by
  cases hentry : valueAt? "lsp" "mode" table with
  | none =>
    rw [hentry] at h
    rwa [modeAt?, hentry]
  | some v =>
    rw [hentry] at h
    rw [modeAt?_of_ne hentry]
    · exact h
    · rintro rfl
      exact not_isNamed_empty h

/-- A mode that is named when something other than an empty table is laid over is named by that. -/
theorem isNamed_of_overlayValue {v : Json} (hv : IsValue v) (hne : v ≠ .obj [])
    {below? : Option Json} {mode : TransportMode} (h : IsNamed (overlayValue below? v) mode) :
    IsNamed v mode := by
  by_cases htable : ∃ members, v = .obj members
  · obtain ⟨members, rfl⟩ := htable
    by_cases hmeet : ∃ base, below? = some (.obj base)
    · obtain ⟨base, rfl⟩ := hmeet
      rw [overlayValue_tables] at h
      have hnonempty : members ≠ [] := fun he => hne (he ▸ rfl)
      rcases h with h | h | h
      · cases h
      · obtain ⟨w, rfl, hw⟩ := eq_single_of_overlayMembers hv hnonempty (Json.obj.inj h)
        have hw' := eq_empty_of_overlayValue ((Toml.isValue_obj.1 hv).2 _ List.mem_cons_self) hw
        exact .inr (.inl (hw' ▸ rfl))
      · obtain ⟨w, rfl, hw⟩ := eq_single_of_overlayMembers hv hnonempty (Json.obj.inj h)
        have hscalar : ∀ above, w ≠ .obj above := by
          rintro above rfl
          obtain ⟨merged, hmerged⟩ := exists_overlayValue (base.lookup mode.name) above
          rw [hmerged] at hw
          cases hw
        rw [overlayValue_of_not_table hscalar] at hw
        exact .inr (.inr (hw ▸ rfl))
    · rwa [overlayValue_over_not_table (not_exists.1 hmeet)] at h
  · rwa [overlayValue_of_not_table (not_exists.1 htable)] at h

include hvalue hbelow habove

/-- A setting that no table gives is what the first entry says, as an entry that is no table replaces
the one below it. -/
theorem gets_first {α : Type} {tells : Json → α → Prop} {usual a : α}
    (hrecord : record ∈ ["lsp", "java", "timeouts"]) (hscalar : ∀ members a, ¬ tells (.obj members) a)
    (h : Gets tells usual (valueAt? record key (overlayMembers below above)) a) :
    Gets tells usual (first? [above, below] record key) a := by
  rw [valueAt?_overlayMembers hvalue (hbelow record hrecord) (habove record hrecord)] at h
  rw [first?, findSome?_pair]
  cases hentry : valueAt? record key above with
  | none =>
    rw [hentry] at h
    exact h
  | some v =>
    rw [hentry] at h
    change tells (overlayValue (valueAt? record key below) v) a at h
    rw [Option.some_or]
    by_cases htable : ∃ members, v = .obj members
    · obtain ⟨members, rfl⟩ := htable
      obtain ⟨merged, hmerged⟩ := exists_overlayValue (valueAt? record key below) members
      rw [hmerged] at h
      exact absurd h (hscalar merged a)
    · rwa [overlayValue_of_not_table (not_exists.1 htable)] at h

/-- What names the mode is the first entry that is not an empty table. -/
theorem gets_firstMode {usual mode : TransportMode}
    (h : Gets IsNamed usual (valueAt? "lsp" "mode" (overlayMembers below above)) mode) :
    Gets IsNamed usual (firstMode? [above, below]) mode := by
  rw [valueAt?_overlayMembers hvalue (hbelow "lsp" (by simp)) (habove "lsp" (by simp))] at h
  rw [firstMode?, findSome?_pair]
  cases hentry : valueAt? "lsp" "mode" above with
  | none =>
    rw [hentry] at h
    rw [modeAt?, hentry]
    exact gets_modeAt h
  | some v =>
    rw [hentry] at h
    change IsNamed (overlayValue (valueAt? "lsp" "mode" below) v) mode at h
    by_cases hempty : v = .obj []
    · subst hempty
      rw [modeAt?, hentry]
      refine gets_modeAt ?_
      by_cases hmeet : ∃ base, valueAt? "lsp" "mode" below = some (.obj base)
      · obtain ⟨base, hbase⟩ := hmeet
        rw [hbase, overlayValue_tables, overlayMembers] at h
        rw [hbase]
        exact h
      · rw [overlayValue_over_not_table (not_exists.1 hmeet)] at h
        exact absurd h not_isNamed_empty
    · rw [modeAt?_of_ne hentry hempty, Option.some_or]
      exact isNamed_of_overlayValue (isValue_valueAt hvalue hentry) hempty h

/-- **Settings that are read from two tables follow the first entry of the two.** -/
theorem Follows.overlaid
    (h : Follows [] (fun record key => valueAt? record key (overlayMembers below above))
      (valueAt? "lsp" "mode" (overlayMembers below above)) c) :
    Follows [] (first? [above, below]) (firstMode? [above, below]) c := by
  have text (members : Table) (s : String) : ¬ IsText (.obj members) s := by
    rintro (h | h) <;> cases h
  have someText (members : Table) (s? : Option String) : ¬ IsSomeText (.obj members) s? :=
    fun ⟨s, _, hs⟩ => text members s hs
  have flag (members : Table) (b : Bool) : ¬ IsFlag (.obj members) b := nofun
  have port (members : Table) (n : UInt16) : ¬ IsPort (.obj members) n := nofun
  have seconds (members : Table) (n : UInt64) : ¬ IsSeconds (.obj members) n := nofun
  exact {
    enabled := gets_first hvalue hbelow habove (by simp) flag h.enabled
    mode := gets_firstMode hvalue hbelow habove h.mode
    host := gets_first hvalue hbelow habove (by simp) text h.host
    port := gets_first hvalue hbelow habove (by simp) port h.port
    path := gets_first hvalue hbelow habove (by simp) someText h.path
    home := gets_first hvalue hbelow habove (by simp) someText h.home
    connectSecs := gets_first hvalue hbelow habove (by simp) seconds h.connectSecs
    acceptSecs := gets_first hvalue hbelow habove (by simp) seconds h.acceptSecs
    initializeSecs := gets_first hvalue hbelow habove (by simp) seconds h.initializeSecs
    shutdownSecs := gets_first hvalue hbelow habove (by simp) seconds h.shutdownSecs }

end Overlaid

theorem Follows.alone
    (h : Follows [] (fun record key => valueAt? record key table) (valueAt? "lsp" "mode" table) c) :
    Follows [] (first? [table]) (firstMode? [table]) c := by
  have hentries : first? [table] = fun record key => valueAt? record key table :=
    funext fun record => funext fun key => findSome?_single
  rw [hentries, firstMode?, findSome?_single]
  exact { h with mode := gets_modeAt h.mode }

/-! ## Variables -/

/-- **What the variables make of settings follows the variables first.** -/
theorem Follows.override (h : Follows [] entry mode? c) (hoverride : override env c = .ok c') :
    Follows env entry mode? c' := by
  obtain ⟨mode, port, hmode, hport, rfl⟩ := override_eq_ok.1 hoverride
  exact {
    enabled := h.enabled
    mode := hmode.imp fun _ he => he ▸ h.mode
    host := by
      cases hvar : env.get? "AYA_LSP_HOST" with
      | none =>
        simp only [withVariables, hvar]
        exact h.host
      | some host => simp only [withVariables, hvar, Overridden, Option.getD_some]
    port := hport.imp fun _ he => he ▸ h.port
    path := by
      cases hvar : env.get? "AYA_LSP_PATH" with
      | none =>
        simp only [withVariables, hvar]
        exact h.path
      | some path => simp only [withVariables, hvar, Overridden, Option.some_or]
    home := by
      have home := h.home
      cases hentry : entry "java" "home" with
      | none =>
        rw [hentry] at home
        cases hhome : c.java.home with
        | none => simp only [withVariables, hhome, Gets, Option.none_or]
        | some text => rw [hhome] at home; cases home
      | some v =>
        rw [hentry] at home
        obtain ⟨text, hhome, htext⟩ := home
        exact ⟨text, by rw [withVariables, hhome, Option.some_or], htext⟩
    connectSecs := h.connectSecs
    acceptSecs := h.acceptSecs
    initializeSecs := h.initializeSecs
    shutdownSecs := h.shutdownSecs }

/-! ## Loading -/

section Loading

variable {files : FileTree} {here : Surroundings} {project : String}

theorem ofTable_eq_error (h : IsValue (.obj table)) :
    (∃ e, ofTable table = .error e) ↔ ¬ IsSettings (.obj table) := by
  rw [exists_error_iff, ← ClientConfig.decodeTable_accepts h, not_exists]
  exact forall_congr' fun c => not_congr mapError_eq_ok

theorem load_project_eq_ok :
    load files here project false = .ok c' ↔
      ∃ below above c, Describes files here.cwd (globalPath here.env) below ∧
        Describes files here.cwd (projectPath project) above ∧
        ofTable (overlayMembers below above) = .ok c ∧ override here.env c = .ok c' := by
  simp only [load, bind_eq_ok, readTable_eq_ok, Bool.false_eq_true, if_false, exists_and_left]

theorem load_global_eq_ok :
    load files here project true = .ok c ↔
      ∃ below, Describes files here.cwd (globalPath here.env) below ∧ ofTable below = .ok c := by
  simp only [load, bind_eq_ok, readTable_eq_ok, if_true]

/-- What goes wrong is the first of these that does. -/
theorem load_project_eq_error :
    (∃ e, load files here project false = .error e) ↔
      IsUnreadable files here.cwd (globalPath here.env) ∨
        IsUnreadable files here.cwd (projectPath project) ∨
        (∃ below above, Describes files here.cwd (globalPath here.env) below ∧
          Describes files here.cwd (projectPath project) above ∧
          ¬ IsSettings (.obj (overlayMembers below above))) ∨
        (∃ text, here.env.get? "AYA_LSP_MODE" = some text ∧ ∀ mode, ¬ IsModeText text mode) ∨
        ∃ text, here.env.get? "AYA_LSP_PORT" = some text ∧ ∀ port, ¬ IsPortText text port := by
  simp only [load, bind_eq_error, Bool.false_eq_true, if_false, readTable_eq_error, readTable_eq_ok]
  constructor
  · rintro (h | ⟨below, hbelow, h | ⟨above, habove, h | ⟨c, -, h⟩⟩⟩)
    · exact .inl h
    · exact .inr (.inl h)
    · have hvalue := isValue_overlayMembers hbelow.isValue habove.isValue
      exact .inr (.inr (.inl ⟨below, above, hbelow, habove, (ofTable_eq_error hvalue).1 h⟩))
    · exact .inr (.inr (.inr (override_eq_error.1 h)))
  · intro h
    rcases hread : readTable files here .global (globalPath here.env) with e | below
    · exact .inl (readTable_eq_error.1 ⟨e, hread⟩)
    have hbelow := readTable_eq_ok.1 hread
    refine .inr ⟨below, hbelow, ?_⟩
    rcases hread : readTable files here .project (projectPath project) with e | above
    · exact .inl (readTable_eq_error.1 ⟨e, hread⟩)
    have habove := readTable_eq_ok.1 hread
    refine .inr ⟨above, habove, ?_⟩
    rcases htable : ofTable (overlayMembers below above) with e | c
    · exact .inl ⟨e, rfl⟩
    refine .inr ⟨c, rfl, override_eq_error.2 ?_⟩
    rcases h with h | h | ⟨below', above', hbelow', habove', h⟩ | h
    · exact absurd h hbelow.not_isUnreadable
    · exact absurd h habove.not_isUnreadable
    · obtain rfl := hbelow.unique hbelow'
      obtain rfl := habove.unique habove'
      have hvalue := isValue_overlayMembers hbelow.isValue habove.isValue
      obtain ⟨e, he⟩ := (ofTable_eq_error hvalue).2 h
      rw [htable] at he
      cases he
    · exact h

theorem load_global_eq_error :
    (∃ e, load files here project true = .error e) ↔
      IsUnreadable files here.cwd (globalPath here.env) ∨
        ∃ below, Describes files here.cwd (globalPath here.env) below ∧ ¬ IsSettings (.obj below) := by
  simp only [load, bind_eq_error, if_true, readTable_eq_error, readTable_eq_ok]
  exact or_congr_right (exists_congr fun below => and_congr_right fun hbelow =>
    ofTable_eq_error hbelow.isValue)

end Loading

theorem hasRecords_of_tables (h : ∀ m ∈ table, ∃ members, m.2 = .obj members) :
    HasRecords table := by
  intro record _ v hfound
  obtain ⟨before, after, rfl, -⟩ := List.lookup_eq_some_iff.1 hfound
  exact h _ (List.mem_append_right _ List.mem_cons_self)

/-- A person's settings. -/
def personText : String := "java.home = \"/j\"\nlsp.mode = \"server\"\nlsp.port = 4\n"

/-- A project's settings. -/
def projectText : String := "[lsp]\nport = 5\n"

def twoConfigs : FileTree :=
  ⟨[(["h"], .directory), (["h", "aya-client"], .directory),
    (["h", "aya-client", "config.toml"], .file (Utf8.ofString personText) false),
    (["p"], .directory), (["p", ".aya"], .directory),
    (["p", ".aya", "client.toml"], .file (Utf8.ofString projectText) false)]⟩

/-- Where the person's file is found, and variables for the host and the Java home. -/
def twoConfigsHere : Surroundings :=
  ⟨[("XDG_CONFIG_HOME", "/h"), ("AYA_LSP_HOST", "there"), ("JAVA_HOME", "/e")], []⟩

end LanguageClient.Settings
