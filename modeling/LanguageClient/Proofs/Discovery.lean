import LanguageClient.Discovery
import LanguageClient.Proofs.Storage.Path
import Mathlib

/-!
# The first file of all candidates

Where a server and its Java may be is spelled out in the settings and in two variables that hold
directories with colons between them.  Each search looks at one place after another; the candidates
are written down here from the directories alone, so that what is found can be said without the search.

* `Spells` — the directories of a text are what stands between its colons; `spells_iff` says that
  `Discovery.entries` takes them out, and `exists_unique_lists` that every text has its directories.
* `IsFirst` — the first of some candidates that passes; there is one at most (`IsFirst.unique`).
* `findServer_eq_ok`, `findServer_eq_notFound`, `findJava_cases` — the two searches.
* `endpointFor_started`, `endpointFor_dialled` — what an endpoint needs of them.
* **`first_file_is_found`** — all of it, for any settings, any variables and any files.
-/

namespace LanguageClient

/-- The first of some candidates that passes. -/
def IsFirst {α : Type} (passes : α → Bool) (candidates : List α) (a : α) : Prop :=
  ∃ before after, candidates = before ++ a :: after ∧ passes a = true ∧ ∀ b ∈ before, passes b = false

theorem find?_eq_some_iff_isFirst {α : Type} {passes : α → Bool} {candidates : List α} {a : α} :
    candidates.find? passes = some a ↔ IsFirst passes candidates a := by
  simp only [List.find?_eq_some_iff_append, IsFirst, Bool.not_eq_true']
  exact ⟨fun ⟨hpasses, before, after, he, hbefore⟩ => ⟨before, after, he, hpasses, hbefore⟩,
    fun ⟨before, after, he, hpasses, hbefore⟩ => ⟨hpasses, before, after, he, hbefore⟩⟩

/-- There is one at most. -/
theorem IsFirst.unique {α : Type} {passes : α → Bool} {candidates : List α} {a b : α}
    (h : IsFirst passes candidates a) (h' : IsFirst passes candidates b) : a = b :=
  Option.some.inj ((find?_eq_some_iff_isFirst.2 h).symm.trans (find?_eq_some_iff_isFirst.2 h'))

namespace Discovery

/-! ## The entries of a list -/

theorem split_eq_splitOn (cs : List Char) : entries.split cs = cs.splitOn ':' :=
  Path.eq_splitOn rfl (fun _ _ => rfl) cs

/-- What stands between the colons of a list of directories. -/
structure Spells (list : String) (dirs : List String) : Prop where
  ne_nil : dirs ≠ []
  apart : ∀ dir ∈ dirs, ':' ∉ dir.toList
  joined : ":".intercalate dirs = list

theorem spells_iff {list : String} {dirs : List String} : Spells list dirs ↔ entries list = dirs := by
  have hentries : entries list = (list.toList.splitOn ':').map String.ofList := by
    rw [entries, entries.go, split_eq_splitOn]
  rw [hentries]
  constructor
  · rintro ⟨hne, hapart, rfl⟩
    rw [String.toList_intercalate, show ":".toList = [':'] from rfl, List.splitOn_intercalate]
    · simp
    · exact List.forall_mem_map.2 hapart
    · simpa using hne
  · rintro rfl
    refine ⟨by simp, ?_, ?_⟩
    · refine List.forall_mem_map.2 fun s hs => ?_
      rw [String.toList_ofList]
      exact Path.not_mem_of_mem_splitOn hs
    · refine String.toList_injective ?_
      simp [String.toList_intercalate, List.intercalate_splitOn]

/-- The directories of a list that may be unset. -/
def Lists : (list : Option String) → (dirs : List String) → Prop
  | none, dirs => dirs = []
  | some list, dirs => Spells list dirs

theorem lists_iff {list : Option String} {dirs : List String} :
    Lists list dirs ↔ list.toList.flatMap entries = dirs := by
  cases list with
  | none => exact eq_comm
  | some list => rw [Lists, spells_iff, Option.toList_some, List.flatMap_singleton]

theorem exists_unique_lists (list : Option String) : ∃! dirs, Lists list dirs :=
  ⟨_, lists_iff.2 rfl, fun _ h => (lists_iff.1 h).symm⟩

/-! ## Candidates -/

variable {isFile : String → Bool} {config : ClientConfig} {paths : SearchPaths}
  {onPath inJavaHome inSettings : List String}

theorem onPath_eq {list : Option String} {dirs : List String} (h : Lists list dirs) (program : String) :
    Discovery.onPath list program = dirs.map (Path.join · program) := by
  rw [Discovery.onPath, lists_iff.1 h]

theorem serverCandidates_eq {settings : ServerSettings} (h : Lists paths.path onPath) :
    serverCandidates settings paths = settings.path.toList ++ onPath.map (Path.join · serverName) := by
  rw [serverCandidates, onPath_eq h]

theorem javaCandidates_eq {settings : JavaSettings} (hpath : Lists paths.path onPath)
    (hhome : Lists paths.javaHome inJavaHome) (hsettings : Lists settings.home inSettings) :
    javaCandidates settings paths =
      (inSettings ++ inJavaHome).map javaIn ++ onPath.map fun dir => ⟨Path.join dir javaName, none⟩ := by
  rw [javaCandidates, onPath_eq hpath, List.flatMap_append, lists_iff.1 hhome, lists_iff.1 hsettings,
    List.map_map]
  rfl

theorem findServer_eq_ok {settings : ServerSettings} (h : settings.enabled = true) {path : String} :
    findServer isFile settings paths = .ok path ↔
      IsFirst isFile (serverCandidates settings paths) path := by
  rw [← find?_eq_some_iff_isFirst, findServer, if_pos h]
  cases (serverCandidates settings paths).find? isFile <;> simp

theorem findServer_eq_notFound {settings : ServerSettings} (h : settings.enabled = true) :
    findServer isFile settings paths = .error .notFound ↔
      ∀ path ∈ serverCandidates settings paths, isFile path = false := by
  rw [findServer, if_pos h]
  cases hfind : (serverCandidates settings paths).find? isFile with
  | none => simpa using hfind
  | some path =>
    refine ⟨nofun, fun hnone => ?_⟩
    have hfile := List.find?_some hfind
    rw [hnone path (List.mem_of_find?_eq_some hfind)] at hfile
    cases hfile

theorem findJava_cases (isFile : String → Bool) (settings : JavaSettings) (paths : SearchPaths) :
    IsFirst (isFile ·.executable) (javaCandidates settings paths) (findJava isFile settings paths) ∨
      (∀ java ∈ javaCandidates settings paths, isFile java.executable = false) ∧
        findJava isFile settings paths = ⟨javaName, none⟩ := by
  rw [findJava]
  cases hfind : (javaCandidates settings paths).find? (isFile ·.executable) with
  | none => exact .inr ⟨by simpa using hfind, rfl⟩
  | some java => exact .inl (find?_eq_some_iff_isFirst.1 hfind)

/-! ## Endpoints -/

/-- How a server is started: with a home for its Java, if one was found. -/
def started (server : String) (home : Option String) : Launch :=
  { program := server, args := [], env := home.toList.map ("JAVA_HOME", ·) }

theorem launch_eq (d : Discovery) : d.launch = started d.server d.java.home := by
  rw [launch, started]
  cases d.java.home <;> rfl

theorem discover_launch (isFile : String → Bool) (config : ClientConfig) (paths : SearchPaths) :
    (discover isFile config paths).map launch =
      (findServer isFile config.lsp paths).map (started · (findJava isFile config.java paths).home) := by
  rw [discover]
  cases findServer isFile config.lsp paths with
  | error e => rfl
  | ok server => exact congrArg Except.ok (launch_eq _)

/-- To start a server, one has to be found. -/
theorem endpointFor_started (isFile : String → Bool) (config : ClientConfig) (paths : SearchPaths) :
    let launch := (findServer isFile config.lsp paths).map
      (started · (findJava isFile config.java paths).home)
    (config.lsp.mode = .stdio → endpointFor isFile config paths = launch.map .stdio) ∧
      (config.lsp.mode = .tcpServer → endpointFor isFile config paths =
        launch.map (.tcpServer config.lsp.host config.lsp.port)) := by
  refine ⟨fun hmode => ?_, fun hmode => ?_⟩ <;>
  · rw [← discover_launch, endpointFor, hmode]
    cases discover isFile config paths <;> rfl

/-- To dial one, none has. -/
theorem endpointFor_dialled (h : config.lsp.mode = .tcpClient) :
    endpointFor isFile config paths =
      if config.lsp.enabled then .ok (.tcpClient config.lsp.host config.lsp.port)
      else .error .disabled := by
  rw [endpointFor, h]

/-- **Of the candidates the first file is found.**  The server is the path of the settings or in a
directory of `PATH`; Java is below a home of the settings, below one of `JAVA_HOME` or in a directory
of `PATH`, and only below a home it has one; each is the first file in this order, if there is one.  A
server is started, with the home of its Java, exactly if one is found; to dial one, being enabled is
enough. -/
theorem first_file_is_found (isFile : String → Bool) (config : ClientConfig) (paths : SearchPaths)
    {onPath inJavaHome inSettings : List String} (hpath : Lists paths.path onPath)
    (hhome : Lists paths.javaHome inJavaHome) (hsettings : Lists config.java.home inSettings) :
    let servers := config.lsp.path.toList ++ onPath.map (Path.join · "aya-lsp")
    let javas : List JavaLocation :=
      (inSettings ++ inJavaHome).map (fun home => ⟨Path.join (Path.join home "bin") "java", some home⟩)
        ++ onPath.map fun dir => ⟨Path.join dir "java", none⟩
    let server := findServer isFile config.lsp paths
    let java := findJava isFile config.java paths
    let launch := server.map (started · java.home)
    (config.lsp.enabled = true →
      (∀ path, server = .ok path ↔ IsFirst isFile servers path) ∧
      (server = .error .notFound ↔ ∀ path ∈ servers, isFile path = false)) ∧
    (config.lsp.enabled = false → server = .error .disabled) ∧
    (IsFirst (isFile ·.executable) javas java ∨
      (∀ j ∈ javas, isFile j.executable = false) ∧ java = ⟨"java", none⟩) ∧
    (config.lsp.mode = .stdio → endpointFor isFile config paths = launch.map .stdio) ∧
    (config.lsp.mode = .tcpServer → endpointFor isFile config paths =
      launch.map (.tcpServer config.lsp.host config.lsp.port)) ∧
    (config.lsp.mode = .tcpClient → endpointFor isFile config paths =
      if config.lsp.enabled then .ok (.tcpClient config.lsp.host config.lsp.port)
      else .error .disabled) := by
  have hservers : serverCandidates config.lsp paths = _ := serverCandidates_eq hpath
  have hjavas := javaCandidates_eq hpath hhome hsettings
  obtain ⟨hstdio, hlisten⟩ := endpointFor_started isFile config paths
  refine ⟨fun henabled => ⟨fun path => ?_, ?_⟩, fun hdisabled => ?_, ?_, hstdio, hlisten,
    endpointFor_dialled⟩
  · exact hservers ▸ findServer_eq_ok henabled
  · exact hservers ▸ findServer_eq_notFound henabled
  · rw [findServer, hdisabled]
    rfl
  · exact hjavas ▸ findJava_cases isFile config.java paths

/-- A directory with the name of the server, a directory with a server, and a home. -/
def installed : FileTree :=
  ⟨[(["x"], .directory), (["x", "aya-lsp"], .directory), (["y"], .directory),
    (["y", "aya-lsp"], .file [] true), (["y", "java"], .file [] true), (["j"], .directory),
    (["j", "bin"], .directory), (["j", "bin", "java"], .file [] true)]⟩

theorem first_file_is_found_in_turn :
    let isFile := installed.isFile ["x"]
    let config : ClientConfig := { lsp := { mode := .stdio, path := some "/gone" } }
    let paths : SearchPaths := ⟨some "/x::/y", some ":/j"⟩
    Lists paths.path ["/x", "", "/y"] ∧ Lists paths.javaHome ["", "/j"] ∧ Lists config.java.home [] ∧
      findServer isFile config.lsp paths = .ok "/y/aya-lsp" ∧
      findJava isFile config.java paths = ⟨"/j/bin/java", some "/j"⟩ ∧
      endpointFor isFile config paths = .ok (.stdio ⟨"/y/aya-lsp", [], [("JAVA_HOME", "/j")]⟩) := by
  have hfile : installed.isFile ["x"] "/y/aya-lsp" = true := by cbv
  have hothers : ∀ path ∈ ["/gone", "/x/aya-lsp", "aya-lsp"], installed.isFile ["x"] path = false := by
    simp only [List.forall_mem_cons]
    exact ⟨by cbv, by cbv, by cbv, List.forall_mem_nil _⟩
  have hjavaFile : installed.isFile ["x"] "/j/bin/java" = true := by cbv
  have hbin : installed.isFile ["x"] "bin/java" = false := by cbv
  intro isFile config paths
  have hpath : Lists paths.path ["/x", "", "/y"] := spells_iff.2 (by decide +kernel)
  have hhome : Lists paths.javaHome ["", "/j"] := spells_iff.2 (by decide +kernel)
  obtain ⟨henabled, -, hjava, hstdio, -, -⟩ := first_file_is_found isFile config paths hpath hhome rfl
  have hserver : findServer isFile config.lsp paths = .ok "/y/aya-lsp" :=
    ((henabled rfl).1 _).2 ⟨["/gone", "/x/aya-lsp", "aya-lsp"], [], by decide +kernel, hfile, hothers⟩
  have hhomed : findJava isFile config.java paths = ⟨"/j/bin/java", some "/j"⟩ := by
    rcases hjava with hfirst | ⟨hnone, -⟩
    · exact hfirst.unique ⟨[⟨"bin/java", some ""⟩], [⟨"/x/java", none⟩, ⟨"java", none⟩, ⟨"/y/java", none⟩],
        by decide +kernel, hjavaFile, List.forall_mem_singleton.2 hbin⟩
    · have hmissing := hnone ⟨"/j/bin/java", some "/j"⟩ (by decide +kernel)
      cases hjavaFile.symm.trans hmissing
  refine ⟨hpath, hhome, rfl, hserver, hhomed, ?_⟩
  rw [hstdio rfl, hserver, hhomed]
  rfl

end Discovery

end LanguageClient
