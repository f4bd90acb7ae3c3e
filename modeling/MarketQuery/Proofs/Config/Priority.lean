import MarketQuery.Proofs.Config.Variables

/-!
# The priority of the sources

Each setting comes from the highest source that gives it: the variables, the file that one of them
names, the file in the working directory, and the defaults below them all.

* `Missing`, `ownSource_of_missing`, `load_of_missing`: the file in the working directory need not
  be there, but the one that a variable names must;
* `exists_load_of_fits`, **`load_by_priority`**: each setting by itself, for any sources.
-/

namespace MarketQuery.Config

variable {fs : FileSystem} {env : Environment}

/-! ## Files that are there or not -/

/-- Nothing is a file of a name, with the name as it is or with an extension. -/
structure Missing (fs : FileSystem) (name : String) : Prop where
  itself : isFile fs name = false
  candidates : ∀ file ∈ candidates name, isFile fs file.1 = false

theorem findFile_of_missing {name : String} (h : Missing fs name) :
    findFile fs name = .error (.noFile name) := by
  have hnone : (candidates name).find? (fun file => isFile fs file.1) = none := by
    rw [List.find?_eq_none]
    intro file hfile
    rw [h.candidates file hfile]
    exact Bool.false_ne_true
  rw [findFile, h.itself]
  simp [hnone]

theorem ownSource_of_missing (h : Missing fs fileName) : ownSource fs = .ok [] := by
  rw [ownSource, findFile_of_missing h]

theorem ownSource_of_toml (hplain : isFile fs fileName = false)
    (h : isFile fs "akq.toml" = true) : ownSource fs = readFile fs ("akq.toml", .toml) := by
  have hcandidates : candidates fileName = ("akq.toml", .toml) :: (candidates fileName).tail := by
    decide
  rw [ownSource, findFile, hplain, hcandidates]
  simp [h]

theorem load_of_missing {name : String}
    (hname : (withEnvironmentFile fs env).get? fileVariable = some name) (h : Missing fs name) :
    load fs env = ownSource fs >>= fun _ => .error (.noFile name) := by
  have hnamed : namedSource fs (withEnvironmentFile fs env) = .error (.noFile name) := by
    rw [namedSource, hname]
    exact congrArg (· >>= readFile fs) (findFile_of_missing h)
  rw [load, sources, hnamed]
  cases ownSource fs <;> rfl

/-! ## All sources -/

theorem exists_load_of_fits {own named : List (KeyPath × Item)} (hown : ownSource fs = .ok own)
    (hnamed : namedSource fs (withEnvironmentFile fs env) = .ok named)
    (hfits : ∀ entry ∈ own ++ named ++ (withEnvironmentFile fs env).items, Fits entry) :
    ∃ settings, load fs env = .ok settings ∧ ∀ s : Setting,
      settingOr? (s.of {}) s.read? ((s.given? (withEnvironmentFile fs env).items).or
        ((s.given? named).or (s.given? own))) = some (s.of settings) := by
  obtain ⟨settings, hsettings, hvalues⟩ := exists_settings hfits
  have hsources : sources fs (withEnvironmentFile fs env) =
      .ok (own ++ named ++ (withEnvironmentFile fs env).items) := by
    rw [sources, hown, hnamed]
    rfl
  refine ⟨settings, ?_, fun s => ?_⟩
  · rw [load, hsources]
    exact hsettings
  · rw [← hvalues s, Setting.given?_append, Setting.given?_append]

/-- **Each setting is what the highest source that gives it says.** The file in the working
directory, the file that a variable names, and the variables come one above the other, and above a
variable that a file of variables sets comes one that is set already. A setting takes what it is
given from the highest of them, and its default where it is given nothing, whatever they give the
other settings; a named file that is missing is an error. -/
theorem load_by_priority (fs : FileSystem) (env : Environment) :
    let vars := withEnvironmentFile fs env
    (∀ own named, ownSource fs = .ok own → namedSource fs vars = .ok named →
      (∀ entry ∈ own ++ named ++ vars.items, Fits entry) →
      ∃ settings, load fs env = .ok settings ∧ ∀ s : Setting,
        settingOr? (s.of {}) s.read?
          ((s.given? vars.items).or ((s.given? named).or (s.given? own))) =
            some (s.of settings)) ∧
    (Missing fs fileName → ownSource fs = .ok []) ∧
    (isFile fs fileName = false → isFile fs "akq.toml" = true →
      ownSource fs = readFile fs ("akq.toml", .toml)) ∧
    (∀ name, vars.get? name = (env.get? name).or ((fileEntries fs env).get? name)) ∧
    (∀ s : Setting, (env.map (·.1)).Nodup →
      (∀ v ∈ vars, s.names v.1 → v.1 = s.variableName) →
      s.given? vars.items = ((env.get? s.variableName).or
        ((fileEntries fs env).get? s.variableName)).map Variable.item) ∧
    ∀ name, vars.get? fileVariable = some name → Missing fs name →
      ∃ e, load fs env = .error e := by
  intro vars
  refine ⟨fun own named => exists_load_of_fits, ownSource_of_missing, ownSource_of_toml,
    get?_withEnvironmentFile fs env, fun s hnodup hunique => ?_, fun name hname hmissing => ?_⟩
  · have hvariables : (vars.map (·.1)).Nodup := by
      simp only [vars, withEnvironmentFile_eq]
      exact Environment.nodup_setAllNew hnodup _
    rw [s.given?_items_of_unique hvariables hunique, get?_withEnvironmentFile]
  · rw [load_of_missing hname hmissing]
    cases ownSource fs with
    | error e => exact ⟨e, rfl⟩
    | ok own => exact ⟨_, rfl⟩

/-! ## All sources at once -/

/-- A working directory with all three files. -/
def layered : FileSystem where
  nodes := [
    (["work"], .directory),
    (["akq.toml", "work"], .file "[provider]\ntimeout_secs = 10\n"),
    (["more.ini", "work"], .file "[provider]\nuser_agent=agent\n[display]\nmax_colwidth=9\n"),
    ([".env", "work"], .file "AKQ__DISPLAY__MAX_COLWIDTH=5\nAKQ__PROVIDER__PUSH2_URL=url\n")]
  workingDirectory := ["work"]

def layeredEnvironment : Environment :=
  [("AKQ_CONFIG", "more.ini"), ("AKQ__DISPLAY__MAX_COLWIDTH", "7")]

/-- What the files and the variables there make of the settings. -/
def layeredSettings : Settings where
  provider := { liveUrl := "url", timeoutSeconds := 10, userAgent := "agent" }
  display := { maxColumnWidth := 7 }

theorem load_by_priority_layered :
    (∃ settings, load layered layeredEnvironment = .ok settings ∧
      ∀ s : Setting, s.of settings = s.of layeredSettings) ∧
    Setting.columnWidth.given? (withEnvironmentFile layered layeredEnvironment).items =
      some (Variable.item "7") ∧
    ∃ e, load layered [("AKQ_CONFIG", "missing")] = .error e := by
  have hok {α : Type} (x : Except ConfigError (List α)) (h : x.isOk) :
      x = .ok (x.toOption.getD []) := by
    cases x with
    | error e => cases h
    | ok l => rfl
  have hown := hok (ownSource layered) (by decide +kernel)
  have hnamed := hok (namedSource layered (withEnvironmentFile layered layeredEnvironment))
    (by decide +kernel)
  obtain ⟨hlayers, -, -, -, hvariable, -⟩ := load_by_priority layered layeredEnvironment
  refine ⟨?_, ?_, ?_⟩
  · obtain ⟨settings, hload, hvalues⟩ := hlayers _ _ hown hnamed (by decide +kernel)
    refine ⟨settings, hload, fun s => Option.some.inj ((hvalues s).symm.trans ?_)⟩
    revert s
    decide +kernel
  · exact hvariable .columnWidth (by decide) (by decide +kernel)
  · obtain ⟨-, -, -, -, -, hmissing⟩ := load_by_priority layered [("AKQ_CONFIG", "missing")]
    exact hmissing "missing" (by decide +kernel) ⟨by decide +kernel, by decide +kernel⟩

end MarketQuery.Config
