import MarketQuery.Config.EnvironmentFile
import MarketQuery.Config.Source
import MarketQuery.Settings

/-!
# Configuration

Settings come from several sources. Of two that set the same key the later one counts: the defaults,
the file in the working directory, the file that a variable names, and the variables themselves.

* `Config.sources`: the settings of all sources in their order;
* `Config.layers`: all of them over one another;
* `Settings.ofItem?`: the settings in an item;
* `Config.load`: all settings.
-/

namespace MarketQuery

open Config

/-- An item as a setting, or the default where there is none. -/
def settingOr? {α : Type} (default : α) (read : Item → Option α) : Option Item → Option α
  | none => some default
  | some item => read item

/-- The settings of the provider in an item. -/
def ProviderSettings.ofItem? (item : Item) : Option ProviderSettings := do
  let keys := ["push2_url", "push2his_url", "datacenter_url", "timeout_secs", "user_agent"]
  let [live, history, report, timeout, agent] ← item.fields? keys | none
  let defaults : ProviderSettings := {}
  return {
    liveUrl := ← settingOr? defaults.liveUrl Item.toText? live
    historyUrl := ← settingOr? defaults.historyUrl Item.toText? history
    reportUrl := ← settingOr? defaults.reportUrl Item.toText? report
    timeoutSeconds := ← settingOr? defaults.timeoutSeconds Item.toCount? timeout
    userAgent := ← settingOr? defaults.userAgent Item.toText? agent }

/-- The settings of the display in an item. -/
def DisplaySettings.ofItem? (item : Item) : Option DisplaySettings := do
  let [width] ← item.fields? ["max_colwidth"] | none
  let defaults : DisplaySettings := {}
  return { maxColumnWidth := ← settingOr? defaults.maxColumnWidth Item.toCount? width }

/-- All settings in an item. -/
def Settings.ofItem? (item : Item) : Except ConfigError Settings := do
  let settings (key : String) {α : Type} (default : α) (read : Item → Option α) :
      Except ConfigError α :=
    match settingOr? default read (item.members.lookup key) with
    | some value => .ok value
    | none => .error (.wrongType key)
  return {
    provider := ← settings "provider" {} ProviderSettings.ofItem?
    display := ← settings "display" {} DisplaySettings.ofItem? }

namespace Config

/-- The name of the file in the working directory, without its extension. -/
def fileName : String := "akq"

/-- The variable that names another file. -/
def fileVariable : String := "AKQ_CONFIG"

/-- The name of the file with more variables. -/
def environmentFileName : String := ".env"

/-- An environment with the variables of the file for them. -/
def withEnvironmentFile (fs : FileSystem) (env : Environment) : Environment :=
  match findAbove? fs environmentFileName fs.workingDirectory with
  | some content => EnvironmentFile.addTo env content
  | none => env

/-- The settings in the file in the working directory, which need not be there. -/
def ownSource (fs : FileSystem) : Except ConfigError (List (KeyPath × Item)) :=
  match findFile fs fileName with
  | .ok file => readFile fs file
  | .error _ => .ok []

/-- The settings in the file that a variable names, if one does. -/
def namedSource (fs : FileSystem) (env : Environment) :
    Except ConfigError (List (KeyPath × Item)) :=
  match env.get? fileVariable with
  | some name => loadFile fs name
  | none => .ok []

/-- The settings of all sources, the later ones behind. -/
def sources (fs : FileSystem) (env : Environment) :
    Except ConfigError (List (KeyPath × Item)) := do
  return (← ownSource fs) ++ (← namedSource fs env) ++ env.items

/-- A setting put over the ones before it. -/
def addSetting (below : Item) (setting : KeyPath × Item) : Except ConfigError Item :=
  match setting.2.assign? setting.1 (some below) with
  | some item => .ok item
  | none => .error .noPlace

/-- Settings over one another, the later ones on top. -/
def layers (settings : List (KeyPath × Item)) : Except ConfigError Item :=
  settings.foldlM addSetting (.table [])

/-- All settings, from the files and the environment. -/
def load (fs : FileSystem) (env : Environment) : Except ConfigError Settings := do
  Settings.ofItem? (← layers (← sources fs (withEnvironmentFile fs env)))

end Config

end MarketQuery
