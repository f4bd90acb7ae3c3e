import Mathlib.Data.List.Nodup
import MarketQuery.Proofs.Config.Layers

/-!
# Settings from variables

The variables of the file for them are set where they are not set yet. A setting is what the last
variable for it says.

* `EnvironmentFile.entries`, `fileEntries`: the entries of a file;
* `EnvironmentFile.load_eq`, `withEnvironmentFile_eq`: they are set one by one;
* `get?_withEnvironmentFile`: a variable of the environment counts before one of the file;
* `Setting.variableName`, `Setting.names`: the variables for a setting;
* `Setting.given?_items`, `Setting.given?_items_of_unique`: what variables give a setting.
-/

namespace MarketQuery.Config

/-! ## The file of variables -/

namespace Environment

variable (env : Environment)

/-- Variables set that are not set yet, one after another. -/
def setAllNew (entries : Environment) : Environment :=
  entries.foldl (fun env e => env.setNew e.1 e.2) env

theorem get?_setNew (name text key : String) :
    (env.setNew name text).get? key =
      (env.get? key).or (if key = name then some text else none) := by
  unfold setNew
  split
  case isTrue h =>
    split
    case isTrue hkey =>
      obtain ⟨t, ht⟩ := Option.isSome_iff_exists.1 h
      rw [hkey, ht, Option.some_or]
    case isFalse => rw [Option.or_none]
  case isFalse h =>
    rw [get?, get?, List.lookup_append]
    congr 1
    by_cases hkey : key = name <;> simp [hkey]

theorem get?_setAllNew (entries : Environment) (key : String) :
    (env.setAllNew entries).get? key = (env.get? key).or (entries.get? key) := by
  unfold setAllNew
  induction entries generalizing env with
  | nil => simp [get?]
  | cons e rest ih =>
    rw [List.foldl_cons, ih, get?_setNew, Option.or_assoc]
    congr 1
    rw [get?, get?, List.lookup_cons]
    by_cases hkey : key = e.1
    · simp [hkey]
    · simp [hkey, beq_false_of_ne hkey]

theorem nodup_setNew {env : Environment} (h : (env.map (·.1)).Nodup) (name text : String) :
    ((env.setNew name text).map (·.1)).Nodup := by
  unfold setNew
  split
  case isTrue => exact h
  case isFalse hnew =>
    have hname : name ∉ env.map (·.1) := by
      rw [get?, List.lookup_isSome_iff] at hnew
      simpa [List.mem_map] using hnew
    rw [List.map_append, List.map_singleton, List.nodup_append_comm]
    exact List.nodup_cons.2 ⟨hname, h⟩

theorem nodup_setAllNew {env : Environment} (h : (env.map (·.1)).Nodup) (entries : Environment) :
    ((env.setAllNew entries).map (·.1)).Nodup := by
  unfold setAllNew
  induction entries generalizing env with
  | nil => exact h
  | cons e rest ih => exact ih (nodup_setNew h e.1 e.2)

end Environment

namespace EnvironmentFile

open Text

/-- The entries of a text, up to one that is none. They are read as `load` reads them, a reference
naming a variable of the environment or an entry before. -/
def entries : Nat → (env before : Environment) → List Char → Environment
  | 0, _, _, _ => []
  | fuel + 1, env, before, cs =>
    match readEntry? (cs.length + 1) [] .plain cs with
    | none => []
    | some (entry, rest) =>
      match (trimEnd entry).dropWhile isBlank with
      | [] | '#' :: _ => entries fuel env before rest
      | entry =>
        let read := do
          let (name, text) ← readAssigned? entry
          return (name, ← readText? (valueOf env before) text)
        match read with
        | none => []
        | some (name, text) =>
          (name, text) :: entries fuel (env.setNew name text) ((name, text) :: before) rest

theorem load_eq (fuel : Nat) (env before : Environment) (cs : List Char) :
    load fuel env before cs = env.setAllNew (entries fuel env before cs) := by
  fun_induction load fuel env before cs
  case case1 => rfl
  case case2 h => rw [entries, h]; rfl
  case case3 h hentry ih => rw [entries, h, ih]; simp only [hentry]
  case case4 h tail hentry ih => rw [entries, h, ih]; simp only [hentry]
  case case5 h _ _ read hread =>
    simp only [entries, h]
    split
    case h_1 => rfl
    case h_2 hread' => cases hread.symm.trans hread'
  case case6 h name text _ _ read hread ih =>
    simp only [entries, h]
    split
    case h_1 hread' => cases hread.symm.trans hread'
    case h_2 hread' =>
      cases hread.symm.trans hread'
      exact ih

end EnvironmentFile

/-- The entries of the file of variables, if there is one. -/
def fileEntries (fs : FileSystem) (env : Environment) : Environment :=
  match findAbove? fs environmentFileName fs.workingDirectory with
  | some content =>
    let cs := EnvironmentFile.dropMark content.toList
    EnvironmentFile.entries (cs.length + 1) env [] cs
  | none => []

theorem withEnvironmentFile_eq (fs : FileSystem) (env : Environment) :
    withEnvironmentFile fs env = env.setAllNew (fileEntries fs env) := by
  unfold withEnvironmentFile fileEntries
  cases findAbove? fs environmentFileName fs.workingDirectory with
  | none => rfl
  | some content => exact EnvironmentFile.load_eq ..

/-- A variable of the environment counts before an entry of the file. -/
theorem get?_withEnvironmentFile (fs : FileSystem) (env : Environment) (name : String) :
    (withEnvironmentFile fs env).get? name =
      (env.get? name).or ((fileEntries fs env).get? name) := by
  rw [withEnvironmentFile_eq, Environment.get?_setAllNew]

end MarketQuery.Config

/-! ## The variables for a setting -/

namespace MarketQuery

open Config

namespace Setting

/-- The name of the variable for a setting, as it is commonly written. -/
def variableName : Setting → String
  | liveUrl => "AKQ__PROVIDER__PUSH2_URL"
  | historyUrl => "AKQ__PROVIDER__PUSH2HIS_URL"
  | reportUrl => "AKQ__PROVIDER__DATACENTER_URL"
  | timeout => "AKQ__PROVIDER__TIMEOUT_SECS"
  | agent => "AKQ__PROVIDER__USER_AGENT"
  | columnWidth => "AKQ__DISPLAY__MAX_COLWIDTH"

/-- A path leads to a setting. -/
def isAt (s : Setting) : KeyPath → Bool
  | [.name g, .name k] => Text.lower g = s.group && Text.lower k = s.key
  | _ => false

/-- A name is that of a variable for a setting. -/
def names (s : Setting) (name : String) : Bool := (Variable.path? name).any s.isAt

theorem names_variableName (s : Setting) : s.names s.variableName = true := by
  cases s <;> decide +kernel

/-- A variable gives a setting something only if it leads there, as it is no table. -/
theorem givenBy?_item (s : Setting) (path : KeyPath) (text : String) :
    s.givenBy? (path, Variable.item text) =
      if s.isAt path then some (Variable.item text) else none := by
  have hmembers : (Variable.item text).members = [] := by
    unfold Variable.item
    split
    · rfl
    · split
      · rfl
      · split
        · rfl
        · split <;> rfl
  cases path with
  | nil => rfl
  | cons first path =>
    cases first with
    | place n => rfl
    | name g =>
      rcases path with _ | ⟨k | n, _ | ⟨third, path⟩⟩
      · simp [givenBy?, inside?, isAt, hmembers]
      · by_cases hg : Text.lower g = s.group <;> simp [givenBy?, inside?, isAt, hg]
      all_goals simp [givenBy?, inside?, isAt]

theorem given?_items (s : Setting) (env : Environment) :
    s.given? env.items =
      (env.filter fun v => s.names v.1).getLast?.map fun v => Variable.item v.2 := by
  have hstep (v : String × String) :
      ((Variable.path? v.1).map (·, Variable.item v.2)).bind s.givenBy? =
        if s.names v.1 then some (Variable.item v.2) else none := by
    unfold names
    cases Variable.path? v.1 with
    | none => rfl
    | some path => exact s.givenBy?_item path v.2
  rw [given?, Environment.items, List.filterMap_filterMap, ← List.getLast?_map,
    ← List.filterMap_eq_map, List.filterMap_filter]
  exact congrArg List.getLast? (List.filterMap_congr fun v _ => hstep v)

theorem lookup_eq_getLast? {env : Environment} (h : (env.map (·.1)).Nodup) (name : String) :
    env.lookup name = (env.filter fun v => v.1 = name).getLast?.map (·.2) := by
  induction env with
  | nil => rfl
  | cons v rest ih =>
    obtain ⟨hv, hrest⟩ := List.nodup_cons.1 h
    rw [List.lookup_cons, List.filter_cons]
    by_cases hname : v.1 = name
    · have hnone : rest.filter (fun w => w.1 = name) = [] := by
        refine List.filter_eq_nil_iff.2 fun w hw hwname => hv ?_
        exact List.mem_map.2 ⟨w, hw, (of_decide_eq_true hwname).trans hname.symm⟩
      simp [hname, hnone]
    · simp [hname, beq_false_of_ne (Ne.symm hname), ih hrest]

/-- Where a setting has only one variable, its text is what the variables give the setting. -/
theorem given?_items_of_unique (s : Setting) {env : Environment} (h : (env.map (·.1)).Nodup)
    (hunique : ∀ v ∈ env, s.names v.1 → v.1 = s.variableName) :
    s.given? env.items = (env.get? s.variableName).map Variable.item := by
  have hfilter : (env.filter fun v => s.names v.1) = env.filter fun v => v.1 = s.variableName :=
    List.filter_congr fun v hv => by
      by_cases hname : v.1 = s.variableName
      · simp [hname, names_variableName]
      · simp [hname, mt (hunique v hv) hname]
  rw [given?_items, hfilter, Environment.get?, lookup_eq_getLast? h, Option.map_map]
  rfl

end Setting

end MarketQuery
