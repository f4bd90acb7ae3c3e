import Mathlib.Data.List.Induction
import MarketQuery.Config
import MarketQuery.Proofs.Config.Items

/-!
# Settings from layers

Entries, each with its path, are put over one another. Every setting is then what the last entry
that gives it says, whatever the entries say of the other settings.

* `Setting`: the settings one by one, with the keys that they stand under;
* `Setting.given?`: what entries give a setting;
* `Fits`: an entry that can be put somewhere and that gives no setting what cannot be read;
* `Holds`, `exists_addSetting`, `exists_layers`: in the layers, settings stand in tables and each is
  what it is given;
* `ofItem?_eq_gather`, `exists_settings`: all settings are read from such layers.
-/

namespace MarketQuery

open Config

/-! ## Settings one by one -/

/-- A setting. -/
inductive Setting
  | liveUrl
  | historyUrl
  | reportUrl
  | timeout
  | agent
  | columnWidth
  deriving DecidableEq

namespace Setting

/-- All of them, once each. -/
def all : List Setting := [liveUrl, historyUrl, reportUrl, timeout, agent, columnWidth]

theorem mem_all (s : Setting) : s ∈ all := by cases s <;> decide

instance {p : Setting → Prop} [DecidablePred p] : Decidable (∀ s, p s) :=
  decidable_of_iff (∀ s ∈ all, p s) ⟨fun h s => h s s.mem_all, fun h s _ => h s⟩

/-- What a setting is. -/
def Content : Setting → Type
  | timeout | columnWidth => Nat
  | liveUrl | historyUrl | reportUrl | agent => String

instance : (s : Setting) → DecidableEq s.Content
  | timeout | columnWidth => inferInstanceAs (DecidableEq Nat)
  | liveUrl | historyUrl | reportUrl | agent => inferInstanceAs (DecidableEq String)

/-- The key that a setting stands under together with others. -/
def group : Setting → String
  | liveUrl | historyUrl | reportUrl | timeout | agent => "provider"
  | columnWidth => "display"

/-- The key of a setting inside its group. -/
def key : Setting → String
  | liveUrl => "push2_url"
  | historyUrl => "push2his_url"
  | reportUrl => "datacenter_url"
  | timeout => "timeout_secs"
  | agent => "user_agent"
  | columnWidth => "max_colwidth"

/-- One of all settings. -/
def of (settings : Settings) : (s : Setting) → s.Content
  | liveUrl => settings.provider.liveUrl
  | historyUrl => settings.provider.historyUrl
  | reportUrl => settings.provider.reportUrl
  | timeout => settings.provider.timeoutSeconds
  | agent => settings.provider.userAgent
  | columnWidth => settings.display.maxColumnWidth

/-- All settings, from what each of them is. -/
def gather (contents : (s : Setting) → s.Content) : Settings where
  provider := {
    liveUrl := contents .liveUrl
    historyUrl := contents .historyUrl
    reportUrl := contents .reportUrl
    timeoutSeconds := contents .timeout
    userAgent := contents .agent }
  display := { maxColumnWidth := contents .columnWidth }

theorem of_gather (contents : (s : Setting) → s.Content) (s : Setting) :
    s.of (gather contents) = contents s := by cases s <;> rfl

/-- An item as a setting. -/
def read? : (s : Setting) → Item → Option s.Content
  | liveUrl | historyUrl | reportUrl | agent => Item.toText?
  | timeout | columnWidth => Item.toCount?

theorem not_isTable {s : Setting} {item : Item} (h : (s.read? item).isSome) : ¬item.IsTable := by
  rintro ⟨m, rfl⟩
  cases s <;> exact Bool.false_ne_true h

/-! ## What entries give a setting -/

/-- What an entry gives a setting, behind the name of the group. -/
def inside? (s : Setting) : KeyPath → Item → Option Item
  | [], item => Item.lastUnder? s.key item.members
  | [.name k], item => if Text.lower k = s.key then some item else none
  | _, _ => none

/-- What an entry gives a setting. -/
def givenBy? (s : Setting) : KeyPath × Item → Option Item
  | (.name g :: path, item) => if Text.lower g = s.group then s.inside? path item else none
  | _ => none

/-- What entries give a setting: of those that give it the last one counts. -/
def given? (s : Setting) (entries : List (KeyPath × Item)) : Option Item :=
  (entries.filterMap s.givenBy?).getLast?

theorem given?_append (s : Setting) (below above : List (KeyPath × Item)) :
    s.given? (below ++ above) = (s.given? above).or (s.given? below) := by
  rw [given?, List.filterMap_append, List.getLast?_append]
  rfl

theorem given?_concat (s : Setting) (entries : List (KeyPath × Item)) (entry : KeyPath × Item) :
    s.given? (entries ++ [entry]) = (s.givenBy? entry).or (s.given? entries) := by
  rw [given?_append]
  congr 1
  rw [given?, List.filterMap_cons]
  split <;> simp [*]

/-- Behind the name of the group, an entry is a table or leads to a key, and what it gives a setting
can be read. -/
def AcceptsInside (s : Setting) : KeyPath → Item → Prop
  | [], .table m => ∀ e ∈ m, Text.lower e.1 = s.key → (s.read? e.2).isSome
  | .name k :: path, item => Text.lower k = s.key → path = [] ∧ (s.read? item).isSome
  | _, _ => False

/-- What an entry gives a setting, if anything, can be read. -/
def Accepts (s : Setting) : KeyPath × Item → Prop
  | (.name g :: path, item) => Text.lower g = s.group → s.AcceptsInside path item
  | _ => False

instance (s : Setting) : (path : KeyPath) → (item : Item) → Decidable (s.AcceptsInside path item)
  | [], .table m => inferInstanceAs
      (Decidable (∀ e ∈ m, Text.lower e.1 = s.key → (s.read? e.2).isSome))
  | .name k :: path, item => inferInstanceAs
      (Decidable (Text.lower k = s.key → path = [] ∧ (s.read? item).isSome))
  | .place _ :: _, _ | [], .null | [], .bool _ | [], .int _ | [], .float _ | [], .text _
  | [], .array _ => inferInstanceAs (Decidable False)

instance (s : Setting) : (entry : KeyPath × Item) → Decidable (s.Accepts entry)
  | (.name g :: path, item) => inferInstanceAs
      (Decidable (Text.lower g = s.group → s.AcceptsInside path item))
  | (.place _ :: _, _) | ([], _) => inferInstanceAs (Decidable False)

theorem isSome_read?_inside {s : Setting} {path : KeyPath} {item i : Item}
    (h : s.AcceptsInside path item) (hi : s.inside? path item = some i) : (s.read? i).isSome := by
  match path, item with
  | [], .table m =>
    obtain ⟨e, he, hkey, rfl⟩ := Item.exists_of_lastUnder? hi
    exact h e he hkey
  | [.name k], item =>
    obtain ⟨hk, hi⟩ := Option.ite_none_right_eq_some.1 hi
    obtain rfl := Option.some.inj hi
    exact (h hk).2

theorem isSome_read?_givenBy {s : Setting} {entry : KeyPath × Item} {i : Item}
    (h : s.Accepts entry) (hi : s.givenBy? entry = some i) : (s.read? i).isSome := by
  match entry with
  | (.name g :: path, item) =>
    obtain ⟨hg, hi⟩ := Option.ite_none_right_eq_some.1 hi
    exact isSome_read?_inside (h hg) hi

theorem isSome_read?_given {s : Setting} {entries : List (KeyPath × Item)} {i : Item}
    (h : ∀ entry ∈ entries, s.Accepts entry) (hi : s.given? entries = some i) :
    (s.read? i).isSome := by
  obtain ⟨entry, hentry, hi⟩ := List.mem_filterMap.1 (List.mem_of_getLast? hi)
  exact isSome_read?_givenBy (h entry hentry) hi

end Setting

namespace Config

/-- An entry can be put somewhere, and what it gives a setting can be read. -/
structure Fits (entry : KeyPath × Item) : Prop where
  hasPlace : ∀ step ∈ entry.1, step.HasPlace
  accepted : ∀ s : Setting, s.Accepts entry

instance (entry : KeyPath × Item) : Decidable (Fits entry) :=
  decidable_of_iff ((∀ step ∈ entry.1, step.HasPlace) ∧ ∀ s : Setting, s.Accepts entry)
    ⟨fun h => ⟨h.1, h.2⟩, fun h => ⟨h.hasPlace, h.accepted⟩⟩

end Config

/-! ## One entry over others -/

namespace Setting

/-- What all layers together have for a setting. -/
def inItem? (s : Setting) (item : Item) : Option Item :=
  Item.under? s.key (Item.under? s.group (some item))

theorem under?_key_assign {s : Setting} {path : KeyPath} {item result : Item}
    {earlier : Option Item} (haccepts : s.AcceptsInside path item)
    (htable : ∀ e ∈ earlier, e.IsTable) (h : item.assign? path earlier = some result) :
    result.IsTable ∧
    Item.under? s.key (some result) = (s.inside? path item).or (Item.under? s.key earlier) := by
  match path, item with
  | [], .table m =>
    rw [Item.assign?, Item.overlay_table m earlier htable] at h
    obtain rfl := Option.some.inj h
    exact ⟨⟨_, rfl⟩, Item.lookup_overlayAll (fun e he hkey => not_isTable (haccepts e he hkey)) _⟩
  | .name k :: path, item =>
    obtain ⟨hresult, inner, hinner, hunder⟩ := Item.under?_assign? h
    refine ⟨hresult, ?_⟩
    rw [hunder]
    by_cases hk : Text.lower k = s.key
    · obtain ⟨rfl, hread⟩ := haccepts hk
      rw [Item.assign?, Item.overlay_eq_self (not_isTable hread)] at hinner
      obtain rfl := Option.some.inj hinner
      rw [if_pos hk.symm, inside?, if_pos hk]
      rfl
    · rw [if_neg (Ne.symm hk)]
      cases path <;> simp [inside?, hk]

theorem inItem?_assign {s : Setting} {path : KeyPath} {item below result : Item}
    (haccepts : s.Accepts (path, item))
    (htable : ∀ g ∈ Item.under? s.group (some below), g.IsTable)
    (h : item.assign? path (some below) = some result) :
    (∀ g ∈ Item.under? s.group (some result), g.IsTable) ∧
    s.inItem? result = (s.givenBy? (path, item)).or (s.inItem? below) := by
  match path with
  | .name g :: path =>
    obtain ⟨-, inner, hinner, hunder⟩ := Item.under?_assign? h
    rw [inItem?, hunder, givenBy?]
    by_cases hg : Text.lower g = s.group
    · rw [hg] at hinner
      obtain ⟨hinnerTable, hvalue⟩ := under?_key_assign (haccepts hg) htable hinner
      rw [if_pos hg.symm, if_pos hg]
      exact ⟨fun _ hm => Option.some.inj hm ▸ hinnerTable, hvalue⟩
    · rw [if_neg (Ne.symm hg), if_neg hg]
      exact ⟨htable, rfl⟩

end Setting

namespace Config

/-! ## All entries over one another -/

/-- In an item the settings stand in tables, and each of them is what entries give it. -/
structure Holds (entries : List (KeyPath × Item)) (item : Item) : Prop where
  isTable : ∀ s : Setting, ∀ g ∈ Item.under? s.group (some item), g.IsTable
  inItem : ∀ s : Setting, s.inItem? item = s.given? entries

theorem exists_addSetting {entries : List (KeyPath × Item)} {entry : KeyPath × Item} {below : Item}
    (hbelow : Holds entries below) (hentry : Fits entry) :
    ∃ item, addSetting below entry = .ok item ∧ Holds (entries ++ [entry]) item := by
  obtain ⟨item, hitem⟩ := entry.2.exists_assign? hentry.hasPlace (some below)
  have hstep (s : Setting) := Setting.inItem?_assign (hentry.accepted s) (hbelow.isTable s) hitem
  refine ⟨item, by rw [addSetting, hitem], fun s => (hstep s).1, fun s => ?_⟩
  rw [(hstep s).2, hbelow.inItem, Setting.given?_concat]

theorem exists_layers {entries : List (KeyPath × Item)} (h : ∀ entry ∈ entries, Fits entry) :
    ∃ item, layers entries = .ok item ∧ Holds entries item := by
  induction entries using List.reverseRecOn with
  | nil =>
    refine ⟨.table [], rfl, fun s g hg => ?_, fun s => rfl⟩
    cases s <;> cases hg
  | append_singleton entries entry ih =>
    obtain ⟨below, hlayers, hbelow⟩ := ih fun e he => h e (List.mem_append_left _ he)
    obtain ⟨item, hitem, hholds⟩ := exists_addSetting hbelow (h entry (by simp))
    refine ⟨item, ?_, hholds⟩
    rw [layers, List.foldlM_append, ← layers, hlayers]
    exact (List.foldlM_cons (m := Except ConfigError)).trans (by rw [hitem]; rfl)

/-! ## The settings in all layers -/

/-- The settings under a key are read from a table as they are from no item at all. -/
theorem settingOr?_eq {α : Type} (read : Item → Option α) {item : Option Item} {default : α}
    (htable : ∀ g ∈ item, g.IsTable) (hread : read (.table []) = some default) :
    settingOr? default read item = read (.table (item.elim [] Item.members)) := by
  cases item with
  | none => exact hread.symm
  | some g =>
    obtain ⟨m, rfl⟩ := htable g rfl
    rfl

theorem exists_content {entries : List (KeyPath × Item)}
    (h : ∀ entry ∈ entries, Fits entry) (s : Setting) :
    ∃ content, settingOr? (s.of {}) s.read? (s.given? entries) = some content := by
  cases hgiven : s.given? entries with
  | none => exact ⟨_, rfl⟩
  | some i =>
    exact Option.isSome_iff_exists.1
      (Setting.isSome_read?_given (fun entry he => (h entry he).accepted s) hgiven)

theorem providerOfItem?_table {m : Item.Members} {contents : (s : Setting) → s.Content}
    (h : ∀ s : Setting, s.group = "provider" →
      settingOr? (s.of {}) s.read? (m.lookup s.key) = some (contents s)) :
    ProviderSettings.ofItem? (.table m) = some (Setting.gather contents).provider :=
  Option.bind_eq_some_iff.2 ⟨_, h .liveUrl rfl, Option.bind_eq_some_iff.2 ⟨_, h .historyUrl rfl,
    Option.bind_eq_some_iff.2 ⟨_, h .reportUrl rfl, Option.bind_eq_some_iff.2 ⟨_, h .timeout rfl,
      Option.bind_eq_some_iff.2 ⟨_, h .agent rfl, rfl⟩⟩⟩⟩⟩

theorem displayOfItem?_table {m : Item.Members} {contents : (s : Setting) → s.Content}
    (h : ∀ s : Setting, s.group = "display" →
      settingOr? (s.of {}) s.read? (m.lookup s.key) = some (contents s)) :
    DisplaySettings.ofItem? (.table m) = some (Setting.gather contents).display :=
  Option.bind_eq_some_iff.2 ⟨_, h .columnWidth rfl, rfl⟩

theorem ofItem?_eq_gather {item : Item} {contents : (s : Setting) → s.Content}
    (htable : ∀ s : Setting, ∀ g ∈ Item.under? s.group (some item), g.IsTable)
    (h : ∀ s : Setting, settingOr? (s.of {}) s.read? (s.inItem? item) = some (contents s)) :
    Settings.ofItem? item = .ok (Setting.gather contents) := by
  have hprovider : settingOr? {} ProviderSettings.ofItem? (item.members.lookup "provider") =
      some (Setting.gather contents).provider := by
    refine (settingOr?_eq ProviderSettings.ofItem? (htable .liveUrl) rfl).trans ?_
    exact providerOfItem?_table fun s hs => by rw [← h s, Setting.inItem?, hs]; rfl
  have hdisplay : settingOr? {} DisplaySettings.ofItem? (item.members.lookup "display") =
      some (Setting.gather contents).display := by
    refine (settingOr?_eq DisplaySettings.ofItem? (htable .columnWidth) rfl).trans ?_
    exact displayOfItem?_table fun s hs => by rw [← h s, Setting.inItem?, hs]; rfl
  simp only [Settings.ofItem?, hprovider, hdisplay]
  rfl

/-- All layers together are settings, each of them what the entries give it. -/
theorem exists_settings {entries : List (KeyPath × Item)} (h : ∀ entry ∈ entries, Fits entry) :
    ∃ settings, (layers entries >>= Settings.ofItem?) = .ok settings ∧
      ∀ s : Setting, settingOr? (s.of {}) s.read? (s.given? entries) = some (s.of settings) := by
  obtain ⟨item, hlayers, hholds⟩ := exists_layers h
  choose contents hcontents using exists_content h
  refine ⟨Setting.gather contents, ?_, fun s => by rw [hcontents, Setting.of_gather]⟩
  rw [hlayers]
  exact ofItem?_eq_gather hholds.isTable fun s => by rw [hholds.inItem, hcontents]

end Config

end MarketQuery
