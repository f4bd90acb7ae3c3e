import MarketQuery.Proofs.Config.Variables
import MarketQuery.Proofs.Traversal
import MarketQuery.Proofs.Value.Coercion

/-!
# Texts from variables

The text of a variable is taken for a truth value, an integer or a number where it reads as one, and
a setting that is a text gets what that value is written as.

* `ArrivesAs`, `arrivesAs_iff`: what a text is written as after it was read;
* `Setting.isAtOrAbove`, `Setting.inItem?_assign_of_not`: an entry that leads neither to a setting
  nor to what holds it leaves the setting alone, or makes it something that is no text;
* `Setting.HasText`, `Setting.hasText_addSetting`, `Setting.hasText_layers`: so what a variable
  gives a setting stays, as long as it is a text;
* `read?_of_ofItem?`: loaded settings are what the layers have for them;
* **`text_of_variable`**: a text from a variable arrives as the value that it reads as is written.
-/

namespace MarketQuery

open Config Number

/-! ## What a text stands for -/

/-- What a text arrives as where a text is asked for: the text of the value that it reads as, or
itself. Truth values come first, then integers of 64 bits, then numbers. -/
inductive ArrivesAs (t : String) : String → Prop
  | truth {b : Bool} (hb : IsWord (boolText b) t.toList) : ArrivesAs t (boolText b)
  | integer {n : Int64} (htruth : ∀ b, ¬ IsWord (boolText b) t.toList)
      (hn : IsDecimal t.toList n.toInt) : ArrivesAs t (intText n)
  | real {x : Binary64} (htruth : ∀ b, ¬ IsWord (boolText b) t.toList)
      (hint : ∀ n : Int64, ¬ IsDecimal t.toList n.toInt) (hx : IsReal t.toList x) :
      ArrivesAs t (write .plain x)
  | itself (htruth : ∀ b, ¬ IsWord (boolText b) t.toList)
      (hint : ∀ n : Int64, ¬ IsDecimal t.toList n.toInt) (hreal : ∀ x, ¬ IsReal t.toList x) :
      ArrivesAs t t

variable {t t' : String}

theorem item_truth {b : Bool} (hb : IsWord (boolText b) t.toList) : Variable.item t = .bool b := by
  unfold Variable.item
  cases b with
  | true => exact if_pos (sameWord_boolText_iff.2 hb)
  | false =>
    have htrue : ¬ Text.sameWord t "true" = true := fun h =>
      absurd (hb.symm.trans (sameWord_boolText_iff.1 h : IsWord (boolText true) _)) (by decide)
    exact (if_neg htrue).trans (if_pos (sameWord_boolText_iff.2 hb))

theorem item_of_not_truth (htruth : ∀ b, ¬ IsWord (boolText b) t.toList) :
    Variable.item t = match readInt64? t.toList with
      | some n => .int n
      | none =>
        match readBinary64? t.toList with
        | some x => .float x
        | none => .text t :=
  (if_neg fun h => htruth true (sameWord_boolText_iff.1 h)).trans
    (if_neg fun h => htruth false (sameWord_boolText_iff.1 h))

theorem arrivesAs_iff : ArrivesAs t t' ↔ (Variable.item t).toText? = some t' := by
  constructor
  · intro h
    cases h with
    | truth hb => rw [item_truth hb]; rfl
    | integer htruth hn => rw [item_of_not_truth htruth, readInt64?_eq_some_iff.2 hn]; rfl
    | real htruth hint hx =>
      rw [item_of_not_truth htruth, readInt64?_eq_none_iff.2 hint, readBinary64?_eq_some_iff.2 hx]
      rfl
    | itself htruth hint hreal =>
      rw [item_of_not_truth htruth, readInt64?_eq_none_iff.2 hint,
        readBinary64?_eq_none_iff.2 hreal]
      rfl
  · intro h
    by_cases htruth : ∃ b, IsWord (boolText b) t.toList
    · obtain ⟨b, hb⟩ := htruth
      rw [item_truth hb] at h
      obtain rfl := Option.some.inj h
      exact .truth hb
    rw [not_exists] at htruth
    rw [item_of_not_truth htruth] at h
    cases hint : readInt64? t.toList with
    | some n =>
      rw [hint] at h
      obtain rfl := Option.some.inj h
      exact .integer htruth (readInt64?_eq_some_iff.1 hint)
    | none =>
      rw [hint] at h
      have hnone := readInt64?_eq_none_iff.1 hint
      cases hreal : readBinary64? t.toList with
      | some x =>
        rw [hreal] at h
        obtain rfl := Option.some.inj h
        exact .real htruth hnone (readBinary64?_eq_some_iff.1 hreal)
      | none =>
        rw [hreal] at h
        obtain rfl := Option.some.inj h
        exact .itself htruth hnone (readBinary64?_eq_none_iff.1 hreal)

theorem exists_toText?_item (t : String) : ∃ t', (Variable.item t).toText? = some t' := by
  unfold Variable.item
  split
  · exact ⟨_, rfl⟩
  split
  · exact ⟨_, rfl⟩
  split
  · exact ⟨_, rfl⟩
  split <;> exact ⟨_, rfl⟩

theorem not_isTable_item (t : String) : ¬ (Variable.item t).IsTable := by
  rintro ⟨m, hm⟩
  obtain ⟨t', ht'⟩ := exists_toText?_item t
  rw [hm] at ht'
  cases ht'

/-- A text with a character of neither a number nor a word arrives as it is. -/
theorem ArrivesAs.eq_of_mem (h : ArrivesAs t t') {c : Char} (hc : c ∈ t.toList)
    (hnot : ¬ IsNumberChar c) : t' = t := by
  cases h with
  | @truth b hb => exact absurd (hb.isNumberChar (by cases b <;> decide) c hc) hnot
  | integer _ hn => exact absurd (isNumberChar_of_isDecimal hn c hc) hnot
  | real _ _ hx => exact absurd (isNumberChar_of_isReal hx c hc) hnot
  | itself => rfl

namespace Setting

/-- The settings that are texts. -/
def texts : List Setting := [liveUrl, historyUrl, reportUrl, agent]

/-- The text that a setting is. -/
def text? (settings : Settings) : Setting → Option String
  | liveUrl => some settings.provider.liveUrl
  | historyUrl => some settings.provider.historyUrl
  | reportUrl => some settings.provider.reportUrl
  | agent => some settings.provider.userAgent
  | timeout | columnWidth => none

/-! ## Entries that leave a setting alone -/

/-- Behind the name of the group, a path leads to a setting or to what holds it. -/
def isAtOrAboveInside (s : Setting) : KeyPath → Bool
  | [] | .place _ :: _ => true
  | .name k :: path => Text.lower k = s.key && path.isEmpty

/-- A path leads to a setting or to what holds it. -/
def isAtOrAbove (s : Setting) : KeyPath → Bool
  | [] | .place _ :: _ => true
  | .name g :: path => Text.lower g = s.group && s.isAtOrAboveInside path

/-- What becomes of an item with another one put inside it is no text. -/
theorem toText?_assign?_cons {item result : Item} {step : KeyStep} {path : KeyPath}
    {earlier : Option Item} (h : item.assign? (step :: path) earlier = some result) :
    result.toText? = none := by
  cases step with
  | name k =>
    obtain ⟨⟨m, rfl⟩, -⟩ := Item.under?_assign? h
    rfl
  | place n =>
    rw [Item.assign?] at h
    obtain ⟨index, -, h⟩ := Option.bind_eq_some_iff.1 h
    cases path with
    | nil =>
      obtain rfl := Option.some.inj h
      rfl
    | cons step path =>
      obtain ⟨inner, -, h⟩ := Option.bind_eq_some_iff.1 h
      obtain rfl := Option.some.inj h
      rfl

variable {s : Setting} {item below result : Item} {path : KeyPath}

theorem under?_key_assign_of_not {earlier : Option Item} (hpath : s.isAtOrAboveInside path = false)
    (h : item.assign? path earlier = some result) :
    Item.under? s.key (some result) = Item.under? s.key earlier ∨
      ∃ i, Item.under? s.key (some result) = some i ∧ i.toText? = none := by
  cases path with
  | nil => cases hpath
  | cons first path =>
    cases first with
    | place n => cases hpath
    | name k =>
      obtain ⟨-, value, hvalue, hunder⟩ := Item.under?_assign? h
      rw [hunder]
      by_cases hk : Text.lower k = s.key
      · rw [if_pos hk.symm]
        cases path with
        | nil => exact absurd hpath (by simp [isAtOrAboveInside, hk])
        | cons step path => exact .inr ⟨value, rfl, toText?_assign?_cons hvalue⟩
      · rw [if_neg (Ne.symm hk)]
        exact .inl rfl

/-- An entry that leads neither to a setting nor to what holds it leaves it as it is, or makes it
something that is no text. -/
theorem inItem?_assign_of_not (hpath : s.isAtOrAbove path = false)
    (h : item.assign? path (some below) = some result) :
    s.inItem? result = s.inItem? below ∨ ∃ i, s.inItem? result = some i ∧ i.toText? = none := by
  cases path with
  | nil => cases hpath
  | cons first path =>
    cases first with
    | place n => cases hpath
    | name g =>
      obtain ⟨-, inner, hinner, hunder⟩ := Item.under?_assign? h
      rw [inItem?, hunder]
      by_cases hg : Text.lower g = s.group
      · rw [if_pos hg.symm]
        rw [hg] at hinner
        have hinside : s.isAtOrAboveInside path = false := by
          simpa [isAtOrAbove, hg] using hpath
        exact under?_key_assign_of_not hinside hinner
      · rw [if_neg (Ne.symm hg)]
        exact .inl rfl

theorem inItem?_assign_of_isAt (hpath : s.isAt path = true) (hitem : ¬ item.IsTable)
    (h : item.assign? path (some below) = some result) : s.inItem? result = some item := by
  match path with
  | [.name g, .name k] =>
    obtain ⟨hg, hk⟩ := Bool.and_eq_true_iff.1 hpath
    obtain ⟨-, inner, hinner, hgroup⟩ := Item.under?_assign? h
    obtain ⟨-, value, hvalue, hkey⟩ := Item.under?_assign? hinner
    rw [inItem?, hgroup, if_pos (of_decide_eq_true hg).symm, hkey,
      if_pos (of_decide_eq_true hk).symm, ← hvalue]
    exact congrArg some (Item.overlay_eq_self hitem _)

/-! ## What a variable gives a setting -/

/-- What the layers have for a setting is what a text stands for, or is no text. -/
def HasText (s : Setting) (t : String) (item : Item) : Prop :=
  ∃ i, s.inItem? item = some i ∧ (i = Variable.item t ∨ i.toText? = none)

/-- An entry gives a setting what a text stands for, or leads elsewhere. -/
def Leaves (s : Setting) (t : String) (entry : KeyPath × Item) : Prop :=
  (s.isAt entry.1 = true ∧ entry.2 = Variable.item t) ∨ s.isAtOrAbove entry.1 = false

variable {t : String} {entry : KeyPath × Item} {entries : List (KeyPath × Item)}

theorem addSetting_eq_ok_iff :
    addSetting below entry = .ok result ↔ entry.2.assign? entry.1 (some below) = some result := by
  unfold addSetting
  cases entry.2.assign? entry.1 (some below) <;> simp

theorem hasText_of_own (hpath : s.isAt entry.1 = true) (hitem : entry.2 = Variable.item t)
    (h : addSetting below entry = .ok result) : s.HasText t result :=
  ⟨entry.2, inItem?_assign_of_isAt hpath (hitem ▸ not_isTable_item t) (addSetting_eq_ok_iff.1 h),
    .inl hitem⟩

theorem hasText_addSetting (hentry : s.Leaves t entry) (hbelow : s.HasText t below)
    (h : addSetting below entry = .ok result) : s.HasText t result := by
  rcases hentry with ⟨hpath, hitem⟩ | hpath
  · exact hasText_of_own hpath hitem h
  · rcases inItem?_assign_of_not hpath (addSetting_eq_ok_iff.1 h) with hsame | ⟨i, hi, hnone⟩
    · obtain ⟨i, hi, hor⟩ := hbelow
      exact ⟨i, hsame.trans hi, hor⟩
    · exact ⟨i, hi, .inr hnone⟩

theorem hasText_foldlM (hentries : ∀ entry ∈ entries, s.Leaves t entry)
    (hbelow : s.HasText t below) (h : entries.foldlM addSetting below = .ok result) :
    s.HasText t result := by
  induction entries generalizing below with
  | nil =>
    obtain rfl := Except.ok.inj h
    exact hbelow
  | cons entry entries ih =>
    obtain ⟨hentry, hentries⟩ := List.forall_mem_cons.1 hentries
    rw [List.foldlM_cons] at h
    obtain ⟨next, hnext, h⟩ := bind_eq_ok_iff.1 h
    exact ih hentries (hasText_addSetting hentry hbelow hnext) h

/-- An entry that gives a setting a text counts, if the entries above it leave the text alone. -/
theorem hasText_layers {before after : List (KeyPath × Item)} (hpath : s.isAt entry.1 = true)
    (hitem : entry.2 = Variable.item t) (hafter : ∀ entry ∈ after, s.Leaves t entry)
    (h : layers (before ++ entry :: after) = .ok result) : s.HasText t result := by
  rw [layers, List.foldlM_append] at h
  obtain ⟨below, -, h⟩ := bind_eq_ok_iff.1 h
  rw [List.foldlM_cons] at h
  obtain ⟨next, hnext, h⟩ := bind_eq_ok_iff.1 h
  exact hasText_foldlM hafter (hasText_of_own hpath hitem hnext) h

end Setting

namespace Config

/-! ## Loaded settings -/

theorem read?_of_providerOfItem? {m : Item.Members} {provider : ProviderSettings}
    (h : ProviderSettings.ofItem? (.table m) = some provider) (display : DisplaySettings)
    {s : Setting} (hs : s.group = "provider") :
    settingOr? (s.of {}) s.read? (m.lookup s.key) = some (s.of { provider, display }) := by
  obtain ⟨live, hlive, h⟩ := Option.bind_eq_some_iff.1 h
  obtain ⟨history, hhistory, h⟩ := Option.bind_eq_some_iff.1 h
  obtain ⟨report, hreport, h⟩ := Option.bind_eq_some_iff.1 h
  obtain ⟨timeout, htimeout, h⟩ := Option.bind_eq_some_iff.1 h
  obtain ⟨agent, hagent, h⟩ := Option.bind_eq_some_iff.1 h
  obtain rfl := Option.some.inj h
  cases s with
  | liveUrl => exact hlive
  | historyUrl => exact hhistory
  | reportUrl => exact hreport
  | timeout => exact htimeout
  | agent => exact hagent
  | columnWidth => exact absurd hs (by decide)

theorem read?_of_displayOfItem? {m : Item.Members} {display : DisplaySettings}
    (h : DisplaySettings.ofItem? (.table m) = some display) (provider : ProviderSettings)
    {s : Setting} (hs : s.group = "display") :
    settingOr? (s.of {}) s.read? (m.lookup s.key) = some (s.of { provider, display }) := by
  obtain ⟨width, hwidth, h⟩ := Option.bind_eq_some_iff.1 h
  obtain rfl := Option.some.inj h
  cases s with
  | columnWidth => exact hwidth
  | _ => exact absurd hs (by decide)

/-- What stands under a key of a group stands in a table. -/
theorem exists_table_of_inItem? {s : Setting} {item i : Item} (h : s.inItem? item = some i) :
    ∃ m, item.members.lookup s.group = some (.table m) ∧ m.lookup s.key = some i := by
  change ((item.members.lookup s.group).elim [] Item.members).lookup s.key = some i at h
  cases hgroup : item.members.lookup s.group with
  | none =>
    rw [hgroup] at h
    cases h
  | some g =>
    rw [hgroup] at h
    cases g with
    | table m => exact ⟨m, rfl, h⟩
    | _ => cases h

theorem settingOr?_of_ofItem? {item : Item} {settings : Settings}
    (h : Settings.ofItem? item = .ok settings) :
    settingOr? {} ProviderSettings.ofItem? (item.members.lookup "provider") =
        some settings.provider ∧
      settingOr? {} DisplaySettings.ofItem? (item.members.lookup "display") =
        some settings.display := by
  obtain ⟨provider, hprovider, h⟩ := bind_eq_ok_iff.1 h
  obtain ⟨display, hdisplay, h⟩ := bind_eq_ok_iff.1 h
  obtain rfl := Except.ok.inj h
  dsimp only at hprovider hdisplay
  constructor
  · split at hprovider
    next value hvalue => rw [hvalue, Except.ok.inj hprovider]
    next => cases hprovider
  · split at hdisplay
    next value hvalue => rw [hvalue, Except.ok.inj hdisplay]
    next => cases hdisplay

/-- Loaded settings are what the layers have for them. -/
theorem read?_of_ofItem? {item i : Item} {settings : Settings} {s : Setting}
    (h : Settings.ofItem? item = .ok settings) (hi : s.inItem? item = some i) :
    s.read? i = some (s.of settings) := by
  obtain ⟨hprovider, hdisplay⟩ := settingOr?_of_ofItem? h
  obtain ⟨m, hgroup, hkey⟩ := exists_table_of_inItem? hi
  have hread : settingOr? (s.of {}) s.read? (m.lookup s.key) = some (s.of settings) := by
    by_cases hs : s.group = "provider"
    · rw [← hs, hgroup] at hprovider
      exact read?_of_providerOfItem? hprovider settings.display hs
    · have hs : s.group = "display" := by
        revert hs
        cases s <;> decide
      rw [← hs, hgroup] at hdisplay
      exact read?_of_displayOfItem? hdisplay settings.provider hs
  rwa [hkey] at hread

/-! ## Variables -/

variable {fs : FileSystem} {env : Environment} {settings : Settings}

theorem exists_layers_of_load (h : load fs env = .ok settings) : ∃ files item,
    layers (files ++ (withEnvironmentFile fs env).items) = .ok item ∧
      Settings.ofItem? item = .ok settings := by
  rw [load] at h
  obtain ⟨entries, hentries, hrest⟩ := bind_eq_ok_iff.1 h
  obtain ⟨item, hitem, hsettings⟩ := bind_eq_ok_iff.1 hrest
  obtain ⟨own, -, hentries⟩ := bind_eq_ok_iff.1 hentries
  obtain ⟨named, -, hentries⟩ := bind_eq_ok_iff.1 hentries
  rw [← Except.ok.inj hentries] at hitem
  exact ⟨own ++ named, item, hitem, hsettings⟩

/-- A variable leads to a setting or to what holds it. -/
def Reaches (name : String) (s : Setting) : Prop :=
  ∃ path, Variable.path? name = some path ∧ s.isAtOrAbove path = true

instance (name : String) (s : Setting) : Decidable (Reaches name s) :=
  decidable_of_iff ((Variable.path? name).any s.isAtOrAbove) (by simp [Reaches, Option.any_eq_true])

variable {s : Setting} {t : String}

theorem leaves_of_mem_items (h : ∀ v ∈ env, v = (s.variableName, t) ∨ ¬ Reaches v.1 s) :
    ∀ entry ∈ env.items, s.Leaves t entry := by
  intro entry hentry
  obtain ⟨v, hv, hentry⟩ := List.mem_filterMap.1 hentry
  obtain ⟨path, hpath, rfl⟩ := Option.map_eq_some_iff.1 hentry
  rcases h v hv with rfl | hnot
  · have hnames := s.names_variableName
    rw [Setting.names, hpath] at hnames
    exact .inl ⟨hnames, rfl⟩
  · exact .inr (Bool.eq_false_iff.2 fun hreaches => hnot ⟨path, hpath, hreaches⟩)

theorem exists_entry_of_mem (h : (s.variableName, t) ∈ env) :
    ∃ entry ∈ env.items, s.isAt entry.1 = true ∧ entry.2 = Variable.item t := by
  obtain ⟨path, hpath, hat⟩ := (Option.any_eq_true _ _).1 s.names_variableName
  exact ⟨(path, Variable.item t),
    List.mem_filterMap.2 ⟨_, h, Option.map_eq_some_iff.2 ⟨path, hpath, rfl⟩⟩, hat, rfl⟩

theorem exists_text? (hs : s ∈ Setting.texts) (settings : Settings) :
    ∃ t', s.text? settings = some t' := by
  cases s with
  | liveUrl | historyUrl | reportUrl | agent => exact ⟨_, rfl⟩
  | timeout | columnWidth => exact absurd hs (by decide)

theorem toText?_of_read? {i : Item} (hs : s ∈ Setting.texts)
    (h : s.read? i = some (s.of settings)) : i.toText? = s.text? settings := by
  cases s with
  | liveUrl | historyUrl | reportUrl | agent => exact h
  | timeout | columnWidth => exact absurd hs (by decide)

/-- **A text from a variable arrives as the value that it reads as is written.** Where no other
variable leads to a setting or to what holds it, and all settings can be loaded, the setting is the
text of that variable itself, unless the text is a word for a truth value, an integer of 64 bits or
a number: then it is what this value is written as. A text with a character of neither is safe. -/
theorem text_of_variable (hs : s ∈ Setting.texts)
    (hvariable : (s.variableName, t) ∈ withEnvironmentFile fs env)
    (hothers : ∀ v ∈ withEnvironmentFile fs env, v = (s.variableName, t) ∨ ¬ Reaches v.1 s)
    (hload : load fs env = .ok settings) :
    ∃ t', s.text? settings = some t' ∧ ArrivesAs t t' ∧
      ((∃ c ∈ t.toList, ¬ IsNumberChar c) → t' = t) := by
  obtain ⟨files, item, hlayers, hsettings⟩ := exists_layers_of_load hload
  obtain ⟨entry, hentry, hpath, hitem⟩ := exists_entry_of_mem hvariable
  obtain ⟨before, after, hitems⟩ := List.append_of_mem hentry
  have hafter : ∀ entry ∈ after, s.Leaves t entry := fun e he =>
    leaves_of_mem_items hothers e (hitems ▸ List.mem_append_right _ (List.mem_cons_of_mem _ he))
  rw [hitems, ← List.append_assoc] at hlayers
  obtain ⟨i, hi, hor⟩ := Setting.hasText_layers hpath hitem hafter hlayers
  have htext : i.toText? = s.text? settings := toText?_of_read? hs (read?_of_ofItem? hsettings hi)
  obtain ⟨t', ht'⟩ := exists_text? hs settings
  have hvalue : i = Variable.item t := hor.resolve_right (by rw [htext, ht']; simp)
  have harrives : ArrivesAs t t' := arrivesAs_iff.2 (by rw [← hvalue, htext, ht'])
  exact ⟨t', ht', harrives, fun ⟨c, hc, hnot⟩ => harrives.eq_of_mem hc hnot⟩

theorem text_of_variable_exponent :
    load .empty [(Setting.agent.variableName, "1e3"), (Setting.timeout.variableName, "5")] =
      .ok { provider := { timeoutSeconds := 5, userAgent := "1000" } } ∧
    ∃ t', Setting.agent.text? { provider := { timeoutSeconds := 5, userAgent := "1000" } } =
        some t' ∧ ArrivesAs "1e3" t' ∧
      ((∃ c ∈ "1e3".toList, ¬ IsNumberChar c) → t' = "1e3") := by
  have hload : load .empty [(Setting.agent.variableName, "1e3"),
      (Setting.timeout.variableName, "5")] =
        .ok { provider := { timeoutSeconds := 5, userAgent := "1000" } } := by decide +kernel
  exact ⟨hload, text_of_variable (by decide) (by decide +kernel) (by decide +kernel) hload⟩

/-- A text that reads as a value may arrive in another spelling, and of two variables for a setting
only one can count. -/
theorem not_verbatim :
    (¬ ∀ t settings, load .empty [(Setting.agent.variableName, t)] = .ok settings →
      Setting.agent.text? settings = some t) ∧
    ¬ ∀ other settings, load .empty [(Setting.agent.variableName, "agent"), other] = .ok settings →
      Setting.agent.text? settings = some "agent" := by
  constructor
  · intro h
    have hload : load .empty [(Setting.agent.variableName, "007")] =
        .ok { provider := { userAgent := "7" } } := by decide +kernel
    exact absurd (h "007" _ hload) (by decide)
  · intro h
    have hload : load .empty [(Setting.agent.variableName, "agent"),
        ("akq__provider__user_agent", "other")] =
          .ok { provider := { userAgent := "other" } } := by decide +kernel
    exact absurd (h _ _ hload) (by decide)

end Config

end MarketQuery
