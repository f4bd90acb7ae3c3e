import MarketQuery.Json.Field
import MarketQuery.Json.Record
import MarketQuery.Proofs.Number.Integers
import MarketQuery.Proofs.Traversal

/-!
# What records in JSON hold

What a tree gives is told here by relations that speak of its members, items and tokens, and each
reader of trees is matched with its relation.

* `Reads`: a reader gives what a relation tells and nothing else;
* `HasMember`, `HasFields`, `fields?_eq_some_iff`: the known fields of a record;
* `IsText`, `IsCount`, `IsList`, `OrNull`, `OrDefault`: what a field may hold;
* `Holds`, `keep?_eq_some_iff`: the value of a tree; `IsRow`: a tree that is kept as an object;
* `HasField`, `IsRow.hasField`: what a row has under a name is the last member of that name.
-/

namespace MarketQuery.Json

variable {α : Type}

/-- A reader gives what a relation tells and nothing else. -/
def Reads (decode : Tree → Option α) (Content : Tree → α → Prop) : Prop :=
  ∀ tree a, decode tree = some a ↔ Content tree a

/-! ## Known fields -/

/-- The members of an object, all of whose names are texts. -/
def asMembers (named : List (String × Tree)) : List (Option String × Tree) :=
  named.map fun m => (some m.1, m.2)

/-- What members have under a name that comes at most once. -/
inductive HasMember (name : String) : List (String × Tree) → Option Tree → Prop
  | absent {named : List (String × Tree)} (h : ∀ m ∈ named, m.1 ≠ name) : HasMember name named none
  | once {before after : List (String × Tree)} {value : Tree} (hb : ∀ m ∈ before, m.1 ≠ name)
      (ha : ∀ m ∈ after, m.1 ≠ name) :
      HasMember name (before ++ (name, value) :: after) (some value)

/-- The known fields of a record, as far as they are there: an array has them in their order, at
least the first `required` of them and nothing behind them; an object has each at most once. -/
inductive HasFields (names : List String) (required : Nat) : Tree → List (Option Tree) → Prop
  | array {items : List Tree} {missing : Nat} (hr : required ≤ items.length)
      (hn : items.length + missing = names.length) :
      HasFields names required (.array items) (items.map some ++ List.replicate missing none)
  | object {named : List (String × Tree)} {fields : List (Option Tree)}
      (h : List.Forall₂ (HasMember · named) names fields) :
      HasFields names required (.object (asMembers named)) fields

theorem member?_eq_some_iff {named : List (String × Tree)} {name : String} {value? : Option Tree} :
    Tree.member? named name = some value? ↔ HasMember name named value? := by
  constructor
  · intro h
    unfold Tree.member? at h
    split at h
    case h_1 hnil =>
      obtain rfl := Option.some.inj h
      exact .absent fun m hm => by simpa using List.filter_eq_nil_iff.1 hnil m hm
    case h_2 name' value hone =>
      obtain rfl := Option.some.inj h
      obtain ⟨before, after, rfl, hb, heq, ha⟩ := List.filter_eq_cons_iff.1 hone
      obtain rfl : name' = name := by simpa using heq
      exact .once (fun m hm => by simpa using hb m hm)
        fun m hm => by simpa using List.filter_eq_nil_iff.1 ha m hm
    case h_3 => cases h
  · intro h
    have hnil {l : List (String × Tree)} (hl : ∀ m ∈ l, m.1 ≠ name) :
        l.filter (·.1 == name) = [] := List.filter_eq_nil_iff.2 fun m hm => by simpa using hl m hm
    cases h with
    | absent h => rw [Tree.member?, hnil h]
    | once hb ha => simp [Tree.member?, hnil hb, hnil ha]

theorem mapM_name_eq_some_iff {members : List (Option String × Tree)}
    {named : List (String × Tree)} :
    members.mapM (fun (name?, value) => name?.map (·, value)) = some named ↔
      members = asMembers named := by
  rw [mapM_eq_some_iff, asMembers]
  induction members generalizing named with
  | nil => cases named <;> simp
  | cons m members ih =>
    obtain ⟨name?, value⟩ := m
    cases named with
    | nil => simp
    | cons n named =>
      rw [List.forall₂_cons, ih]
      cases name? <;> simp [Prod.ext_iff, eq_comm]

theorem map_range_getElem? (items : List Tree) (missing : Nat) :
    (List.range (items.length + missing)).map (items[·]?) =
      items.map some ++ List.replicate missing none := by
  refine List.ext_getElem? fun i => ?_
  rw [List.getElem?_map, List.getElem?_append, List.length_map, List.getElem?_map,
    List.getElem?_replicate]
  by_cases hi : i < items.length
  · rw [if_pos hi, List.getElem?_range (by omega), Option.map_some, List.getElem?_eq_getElem hi]
    rfl
  · rw [if_neg hi]
    by_cases hm : i - items.length < missing
    · rw [if_pos hm, List.getElem?_range (by omega), Option.map_some,
        List.getElem?_eq_none (by omega)]
    · rw [if_neg hm, List.getElem?_eq_none (by simpa using by omega)]
      rfl

theorem fields?_eq_some_iff {names : List String} {required : Nat} {tree : Tree}
    {fields : List (Option Tree)} :
    tree.fields? names required = some fields ↔ HasFields names required tree fields := by
  constructor
  · intro h
    cases tree with
    | array items =>
      obtain ⟨⟨hr, hn⟩, rfl⟩ : (required ≤ items.length ∧ items.length ≤ names.length) ∧ _ := by
        simpa [Tree.fields?] using h
      obtain ⟨missing, hmissing⟩ := Nat.exists_eq_add_of_le hn
      rw [hmissing, map_range_getElem?]
      exact .array hr hmissing.symm
    | object members =>
      obtain ⟨named, hnamed, hfields⟩ := Option.bind_eq_some_iff.1 h
      obtain rfl := mapM_name_eq_some_iff.1 hnamed
      exact .object ((mapM_eq_some_iff.1 hfields).imp fun _ _ => member?_eq_some_iff.1)
    | null | bool | number | string => cases h
  · intro h
    cases h with
    | @array items missing hr hn =>
      rw [Tree.fields?, if_pos ⟨hr, by omega⟩, ← hn, map_range_getElem?]
    | object h =>
      refine Option.bind_eq_some_iff.2 ⟨_, mapM_name_eq_some_iff.2 rfl, ?_⟩
      exact mapM_eq_some_iff.2 (h.imp fun _ _ => member?_eq_some_iff.2)

theorem HasFields.length_eq {names : List String} {required : Nat} {tree : Tree}
    {fields : List (Option Tree)} (h : HasFields names required tree fields) :
    fields.length = names.length := by
  cases h with
  | array hr hn => simpa using hn
  | object h => exact h.length_eq.symm

/-! ## What a field may hold -/

/-- A text. -/
inductive IsText : Tree → String → Prop
  | intro (s : String) : IsText (.string (some s)) s

/-- A number of things: a token without a sign, a point and an exponent, of a number below
2 ^ 64. -/
inductive IsCount : Tree → Nat → Prop
  | intro {token : NumberToken} (hi : token.isInteger = true) (hs : token.negative = false)
      (hn : Number.placeValue token.numeral.whole < 2 ^ 64) :
      IsCount (.number token) (Number.placeValue token.numeral.whole)

/-- A list of such as a relation tells. -/
inductive IsList (Content : Tree → α → Prop) : Tree → List α → Prop
  | intro {items : List Tree} {l : List α} (h : List.Forall₂ Content items l) :
      IsList Content (.array items) l

/-- Null, or such as a relation tells. -/
inductive OrNull (Content : Tree → α → Prop) : Tree → Option α → Prop
  | null : OrNull Content .null none
  | given {tree : Tree} {a : α} (hn : tree ≠ .null) (h : Content tree a) :
      OrNull Content tree (some a)

/-- What is there for a field that may be left out. -/
inductive OrDefault (default : α) (Content : Tree → α → Prop) : Option Tree → α → Prop
  | absent : OrDefault default Content none default
  | given {tree : Tree} {a : α} (h : Content tree a) : OrDefault default Content (some tree) a

theorem reads_text? : Reads Tree.text? IsText := by
  intro tree s
  constructor
  · intro h
    cases tree with
    | string text? =>
      obtain rfl : text? = some s := h
      exact .intro s
    | null | bool | number | array | object => cases h
  · rintro ⟨⟩
    rfl

theorem reads_count? : Reads Tree.count? IsCount := by
  intro tree n
  constructor
  · intro h
    cases tree with
    | number token =>
      simp only [Tree.count?, Option.ite_none_right_eq_some, Option.some.injEq,
        Number.digitsValue_eq, Number.fitsNat64, decide_eq_true_iff] at h
      obtain ⟨⟨hi, hs⟩, hn, rfl⟩ := h
      exact .intro hi (by simpa using hs) hn
    | null | bool | string | array | object => cases h
  · rintro ⟨hi, hs, hn⟩
    rw [Tree.count?, if_pos ⟨hi, by simp [hs]⟩, Number.digitsValue_eq]
    exact if_pos (decide_eq_true hn)

variable {decode : Tree → Option α} {Content : Tree → α → Prop}

theorem reads_items? (h : Reads decode Content) : Reads (Tree.items? decode) (IsList Content) := by
  intro tree l
  constructor
  · intro hitems
    cases tree with
    | array items => exact .intro ((mapM_eq_some_iff.1 hitems).imp fun _ _ => (h _ _).1)
    | null | bool | number | string | object => cases hitems
  · rintro ⟨hitems⟩
    exact mapM_eq_some_iff.2 (hitems.imp fun _ _ => (h _ _).2)

theorem optional?_of_ne {tree : Tree} (hn : tree ≠ .null) :
    optional? decode tree = (decode tree).map some := by
  cases tree with
  | null => exact absurd rfl hn
  | bool | number | string | array | object => rfl

theorem reads_optional? (h : Reads decode Content) : Reads (optional? decode) (OrNull Content) := by
  intro tree a?
  constructor
  · intro ha
    by_cases hn : tree = .null
    · subst hn
      obtain rfl := Option.some.inj ha
      exact .null
    · rw [optional?_of_ne hn] at ha
      obtain ⟨a, hdecode, rfl⟩ := Option.map_eq_some_iff.1 ha
      exact .given hn ((h _ _).1 hdecode)
  · intro ha
    cases ha with
    | null => rfl
    | given hn ha => rw [optional?_of_ne hn, (h _ _).2 ha, Option.map_some]

theorem orElse?_eq_some_iff (h : Reads decode Content) {default a : α} {tree? : Option Tree} :
    orElse? default decode tree? = some a ↔ OrDefault default Content tree? a := by
  constructor
  · intro ha
    cases tree? with
    | none =>
      obtain rfl := Option.some.inj ha
      exact .absent
    | some tree => exact .given ((h _ _).1 ha)
  · intro ha
    cases ha with
    | absent => rfl
    | given ha => exact (h _ _).2 ha

/-! ## Values -/

mutual

/-- The value of a tree with at most `depth` arrays and objects inside one another. Of members that
have the same name the last one counts. -/
inductive Holds : Nat → Tree → Value → Prop
  | null {depth : Nat} : Holds depth .null .null
  | bool {depth : Nat} (b : Bool) : Holds depth (.bool b) (.bool b)
  | number {depth : Nat} {token : NumberToken} {n : Number} (h : Number.ofToken? token = some n) :
      Holds depth (.number token) (.number n)
  | string {depth : Nat} (s : String) : Holds depth (.string (some s)) (.string s)
  | array {depth : Nat} {items : List Tree} {values : List Value}
      (h : HoldItems depth items values) : Holds (depth + 1) (.array items) (.array values)
  | object {depth : Nat} {named : List (String × Tree)} {values : List (String × Value)}
      (h : HoldMembers depth named values) :
      Holds (depth + 1) (.object (asMembers named)) (.object (Object.ofMembers values))

/-- The values of the items of an array. -/
inductive HoldItems : Nat → List Tree → List Value → Prop
  | nil {depth : Nat} : HoldItems depth [] []
  | cons {depth : Nat} {item : Tree} {items : List Tree} {v : Value} {values : List Value}
      (hv : Holds depth item v) (h : HoldItems depth items values) :
      HoldItems depth (item :: items) (v :: values)

/-- The values of the members of an object, under their names. -/
inductive HoldMembers : Nat → List (String × Tree) → List (String × Value) → Prop
  | nil {depth : Nat} : HoldMembers depth [] []
  | cons {depth : Nat} {name : String} {value : Tree} {named : List (String × Tree)} {v : Value}
      {values : List (String × Value)} (hv : Holds depth value v)
      (h : HoldMembers depth named values) :
      HoldMembers depth ((name, value) :: named) ((name, v) :: values)

end

mutual

theorem keep?_eq_some_iff : ∀ {depth : Nat} (tree : Tree) {v : Value},
    tree.keep? depth = some v ↔ Holds depth tree v
  | _, .null, _ => ⟨by rintro ⟨⟩; exact .null, by rintro ⟨⟩; rfl⟩
  | _, .bool b, _ => ⟨by rintro ⟨⟩; exact .bool b, by rintro ⟨⟩; rfl⟩
  | _, .number token, _ => by
    rw [Tree.keep?, Option.map_eq_some_iff]
    constructor
    · rintro ⟨n, hn, rfl⟩
      exact .number hn
    · rintro ⟨⟩
      exact ⟨_, ‹_›, rfl⟩
  | _, .string text?, _ => by
    rw [Tree.keep?, Option.map_eq_some_iff]
    constructor
    · rintro ⟨s, rfl, rfl⟩
      exact .string s
    · rintro ⟨⟩
      exact ⟨_, rfl, rfl⟩
  | 0, .array items, _ => ⟨nofun, nofun⟩
  | depth + 1, .array items, _ => by
    rw [Tree.keep?, Option.map_eq_some_iff]
    simp only [keepItems?_eq_some_iff items]
    constructor
    · rintro ⟨values, h, rfl⟩
      exact .array h
    · rintro ⟨⟩
      exact ⟨_, ‹_›, rfl⟩
  | 0, .object members, _ => ⟨nofun, nofun⟩
  | depth + 1, .object members, _ => by
    rw [Tree.keep?, Option.map_eq_some_iff]
    simp only [keepMembers?_eq_some_iff members]
    constructor
    · rintro ⟨values, ⟨named, rfl, h⟩, rfl⟩
      exact .object h
    · rintro ⟨⟩
      exact ⟨_, ⟨_, rfl, ‹_›⟩, rfl⟩

theorem keepItems?_eq_some_iff : ∀ {depth : Nat} (items : List Tree) {values : List Value},
    Tree.keepItems? depth items = some values ↔ HoldItems depth items values
  | _, [], _ => ⟨by rintro ⟨⟩; exact .nil, by rintro ⟨⟩; rfl⟩
  | _, item :: items, _ => by
    simp only [Tree.keepItems?, Option.bind_eq_bind, Option.bind_eq_some_iff,
      keep?_eq_some_iff item, keepItems?_eq_some_iff items]
    constructor
    · rintro ⟨v, hv, values, h, ⟨⟩⟩
      exact .cons hv h
    · rintro ⟨⟩
      exact ⟨_, ‹_›, _, ‹_›, rfl⟩

theorem keepMembers?_eq_some_iff : ∀ {depth : Nat} (members : List (Option String × Tree))
    {values : List (String × Value)}, Tree.keepMembers? depth members = some values ↔
      ∃ named, members = asMembers named ∧ HoldMembers depth named values
  | _, [], _ => by
    constructor
    · rintro ⟨⟩
      exact ⟨[], rfl, .nil⟩
    · rintro ⟨named, hnamed, h⟩
      cases h with
      | nil => rfl
      | cons => cases hnamed
  | _, (name?, value) :: members, _ => by
    simp only [Tree.keepMembers?, Option.bind_eq_bind, Option.bind_eq_some_iff,
      keep?_eq_some_iff value, keepMembers?_eq_some_iff members]
    constructor
    · rintro ⟨name, rfl, v, hv, values, ⟨named, rfl, h⟩, ⟨⟩⟩
      exact ⟨(name, value) :: named, rfl, .cons hv h⟩
    · rintro ⟨named, hnamed, h⟩
      cases h with
      | nil => cases hnamed
      | cons hv h =>
        obtain ⟨⟨rfl, rfl⟩, rfl⟩ : (_ ∧ _) ∧ _ := by simpa [asMembers] using hnamed
        exact ⟨_, rfl, _, hv, _, ⟨_, rfl, h⟩, rfl⟩

end

/-! ## Rows -/

/-- A tree is kept as an object, inside so many arrays and objects. -/
def IsRow (around : Nat) (tree : Tree) (row : Object) : Prop :=
  Holds (127 - around) tree (.object row)

/-- What an object has under a name: the value of the last member of that name, if there is one. -/
inductive HasField (depth : Nat) (name : String) : Tree → Option Value → Prop
  | missing {named : List (String × Tree)} (h : ∀ m ∈ named, m.1 ≠ name) :
      HasField depth name (.object (asMembers named)) none
  | last {before after : List (String × Tree)} {value : Tree} {v : Value}
      (ha : ∀ m ∈ after, m.1 ≠ name) (hv : Holds depth value v) :
      HasField depth name (.object (asMembers (before ++ (name, value) :: after))) (some v)

theorem reads_row? (around : Nat) : Reads (Tree.row? around) (IsRow around) := by
  intro tree row
  rw [IsRow, ← keep?_eq_some_iff, Tree.row?, depthLimit]
  cases tree.keep? (127 - around) with
  | none => simp
  | some v => cases v <;> simp

/-- Writing over the members of a name. -/
theorem lookup_overwrite (o : Object) (name key : String) (v : Value) :
    (o.map fun m => if m.1 = name then (name, v) else m).lookup key =
      if key = name then (o.lookup name).map fun _ => v else o.lookup key := by
  induction o with
  | nil => simp
  | cons m o ih =>
    obtain ⟨name', w⟩ := m
    by_cases hname : name' = name
    · by_cases hkey : key = name
      · simp [hname, hkey]
      · simpa [hname, hkey, List.lookup_cons, beq_eq_false_iff_ne.2 hkey] using ih
    · by_cases hkey : key = name'
      · simp [hname, hkey]
      · have hname' : (name == name') = false := beq_eq_false_iff_ne.2 (Ne.symm hname)
        simp [hname, List.lookup_cons, beq_eq_false_iff_ne.2 hkey, hname', ih]

theorem lookup_eq_none_iff_any {o : Object} {name : String} :
    o.lookup name = none ↔ o.any (·.1 == name) = false := by
  rw [List.lookup_eq_none_iff, List.any_eq_false]
  refine forall₂_congr fun m _ => ?_
  rw [bne_iff_ne, beq_iff_eq, ne_comm]

theorem get?_put (o : Object) (name key : String) (v : Value) :
    (o.put name v).get? key = if key = name then some v else o.get? key := by
  unfold Object.put Object.get?
  cases hlookup : o.lookup name with
  | none =>
    rw [if_neg (by simp [lookup_eq_none_iff_any.1 hlookup]), List.lookup_append]
    by_cases hkey : key = name
    · simp [hkey, hlookup]
    · simp [hkey, List.lookup_cons, beq_eq_false_iff_ne.2 hkey]
  | some w =>
    have hany : o.any (·.1 == name) = true := by
      rw [← Bool.not_eq_false, ← lookup_eq_none_iff_any, hlookup]
      exact Option.some_ne_none w
    rw [if_pos hany, lookup_overwrite, hlookup]
    rfl

/-- The values of members are put over those that an object has. -/
theorem get?_foldl_put {depth : Nat} {named : List (String × Tree)}
    {values : List (String × Value)} (h : HoldMembers depth named values) (name : String)
    (o : Object) :
    let row := values.foldl (fun o m => Object.put o m.1 m.2) o
    (∃ before after value v, named = before ++ (name, value) :: after ∧
      (∀ m ∈ after, m.1 ≠ name) ∧ Holds depth value v ∧ row.get? name = some v) ∨
    ((∀ m ∈ named, m.1 ≠ name) ∧ row.get? name = o.get? name) := by
  induction values generalizing named o with
  | nil =>
    cases h
    exact .inr ⟨by simp, rfl⟩
  | cons m values ih =>
    cases h with
    | @cons _ name' value named v _ hv h =>
      rcases ih h (o.put name' v) with ⟨before, after, value', v', rfl, hafter, hv', hrow⟩ |
        ⟨hnone, hrow⟩
      · exact .inl ⟨(name', value) :: before, after, value', v', rfl, hafter, hv', hrow⟩
      · rw [get?_put] at hrow
        by_cases hname : name = name'
        · subst hname
          rw [if_pos rfl] at hrow
          exact .inl ⟨[], named, value, v, rfl, hnone, hv, hrow⟩
        · rw [if_neg hname] at hrow
          exact .inr ⟨List.forall_mem_cons.2 ⟨Ne.symm hname, hnone⟩, hrow⟩

/-- A row has under each name what its tree has. -/
theorem IsRow.hasField {around : Nat} {tree : Tree} {row : Object} (h : IsRow around tree row)
    (name : String) : HasField (126 - around) name tree (row.get? name) := by
  unfold IsRow at h
  generalize hdepth : 127 - around = depth at h
  cases h with
  | @object depth named values h =>
    obtain rfl : depth = 126 - around := by omega
    rcases get?_foldl_put h name [] with ⟨before, after, value, v, rfl, hafter, hv, hrow⟩ |
      ⟨hnone, hrow⟩
    · rw [Object.ofMembers, hrow]
      exact .last hafter hv
    · rw [Object.ofMembers, hrow]
      exact .missing hnone

end MarketQuery.Json
