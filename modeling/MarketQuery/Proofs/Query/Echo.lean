import MarketQuery.Proofs.Binding.Exact
import MarketQuery.Proofs.Text.Quoting
import MarketQuery.Proofs.Value.Literal
import MarketQuery.Query

/-!
# What an echo tells

Parameters have names of ASCII letters, digits and underscores, so that a name ends at its `=`. A
quoted text ends at its quote, any other literal at the next comma or parenthesis, and by that an
echo is told apart into the arguments, whatever stands in their texts.

* `IsIdentifier`, `Admits`: such names; an argument that fits a signature;
* `Alike`, `SameArgument`: what an echo does not tell apart;
* `toList_echo`, `echoBody_inj`: the parts of an echo, and what they tell;
* `eq_of_fills`: a parameter is filled in the same way from arguments that are alike;
* `isUnprintable_of_mem_echo`: the characters of an echo;
* **`echo_identifies`**: an echo tells what a call is given, on one line.
-/

namespace MarketQuery

open Number Text

/-- ASCII letters, digits and underscores. -/
def IsIdentifier (s : String) : Prop := ∀ c ∈ s.toList, c.isAlphanum = true ∨ c = '_'

instance (s : String) : Decidable (IsIdentifier s) :=
  decidable_of_iff ((s.toList.all fun c => c.isAlphanum || c = '_') = true) (by simp [IsIdentifier])

theorem IsIdentifier.isPrintableAscii {s : String} (h : IsIdentifier s) :
    ∀ c ∈ s.toList, IsPrintableAscii c := by
  intro c hc
  rcases h c hc with hc | rfl
  · exact isPrintableAscii_of_isAlphanum hc
  · decide

theorem IsIdentifier.ne_of_mem {s : String} {c : Char} (h : IsIdentifier s) (hc : c ∈ s.toList)
    {d : Char} (hd : d.isAlphanum = false ∧ d ≠ '_') : c ≠ d := by
  rintro rfl
  rcases h c hc with hc | rfl
  · exact Bool.false_ne_true (hd.1.symm.trans hc)
  · exact hd.2 rfl

theorem Arguments.get?_of_mem {args : Arguments} {key : String} {u : Argument}
    (h : (key, u) ∈ args.entries) : args.get? key = some u := by
  obtain ⟨before, after, hsplit⟩ := List.append_of_mem h
  refine List.lookup_eq_some_iff.2 ⟨before, after, hsplit, fun e he => ?_⟩
  have hnodup := args.nodup
  rw [hsplit, List.map_append, List.map_cons, List.nodup_append] at hnodup
  exact bne_iff_ne.2 (hnodup.2.2 e.1 (List.mem_map_of_mem he) key List.mem_cons_self).symm

namespace Signature

variable {s : Signature} {args a b : Arguments} {key key' : String} {u w : Argument}

/-! ## Single arguments -/

/-- A string parameter has the name. -/
def IsText (s : Signature) (key : String) : Prop := ∃ p ∈ s.params, p.name = key ∧ p.kind = .string

theorem any_isText : (s.params.any fun p => p.name == key && p.kind == .string) = true ↔
    s.IsText key := by
  simp [IsText]

instance (s : Signature) (key : String) : Decidable (s.IsText key) := decidable_of_iff _ any_isText

/-- What is written for an argument behind its key. -/
def givenText (s : Signature) (key : String) (u : Argument) : String :=
  if s.IsText key then quote u.raw else u.value.literal

theorem toList_echoArgument (s : Signature) (key : String) (u : Argument) :
    (s.echoArgument key u).toList = key.toList ++ '=' :: (s.givenText key u).toList := by
  have hgiven : s.echoArgument key u = key ++ "=" ++ s.givenText key u := by
    unfold echoArgument givenText
    by_cases htext : s.IsText key
    · simp [htext, any_isText.2 htext]
    · simp [htext, Bool.eq_false_iff.2 (mt any_isText.1 htext)]
  simp [hgiven]

/-- Arguments under one key that an echo does not tell apart: with the same text for a string
parameter, else with the same literal. -/
structure Alike (s : Signature) (key : String) (u w : Argument) : Prop where
  raw : s.IsText key → u.raw = w.raw
  literal : ¬ s.IsText key → u.value.literal = w.value.literal

theorem Alike.eq_of_isText (h : s.Alike key u w) (htext : s.IsText key) : u = w := by
  rw [u.eq_mk, w.eq_mk, h.raw htext]

/-- An argument of a signature, which is quoted or has a literal without commas and
parentheses. -/
structure Admits (s : Signature) (e : String × Argument) : Prop where
  identifier : IsIdentifier e.1
  literal : ¬ s.IsText e.1 → ∀ c ∈ e.2.value.literal.toList, IsNumberChar c

theorem key_append_inj {x y : List Char} (hk : IsIdentifier key) (hk' : IsIdentifier key')
    (h : key.toList ++ '=' :: x = key'.toList ++ '=' :: y) : key = key' ∧ x = y := by
  obtain ⟨hkey, hrest⟩ := append_cons_inj (fun c hc => hk.ne_of_mem hc (by decide))
    (fun c hc => hk'.ne_of_mem hc (by decide)) h
  exact ⟨String.toList_inj.1 hkey, hrest⟩

theorem givenText_append_inj {x y : List Char} (hu : s.Admits (key, u)) (hw : s.Admits (key, w))
    (hx : ∀ c ∈ x.head?, ¬ IsNumberChar c) (hy : ∀ c ∈ y.head?, ¬ IsNumberChar c)
    (h : (s.givenText key u).toList ++ x = (s.givenText key w).toList ++ y) :
    s.Alike key u w ∧ x = y := by
  unfold givenText at h
  by_cases htext : s.IsText key
  · rw [if_pos htext, if_pos htext] at h
    obtain ⟨hraw, hrest⟩ := quote_append_inj h
    exact ⟨⟨fun _ => hraw, fun hnot => absurd htext hnot⟩, hrest⟩
  · rw [if_neg htext, if_neg htext] at h
    obtain ⟨hliteral, hrest⟩ :=
      append_inj_of_head? (hu.literal htext) (hw.literal htext) hx hy h
    exact ⟨⟨fun h => absurd h htext, fun _ => String.toList_inj.1 hliteral⟩, hrest⟩

/-- An argument ends where a comma or a parenthesis stands behind its literal or its quote. -/
theorem echoArgument_append_inj {x y : List Char} (hu : s.Admits (key, u))
    (hw : s.Admits (key', w)) (hx : ∀ c ∈ x.head?, ¬ IsNumberChar c)
    (hy : ∀ c ∈ y.head?, ¬ IsNumberChar c)
    (h : (s.echoArgument key u).toList ++ x = (s.echoArgument key' w).toList ++ y) :
    key = key' ∧ s.Alike key u w ∧ x = y := by
  rw [toList_echoArgument, toList_echoArgument, List.append_assoc, List.append_assoc] at h
  obtain ⟨rfl, hgiven⟩ := key_append_inj hu.identifier hw.identifier h
  exact ⟨rfl, givenText_append_inj hu hw hx hy hgiven⟩

/-! ## All arguments -/

/-- What stands behind the first argument. -/
def echoRest (s : Signature) (l : List (String × Argument)) : List Char :=
  l.flatMap (fun e => ',' :: ' ' :: (s.echoArgument e.1 e.2).toList) ++ [')']

/-- What stands behind the opening parenthesis. -/
def echoBody (s : Signature) : List (String × Argument) → List Char
  | [] => [')']
  | e :: l => (s.echoArgument e.1 e.2).toList ++ s.echoRest l

theorem echoRest_cons (s : Signature) (e : String × Argument) (l : List (String × Argument)) :
    s.echoRest (e :: l) = ',' :: ' ' :: ((s.echoArgument e.1 e.2).toList ++ s.echoRest l) := by
  simp [echoRest]

theorem toList_intercalate_cons (t : String) (l : List String) :
    (", ".intercalate (t :: l)).toList = t.toList ++ l.flatMap fun u => ',' :: ' ' :: u.toList := by
  induction l generalizing t with
  | nil => simp
  | cons u l ih =>
    rw [String.intercalate_cons_cons, String.toList_append, ih, List.flatMap_cons]
    simp

theorem toList_echo (s : Signature) (args : Arguments) :
    (s.echo args).toList = s.name.toList ++ '(' :: s.echoBody args.entries := by
  unfold echo
  cases args.entries with
  | nil => simp [echoBody]
  | cons e l =>
    rw [List.map_cons, String.toList_append, String.toList_append, toList_intercalate_cons]
    simp [echoBody, echoRest, List.flatMap_map]

/-- Arguments that an echo does not tell apart, with their keys. -/
structure SameArgument (s : Signature) (e e' : String × Argument) : Prop where
  key : e.1 = e'.1
  alike : s.Alike e.1 e.2 e'.2

theorem head?_echoRest (s : Signature) (l : List (String × Argument)) :
    ∀ c ∈ (s.echoRest l).head?, ¬ IsNumberChar c := by
  cases l with
  | nil =>
    rintro c ⟨⟩
    decide
  | cons e l =>
    rw [echoRest_cons]
    rintro c ⟨⟩
    decide

theorem echoRest_inj {l l' : List (String × Argument)} (hl : ∀ e ∈ l, s.Admits e)
    (hl' : ∀ e ∈ l', s.Admits e) (h : s.echoRest l = s.echoRest l') :
    List.Forall₂ s.SameArgument l l' := by
  induction l generalizing l' with
  | nil =>
    cases l' with
    | nil => exact .nil
    | cons e' l' =>
      rw [echoRest_cons] at h
      exact absurd (List.cons.inj h).1 (by decide)
  | cons e l ih =>
    cases l' with
    | nil =>
      rw [echoRest_cons] at h
      exact absurd (List.cons.inj h).1 (by decide)
    | cons e' l' =>
      rw [echoRest_cons, echoRest_cons] at h
      obtain ⟨he, hl⟩ := List.forall_mem_cons.1 hl
      obtain ⟨he', hl'⟩ := List.forall_mem_cons.1 hl'
      obtain ⟨hkey, halike, hrest⟩ := echoArgument_append_inj he he' (head?_echoRest s l)
        (head?_echoRest s l') (List.cons.inj (List.cons.inj h).2).2
      exact .cons ⟨hkey, halike⟩ (ih hl hl' hrest)

theorem echoArgument_append_ne (s : Signature) (e : String × Argument) (x : List Char) :
    (s.echoArgument e.1 e.2).toList ++ x ≠ [')'] := by
  intro h
  rw [toList_echoArgument, List.append_assoc] at h
  have hmem : '=' ∈ [')'] := by
    rw [← h]
    simp
  exact absurd hmem (by decide)

theorem echoBody_inj {l l' : List (String × Argument)} (hl : ∀ e ∈ l, s.Admits e)
    (hl' : ∀ e ∈ l', s.Admits e) (h : s.echoBody l = s.echoBody l') :
    List.Forall₂ s.SameArgument l l' := by
  cases l with
  | nil =>
    cases l' with
    | nil => exact .nil
    | cons e' l' => exact absurd h.symm (echoArgument_append_ne s e' _)
  | cons e l =>
    cases l' with
    | nil => exact absurd h (echoArgument_append_ne s e _)
    | cons e' l' =>
      refine echoRest_inj hl hl' ?_
      rw [echoRest_cons, echoRest_cons]
      exact congrArg (fun cs => ',' :: ' ' :: cs) h

/-! ## What is bound -/

theorem admits_of_bind {x : Bound} (hs : ∀ p ∈ s.params, IsIdentifier p.name)
    (h : s.bind args = .ok x) : ∀ e ∈ args.entries, s.Admits e := by
  rintro ⟨key, u⟩ he
  have haccepts := accepts_of_bind h
  obtain ⟨p, hp, rfl⟩ := haccepts.known key (List.mem_map_of_mem he)
  refine ⟨hs p hp, fun htext => ?_⟩
  have hkind : p.kind ≠ .string := fun hk => htext ⟨p, hp, rfl, hk⟩
  have htakes := haccepts.suits p hp u (Arguments.get?_of_mem he)
  rw [u.value_eq] at htakes ⊢
  exact isNumberChar_of_mem_literal hkind htakes

theorem rel_lookup {l l' : List (String × Argument)} (h : List.Forall₂ s.SameArgument l l')
    (key : String) : Option.Rel (s.Alike key) (l.lookup key) (l'.lookup key) := by
  induction h with
  | nil => exact .none
  | @cons e e' l l' he _ ih =>
    obtain ⟨k, u⟩ := e
    obtain ⟨k', w⟩ := e'
    obtain ⟨rfl, halike⟩ : k = k' ∧ s.Alike k u w := ⟨he.key, he.alike⟩
    rw [List.lookup_cons, List.lookup_cons]
    by_cases hkey : key = k
    · subst hkey
      simpa using Option.Rel.some halike
    · simpa [beq_eq_false_iff_ne.2 hkey] using ih

theorem eq_of_holds_of_alike {p : Param} {v v' : Value} (hp : p ∈ s.params)
    (halike : s.Alike p.name u w) (hu : p.kind.Holds u.raw v) (hw : p.kind.Holds w.raw v') :
    v = v' := by
  by_cases htext : s.IsText p.name
  · rw [halike.raw htext] at hu
    exact eq_of_holds hu hw
  · have hliteral := halike.literal htext
    rw [u.value_eq, w.value_eq] at hliteral
    exact eq_of_literal_eq (fun hk => htext ⟨p, hp, rfl, hk⟩) hu hw hliteral

/-- A parameter is filled in the same way from arguments that are alike, and from its default if
it is given in neither. -/
theorem eq_of_fills {p : Param} {e e' : String × Value} (hp : p ∈ s.params)
    (hkeys : a.keys = b.keys)
    (halike : Option.Rel (s.Alike p.name) (a.get? p.name) (b.get? p.name))
    (h : p.Fills a e) (h' : p.Fills b e') : e = e' := by
  by_cases hkey : p.name ∈ a.keys
  · cases h with
    | absent ha | unfit ha => exact absurd hkey ha
    | given ha hv =>
      cases h' with
      | absent hb | unfit hb => exact absurd (hkeys ▸ hkey) hb
      | given hb hv' =>
        rw [ha, hb] at halike
        cases halike with
        | some halike => rw [eq_of_holds_of_alike hp halike hv hv']
  · have he : p.bind s.name a = .ok (some e) := Param.bind_eq_some_iff.2 h
    have he' : p.bind s.name b = .ok (some e') := Param.bind_eq_some_iff.2 h'
    rw [Param.bind_of_absent hkey] at he
    rw [Param.bind_of_absent (hkeys ▸ hkey), he] at he'
    exact Option.some.inj (Except.ok.inj he')

theorem eq_of_forall₂_fills {params : List Param} {l l' : List (String × Value)}
    (heq : ∀ p ∈ params, ∀ e e', p.Fills a e → p.Fills b e' → e = e')
    (h : List.Forall₂ (fun p e => p.Fills a e) params l)
    (h' : List.Forall₂ (fun p e => p.Fills b e) params l') : l = l' := by
  induction h generalizing l' with
  | nil =>
    cases h'
    rfl
  | @cons p e params l he _ ih =>
    cases h' with
    | cons he' hrest =>
      obtain ⟨hp, hparams⟩ := List.forall_mem_cons.1 heq
      rw [hp _ _ he he', ih hparams hrest]

/-! ## One line -/

theorem isUnprintable_of_mem_echoArgument {e : String × Argument} (he : s.Admits e) :
    ∀ c ∈ (s.echoArgument e.1 e.2).toList, isUnprintable c = false := by
  have hkey := isUnprintable_of_ascii he.identifier.isPrintableAscii
  have hequals : ∀ c ∈ ['='], isUnprintable c = false :=
    isUnprintable_of_ascii (isPrintableAscii_of_all (by decide))
  have hgiven : ∀ c ∈ (s.givenText e.1 e.2).toList, isUnprintable c = false := by
    unfold givenText
    split_ifs with htext
    · exact isUnprintable_of_mem_quote
    · exact isUnprintable_of_ascii fun c hc =>
        isPrintableAscii_of_isNumberChar (he.literal htext c hc)
  rw [toList_echoArgument]
  exact List.forall_mem_append.2 ⟨hkey, List.forall_mem_append.2 ⟨hequals, hgiven⟩⟩

theorem isUnprintable_of_mem_echoRest {l : List (String × Argument)} (hl : ∀ e ∈ l, s.Admits e) :
    ∀ c ∈ s.echoRest l, isUnprintable c = false := by
  have hcomma : ∀ c ∈ [',', ' '], isUnprintable c = false :=
    isUnprintable_of_ascii (isPrintableAscii_of_all (by decide))
  have hclose : ∀ c ∈ [')'], isUnprintable c = false :=
    isUnprintable_of_ascii (isPrintableAscii_of_all (by decide))
  induction l with
  | nil => exact hclose
  | cons e l ih =>
    obtain ⟨he, hl⟩ := List.forall_mem_cons.1 hl
    rw [echoRest_cons]
    exact List.forall_mem_append.2
      ⟨hcomma, List.forall_mem_append.2 ⟨isUnprintable_of_mem_echoArgument he, ih hl⟩⟩

theorem isUnprintable_of_mem_echoBody {l : List (String × Argument)} (hl : ∀ e ∈ l, s.Admits e) :
    ∀ c ∈ s.echoBody l, isUnprintable c = false := by
  cases l with
  | nil => exact isUnprintable_of_mem_echoRest hl
  | cons e l =>
    obtain ⟨he, hl⟩ := List.forall_mem_cons.1 hl
    exact List.forall_mem_append.2
      ⟨isUnprintable_of_mem_echoArgument he, isUnprintable_of_mem_echoRest hl⟩

theorem isUnprintable_of_mem_echo (hname : IsIdentifier s.name)
    (hargs : ∀ e ∈ args.entries, s.Admits e) :
    ∀ c ∈ (s.echo args).toList, isUnprintable c = false := by
  have hopen : ∀ c ∈ ['('], isUnprintable c = false :=
    isUnprintable_of_ascii (isPrintableAscii_of_all (by decide))
  rw [toList_echo]
  exact List.forall_mem_append.2 ⟨isUnprintable_of_ascii hname.isPrintableAscii,
    List.forall_mem_append.2 ⟨hopen, isUnprintable_of_mem_echoBody hargs⟩⟩

/-! ## What is told -/

/-- **An echo tells what a call is given.** If the names of a signature are identifiers, arguments
that are bound and have one echo have the same keys in the same order, the same text for every
string parameter, and the same bound values. The echo is a single line, without a character that
has no printed form. -/
theorem echo_identifies (hname : IsIdentifier s.name) (hs : ∀ p ∈ s.params, IsIdentifier p.name)
    {x : Bound} (ha : s.bind a = .ok x) :
    (∀ (b : Arguments) (y : Bound), s.bind b = .ok y → s.echo a = s.echo b →
      a.keys = b.keys ∧
      (∀ p ∈ s.params, p.kind = .string → a.get? p.name = b.get? p.name) ∧
      x = y) ∧
    '\n' ∉ (s.echo a).toList ∧ ∀ c ∈ (s.echo a).toList, isUnprintable c = false := by
  have hadmits := admits_of_bind hs ha
  have hprint := isUnprintable_of_mem_echo hname hadmits
  refine ⟨fun b y hb h => ?_, fun hfeed => ?_, hprint⟩
  · have hsame : List.Forall₂ s.SameArgument a.entries b.entries := by
      refine echoBody_inj hadmits (admits_of_bind hs hb) ?_
      have hlist := congrArg String.toList h
      rw [toList_echo, toList_echo] at hlist
      exact (List.cons.inj (List.append_cancel_left hlist)).2
    have hkeys : a.keys = b.keys := map_eq_map_of_forall₂ hsame fun _ _ _ _ h => h.key
    have hrel (key : String) : Option.Rel (s.Alike key) (a.get? key) (b.get? key) :=
      rel_lookup hsame key
    refine ⟨hkeys, fun p hp hkind => ?_, ?_⟩
    · have hgiven := hrel p.name
      generalize a.get? p.name = u, b.get? p.name = w at hgiven ⊢
      cases hgiven with
      | none => rfl
      | some halike => rw [halike.eq_of_isText ⟨p, hp, rfl, hkind⟩]
    · obtain ⟨-, -, hx⟩ := Signature.bind_eq_ok_iff.1 ha
      obtain ⟨-, -, hy⟩ := Signature.bind_eq_ok_iff.1 hb
      have hvalues := eq_of_forall₂_fills
        (fun p hp e e' he he' => eq_of_fills hp hkeys (hrel p.name) he he') hx hy
      exact congrArg Bound.mk hvalues
  · exact absurd (hprint _ hfeed) (by decide +kernel)

/-- A text that looks like another argument, and a number in two notations. -/
theorem echo_identifies_chart :
    let a := Arguments.ofList [("symbol", "1\", ratio=\"2\n"), ("ratio", "2")]
    let b := Arguments.ofList [("symbol", "1\", ratio=\"2\n"), ("ratio", " +2.0")]
    let x : Bound := ⟨[("symbol", .text "1\", ratio=\"2\n"), ("limit", .int 10),
      ("ratio", .float (.ofInt 2)), ("grid", .bool false)]⟩
    IsIdentifier chart.name ∧ (∀ p ∈ chart.params, IsIdentifier p.name) ∧
    chart.echo a = "chart(symbol=\"1\\\", ratio=\\\"2\\n\", ratio=2)" ∧
    chart.echo b = chart.echo a ∧ a.keys = b.keys ∧
    (∀ y, chart.bind b = .ok y → y = x) ∧ '\n' ∉ (chart.echo a).toList := by
  intro a b x
  have hname : IsIdentifier chart.name := by decide
  have hparams : ∀ p ∈ chart.params, IsIdentifier p.name := by decide
  have ha : chart.bind a = .ok x := by decide +kernel
  have hb : chart.bind b = .ok x := by decide +kernel
  have hecho : chart.echo a = chart.echo b := by decide +kernel
  have h := echo_identifies hname hparams ha
  refine ⟨hname, hparams, by decide +kernel, hecho.symm, (h.1 b x hb hecho).1, ?_, h.2.1⟩
  intro y hy
  exact (h.1 b y hy hecho).2.2.symm

end Signature

end MarketQuery
