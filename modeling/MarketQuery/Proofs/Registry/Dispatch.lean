import Mathlib.Data.Finset.Card
import MarketQuery.Proofs.Text.ByteOrder
import MarketQuery.Registry

/-!
# Registries after registrations

A registry is made by registering functions, one after another. A name leads to the function that
was registered last under it, and the signatures stand in the order of the names.

* `resolve_eq_some_iff`: a registry has the functions that its names lead to;
* `resolve_ofList`: a name leads to the last of its functions;
* `mem_names_ofList`, `size_ofList`: each name that came is there once;
* `ofList_eq_of_perm`: functions of distinct names may come in any order;
* `signature_mem_iff`, `existsUnique_signature_iff`: the signatures are those of the functions;
* **`dispatch_of_registrations`**: all of this for any registrations.
-/

namespace MarketQuery.Registry

variable {r : Registry} {functions : List QueryFunction} {f : QueryFunction} {name : String}

/-! ## Functions and their names -/

theorem nodup_names (r : Registry) : (r.functions.map (·.name)).Nodup :=
  List.pairwise_map.2 (r.ordered.imp fun h => (String.ne_of_lt h))

theorem resolve_eq_some_iff : r.resolve name = some f ↔ f ∈ r.functions ∧ f.name = name := by
  constructor
  · intro h
    exact ⟨List.mem_of_find?_eq_some h, by simpa using List.find?_some h⟩
  · rintro ⟨hf, rfl⟩
    obtain ⟨g, hg⟩ := Option.isSome_iff_exists.1
      (List.find?_isSome (p := fun g => g.name == f.name).2 ⟨f, hf, beq_self_eq_true _⟩)
    have hname : g.name = f.name := by simpa using List.find?_some hg
    obtain rfl := List.inj_on_of_nodup_map r.nodup_names (List.mem_of_find?_eq_some hg) hf hname
    exact hg

theorem resolve_eq_none_iff : r.resolve name = none ↔ name ∉ r.functions.map (·.name) := by
  simp [resolve, List.mem_map]

/-- Registries with the same functions are the same. -/
theorem eq_of_mem_iff {r r' : Registry} (h : ∀ f, f ∈ r.functions ↔ f ∈ r'.functions) :
    r = r' := by
  have hperm : r.functions.Perm r'.functions :=
    (List.perm_ext_iff_of_nodup r.nodup_names.of_map r'.nodup_names.of_map).2 h
  -- Two functions do not come before one another, as one name would then be less than itself.
  have hfunctions : r.functions = r'.functions :=
    hperm.eq_of_pairwise (fun _ _ _ _ hfg hgf =>
      absurd (String.lt_trans hfg hgf) (String.lt_irrefl _)) r.ordered r'.ordered
  obtain ⟨l, hl⟩ := r
  obtain ⟨l', hl'⟩ := r'
  obtain rfl : l = l' := hfunctions
  rfl

/-! ## One registration after another -/

theorem ofList_concat (functions : List QueryFunction) (f : QueryFunction) :
    ofList (functions ++ [f]) = (ofList functions).register f := by
  simp [ofList]

theorem resolve_ofList (functions : List QueryFunction) (name : String) :
    (ofList functions).resolve name = (functions.filter (·.name = name)).getLast? := by
  induction functions using List.reverseRecOn with
  | nil => rfl
  | append_singleton functions f ih =>
    rw [ofList_concat, resolve_register, List.filter_append]
    by_cases h : f.name = name
    · simp [h]
    · simp [h, ih]

theorem mem_names_ofList :
    name ∈ (ofList functions).functions.map (·.name) ↔ name ∈ functions.map (·.name) := by
  rw [← not_iff_not, ← resolve_eq_none_iff, resolve_ofList, List.getLast?_eq_none_iff,
    List.filter_eq_nil_iff]
  simp [List.mem_map]

theorem size_ofList (functions : List QueryFunction) :
    (ofList functions).size = (functions.map (·.name)).toFinset.card := by
  have hnames : (functions.map (·.name)).toFinset =
      ((ofList functions).functions.map (·.name)).toFinset := by
    ext name
    rw [List.mem_toFinset, List.mem_toFinset, mem_names_ofList]
  rw [hnames, List.toFinset_card_of_nodup (nodup_names _), List.length_map]
  rfl

theorem mem_of_mem_ofList (h : f ∈ (ofList functions).functions) : f ∈ functions := by
  have hresolve := resolve_eq_some_iff.2 ⟨h, rfl⟩
  rw [resolve_ofList] at hresolve
  exact List.mem_of_mem_filter (List.mem_of_getLast? hresolve)

theorem mem_ofList_iff (h : (functions.map (·.name)).Nodup) :
    f ∈ (ofList functions).functions ↔ f ∈ functions := by
  refine ⟨mem_of_mem_ofList, fun hf => ?_⟩
  obtain ⟨g, hg, hname⟩ := List.mem_map.1 (mem_names_ofList.2 (List.mem_map_of_mem hf))
  rwa [← List.inj_on_of_nodup_map h (mem_of_mem_ofList hg) hf hname]

theorem ofList_eq_of_perm {functions' : List QueryFunction} (hperm : functions'.Perm functions)
    (h : (functions.map (·.name)).Nodup) : ofList functions' = ofList functions := by
  have h' : (functions'.map (·.name)).Nodup := (hperm.map _).nodup_iff.2 h
  refine eq_of_mem_iff fun f => ?_
  rw [mem_ofList_iff h', mem_ofList_iff h, hperm.mem_iff]

/-! ## Signatures -/

theorem signature_mem_iff {s : Signature} :
    s ∈ r.signatures ↔ ∃ f, r.resolve s.name = some f ∧ f.signature = s := by
  simp only [resolve_eq_some_iff, signatures, List.mem_map]
  constructor
  · rintro ⟨f, hf, rfl⟩
    exact ⟨f, ⟨hf, rfl⟩, rfl⟩
  · rintro ⟨f, ⟨hf, -⟩, rfl⟩
    exact ⟨f, hf, rfl⟩

theorem existsUnique_signature_iff :
    (∃! s, s ∈ r.signatures ∧ s.name = name) ↔ name ∈ r.functions.map (·.name) := by
  constructor
  · rintro ⟨s, ⟨hs, rfl⟩, -⟩
    obtain ⟨f, hf, rfl⟩ := List.mem_map.1 hs
    exact List.mem_map_of_mem hf
  · intro h
    obtain ⟨f, hf, rfl⟩ := List.mem_map.1 h
    refine ⟨f.signature, ⟨List.mem_map_of_mem hf, rfl⟩, ?_⟩
    rintro s ⟨hs, hname⟩
    obtain ⟨g, hg, rfl⟩ := List.mem_map.1 hs
    rw [List.inj_on_of_nodup_map r.nodup_names hg hf hname]

theorem pairwise_bytes_signatures (r : Registry) :
    r.signatures.Pairwise fun s t => Text.bytes s.name < Text.bytes t.name :=
  List.pairwise_map.2 (r.ordered.imp Text.bytes_lt_iff.2)

theorem signature_mem_register_iff {s : Signature} (h : s.name ≠ f.name) :
    s ∈ (r.register f).signatures ↔ s ∈ r.signatures := by
  rw [signature_mem_iff, signature_mem_iff, resolve_register, if_neg (Ne.symm h)]

/-- **A registry dispatches to the function registered last under a name**, and lists one signature
for each name, in the order of the names' bytes. What is registered under one name is nothing to the
others, and neither is the order in which they come. -/
theorem dispatch_of_registrations (functions : List QueryFunction) :
    (∀ name, (ofList functions).resolve name = (functions.filter (·.name = name)).getLast?) ∧
    ((ofList functions).signatures.Pairwise fun s t => Text.bytes s.name < Text.bytes t.name) ∧
    (∀ name, (∃! s, s ∈ (ofList functions).signatures ∧ s.name = name) ↔
      name ∈ functions.map (·.name)) ∧
    (∀ s, s ∈ (ofList functions).signatures ↔
      ∃ f, (ofList functions).resolve s.name = some f ∧ f.signature = s) ∧
    (ofList functions).size = (functions.map (·.name)).toFinset.card ∧
    (∀ f name, name ≠ f.name →
      ((ofList functions).register f).resolve name = (ofList functions).resolve name ∧
      ∀ s, s.name = name →
        (s ∈ ((ofList functions).register f).signatures ↔ s ∈ (ofList functions).signatures)) ∧
    ((functions.map (·.name)).Nodup → ∀ functions', functions'.Perm functions →
      ofList functions' = ofList functions) := by
  refine ⟨resolve_ofList functions, pairwise_bytes_signatures _, fun name => ?_,
    fun _ => signature_mem_iff, size_ofList functions, fun f name hname => ⟨?_, ?_⟩,
    fun h _ hperm => ofList_eq_of_perm hperm h⟩
  · rw [existsUnique_signature_iff, mem_names_ofList]
  · rw [resolve_register, if_neg (Ne.symm hname)]
  · rintro s rfl
    exact signature_mem_register_iff hname

end MarketQuery.Registry
