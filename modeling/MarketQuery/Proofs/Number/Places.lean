import Mathlib.Data.String.Basic
import Mathlib.Tactic.Ring
import MarketQuery.Proofs.Number.Integers

/-!
# Digits by their places

* `placeValue_append`, `placeValue_lt`: the value of digits in two parts, and its bound;
* `lt_iff_placeValue_lt`: digits of one length are in the order of their values;
* `eq_of_placeValue_eq`: so they are told by their value.
-/

namespace MarketQuery.Number

variable {cs ds : List Char}

theorem digitOf_lt {c : Char} (h : c.isDigit = true) : digitOf c < 10 := by
  have hdigit : 48 ≤ c.toNat ∧ c.toNat ≤ 57 := Char.isDigit_iff_toNat.1 h
  change c.toNat - 48 < 10
  omega

theorem digitOf_lt_digitOf_iff {c d : Char} (hc : c.isDigit = true) (hd : d.isDigit = true) :
    digitOf c < digitOf d ↔ c < d := by
  have hc' : 48 ≤ c.toNat ∧ c.toNat ≤ 57 := Char.isDigit_iff_toNat.1 hc
  have hd' : 48 ≤ d.toNat ∧ d.toNat ≤ 57 := Char.isDigit_iff_toNat.1 hd
  change c.toNat - 48 < d.toNat - 48 ↔ c.toNat < d.toNat
  omega

theorem placeValue_append (cs ds : List Char) :
    placeValue (cs ++ ds) = placeValue cs * 10 ^ ds.length + placeValue ds := by
  rw [placeValue, List.map_append, List.reverse_append, Nat.ofDigits_append, List.length_reverse,
    List.length_map, placeValue, placeValue]
  ring

theorem placeValue_singleton (c : Char) : placeValue [c] = digitOf c := by
  simp [placeValue]

theorem placeValue_cons (c : Char) (cs : List Char) :
    placeValue (c :: cs) = digitOf c * 10 ^ cs.length + placeValue cs := by
  rw [← List.singleton_append, placeValue_append, placeValue_singleton]

theorem placeValue_lt (hc : ∀ c ∈ cs, c.isDigit) : placeValue cs < 10 ^ cs.length := by
  have h := Nat.ofDigits_lt_base_pow_length (b := 10) (l := (cs.map digitOf).reverse) (by decide) ?_
  · rwa [List.length_reverse, List.length_map] at h
  · intro n hn
    obtain ⟨c, hmem, rfl⟩ := List.mem_map.1 (List.mem_reverse.1 hn)
    exact digitOf_lt (hc c hmem)

/-- What follows the first digits is less than one of their places. -/
theorem placeValue_cons_lt {c d : Char} (hc : c.isDigit = true) (hd : d.isDigit = true)
    (hcs : ∀ c ∈ cs, c.isDigit) (hlength : cs.length = ds.length) (h : c < d) :
    placeValue (c :: cs) < placeValue (d :: ds) := by
  have hdigits : digitOf c + 1 ≤ digitOf d := (digitOf_lt_digitOf_iff hc hd).2 h
  have hplaces := Nat.mul_le_mul_right (10 ^ ds.length) hdigits
  have hrest := placeValue_lt hcs
  rw [Nat.succ_mul] at hplaces
  rw [placeValue_cons, placeValue_cons, hlength]
  rw [hlength] at hrest
  omega

theorem lt_iff_placeValue_lt (hc : ∀ c ∈ cs, c.isDigit) (hd : ∀ d ∈ ds, d.isDigit)
    (hlength : cs.length = ds.length) : cs < ds ↔ placeValue cs < placeValue ds := by
  induction cs generalizing ds with
  | nil =>
    obtain rfl : ds = [] := List.length_eq_zero_iff.1 hlength.symm
    simp
  | cons c cs ih =>
    cases ds with
    | nil => cases hlength
    | cons d ds =>
      obtain ⟨hcdigit, hcs⟩ := List.forall_mem_cons.1 hc
      obtain ⟨hddigit, hds⟩ := List.forall_mem_cons.1 hd
      have hrest : cs.length = ds.length := Nat.succ.inj hlength
      rw [List.cons_lt_cons_iff]
      rcases lt_trichotomy c d with hlt | rfl | hlt
      · exact iff_of_true (.inl hlt) (placeValue_cons_lt hcdigit hddigit hcs hrest hlt)
      · rw [placeValue_cons, placeValue_cons, hrest, ih hcs hds hrest]
        simp
      · have hvalues := placeValue_cons_lt hddigit hcdigit hds hrest.symm hlt
        refine iff_of_false ?_ (not_lt.2 hvalues.le)
        rintro (h | ⟨rfl, -⟩)
        · exact lt_irrefl c (h.trans hlt)
        · exact lt_irrefl c hlt

theorem eq_of_placeValue_eq (hc : ∀ c ∈ cs, c.isDigit) (hd : ∀ d ∈ ds, d.isDigit)
    (hlength : cs.length = ds.length) (h : placeValue cs = placeValue ds) : cs = ds := by
  rcases lt_trichotomy cs ds with hlt | heq | hlt
  · exact absurd ((lt_iff_placeValue_lt hc hd hlength).1 hlt) (h ▸ lt_irrefl _)
  · exact heq
  · exact absurd ((lt_iff_placeValue_lt hd hc hlength.symm).1 hlt) (h ▸ lt_irrefl _)

end MarketQuery.Number
