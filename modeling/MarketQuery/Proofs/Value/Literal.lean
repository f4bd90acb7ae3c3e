import MarketQuery.Proofs.Binding.Parameter
import MarketQuery.Proofs.Cell.Characters
import MarketQuery.Proofs.Number.Closest
import MarketQuery.Proofs.Value.Coercion

/-!
# What the literal of a value tells

An integer is written as itself and not as the number that a float parameter takes it for, but the
text tells that number too, by what it is read as.

* `Number.isReal_intText`: a written integer is read as the number nearest to it;
* `Number.IsReal.unique`, `intText_injective`, `boolText_injective`: a text is that of one value;
* `isNumberChar_of_mem_literal`: the characters of a literal that is not quoted;
* **`eq_of_literal_eq`**: a parameter that takes no texts holds one value for all texts whose values
  have the same literal.
-/

namespace MarketQuery

/-! ## Texts of one value -/

namespace Number

/-- A written integer is read as the number nearest to it. -/
theorem isReal_intText (n : Int64) : IsReal (intText n).toList (.ofInt n.toInt) := by
  obtain ⟨code, hcode, hnearest⟩ := exists_ofInt n
  obtain ⟨numeral, hread, hvalue⟩ := exists_numeral?_of_isPlain (isPlain_intText n)
  have hreal : IsReal (intText n).toList (.ofCode (decide (n.toInt < 0)) code) :=
    isReal_of_numeral? hread (by rwa [hvalue])
  rwa [Binary64.ofCode, dif_pos code.isLt, ← hcode] at hreal

theorem IsReal.unique {cs : List Char} {x y : Binary64} (hx : IsReal cs x) (hy : IsReal cs y) :
    x = y :=
  Option.some.inj ((readBinary64?_eq_some_iff.2 hx).symm.trans (readBinary64?_eq_some_iff.2 hy))

end Number

open Number

theorem intText_injective : Function.Injective intText := by
  intro m n h
  have hdigits : ofInt false m.toInt = ofInt false n.toInt := String.ofList_injective h
  have hm := isDecimal_ofInt m.toInt
  rw [hdigits] at hm
  exact Int64.toInt_inj.1 (hm.unique (isDecimal_ofInt n.toInt))

theorem boolText_injective : Function.Injective boolText := by decide

/-! ## Literals of held values -/

variable {k : Kind} {raw raw' : String} {v w : Value}

theorem eq_of_holds (hv : k.Holds raw v) (hw : k.Holds raw w) : v = w := by
  let p : Param := { name := "", kind := k }
  have hpv : p.accept? raw = some v := accept?_eq_some_iff.2 hv
  have hpw : p.accept? raw = some w := accept?_eq_some_iff.2 hw
  exact Option.some.inj (hpv.symm.trans hpw)

/-- The literal is read as the number that a float parameter holds, also where it is that of an
integer. -/
theorem exists_isReal_literal_of_holds (h : Kind.float.Holds raw v) :
    ∃ x, v = .float x ∧ IsReal (Value.coerce raw).literal.toList x := by
  rcases h with ⟨n, hn, rfl⟩ | ⟨x, hx, rfl⟩
  · exact ⟨_, rfl, hn ▸ isReal_intText n⟩
  · exact ⟨x, rfl, hx ▸ isReal_write .plain x⟩

theorem isNumberChar_of_mem_literal (hk : k ≠ .string) (h : k.Takes (Value.coerce raw).kind) :
    ∀ c ∈ (Value.coerce raw).literal.toList, IsNumberChar c := by
  cases hvalue : Value.coerce raw with
  | text s =>
    rw [hvalue] at h
    cases k with
    | string => exact absurd rfl hk
    | integer | boolean => cases h
    | float => rcases h with h | h <;> cases h
  | bool b => exact Value.isNumberChar_of_mem_display (v := .bool b) (by simp)
  | int n => exact Value.isNumberChar_of_mem_display (v := .int n) (by simp)
  | float x => exact Value.isNumberChar_of_mem_display (v := .float x) (by simp)

/-- **The literal tells what is held**, if no text is taken. -/
theorem eq_of_literal_eq (hk : k ≠ .string) (hv : k.Holds raw v) (hw : k.Holds raw' w)
    (h : (Value.coerce raw).literal = (Value.coerce raw').literal) : v = w := by
  cases k with
  | string => exact absurd rfl hk
  | integer =>
    obtain ⟨m, hm, rfl⟩ := hv
    obtain ⟨n, hn, rfl⟩ := hw
    rw [hm, hn] at h
    exact congrArg Value.int (intText_injective h)
  | boolean =>
    obtain ⟨b, hb, rfl⟩ := hv
    obtain ⟨b', hb', rfl⟩ := hw
    rw [hb, hb'] at h
    exact congrArg Value.bool (boolText_injective h)
  | float =>
    obtain ⟨x, rfl, hx⟩ := exists_isReal_literal_of_holds hv
    obtain ⟨y, rfl, hy⟩ := exists_isReal_literal_of_holds hw
    rw [h] at hx
    exact congrArg Value.float (hx.unique hy)

end MarketQuery
