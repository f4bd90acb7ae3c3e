import MarketQuery.Proofs.Number.Numerals
import MarketQuery.Proofs.Text.Width
import MarketQuery.Text.Unprintable

/-!
# Printable characters of ASCII

* `IsPrintableAscii`: the characters of a keyboard, the blank among them;
* `ne_lineFeed`, `widens_eq_false`, `isUnprintable_eq_false`: they break no line, widen nothing and
  have a printed form;
* `isUnprintable_of_ascii`, `width_of_isPrintableAscii`: texts of them are printed as they are and
  are as wide as they have characters;
* `isPrintableAscii_of_isNumberChar`: numbers and words are written with such characters.
-/

namespace MarketQuery.Text

/-- A printable character of ASCII or the blank. -/
def IsPrintableAscii (c : Char) : Prop := 0x20 ≤ c.toNat ∧ c.toNat ≤ 0x7E

instance (c : Char) : Decidable (IsPrintableAscii c) := inferInstanceAs (Decidable (_ ∧ _))

namespace IsPrintableAscii

variable {c : Char} (h : IsPrintableAscii c)
include h

theorem ne_lineFeed : c ≠ '\n' := by
  rintro rfl
  exact absurd h (by decide)

theorem widens_eq_false : widens c = false := by
  obtain ⟨hl, hu⟩ := h
  have hne {d : Char} (hd : 0x7E < d.toNat) : c ≠ d := by
    rintro rfl
    omega
  have hcontrol : isControl c = false := by
    simp only [isControl, Bool.or_eq_false_iff, Bool.and_eq_false_iff, decide_eq_false_iff_not]
    omega
  simp [widens, hcontrol, hne (d := '\ufe0f') (by decide), hne (d := '\ufe01') (by decide)]

theorem isUnprintable_eq_false : isUnprintable c = false := by
  have hapart : Ranges.Apart [(0x20, 0x7E)] unprintableRanges := by decide +kernel
  refine hapart.contains_eq_false ?_
  exact Ranges.contains_iff.2 ⟨(0x20, 0x7E), List.mem_singleton_self _, h.1, h.2⟩

/-- Such a character takes one column before another one. -/
theorem measure_eq : measure c {} = (1, {}) := by
  have hlatin : c.toNat ≤ 0xa0 := h.2.trans (by decide)
  have hreturn : c ≠ '\r' := by
    rintro rfl
    exact absurd h (by decide)
  simp [measure, hlatin, measureLatin, h.ne_lineFeed, hreturn]

end IsPrintableAscii

/-- The characters of a text can be tested. -/
theorem isPrintableAscii_of_all {cs : List Char}
    (h : (cs.all fun c => decide (IsPrintableAscii c)) = true) : ∀ c ∈ cs, IsPrintableAscii c :=
  fun c hc => of_decide_eq_true (List.all_eq_true.1 h c hc)

theorem isUnprintable_of_ascii {cs : List Char} (h : ∀ c ∈ cs, IsPrintableAscii c) :
    ∀ c ∈ cs, isUnprintable c = false :=
  fun c hc => (h c hc).isUnprintable_eq_false

theorem width_of_isPrintableAscii {s : String} (h : ∀ c ∈ s.toList, IsPrintableAscii c) :
    width s = s.length := by
  have hmeasure {cs : List Char} (hcs : ∀ c ∈ cs, IsPrintableAscii c) :
      measureAll cs = ((cs.length : Int), {}) := by
    induction cs with
    | nil => rfl
    | cons c cs ih =>
      obtain ⟨hc, hcs⟩ := List.forall_mem_cons.1 hcs
      rw [measureAll_cons, ih hcs, hc.measure_eq]
      rfl
  rw [width, hmeasure h, Int.toNat_natCast, String.length_toList]

variable {c : Char}

theorem isPrintableAscii_of_isAlphanum (h : c.isAlphanum = true) : IsPrintableAscii c := by
  rcases Bool.or_eq_true_iff.1 h with halpha | hdigit
  · rcases Bool.or_eq_true_iff.1 halpha with hupper | hlower
    · have hbounds : 65 ≤ c.toNat ∧ c.toNat ≤ 90 := of_decide_eq_true hupper
      exact ⟨by omega, by omega⟩
    · obtain ⟨hl, hu⟩ := Bool.and_eq_true_iff.1 hlower
      have hbounds : 97 ≤ c.toNat ∧ c.toNat ≤ 122 := ⟨of_decide_eq_true hl, of_decide_eq_true hu⟩
      exact ⟨by omega, by omega⟩
  · have hbounds : 48 ≤ c.toNat ∧ c.toNat ≤ 57 := Char.isDigit_iff_toNat.1 hdigit
    exact ⟨by omega, by omega⟩

theorem isPrintableAscii_of_isNumberChar (h : Number.IsNumberChar c) : IsPrintableAscii c := by
  rcases h with h | h
  · exact isPrintableAscii_of_isAlphanum h
  · exact isPrintableAscii_of_all (by decide) c h

end MarketQuery.Text
