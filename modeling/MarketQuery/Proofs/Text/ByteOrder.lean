import Mathlib.Data.String.Basic

/-!
# The order of texts and of their bytes

Texts are compared character by character. Their encodings in bytes are in the same order: of two
characters the greater has more bytes and a greater first one, or as many and greater ones from some
place on.

* `bytes`: the bytes of a text;
* `encode_append_lt`: two characters decide about the bytes, whatever follows them;
* **`bytes_lt_iff`**: texts are in the order of their bytes.
-/

namespace MarketQuery.Text

/-- The bytes of a text. -/
def bytes (s : String) : List UInt8 := s.toByteArray.data.toList

theorem bytes_ofList (cs : List Char) : bytes (.ofList cs) = cs.flatMap String.utf8EncodeChar := by
  simp [bytes, String.toByteArray_ofList, List.utf8Encode, List.data_toByteArray]

theorem ofNat_lt_ofNat_iff {m n : Nat} (hm : m < 256) (hn : n < 256) :
    UInt8.ofNat m < UInt8.ofNat n ↔ m < n := by
  rw [UInt8.lt_iff_toNat_lt, UInt8.toNat_ofNat', UInt8.toNat_ofNat', Nat.mod_eq_of_lt hm,
    Nat.mod_eq_of_lt hn]

theorem ofNat_eq_ofNat_iff {m n : Nat} (hm : m < 256) (hn : n < 256) :
    UInt8.ofNat m = UInt8.ofNat n ↔ m = n := by
  rw [← UInt8.toNat_inj, UInt8.toNat_ofNat', UInt8.toNat_ofNat', Nat.mod_eq_of_lt hm,
    Nat.mod_eq_of_lt hn]

/-- Numbers are compared by all but their last six bits, and then by these. -/
theorem lt_iff_div_mod (m n : Nat) :
    m < n ↔ m / 64 < n / 64 ∨ m / 64 = n / 64 ∧ m % 64 < n % 64 := by omega

theorem toNat_lt (c : Char) : c.val.toNat < 1114112 := by
  rcases c.valid with h | ⟨-, h⟩
  · exact Nat.lt_trans h (by decide)
  · exact h

theorem encode_append_lt {c d : Char} (h : c < d) (l l' : List UInt8) :
    String.utf8EncodeChar c ++ l < String.utf8EncodeChar d ++ l' := by
  have hlt : c.val.toNat < d.val.toNat := h
  have hd := toNat_lt d
  unfold String.utf8EncodeChar
  generalize c.val.toNat = m at hlt ⊢
  generalize d.val.toNat = n at hlt hd ⊢
  -- A byte behind the first has six bits, so the bytes are found by dividing by 64 again and again.
  have hdiv (k : Nat) : k / 4096 = k / 64 / 64 ∧ k / 262144 = k / 64 / 64 / 64 := by
    simp only [Nat.div_div_eq_div_mul, and_self]
  have hmod (k : Nat) (hk : k < 1114112) : k / 64 / 64 / 64 % 8 = k / 64 / 64 / 64 := by omega
  have h₁ := lt_iff_div_mod m n
  have h₂ := lt_iff_div_mod (m / 64) (n / 64)
  have h₃ := lt_iff_div_mod (m / 64 / 64) (n / 64 / 64)
  simp only [hdiv, hmod m (Nat.lt_trans hlt hd), hmod n hd]
  split_ifs <;> simp only [List.cons_append, List.nil_append, List.cons_lt_cons_iff]
  all_goals
    simp (disch := omega) only [ofNat_lt_ofNat_iff, ofNat_eq_ofNat_iff]
    omega

theorem flatMap_encode_lt {cs ds : List Char} (h : cs < ds) :
    cs.flatMap String.utf8EncodeChar < ds.flatMap String.utf8EncodeChar := by
  induction cs generalizing ds with
  | nil =>
    cases ds with
    | nil => exact absurd h (List.lt_irrefl [])
    | cons d ds =>
      obtain ⟨b, bs, hb⟩ := List.exists_cons_of_ne_nil (String.utf8EncodeChar_ne_nil (c := d))
      simp [hb]
  | cons c cs ih =>
    cases ds with
    | nil => exact absurd h (List.not_lt_nil _)
    | cons d ds =>
      rw [List.flatMap_cons, List.flatMap_cons]
      rcases List.cons_lt_cons_iff.1 h with hcd | ⟨rfl, hrest⟩
      · exact encode_append_lt hcd _ _
      · exact List.append_left_lt (ih hrest)

/-- **Texts are in the order of their bytes.** -/
theorem bytes_lt_iff {s t : String} : bytes s < bytes t ↔ s < t := by
  have hmono {s t : String} (h : s < t) : bytes s < bytes t := by
    have hlt := flatMap_encode_lt (String.lt_iff_toList_lt.1 h)
    rwa [← bytes_ofList, ← bytes_ofList, String.ofList_toList, String.ofList_toList] at hlt
  refine ⟨fun h => ?_, hmono⟩
  rcases lt_trichotomy s t with hst | rfl | hst
  · exact hst
  · exact absurd h (List.lt_irrefl _)
  · exact absurd h (List.lt_asymm (hmono hst))

end MarketQuery.Text
