import MarketQuery.Proofs.Number.Numerals
import MarketQuery.Proofs.Text.Trim
import MarketQuery.Symbol

/-!
# Identifiers of symbols

A symbol becomes an identifier once: what it becomes has a point and no blanks at its ends, so it is
left as it is from then on, as a security and as an index.

* `Text.toLower_eq_self_or`, `Text.isBlank_toLower`: small letters stand in the place of large ones,
  and blanks stay;
* `IndexLetters`, `SecurityLetters`, `IndexNumber`, `SecurityNumber`: the number of a market by the
  letters before a code, and by the code alone;
* `Distinguishes`, `splitMarket?_append`, `splitMarket?_eq_none`: letters are told apart from a
  code;
* `Identifies`, `Describes`, `securityId_eq_iff`, `indexId_eq_iff`: the identifier of a symbol, told
  by its form;
* `IsSettled`, `Identifies.isSettled`: a text with a point and no blanks at its ends;
* **`identifiers_stable`**: the forms of identifiers, and that they stay.
-/

namespace MarketQuery

/-! ## Letters and blanks -/

namespace Text

/-- Only the large letters of ASCII become others. -/
theorem toLower_eq_self_or (c : Char) :
    c.toLower = c ∨ 65 ≤ c.toNat ∧ c.toNat ≤ 90 ∧ c.toLower.toNat = c.toNat + 32 := by
  by_cases hupper : c.val ≥ 'A'.val ∧ c.val ≤ 'Z'.val
  · have hl : 65 ≤ c.toNat := hupper.1
    have hu : c.toNat ≤ 90 := hupper.2
    refine .inr ⟨hl, hu, ?_⟩
    have hlower : c.toLower.val = c.val + 32 := congrArg Char.val (dif_pos hupper)
    change c.toLower.val.toNat = c.val.toNat + 32
    rw [hlower, UInt32.toNat_add]
    change c.val.toNat ≤ 90 at hu
    exact Nat.mod_eq_of_lt (by change c.val.toNat + 32 < 2 ^ 32; omega)
  · exact .inl (dif_neg hupper)

theorem isBlank_toLower (c : Char) : isBlank c.toLower = isBlank c := by
  rcases toLower_eq_self_or c with h | ⟨hl, hu, h⟩
  · rw [h]
  · rw [isBlank_eq_false_of_lt (c := c) (by omega) (by omega),
      isBlank_eq_false_of_lt (by omega) (by omega)]

end Text

open Number (IsWord)
open Text

/-! ## The numbers of markets -/

/-- The letters, in either case, before the code of an index, and the number that they stand for. -/
inductive IndexLetters : List Char → Char → Prop
  | sh {word : List Char} (h : IsWord "sh" word) : IndexLetters word '1'
  | sz {word : List Char} (h : IsWord "sz" word) : IndexLetters word '0'

/-- The letters, in either case, before the code of a security, and the number that they stand
for. -/
inductive SecurityLetters : List Char → Char → Prop
  | index {word : List Char} {number : Char} (h : IndexLetters word number) :
      SecurityLetters word number
  | bj {word : List Char} (h : IsWord "bj" word) : SecurityLetters word '0'

/-- The number before the code of a security, by how the code starts. -/
inductive SecurityNumber : List Char → Char → Prop
  | started {c : Char} {rest : List Char} (h : c = '5' ∨ c = '6' ∨ c = '9') :
      SecurityNumber (c :: rest) '1'
  | other {code : List Char} (h : ∀ c ∈ code.head?, c ≠ '5' ∧ c ≠ '6' ∧ c ≠ '9') :
      SecurityNumber code '0'

/-- The number before the code of an index, by how the code starts. -/
inductive IndexNumber : List Char → Char → Prop
  | started {code : List Char} (h : "399".toList <+: code) : IndexNumber code '0'
  | other {code : List Char} (h : ¬ "399".toList <+: code) : IndexNumber code '1'

variable {word code core : List Char} {market : Market} {number : Char}

theorem indexLetters_iff : IndexLetters word number ↔
    ∃ market, (lowerList word, market) ∈ indexPrefixes ∧ market.number = number := by
  simp only [indexPrefixes, List.mem_cons, List.not_mem_nil, or_false, Prod.mk.injEq]
  constructor
  · intro h
    cases h with
    | sh h => exact ⟨.shanghai, .inl ⟨h, rfl⟩, rfl⟩
    | sz h => exact ⟨.shenzhen, .inr ⟨h, rfl⟩, rfl⟩
  · rintro ⟨_, ⟨h, rfl⟩ | ⟨h, rfl⟩, rfl⟩
    · exact .sh h
    · exact .sz h

theorem securityLetters_iff : SecurityLetters word number ↔
    ∃ market, (lowerList word, market) ∈ securityPrefixes ∧ market.number = number := by
  simp only [securityPrefixes, List.mem_append, List.mem_singleton, Prod.mk.injEq]
  constructor
  · intro h
    cases h with
    | index h =>
      obtain ⟨market, hmem, hnumber⟩ := indexLetters_iff.1 h
      exact ⟨market, .inl hmem, hnumber⟩
    | bj h => exact ⟨.shenzhen, .inr ⟨h, rfl⟩, rfl⟩
  · rintro ⟨market, hmem | ⟨h, rfl⟩, rfl⟩
    · exact .index (indexLetters_iff.2 ⟨market, hmem, rfl⟩)
    · exact .bj h

theorem securityNumber_iff :
    SecurityNumber code number ↔ (securityMarket code).number = number := by
  constructor
  · intro h
    cases h with
    | started h => rcases h with rfl | rfl | rfl <;> rfl
    | other h =>
      have hmarket : securityMarket code = .shenzhen := by
        fun_cases securityMarket code <;> simp_all
      rw [hmarket]
      rfl
  · rintro rfl
    fun_cases securityMarket code with
    | case1 => exact .started (.inl rfl)
    | case2 => exact .started (.inr (.inl rfl))
    | case3 => exact .started (.inr (.inr rfl))
    | case4 _ h5 h6 h9 =>
      refine .other fun c hc => ?_
      obtain ⟨rest, rfl⟩ := List.head?_eq_some_iff.1 hc
      exact ⟨fun h => h5 rest (h ▸ rfl), fun h => h6 rest (h ▸ rfl), fun h => h9 rest (h ▸ rfl)⟩

theorem indexNumber_iff : IndexNumber code number ↔ (indexMarket code).number = number := by
  constructor
  · intro h
    cases h with
    | started h =>
      obtain ⟨rest, rfl⟩ := h
      rfl
    | other h =>
      fun_cases indexMarket code with
      | case1 rest => exact absurd ⟨rest, rfl⟩ h
      | case2 => rfl
  · rintro rfl
    fun_cases indexMarket code with
    | case1 rest => exact .started ⟨rest, rfl⟩
    | case2 _ hnot =>
      refine .other ?_
      rintro ⟨rest, hrest⟩
      exact hnot rest hrest.symm

/-! ## Letters before a code -/

/-- A market is named by two letters, and no two letters name two markets. -/
def Distinguishes (prefixes : MarketPrefixes) : Prop :=
  (∀ p ∈ prefixes, p.1.length = 2) ∧ ∀ p ∈ prefixes, ∀ q ∈ prefixes, p.1 = q.1 → p = q

instance (prefixes : MarketPrefixes) : Decidable (Distinguishes prefixes) :=
  inferInstanceAs (Decidable (_ ∧ _))

variable {prefixes : MarketPrefixes}

theorem exists_of_splitMarket? {rest : List Char}
    (h : splitMarket? prefixes (lowerList core) = some (market, rest)) :
    ∃ word code, core = word ++ code ∧ (lowerList word, market) ∈ prefixes ∧
      rest = lowerList code := by
  obtain ⟨⟨letters, market'⟩, hmem, hsplit⟩ := List.exists_of_findSome?_eq_some h
  obtain ⟨hletters, hpair⟩ := Option.ite_none_right_eq_some.1 hsplit
  obtain ⟨rfl, rfl⟩ := Prod.mk.inj (Option.some.inj hpair)
  obtain ⟨rest, hrest⟩ := List.isPrefixOf_iff_prefix.1 hletters
  obtain ⟨word, code, rfl, rfl, hcode⟩ := List.map_eq_append_iff.1 hrest.symm
  refine ⟨word, code, rfl, hmem, ?_⟩
  rw [← hrest, List.drop_left, ← hcode]
  rfl

/-- The letters before a code are told apart from it by their number. -/
theorem splitMarket?_append (hp : Distinguishes prefixes)
    (hmem : (lowerList word, market) ∈ prefixes) :
    splitMarket? prefixes (lowerList (word ++ code)) = some (market, lowerList code) := by
  have hsome : (splitMarket? prefixes (lowerList (word ++ code))).isSome := by
    refine List.findSome?_isSome_iff.2 ⟨_, hmem, ?_⟩
    have hstarts : (lowerList word).isPrefixOf (lowerList (word ++ code)) = true :=
      List.isPrefixOf_iff_prefix.2 ⟨lowerList code, (List.map_append ..).symm⟩
    dsimp only
    rw [if_pos hstarts]
    rfl
  obtain ⟨⟨market', rest⟩, hsplit⟩ := Option.isSome_iff_exists.1 hsome
  obtain ⟨word', code', heq, hmem', rfl⟩ := exists_of_splitMarket? hsplit
  have hlength : word.length = word'.length := by
    have htwo := hp.1 _ hmem
    have htwo' := hp.1 _ hmem'
    simp only [lowerList, List.length_map] at htwo htwo'
    omega
  obtain ⟨rfl, rfl⟩ := List.append_inj heq hlength
  obtain ⟨-, rfl⟩ := Prod.mk.inj (hp.2 _ hmem _ hmem' rfl)
  exact hsplit

theorem splitMarket?_eq_none (h : ∀ word code market, core = word ++ code →
    (lowerList word, market) ∉ prefixes) : splitMarket? prefixes (lowerList core) = none := by
  rw [Option.eq_none_iff_forall_ne_some]
  rintro ⟨market, rest⟩ hsplit
  obtain ⟨word, code, heq, hmem, -⟩ := exists_of_splitMarket? hsplit
  exact h word code market heq hmem

/-! ## The forms of identifiers -/

/-- The identifier of a symbol, by the text between its blanks: that text itself if it has a point,
else a number, a point and its code, where the letters before the code give the number, or else the
start of the code does. The code behind letters has small letters only. -/
inductive Identifies (Letters NumberOf : List Char → Char → Prop) (s : String) : String → Prop
  | itself {core : List Char} (ht : TrimsTo s.toList core) (hpoint : '.' ∈ s.toList) :
      Identifies Letters NumberOf s (.ofList core)
  | lettered {word code : List Char} {number : Char} (ht : TrimsTo s.toList (word ++ code))
      (hpoint : '.' ∉ s.toList) (hword : Letters word number) :
      Identifies Letters NumberOf s (.ofList (number :: '.' :: lowerList code))
  | bare {core : List Char} {number : Char} (ht : TrimsTo s.toList core) (hpoint : '.' ∉ s.toList)
      (hbare : ∀ word code number, core = word ++ code → ¬ Letters word number)
      (hnumber : NumberOf core number) :
      Identifies Letters NumberOf s (.ofList (number :: '.' :: core))

/-- Letters and codes have the numbers that their markets have. -/
structure Describes (Letters NumberOf : List Char → Char → Prop) (prefixes : MarketPrefixes)
    (marketOf : List Char → Market) : Prop where
  distinguishes : Distinguishes prefixes
  letters : ∀ {word number}, Letters word number ↔
    ∃ market, (lowerList word, market) ∈ prefixes ∧ market.number = number
  numberOf : ∀ {code number}, NumberOf code number ↔ (marketOf code).number = number

namespace Describes

variable {Letters NumberOf : List Char → Char → Prop} {marketOf : List Char → Market} {s t : String}

theorem security : Describes SecurityLetters SecurityNumber securityPrefixes securityMarket where
  distinguishes := by decide
  letters := securityLetters_iff
  numberOf := securityNumber_iff

theorem index : Describes IndexLetters IndexNumber indexPrefixes indexMarket where
  distinguishes := by decide
  letters := indexLetters_iff
  numberOf := indexNumber_iff

theorem splitMarket?_eq_none_iff (hd : Describes Letters NumberOf prefixes marketOf) :
    splitMarket? prefixes (lowerList core) = none ↔
      ∀ word code number, core = word ++ code → ¬ Letters word number := by
  constructor
  · rintro hnone word code number rfl hword
    obtain ⟨market, hprefix, -⟩ := hd.letters.1 hword
    cases hnone.symm.trans (splitMarket?_append hd.distinguishes hprefix)
  · exact fun hbare => splitMarket?_eq_none fun word code market heq hprefix =>
      hbare word code _ heq (hd.letters.2 ⟨market, hprefix, rfl⟩)

theorem identify_of (hd : Describes Letters NumberOf prefixes marketOf)
    (h : Identifies Letters NumberOf s t) :
    .ofList (identify prefixes marketOf (trimList s.toList)) = t := by
  have hpoint {core : List Char} (ht : TrimsTo s.toList core) : '.' ∈ core ↔ '.' ∈ s.toList :=
    ht.mem_iff (by decide)
  cases h with
  | itself ht hmem => rw [trimList_eq_iff.2 ht, identify, if_pos ((hpoint ht).2 hmem)]
  | lettered ht hmem hword =>
    obtain ⟨market, hprefix, rfl⟩ := hd.letters.1 hword
    rw [trimList_eq_iff.2 ht, identify, if_neg fun h => hmem ((hpoint ht).1 h),
      splitMarket?_append hd.distinguishes hprefix]
    rfl
  | bare ht hmem hbare hnumber =>
    rw [trimList_eq_iff.2 ht, identify, if_neg fun h => hmem ((hpoint ht).1 h),
      hd.splitMarket?_eq_none_iff.2 hbare, ← hd.numberOf.1 hnumber]
    rfl

/-- A trimmed symbol without a point and without letters before a code is a code. -/
theorem identifies_bare (hd : Describes Letters NumberOf prefixes marketOf)
    (htrim : trimList s.toList = s.toList) (hpoint : '.' ∉ s.toList)
    (hnone : splitMarket? prefixes (lowerList s.toList) = none)
    (hnumber : NumberOf s.toList number) :
    Identifies Letters NumberOf s (.ofList (number :: '.' :: s.toList)) :=
  .bare (trimList_eq_iff.1 htrim) hpoint (hd.splitMarket?_eq_none_iff.1 hnone) hnumber

/-- Every symbol has an identifier. -/
theorem exists_identifies (hd : Describes Letters NumberOf prefixes marketOf) (s : String) :
    ∃ t, Identifies Letters NumberOf s t := by
  obtain ⟨core, ht⟩ := exists_trimsTo s.toList
  by_cases hpoint : '.' ∈ s.toList
  · exact ⟨_, .itself ht hpoint⟩
  · by_cases hword : ∃ word code number, core = word ++ code ∧ Letters word number
    · obtain ⟨word, code, number, rfl, hword⟩ := hword
      exact ⟨_, .lettered ht hpoint hword⟩
    · refine ⟨_, .bare ht hpoint (fun word code number heq hw => hword ?_) (hd.numberOf.2 rfl)⟩
      exact ⟨word, code, number, heq, hw⟩

theorem eq_iff (hd : Describes Letters NumberOf prefixes marketOf) {s t : String} :
    .ofList (identify prefixes marketOf (trimList s.toList)) = t ↔
      Identifies Letters NumberOf s t :=
  Number.eq_iff_of_exists (hd.exists_identifies s) fun _ => hd.identify_of

end Describes

theorem securityId_eq_iff {s t : String} :
    securityId s = t ↔ Identifies SecurityLetters SecurityNumber s t :=
  Describes.security.eq_iff

theorem indexId_eq_iff {s t : String} : indexId s = t ↔ Identifies IndexLetters IndexNumber s t :=
  Describes.index.eq_iff

/-! ## Identifiers stay -/

/-- A text with a point and no blanks at its ends. -/
structure IsSettled (s : String) : Prop where
  point : '.' ∈ s.toList
  trimmed : TrimsTo s.toList s.toList

variable {s t : String}

theorem IsSettled.identifies {Letters NumberOf : List Char → Char → Prop} (h : IsSettled s) :
    Identifies Letters NumberOf s s := by
  simpa only [String.ofList_toList] using
    (Identifies.itself h.trimmed h.point : Identifies Letters NumberOf s _)

theorem IsSettled.securityId_eq (h : IsSettled s) : securityId s = s :=
  securityId_eq_iff.2 h.identifies

theorem IsSettled.indexId_eq (h : IsSettled s) : indexId s = s :=
  indexId_eq_iff.2 h.identifies

theorem isBlank_number (market : Market) : isBlank market.number = false := by
  cases market <;> decide

/-- The number of a market starts with no blank, and a point ends it where there is no code. -/
theorem isSettled_numbered (market : Market) (hlast : ∀ c ∈ code.getLast?, isBlank c = false) :
    IsSettled (.ofList (market.number :: '.' :: code)) := by
  have hend : ∀ c ∈ (market.number :: '.' :: code).getLast?, isBlank c = false := by
    cases code with
    | nil => simpa using (by decide : isBlank '.' = false)
    | cons c cs => simpa [List.getLast?_cons_cons] using hlast
  have htrim : TrimsTo (market.number :: '.' :: code) (market.number :: '.' :: code) :=
    trimsTo_of_ends (by simpa using isBlank_number market) hend
  constructor <;> rw [String.toList_ofList]
  · simp
  · exact htrim

theorem Describes.isSettled {Letters NumberOf : List Char → Char → Prop}
    {marketOf : List Char → Market} (hd : Describes Letters NumberOf prefixes marketOf)
    (h : Identifies Letters NumberOf s t) : IsSettled t := by
  cases h with
  | itself ht hpoint =>
    have hmem := (ht.mem_iff (by decide)).2 hpoint
    refine ⟨by rwa [String.toList_ofList], ?_⟩
    rw [String.toList_ofList]
    exact ht.trimmed
  | lettered ht _ hword =>
    obtain ⟨market, -, rfl⟩ := hd.letters.1 hword
    refine isSettled_numbered market fun c hc => ?_
    obtain ⟨d, hd, rfl⟩ := Option.mem_map.1 (List.getLast?_map ▸ hc)
    rw [isBlank_toLower]
    refine ht.getLast d ?_
    rw [List.getLast?_append, hd, Option.some_or]
    rfl
  | bare ht _ _ hnumber =>
    rw [← hd.numberOf.1 hnumber]
    exact isSettled_numbered _ ht.getLast

theorem Identifies.between {Letters NumberOf : List Char → Char → Prop} {before after : String}
    (hbefore : ∀ c ∈ before.toList, isBlank c = true)
    (hafter : ∀ c ∈ after.toList, isBlank c = true) (h : Identifies Letters NumberOf s t) :
    Identifies Letters NumberOf (before ++ s ++ after) t := by
  have htext : (before ++ s ++ after).toList = before.toList ++ s.toList ++ after.toList := by
    rw [String.toList_append, String.toList_append]
  have hpoint : '.' ∈ (before ++ s ++ after).toList ↔ '.' ∈ s.toList := by
    have hblank {cs : List Char} (hcs : ∀ c ∈ cs, isBlank c = true) : '.' ∉ cs :=
      fun hmem => absurd (hcs '.' hmem) (by decide)
    simp [htext, hblank hbefore, hblank hafter]
  cases h with
  | itself ht hmem => exact .itself (htext ▸ ht.between hbefore hafter) (hpoint.2 hmem)
  | lettered ht hmem hword =>
    exact .lettered (htext ▸ ht.between hbefore hafter) (hpoint.not.2 hmem) hword
  | bare ht hmem hbare hnumber =>
    exact .bare (htext ▸ ht.between hbefore hafter) (hpoint.not.2 hmem) hbare hnumber

/-- The letters for an index are letters for a security. -/
theorem securityId_eq_indexId (h : '.' ∈ s.toList ∨
    ∃ word code number, TrimsTo s.toList (word ++ code) ∧ IndexLetters word number) :
    securityId s = indexId s := by
  rw [securityId_eq_iff]
  by_cases hpoint : '.' ∈ s.toList
  · obtain ⟨core, ht⟩ := exists_trimsTo s.toList
    rw [indexId_eq_iff.2 (.itself ht hpoint)]
    exact .itself ht hpoint
  · obtain ⟨word, code, number, ht, hword⟩ := h.resolve_left hpoint
    rw [indexId_eq_iff.2 (.lettered ht hpoint hword)]
    exact .lettered ht hpoint (.index hword)

/-- **Identifiers stay.** The identifier of a symbol is the text between its blanks if that has a
point, and else 0 or 1 and a point before the code. It has a point itself, it is the same whatever
blanks are around the symbol, and it is its own identifier, be it that of a security or of an index.
The two are the same for symbols that have a point or start with the letters of an index's
market. -/
theorem identifiers_stable (s : String) :
    ((∀ t, securityId s = t ↔ Identifies SecurityLetters SecurityNumber s t) ∧
      ∀ t, indexId s = t ↔ Identifies IndexLetters IndexNumber s t) ∧
    ('.' ∈ (securityId s).toList ∧ '.' ∈ (indexId s).toList) ∧
    (∀ before after : String, (∀ c ∈ before.toList, isBlank c = true) →
      (∀ c ∈ after.toList, isBlank c = true) →
      securityId (before ++ s ++ after) = securityId s ∧
        indexId (before ++ s ++ after) = indexId s) ∧
    (∀ t, t = securityId s ∨ t = indexId s → securityId t = t ∧ indexId t = t) ∧
    (('.' ∈ s.toList ∨
        ∃ word code number, TrimsTo s.toList (word ++ code) ∧ IndexLetters word number) →
      securityId s = indexId s) := by
  have hsecurity := securityId_eq_iff.1 (rfl : securityId s = _)
  have hindex := indexId_eq_iff.1 (rfl : indexId s = _)
  have hsettled := Describes.security.isSettled hsecurity
  have hsettled' := Describes.index.isSettled hindex
  refine ⟨⟨fun _ => securityId_eq_iff, fun _ => indexId_eq_iff⟩,
    ⟨hsettled.point, hsettled'.point⟩, ?_, ?_, securityId_eq_indexId⟩
  · intro before after hbefore hafter
    exact ⟨securityId_eq_iff.2 (hsecurity.between hbefore hafter),
      indexId_eq_iff.2 (hindex.between hbefore hafter)⟩
  · rintro t (rfl | rfl)
    · exact ⟨hsettled.securityId_eq, hsettled.indexId_eq⟩
    · exact ⟨hsettled'.securityId_eq, hsettled'.indexId_eq⟩

/-- Letters in either case before a code with a blank and large letters; letters of a security's
market that an index has not, and that leave no code; codes alone, where a security and an index
differ; and identifiers taken again, with blanks around them. -/
theorem identifiers_stable_lettered :
    (securityId " Sh 6OO\t" = "1. 6oo" ∧ indexId " Sh 6OO\t" = "1. 6oo") ∧
    (securityId "bJ" = "0." ∧ indexId "bJ" = "1.bJ") ∧
    (securityId "600519" = "1.600519" ∧ securityId "000001" = "0.000001") ∧
    (indexId "399001" = "0.399001" ∧ indexId "000001" = "1.000001") ∧
    securityId "\t1. 6oo\n" = "1. 6oo" ∧ indexId "1. 6oo" = "1. 6oo" := by
  have hsecurity {s t : String} : securityId s = t ↔ _ := (identifiers_stable s).1.1 t
  have hindex {s t : String} : indexId s = t ↔ _ := (identifiers_stable s).1.2 t
  have htrim : TrimsTo " Sh 6OO\t".toList ("Sh".toList ++ " 6OO".toList) :=
    trimList_eq_iff.1 (by decide)
  have hsh : securityId " Sh 6OO\t" = "1. 6oo" :=
    hsecurity.2 (.lettered htrim (by decide) (.index (.sh (by decide))))
  have hsame := (identifiers_stable " Sh 6OO\t").2.2.2.2
    (.inr ⟨"Sh".toList, " 6OO".toList, '1', htrim, .sh (by decide)⟩)
  have hagain := (identifiers_stable " Sh 6OO\t").2.2.2.1 "1. 6oo" (.inl hsh.symm)
  have hbetween := (identifiers_stable "1. 6oo").2.2.1 "\t" "\n"
    (List.forall_mem_singleton.2 (by decide)) (List.forall_mem_singleton.2 (by decide))
  have hbj : SecurityLetters "bJ".toList '0' := .bj (by decide)
  have htrimBj : TrimsTo "bJ".toList ("bJ".toList ++ []) := trimList_eq_iff.1 (by decide)
  refine ⟨⟨hsh, hsame.symm.trans hsh⟩, ⟨?_, ?_⟩, ⟨?_, ?_⟩, ⟨?_, ?_⟩,
    hbetween.1.trans hagain.1, hagain.2⟩
  · exact hsecurity.2 (.lettered htrimBj (by decide) hbj)
  · exact hindex.2 (Describes.index.identifies_bare (by decide) (by decide) (by decide)
      (.other (by decide)))
  · exact hsecurity.2 (Describes.security.identifies_bare (by decide) (by decide) (by decide)
      (.started (by decide)))
  · have hzero : ∀ c ∈ some '0', c ≠ '5' ∧ c ≠ '6' ∧ c ≠ '9' := by simp
    exact hsecurity.2 (Describes.security.identifies_bare (by decide) (by decide) (by decide)
      (.other hzero))
  · exact hindex.2 (Describes.index.identifies_bare (by decide) (by decide) (by decide)
      (.started (by decide)))
  · exact hindex.2 (Describes.index.identifies_bare (by decide) (by decide) (by decide)
      (.other (by decide)))

end MarketQuery
