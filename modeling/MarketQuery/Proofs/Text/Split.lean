import Mathlib.Data.List.Basic
import MarketQuery.Text.Split

/-!
# The pieces of a text

* `splitAt_eq_splitOn`: a text is split as lists are at an element;
* `length_splitOn`: there is one piece more than there are separators.
-/

namespace MarketQuery.Text

theorem splitAt_eq_splitOn (separator : Char) (cs : List Char) :
    splitAt separator cs = cs.splitOn separator := by
  have h := List.splitOn_intercalate separator (fun _ => notMem_of_mem_splitAt)
    (splitAt_ne_nil separator cs)
  rw [← h]
  exact congrArg (List.splitOn separator) (join_splitAt separator cs)

theorem length_splitOn (separator : Char) (cs : List Char) :
    (cs.splitOn separator).length = cs.count separator + 1 := by
  induction cs with
  | nil => rfl
  | cons c cs ih =>
    rw [List.splitOn_cons_eq_if_modifyHead]
    by_cases h : c = separator
    · rw [if_pos (beq_iff_eq.2 h), List.length_cons, ih, h, List.count_cons_self]
    · rw [if_neg (mt beq_iff_eq.1 h), List.length_modifyHead, ih, List.count_cons_of_ne h]

end MarketQuery.Text
