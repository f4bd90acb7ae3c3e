import Mathlib.Tactic.Common
import MarketQuery.Proofs.Provider.Contents

/-!
# What replies come to

A reply fails or brings a content. Which of both it does is told here without the reader of replies,
by a relation that tells what trees give.

* `IsSuccess`, `Fails`, `Brings`: the statuses that say yes; the failure of a reply; its content;
* `Brings.unique`: a reply brings one content;
* `readReply_eq_error_iff`, `readReply_eq_ok_iff`: a reply is read as what it comes to;
* `brings_of_octets`: octets that are read bring a content.
-/

namespace MarketQuery.Provider

open Json

/-- The status says that the request was met. -/
def IsSuccess (status : Nat) : Prop := 200 ≤ status ∧ status ≤ 299

theorem isSuccess_iff {status : Nat} : IsSuccess status ↔ 200 ≤ status ∧ status < 300 := by
  unfold IsSuccess
  omega

variable {α : Type}

/-- How a reply from an address fails. -/
inductive Fails (url : String) (Content : Tree → α → Prop) : Http.Reply → Failure → Prop
  | unreachable : Fails url Content .unreachable .transfer
  | broken : Fails url Content .broken .transfer
  | incomplete {status : Nat} {body? : Option (List UInt8)} (hs : IsSuccess status)
      (ho : octetsOf? status body? = none) : Fails url Content (.response status body?) .transfer
  | status {status : Nat} {body? : Option (List UInt8)} (hs : ¬ IsSuccess status) :
      Fails url Content (.response status body?) (.status status url)
  | decoding {status : Nat} {body? : Option (List UInt8)} {octets : List UInt8}
      (hs : IsSuccess status) (ho : octetsOf? status body? = some octets)
      (hd : ∀ tree content, Tree.read? (Text.ofOctets octets) = some tree →
        ¬ Content tree content) :
      Fails url Content (.response status body?) (.decoding url)

/-- A reply brings a content. -/
inductive Brings (Content : Tree → α → Prop) : Http.Reply → α → Prop
  | intro {status : Nat} {body? : Option (List UInt8)} {octets : List UInt8} {tree : Tree}
      {content : α} (hs : IsSuccess status) (ho : octetsOf? status body? = some octets)
      (ht : Tree.read? (Text.ofOctets octets) = some tree) (hc : Content tree content) :
      Brings Content (.response status body?) content

section Replies

variable {url : String} {decode : Tree → Option α} {Content : Tree → α → Prop}
  {reply : Http.Reply} (hreads : Reads decode Content)
include hreads

theorem decodeOctets?_eq_some_iff {octets : List UInt8} {content : α} :
    decodeOctets? decode octets = some content ↔
      ∃ tree, Tree.read? (Text.ofOctets octets) = some tree ∧ Content tree content := by
  simp only [decodeOctets?, Option.bind_eq_some_iff, hreads _ _]

theorem readReply_of_fails {e : Failure} (h : Fails url Content reply e) :
    readReply url decode reply = .error e := by
  cases h with
  | unreachable | broken => rfl
  | incomplete hs ho => rw [readReply, if_pos (isSuccess_iff.1 hs), ho]
  | status hs => rw [readReply, if_neg (mt isSuccess_iff.2 hs)]
  | @decoding _ _ octets hs ho hd =>
    have hnone : decodeOctets? decode octets = none := by
      refine Option.eq_none_iff_forall_ne_some.2 fun content hcontent => ?_
      obtain ⟨tree, ht, hc⟩ := (decodeOctets?_eq_some_iff hreads).1 hcontent
      exact hd tree content ht hc
    simp only [readReply, if_pos (isSuccess_iff.1 hs), ho, hnone]

theorem readReply_of_brings {content : α} (h : Brings Content reply content) :
    readReply url decode reply = .ok content := by
  obtain ⟨hs, ho, ht, hc⟩ := h
  have hcontent := (decodeOctets?_eq_some_iff hreads).2 ⟨_, ht, hc⟩
  simp only [readReply, if_pos (isSuccess_iff.1 hs), ho, hcontent]

/-- The characters of octets need not be made a text to be read. -/
theorem brings_of_octets {octets : List UInt8} {content : α}
    (h : (Tree.readList? (Text.ofOctetsFrom none octets)).bind decode = some content) :
    Brings Content (.response 200 (some octets)) content := by
  obtain ⟨tree, ht, hc⟩ := Option.bind_eq_some_iff.1 h
  have hread : Tree.read? (Text.ofOctets octets) = some tree := by
    rw [Tree.read?, Text.ofOctets, String.toList_ofList, ht]
  exact .intro (isSuccess_iff.2 (by decide)) rfl hread ((hreads _ _).1 hc)

theorem Brings.unique {a b : α} (ha : Brings Content reply a) (hb : Brings Content reply b) :
    a = b := by
  have hread : readReply "" decode reply = .ok a := readReply_of_brings hreads ha
  exact Except.ok.inj (hread.symm.trans (readReply_of_brings hreads hb))

omit hreads in
theorem fails_or_brings (url : String) (Content : Tree → α → Prop) (reply : Http.Reply) :
    (∃ e, Fails url Content reply e) ∨ ∃ content, Brings Content reply content := by
  cases reply with
  | unreachable => exact .inl ⟨_, .unreachable⟩
  | broken => exact .inl ⟨_, .broken⟩
  | response status body? =>
    by_cases hs : IsSuccess status
    · cases ho : octetsOf? status body? with
      | none => exact .inl ⟨_, .incomplete hs ho⟩
      | some octets =>
        by_cases hd : ∃ tree content, Tree.read? (Text.ofOctets octets) = some tree ∧
            Content tree content
        · obtain ⟨tree, content, ht, hc⟩ := hd
          exact .inr ⟨_, .intro hs ho ht hc⟩
        · exact .inl ⟨_, .decoding hs ho fun tree content ht hc => hd ⟨tree, content, ht, hc⟩⟩
    · exact .inl ⟨_, .status hs⟩

theorem readReply_eq_error_iff {e : Failure} :
    readReply url decode reply = .error e ↔ Fails url Content reply e := by
  refine ⟨fun h => ?_, readReply_of_fails hreads⟩
  rcases fails_or_brings url Content reply with ⟨e', he⟩ | ⟨content, hc⟩
  · rw [readReply_of_fails hreads he] at h
    exact Except.error.inj h ▸ he
  · rw [readReply_of_brings hreads hc] at h
    cases h

theorem readReply_eq_ok_iff {content : α} :
    readReply url decode reply = .ok content ↔ Brings Content reply content := by
  refine ⟨fun h => ?_, readReply_of_brings hreads⟩
  rcases fails_or_brings url Content reply with ⟨e, he⟩ | ⟨content', hc⟩
  · rw [readReply_of_fails hreads he] at h
    cases h
  · rw [readReply_of_brings hreads hc] at h
    exact Except.ok.inj h ▸ hc

/-- A reply does not fail and bring a content at once. -/
theorem Brings.not_fails {content : α} (h : Brings Content reply content) :
    ¬ ∃ e, Fails url Content reply e := by
  rintro ⟨e, he⟩
  cases (readReply_of_fails hreads he).symm.trans (readReply_of_brings hreads h)

end Replies

end MarketQuery.Provider
