import Mathlib
import SheetWire.Row.Encoding

/-!
# Groups of parts

How the parts of a text behave when they are grouped and glued together again. A group of
consecutive parts is the whole text or a shorter one (`intercalate_of_infix`), runs have at most the
length that was asked for (`runs_spec`), and at most as many parts are dealt out as should be
(`deal_spec`). Dealing out is `List.splitLengths` (`deal_eq_split_lengths`).
-/

namespace SheetWire

namespace Text

variable {α : Type} {sep : Char}

/-- No part holds the separator. -/
theorem notMem_of_mem_splitOn {text part : List Char} (h : part ∈ text.splitOn sep) :
    sep ∉ part := by
  induction text generalizing part with
  | nil =>
      obtain rfl := List.mem_singleton.mp h
      exact List.not_mem_nil
  | cons c rest ih =>
      by_cases hc : c = sep
      · subst hc
        rw [splitOn_cons_self, List.mem_cons] at h
        rcases h with rfl | h
        · exact List.not_mem_nil
        · exact ih h
      · obtain ⟨first, others, hparts⟩ :=
          List.exists_cons_of_ne_nil (List.splitOn_ne_nil sep rest)
        rw [splitOn_cons_of_ne hc, hparts, List.modifyHead_cons, List.mem_cons] at h
        rw [hparts] at ih
        rcases h with rfl | h
        · exact List.not_mem_cons_of_ne_of_not_mem (Ne.symm hc) (ih List.mem_cons_self)
        · exact ih (List.mem_cons_of_mem _ h)

/-- A text has one part more than separators. -/
theorem length_splitOn (text : List Char) : (text.splitOn sep).length = text.count sep + 1 := by
  induction text with
  | nil => rfl
  | cons c rest ih =>
      by_cases hc : c = sep
      · subst hc
        rw [splitOn_cons_self, List.length_cons, ih, List.count_cons_self]
      · rw [splitOn_cons_of_ne hc, List.length_modifyHead, ih, List.count_cons_of_ne hc]

/-- A text is a single part exactly when it does not hold the separator. -/
theorem length_splitOn_eq_one {text : List Char} : (text.splitOn sep).length = 1 ↔ sep ∉ text := by
  rw [length_splitOn, Nat.add_eq_right, List.count_eq_zero]

/-- A text has at most one part more than characters. -/
theorem length_splitOn_le (text : List Char) : (text.splitOn sep).length ≤ text.length + 1 := by
  rw [length_splitOn]
  exact Nat.succ_le_succ List.count_le_length

/-- Characters other than the separator stand in front of the first part. -/
theorem splitOn_append_of_notMem {front : List Char} (h : sep ∉ front) (text : List Char) :
    (front ++ text).splitOn sep = (text.splitOn sep).modifyHead (front ++ ·) := by
  induction front with
  | nil => exact (congrFun List.modifyHead_id (text.splitOn sep)).symm
  | cons c front ih =>
      simp only [List.mem_cons, not_or] at h
      rw [List.cons_append, splitOn_cons_of_ne (Ne.symm h.1), ih h.2, List.modifyHead_modifyHead]
      rfl

/-- Gluing two lists of parts. -/
theorem intercalate_append {front back : List (List Char)} (hfront : front ≠ [])
    (hback : back ≠ []) :
    [sep].intercalate (front ++ back) =
      [sep].intercalate front ++ sep :: [sep].intercalate back := by
  induction front with
  | nil => exact absurd rfl hfront
  | cons part rest ih =>
      by_cases hrest : rest = []
      · subst hrest
        rw [List.intercalate_singleton]
        exact intercalate_cons_of_ne_nil sep part hback
      · have hjoined : rest ++ back ≠ [] := List.append_ne_nil_of_left_ne_nil hrest _
        rw [List.cons_append, intercalate_cons_of_ne_nil sep part hjoined, ih hrest,
          intercalate_cons_of_ne_nil sep part hrest, List.append_assoc, List.cons_append]

/-- The parts in front of a glued part each bring a separator, and so do those behind it. -/
theorem intercalate_around (front : List (List Char)) (part : List Char) (back : List (List Char)) :
    [sep].intercalate (front ++ part :: back) =
      front.flatMap (· ++ [sep]) ++ part ++ back.flatMap (sep :: ·) := by
  induction front with
  | nil =>
      induction back generalizing part with
      | nil => simp
      | cons next back ih =>
          rw [List.nil_append, intercalate_cons_of_ne_nil sep part (List.cons_ne_nil next back)]
          simpa using ih next
  | cons first front ih =>
      rw [List.cons_append, intercalate_cons_of_ne_nil sep first (by simp), ih]
      simp

/-- The parts of a text that ends with separators: its own parts and an empty one for each. -/
theorem splitOn_append_replicate (text : List Char) (count : Nat) :
    (text ++ List.replicate count sep).splitOn sep =
      text.splitOn sep ++ List.replicate count [] := by
  induction count generalizing text with
  | zero => rw [List.replicate_zero, List.replicate_zero, List.append_nil, List.append_nil]
  | succ count ih =>
      have hnil : (List.replicate count sep).splitOn sep = [] :: List.replicate count [] := ih []
      rw [List.replicate_succ, List.splitOn_append_cons_self, hnil, List.replicate_succ]

/-- The parts of glued texts are the parts of each of them, in order. -/
theorem splitOn_intercalate_flatMap {texts : List (List Char)} (h : texts ≠ []) :
    ([sep].intercalate texts).splitOn sep = texts.flatMap (List.splitOn sep) := by
  induction texts with
  | nil => exact absurd rfl h
  | cons text rest ih =>
      by_cases hrest : rest = []
      · subst hrest
        simp
      · rw [intercalate_cons_of_ne_nil sep text hrest, List.splitOn_append_cons_self, ih hrest,
          List.flatMap_cons]

/-- The characters of glued texts are those of the texts, and separators. -/
theorem mem_intercalate {parts : List (List Char)} {c : Char} (h : c ∈ [sep].intercalate parts) :
    c = sep ∨ ∃ part ∈ parts, c ∈ part := by
  induction parts with
  | nil => exact absurd h List.not_mem_nil
  | cons part rest ih =>
      by_cases hrest : rest = []
      · subst hrest
        rw [List.intercalate_singleton] at h
        exact .inr ⟨part, List.mem_cons_self, h⟩
      · rw [intercalate_cons_of_ne_nil sep part hrest, List.mem_append, List.mem_cons] at h
        rcases h with h | h | h
        · exact .inr ⟨part, List.mem_cons_self, h⟩
        · exact .inl h
        · rcases ih h with h | ⟨other, hother, hc⟩
          · exact .inl h
          · exact .inr ⟨other, List.mem_cons_of_mem part hother, hc⟩

/-- Parts are glued to no text if there are none, or a single empty one. -/
theorem intercalate_eq_nil {parts : List (List Char)} :
    [sep].intercalate parts = [] ↔ parts = [] ∨ parts = [[]] := by
  match parts with
  | [] => simp
  | [part] => simp
  | first :: second :: rest => simp [List.intercalate_cons_cons]

/-- The characters of a part are characters of the glued text. -/
theorem mem_intercalate_of_mem {parts : List (List Char)} {part : List Char} (h : part ∈ parts)
    (hc : c ∈ part) : c ∈ [sep].intercalate parts := by
  induction parts with
  | nil => exact absurd h List.not_mem_nil
  | cons first rest ih =>
      by_cases hrest : rest = []
      · subst hrest
        rwa [List.intercalate_singleton, ← List.mem_singleton.mp h]
      · rw [intercalate_cons_of_ne_nil sep first hrest, List.mem_append, List.mem_cons]
        rcases List.mem_cons.mp h with rfl | h
        · exact .inl hc
        · exact .inr (.inr (ih h))

/-- The characters of a part of a text are characters of the text. -/
theorem mem_of_mem_splitOn {text part : List Char} (h : part ∈ text.splitOn sep) (hc : c ∈ part) :
    c ∈ text := by
  have hglue : [sep].intercalate (text.splitOn sep) = text := List.intercalate_splitOn sep
  exact hglue ▸ mem_intercalate_of_mem h hc

/-- Consecutive parts of a text make up the whole text or a shorter one. -/
theorem intercalate_of_infix {group parts : List (List Char)} (h : group <:+: parts) :
    [sep].intercalate group = [sep].intercalate parts ∨
      ([sep].intercalate group).length < ([sep].intercalate parts).length := by
  obtain ⟨front, back, rfl⟩ := h
  -- What stands in front is added first, and what stands behind afterwards.
  have hfront : [sep].intercalate group = [sep].intercalate (front ++ group) ∨
      ([sep].intercalate group).length < ([sep].intercalate (front ++ group)).length := by
    by_cases hgroup : group = []
    · subst hgroup
      rw [List.append_nil]
      cases hglue : [sep].intercalate front with
      | nil => exact .inl rfl
      | cons c rest => exact .inr (Nat.succ_pos _)
    · by_cases hnil : front = []
      · exact .inl (by rw [hnil, List.nil_append])
      · right
        rw [intercalate_append hnil hgroup]
        simp only [List.length_append, List.length_cons]
        omega
  by_cases hback : back = []
  · rwa [hback, List.append_nil]
  · by_cases hnil : front ++ group = []
    · rw [List.append_eq_nil_iff] at hnil
      obtain ⟨rfl, rfl⟩ := hnil
      cases hglue : [sep].intercalate ([] ++ [] ++ back) with
      | nil => exact .inl rfl
      | cons c rest => exact .inr (Nat.succ_pos _)
    · right
      rw [intercalate_append hnil hback]
      simp only [List.length_append, List.length_cons]
      rcases hfront with hfront | hfront
      · rw [hfront]
        omega
      · omega

/-- A run is a group of consecutive elements, has at least one, and at most as many as asked for. -/
theorem runs_spec {length : Nat} {list run : List α} (h : run ∈ runs length list) :
    run <:+: list ∧ run ≠ [] ∧ run.length ≤ max 1 length := by
  induction list using runs.induct length with
  | case1 => exact absurd h (by simp [runs])
  | case2 first rest ih =>
      rw [runs, List.mem_cons] at h
      rcases h with rfl | h
      · refine ⟨?_, List.cons_ne_nil _ _, ?_⟩
        · exact (List.prefix_cons_inj first).mpr (List.take_prefix _ rest) |>.isInfix
        · rw [List.length_cons, List.length_take]
          omega
      · obtain ⟨hinside, hne, hlength⟩ := ih h
        refine ⟨hinside.trans ?_, hne, hlength⟩
        exact ((List.drop_suffix _ rest).trans (List.suffix_cons first rest)).isInfix

/-- A list that is no longer than one run is a single run. -/
theorem runs_of_length_le {length : Nat} {list : List α} (hne : list ≠ [])
    (h : list.length ≤ length) : runs length list = [list] := by
  cases list with
  | nil => exact absurd rfl hne
  | cons first rest =>
      rw [List.length_cons] at h
      rw [runs, List.take_of_length_le (by omega), List.drop_of_length_le (by omega), runs]

/-- Runs of one length come back from the list that they make up. -/
theorem runs_flatten {length : Nat} {groups : List (List α)} (hne : ∀ group ∈ groups, group ≠ [])
    (h : ∀ group ∈ groups, group.length = length) : runs length groups.flatten = groups := by
  induction groups with
  | nil => rw [List.flatten_nil, runs]
  | cons group groups ih =>
      rw [List.forall_mem_cons] at hne h
      obtain ⟨first, rest, rfl⟩ := List.exists_cons_of_ne_nil hne.1
      have hlength : length - 1 = rest.length := by
        rw [← h.1, List.length_cons, Nat.add_sub_cancel]
      rw [List.flatten_cons, List.cons_append, runs, hlength, List.take_left, List.drop_left,
        ih hne.2 h.2]

end Text

/-- Groups hold as many elements as their lengths sum to. -/
theorem capacity_eq_sum (lengths : List Nat) : capacity lengths = lengths.sum := by
  rw [capacity, List.sum_eq_foldr]

/-- Dealing out is the splitting of a list at given lengths. -/
theorem deal_eq_split_lengths {α : Type} (lengths : List Nat) (list : List α) :
    deal lengths list = lengths.splitLengths list := by
  induction lengths generalizing list with
  | nil => rfl
  | cons n lengths ih => rw [deal, List.splitLengths_cons, ih]

/-- As many groups are dealt out as lengths are given. -/
theorem length_deal {α : Type} (lengths : List Nat) (list : List α) :
    (deal lengths list).length = lengths.length := by
  rw [deal_eq_split_lengths, List.length_splitLengths]

/-- A group that is dealt out is a group of consecutive elements, at most as many as its length
says. -/
theorem deal_spec {α : Type} {lengths : List Nat} {list group : List α} {position : Nat}
    (h : (deal lengths list)[position]? = some group) :
    group <:+: list ∧ ∃ n, lengths[position]? = some n ∧ group.length ≤ n := by
  induction lengths generalizing list position with
  | nil => exact absurd h (by simp [deal])
  | cons n lengths ih =>
      cases position with
      | zero =>
          rw [deal, List.getElem?_cons_zero, Option.some.injEq] at h
          subst h
          exact ⟨(List.take_prefix n list).isInfix, n, rfl, List.length_take_le n list⟩
      | succ position =>
          rw [deal, List.getElem?_cons_succ] at h
          obtain ⟨hinside, hlength⟩ := ih h
          exact ⟨hinside.trans (List.drop_suffix n list).isInfix, hlength⟩

/-- Groups come back when the list that they make up is dealt out to their lengths. -/
theorem deal_flatten {α : Type} (groups : List (List α)) :
    deal (groups.map List.length) groups.flatten = groups := by
  induction groups with
  | nil => rfl
  | cons group groups ih =>
      rw [List.map_cons, List.flatten_cons, deal, List.take_left, List.drop_left, ih]

/-- Dealing out to some lengths and then to others. -/
theorem deal_append {α : Type} {lengths others : List Nat} {list rest : List α}
    (h : list.length = lengths.sum) :
    deal (lengths ++ others) (list ++ rest) = deal lengths list ++ deal others rest := by
  induction lengths generalizing list with
  | nil =>
      obtain rfl := List.eq_nil_of_length_eq_zero h
      rfl
  | cons n lengths ih =>
      rw [List.sum_cons] at h
      have hdrop : (list.drop n).length = lengths.sum := by
        rw [List.length_drop]
        omega
      rw [List.cons_append, deal, deal, List.take_append_of_le_length (by omega),
        List.drop_append_of_le_length (by omega), ih hdrop, List.cons_append]

end SheetWire
