import Mathlib

/-!
# Library: mutual exclusion in a pool

A pool is a list in which elements are added at the end and replaced in their place.  The
elements with a property (those that hold a lock, those in the middle of something) are
counted by `filter`; at most one of them is what mutual exclusion says.
-/

namespace Workbench.Library

open List

universe u

variable {α : Type u} {pool : List α} {index : Nat} {element : α}

/-- A pool split at one of its places. -/
structure SplitAt (pool : List α) (index : Nat) (element : α) (before after : List α) : Prop where
  eq : pool = before ++ element :: after
  set : ∀ other, pool.set index other = before ++ other :: after
  eraseIdx : pool.eraseIdx index = before ++ after

section

variable {p : α → Bool} {other : α} (h : pool[index]? = some element)
include h

theorem exists_splitAt : ∃ before after, SplitAt pool index element before after := by
  induction pool generalizing index with
  | nil => cases h
  | cons head tail ih =>
    cases index with
    | zero =>
      cases h
      exact ⟨[], tail, rfl, fun _ => rfl, rfl⟩
    | succ index =>
      obtain ⟨before, after, hsplit⟩ := ih h
      refine ⟨head :: before, after, ?_, fun other => ?_, ?_⟩
      · rw [hsplit.eq, cons_append]
      · rw [set_cons_succ, hsplit.set other, cons_append]
      · rw [eraseIdx_cons_succ, hsplit.eraseIdx, cons_append]

/-- Replacing an element without the property by another one without it. -/
theorem filter_set_of_neg (hold : p element = false)
    (hnew : p other = false) : (pool.set index other).filter p = pool.filter p := by
  obtain ⟨before, after, hsplit⟩ := exists_splitAt h
  rw [hsplit.set, hsplit.eq, filter_append, filter_append, filter_cons_of_neg
    (by simp [hnew]), filter_cons_of_neg (by simp [hold])]

/-- The only element with the property gets replaced. -/
theorem filter_set_of_only (hold : p element) (honly : pool.filter p = [element])
    (other : α) : (pool.set index other).filter p = [other].filter p := by
  obtain ⟨before, after, hsplit⟩ := exists_splitAt h
  rw [hsplit.eq, filter_append, filter_cons_of_pos hold, append_eq_singleton_iff] at honly
  obtain ⟨hbefore, hrest⟩ | ⟨_, hrest⟩ := honly
  · rw [hsplit.set, filter_append, hbefore, nil_append, filter_cons,
      (cons_eq_cons.mp hrest).2, filter_cons, filter_nil]
  · cases hrest

/-- Where no element has the property, the new one is the only one that can have it. -/
theorem filter_set_of_none (hnone : pool.filter p = [])
    (other : α) : (pool.set index other).filter p = [other].filter p := by
  obtain ⟨before, after, hsplit⟩ := exists_splitAt h
  rw [hsplit.eq, filter_append, append_eq_nil_iff, filter_cons] at hnone
  have hafter : after.filter p = [] := by
    have hrest := hnone.2
    split at hrest
    · cases hrest
    · exact hrest
  rw [hsplit.set, filter_append, hnone.1, nil_append, filter_cons, hafter, filter_cons, filter_nil]

/-- No more elements have the property when one is replaced that already had it. -/
theorem length_filter_set_le (himp : p other → p element) :
    ((pool.set index other).filter p).length ≤ (pool.filter p).length := by
  obtain ⟨before, after, hsplit⟩ := exists_splitAt h
  rw [hsplit.set, hsplit.eq, filter_append, filter_append, length_append,
    length_append, filter_cons, filter_cons]
  by_cases hnew : p other = true
  · rw [if_pos hnew, if_pos (himp hnew)]
    simp only [length_cons]
    omega
  · rw [if_neg hnew]
    split
    · rw [length_cons]
      omega
    · exact Nat.le_refl _

/-- With at most one element that has the property, no other element has it. -/
theorem neg_of_mem_eraseIdx (hold : p element)
    (hone : (pool.filter p).length ≤ 1) (hother : other ∈ pool.eraseIdx index) :
    p other = false := by
  obtain ⟨before, after, hsplit⟩ := exists_splitAt h
  rw [hsplit.eq, filter_append, filter_cons_of_pos hold, length_append, length_cons] at hone
  have hnone : (before ++ after).filter p = [] := by
    rw [← length_eq_zero_iff, filter_append, length_append]
    omega
  rw [hsplit.eraseIdx] at hother
  exact Bool.eq_false_iff.mpr fun hp => by
    have hmem : other ∈ (before ++ after).filter p := mem_filter.mpr ⟨hother, hp⟩
    rw [hnone] at hmem
    cases hmem

end

/-- What stands at a place of a pool in which one element has been replaced. -/
theorem getElem?_set_cases {place : Nat} {other found : α}
    (h : (pool.set index other)[place]? = some found) :
    (place = index ∧ found = other) ∨ (place ≠ index ∧ pool[place]? = some found) := by
  by_cases hplace : place = index
  · subst hplace
    rw [getElem?_set] at h
    simp only [if_true] at h
    split at h
    · exact .inl ⟨rfl, (Option.some.inj h).symm⟩
    · cases h
  · rw [getElem?_set_ne (Ne.symm hplace)] at h
    exact .inr ⟨hplace, h⟩

/-- What stands at a place of a pool to which one element has been added. -/
theorem getElem?_concat_cases {place : Nat} {other found : α}
    (h : (pool ++ [other])[place]? = some found) :
    (place = pool.length ∧ found = other) ∨ pool[place]? = some found := by
  rw [getElem?_append] at h
  split at h
  · exact .inr h
  have hplace : place - pool.length = 0 := by
    have hlt := (List.getElem?_eq_some_iff.mp h).1
    simpa using hlt
  rw [hplace] at h
  exact .inl ⟨by omega, (Option.some.inj h).symm⟩

/-- How one place of a pool changes: its element becomes a related one, or one is added. -/
inductive Kept (R : α → α → Prop) (New : α → Prop) : Option α → Option α → Prop where
  | absent : Kept R New none none
  | added {new : α} (h : New new) : Kept R New none (some new)
  | kept {old new : α} (h : R old new) : Kept R New (some old) (some new)

/-- A pool in which every element stays in its place, as a related one. -/
def PoolKept (R : α → α → Prop) (New : α → Prop) (pool pool' : List α) : Prop :=
  ∀ place : Nat, Kept R New pool[place]? pool'[place]?

namespace PoolKept

variable {R : α → α → Prop} {New : α → Prop} {pool' : List α}

theorem refl (hrefl : ∀ a, R a a) (pool : List α) : PoolKept R New pool pool := by
  intro place
  cases pool[place]? with
  | none => exact .absent
  | some a => exact .kept (hrefl a)

variable {new : α}

theorem set (hrefl : ∀ a, R a a) (h : pool[index]? = some element) (hnew : R element new) :
    PoolKept R New pool (pool.set index new) := by
  intro place
  by_cases heq : place = index
  · rw [heq, h, getElem?_set_self (List.getElem?_eq_some_iff.mp h).1]
    exact .kept hnew
  · rw [getElem?_set_ne (Ne.symm heq)]
    exact refl hrefl pool place

theorem concat (hrefl : ∀ a, R a a) (hnew : New new) : PoolKept R New pool (pool ++ [new]) := by
  intro place
  by_cases hlt : place < pool.length
  · rw [getElem?_append_left hlt]
    exact refl hrefl pool place
  · rw [getElem?_eq_none (Nat.le_of_not_lt hlt), getElem?_append_right (Nat.le_of_not_lt hlt)]
    cases place - pool.length with
    | zero => exact .added hnew
    | succ n => exact .absent

theorem map {f : α → α} (h : ∀ a, R a (f a)) : PoolKept R New pool (pool.map f) := by
  intro place
  rw [getElem?_map]
  cases pool[place]? with
  | none => exact .absent
  | some a => exact .kept (h a)

/-- Where an element came from. -/
theorem back (h : PoolKept R New pool pool') {place : Nat} (hplace : pool'[place]? = some new) :
    (pool[place]? = none ∧ New new) ∨ ∃ old, pool[place]? = some old ∧ R old new := by
  have hkept := h place
  rw [hplace] at hkept
  generalize pool[place]? = before at hkept
  cases hkept with
  | added hnew => exact .inl ⟨rfl, hnew⟩
  | kept hold => exact .inr ⟨_, rfl, hold⟩

/-- What became of an element. -/
theorem forth (h : PoolKept R New pool pool') {place : Nat} {old : α}
    (hplace : pool[place]? = some old) : ∃ new, pool'[place]? = some new ∧ R old new := by
  have hkept := h place
  rw [hplace] at hkept
  generalize pool'[place]? = after at hkept
  cases hkept with
  | kept hnew => exact ⟨_, rfl, hnew⟩

end PoolKept

/-- A sum over a pool in which one element has been replaced. -/
theorem sum_map_set (f : α → Nat) (h : pool[index]? = some element) (other : α) :
    ((pool.set index other).map f).sum + f element = (pool.map f).sum + f other := by
  obtain ⟨before, after, hsplit⟩ := exists_splitAt h
  rw [hsplit.set, hsplit.eq]
  simp only [map_append, map_cons, sum_append, sum_cons]
  omega

/-- Any other element is still there when one has been taken out. -/
theorem mem_eraseIdx_of_ne {other : α} (h : pool[index]? = some element)
    (hmem : other ∈ pool) (hne : other ≠ element) : other ∈ pool.eraseIdx index := by
  obtain ⟨before, after, hsplit⟩ := exists_splitAt h
  rw [hsplit.eq] at hmem
  rw [hsplit.eraseIdx]
  simp only [mem_append, mem_cons] at hmem ⊢
  obtain hmem | rfl | hmem := hmem
  · exact .inl hmem
  · exact absurd rfl hne
  · exact .inr hmem

end Workbench.Library
