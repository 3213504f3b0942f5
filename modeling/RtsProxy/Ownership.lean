import Mathlib.Data.Finset.Basic
import Mathlib.Data.List.Perm.Basic

/-!
# Ownership

What several owners hold of a pool of things, each of which has one owner at most: `Owned held
used` says that the things held, listed owner by owner, are all different and in use.

* `Owned.acquire`: things that were not in use get an owner;
* `Owned.release`: an owner gives up what it holds, and nothing else goes out of use;
* `Owned.not_mem_of_ne`: what one owner holds, no other does.
-/

/-- The things held have one owner each, and are in use. -/
structure Owned {α : Type*} (held : List α) (used : Finset α) : Prop where
  nodup : held.Nodup
  subset : ∀ x ∈ held, x ∈ used

namespace Owned

variable {α : Type*} {held held' l : List α} {used used' : Finset α}

theorem nil (used : Finset α) : Owned [] used :=
  ⟨List.nodup_nil, fun _ hx => absurd hx List.not_mem_nil⟩

/-- The order of the owners does not matter. -/
theorem perm (h : Owned held used) (hperm : held.Perm held') : Owned held' used :=
  ⟨hperm.nodup_iff.1 h.nodup, fun x hx => h.subset x (hperm.mem_iff.2 hx)⟩

/-- More may be in use than is held. -/
theorem mono (h : Owned held used) (hused : used ⊆ used') : Owned held used' :=
  ⟨h.nodup, fun x hx => hused (h.subset x hx)⟩

/-- Things that were not in use, and now are, get an owner. -/
theorem acquire (h : Owned held used) (hused : used ⊆ used') (hxs : l.Nodup)
    (hfresh : ∀ x ∈ l, x ∉ used ∧ x ∈ used') : Owned (l ++ held) used' := by
  refine ⟨List.nodup_append.2 ⟨hxs, h.nodup, ?_⟩, fun x hx => ?_⟩
  · rintro x hx y hy rfl
    exact (hfresh x hx).1 (h.subset x hy)
  · rcases List.mem_append.1 hx with hx | hx
    · exact (hfresh x hx).2
    · exact hused (h.subset x hx)

/-- One thing that was not in use gets an owner. -/
theorem acquire_insert [DecidableEq α] {x : α} (h : Owned held used) (hx : x ∉ used) :
    Owned (x :: held) (insert x used) :=
  h.acquire (l := [x]) (Finset.subset_insert x used) (List.nodup_singleton x) fun y hy => by
    rw [List.mem_singleton.1 hy]
    exact ⟨hx, Finset.mem_insert_self x used⟩

/-- An owner gives up what it holds, and nothing else goes out of use. -/
theorem release (h : Owned (l ++ held) used) (hrest : ∀ x ∈ used, x ∉ l → x ∈ used') :
    Owned held used' := by
  obtain ⟨-, hheld, hdisjoint⟩ := List.nodup_append.1 h.nodup
  refine ⟨hheld, fun x hx => hrest x (h.subset x (List.mem_append_right _ hx)) fun hmem => ?_⟩
  exact hdisjoint x hmem x hx rfl

/-- What one owner holds, no other does. -/
theorem not_mem_of_ne {ι : Type*} {owners : List ι} {holds : ι → List α}
    (h : Owned (owners.flatMap holds) used) {i j : Nat} {a b : ι} (hij : i ≠ j)
    (ha : owners[i]? = some a) (hb : owners[j]? = some b) {x : α} (hx : x ∈ holds a) :
    x ∉ holds b := by
  have hpairwise := (List.nodup_flatMap.1 h.nodup).2
  rw [List.pairwise_iff_getElem] at hpairwise
  obtain ⟨hi, rfl⟩ := List.getElem?_eq_some_iff.1 ha
  obtain ⟨hj, rfl⟩ := List.getElem?_eq_some_iff.1 hb
  intro hx'
  rcases Nat.lt_or_gt_of_ne hij with hlt | hlt
  · exact hpairwise i j hi hj hlt hx hx'
  · exact hpairwise j i hj hi hlt hx' hx

end Owned
