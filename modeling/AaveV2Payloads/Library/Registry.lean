/-
**Registries that refuse what they already hold.**

A registry's state holds a set of keys; `insert` adds one key and reverts on a key that is there.
`insertAll` adds the keys of a list one after the other.

* `insertAll_of_fresh`, `fresh_of_insertAll` — **a whole list is added exactly when no key of it is
  held before and none is repeated**; the state then holds the old keys and the list's.
-/

import AaveV2Payloads.Library.Execution

namespace Solidity

/-- A set of keys behind an interface: what a state holds, and how a key is added. -/
structure Registry (σ κ : Type) where
  holds : σ → κ → Prop
  insert : κ → Tx σ Unit

namespace Registry

variable {σ κ : Type}

/-- `insert` adds a key that is not there, and refuses one that is. -/
structure Lawful (registry : Registry σ κ) : Prop where
  insert_fresh : ∀ key before, ¬ registry.holds before key →
    ∃ after, registry.insert key before = .ok ((), after) ∧
      ∀ other, registry.holds after other ↔ other = key ∨ registry.holds before other
  insert_held : ∀ key before, registry.holds before key →
    ∃ reason, registry.insert key before = .error reason

/-- Adds the keys in order; a refusal undoes them all. -/
def insertAll (registry : Registry σ κ) : List κ → Tx σ Unit
  | [] => pure ()
  | key :: rest => do
      registry.insert key
      registry.insertAll rest

variable {registry : Registry σ κ}

/-- An insertion that went through. -/
theorem Lawful.inserted (lawful : registry.Lawful) {key : κ} {before after : σ}
    (ran : registry.insert key before = .ok ((), after)) : ¬ registry.holds before key ∧
      ∀ other, registry.holds after other ↔ other = key ∨ registry.holds before other := by
  have fresh : ¬ registry.holds before key := by
    intro held
    obtain ⟨reason, refused⟩ := lawful.insert_held key before held
    rw [refused] at ran
    cases ran
  obtain ⟨next, inserted, contents⟩ := lawful.insert_fresh key before fresh
  rw [inserted] at ran
  cases ran
  exact ⟨fresh, contents⟩

/-- **Fresh keys without repetition are all added.** -/
theorem insertAll_of_fresh (lawful : registry.Lawful) (keys : List κ) : ∀ before,
    keys.Nodup → (∀ key ∈ keys, ¬ registry.holds before key) →
    ∃ after, registry.insertAll keys before = .ok ((), after) ∧
      ∀ key, registry.holds after key ↔ key ∈ keys ∨ registry.holds before key := by
  induction keys with
  | nil => exact fun before _ _ => ⟨before, rfl, fun key => by simp⟩
  | cons first rest ih =>
      intro before distinct fresh
      obtain ⟨notLater, restDistinct⟩ := List.nodup_cons.mp distinct
      obtain ⟨middle, ran, contents⟩ :=
        lawful.insert_fresh first before (fresh first List.mem_cons_self)
      obtain ⟨after, rest, final⟩ := ih middle restDistinct fun key member held => by
        rcases (contents key).mp held with rfl | old
        · exact notLater member
        · exact fresh key (List.mem_cons_of_mem _ member) old
      refine ⟨after, ?_, fun key => ?_⟩
      · rw [insertAll, run_bind_of_ok ran, rest]
      · rw [final, contents, List.mem_cons]
        tauto

/-- **A list that was added had fresh keys only, without repetition.** -/
theorem fresh_of_insertAll (lawful : registry.Lawful) (keys : List κ) : ∀ before after,
    registry.insertAll keys before = .ok ((), after) →
    keys.Nodup ∧ ∀ key ∈ keys, ¬ registry.holds before key := by
  induction keys with
  | nil => exact fun _ _ _ => ⟨List.nodup_nil, fun _ member => by cases member⟩
  | cons first rest ih =>
      intro before after ran
      rw [insertAll, run_bind_ok_iff] at ran
      obtain ⟨_, middle, inserted, others⟩ := ran
      obtain ⟨fresh, contents⟩ := lawful.inserted inserted
      obtain ⟨restDistinct, restFresh⟩ := ih middle after others
      refine ⟨List.nodup_cons.mpr ⟨fun member => ?_, restDistinct⟩, fun key member => ?_⟩
      · exact restFresh first member ((contents first).mpr (Or.inl rfl))
      · rcases List.mem_cons.mp member with rfl | member
        · exact fresh
        · exact fun held => restFresh key member ((contents key).mpr (Or.inr held))

end Registry

end Solidity
