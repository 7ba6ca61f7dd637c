/-
**Maps written by a sequence of jobs: the last writer wins.**

A job is a list of entries, written into a map one after the other. For jobs that write no key
twice:

* `perform_apply` — after a sequence of jobs a key holds the value the last job naming it gives for
  it, or what it held before when no job names it.
* `perform_congr` — two sequences with the same last values give the same map; `perform_eq_iff` —
  and only those do, from every map.
* `lastValue_of_sole` — for a key that one job alone names, only whether that job is in the sequence
  counts, not where or how often.
* `writeAll_invariant` — what holds of every key's old value and of every value written, holds after.
-/

import Mathlib.Data.List.Nodup
import Mathlib.Logic.Function.Basic
import Mathlib.Logic.Nontrivial.Basic

namespace LastWrite

variable {κ ν ι : Type} [DecidableEq κ]

/-- The map after the entries of a list are written, in order. -/
def writeAll (map : κ → ν) (entries : List (κ × ν)) : κ → ν :=
  entries.foldl (fun map entry => Function.update map entry.1 entry.2) map

/-- The map after a sequence of jobs. -/
def perform (writes : ι → List (κ × ν)) (map : κ → ν) (jobs : List ι) : κ → ν :=
  jobs.foldl (fun map job => writeAll map (writes job)) map

/-- The value given for a key by the last job that names it. -/
def lastValue (writes : ι → List (κ × ν)) (jobs : List ι) (key : κ) : Option ν :=
  (jobs.filterMap fun job => (writes job).lookup key).getLast?

@[simp] theorem writeAll_nil (map : κ → ν) : writeAll map [] = map := rfl

@[simp] theorem writeAll_cons (map : κ → ν) (key : κ) (value : ν) (rest : List (κ × ν)) :
    writeAll map ((key, value) :: rest) = writeAll (Function.update map key value) rest := rfl

@[simp] theorem perform_cons (writes : ι → List (κ × ν)) (map : κ → ν) (job : ι) (rest : List ι) :
    perform writes map (job :: rest) = perform writes (writeAll map (writes job)) rest := rfl

/-- Keys without an entry keep their value. -/
theorem writeAll_of_lookup_none {entries : List (κ × ν)} {key : κ}
    (absent : entries.lookup key = none) : ∀ map : κ → ν, writeAll map entries key = map key := by
  induction entries with
  | nil => exact fun _ => rfl
  | cons entry rest ih =>
      intro map
      obtain ⟨first, value⟩ := entry
      rw [List.lookup_cons] at absent
      by_cases same : key = first
      · rw [beq_iff_eq.mpr same] at absent
        cases absent
      · rw [beq_eq_false_iff_ne.mpr same] at absent
        rw [writeAll_cons, ih absent, Function.update_of_ne same]

theorem lookup_of_not_mem {entries : List (κ × ν)} {key : κ}
    (absent : key ∉ entries.map Prod.fst) : entries.lookup key = none :=
  List.lookup_eq_none_iff.mpr fun entry member => bne_iff_ne.mpr fun equal =>
    absent (List.mem_map.mpr ⟨entry, member, equal.symm⟩)

/-- One job. -/
theorem writeAll_apply {entries : List (κ × ν)} (distinct : (entries.map Prod.fst).Nodup)
    (key : κ) : ∀ map : κ → ν, writeAll map entries key = (entries.lookup key).getD (map key) := by
  induction entries with
  | nil => exact fun _ => rfl
  | cons entry rest ih =>
      intro map
      obtain ⟨first, value⟩ := entry
      obtain ⟨notLater, restDistinct⟩ := List.nodup_cons.mp distinct
      rw [writeAll_cons, List.lookup_cons]
      by_cases same : key = first
      · subst same
        rw [writeAll_of_lookup_none (lookup_of_not_mem notLater), Function.update_self, beq_self_eq_true]
        rfl
      · rw [beq_eq_false_iff_ne.mpr same, ih restDistinct, Function.update_of_ne same]

variable {writes : ι → List (κ × ν)}

/-- A job's value counts when no later job names the key. -/
theorem lastValue_cons (job : ι) (rest : List ι) (key : κ) :
    lastValue writes (job :: rest) key =
      (lastValue writes rest key).or ((writes job).lookup key) := by
  unfold lastValue
  rw [List.filterMap_cons]
  cases (writes job).lookup key with
  | none => rw [Option.or_none]
  | some value =>
      show ((value :: _).getLast? : Option ν) = _
      rw [List.getLast?_cons]
      cases (rest.filterMap fun job => (writes job).lookup key).getLast? <;> rfl

/-- **The last writer wins.** -/
theorem perform_apply (distinct : ∀ job, ((writes job).map Prod.fst).Nodup) (key : κ)
    (jobs : List ι) : ∀ map : κ → ν,
    perform writes map jobs key = (lastValue writes jobs key).getD (map key) := by
  induction jobs with
  | nil => exact fun _ => rfl
  | cons job rest ih =>
      intro map
      rw [perform_cons, ih, writeAll_apply (distinct job), lastValue_cons]
      cases lastValue writes rest key <;> rfl

/-- **Only the last values count.** -/
theorem perform_congr (distinct : ∀ job, ((writes job).map Prod.fst).Nodup) {jobs others : List ι}
    (same : ∀ key, lastValue writes jobs key = lastValue writes others key) (map : κ → ν) :
    perform writes map jobs = perform writes map others := by
  funext key
  rw [perform_apply distinct, perform_apply distinct, same]

/-- **Two sequences write alike exactly when they have the same last values.** -/
theorem perform_eq_iff [Nontrivial ν] (distinct : ∀ job, ((writes job).map Prod.fst).Nodup)
    {jobs others : List ι} :
    (∀ map : κ → ν, perform writes map jobs = perform writes map others) ↔
      ∀ key, lastValue writes jobs key = lastValue writes others key := by
  refine ⟨fun alike key => ?_, fun same => perform_congr distinct same⟩
  have applied : ∀ value : ν, (lastValue writes jobs key).getD value =
      (lastValue writes others key).getD value := by
    intro value
    have here := congrFun (alike fun _ => value) key
    rwa [perform_apply distinct, perform_apply distinct] at here
  cases first : lastValue writes jobs key with
  | none =>
      cases second : lastValue writes others key with
      | none => rfl
      | some written =>
          obtain ⟨other, different⟩ := exists_ne written
          exact absurd (by simpa [first, second] using applied other) different
  | some written =>
      cases second : lastValue writes others key with
      | none =>
          obtain ⟨other, different⟩ := exists_ne written
          exact absurd (by simpa [first, second] using (applied other).symm) different
      | some value => simpa [first, second] using applied written

/-- A key no job names. -/
theorem lastValue_of_silent {key : κ} {jobs : List ι}
    (silent : ∀ job ∈ jobs, (writes job).lookup key = none) : lastValue writes jobs key = none := by
  induction jobs with
  | nil => rfl
  | cons job rest ih =>
      rw [lastValue_cons, silent job List.mem_cons_self,
        ih fun other member => silent other (List.mem_cons_of_mem _ member)]
      rfl

/-- **A key that one job alone names** has that job's value as soon as the job occurs. -/
theorem lastValue_of_sole [DecidableEq ι] {key : κ} {sole : ι}
    (others : ∀ job, job ≠ sole → (writes job).lookup key = none) (jobs : List ι) :
    lastValue writes jobs key = if sole ∈ jobs then (writes sole).lookup key else none := by
  induction jobs with
  | nil => rfl
  | cons job rest ih =>
      rw [lastValue_cons, ih]
      by_cases same : job = sole
      · subst same
        rw [if_pos List.mem_cons_self]
        by_cases again : job ∈ rest
        · rw [if_pos again, Option.or_self]
        · rw [if_neg again, Option.none_or]
      · have iff : sole ∈ job :: rest ↔ sole ∈ rest :=
          ⟨fun member => (List.mem_cons.mp member).resolve_left fun equal => same equal.symm,
            List.mem_cons_of_mem job⟩
        rw [others job same, Option.or_none]
        exact if_congr iff.symm rfl rfl

/-- **A key that several jobs name**, and always name, has the value of the last of them. -/
theorem lastValue_of_contested {key : κ} {names : ι → Bool}
    (silent : ∀ job, names job = false → (writes job).lookup key = none)
    (named : ∀ job, names job = true → ((writes job).lookup key).isSome) (jobs : List ι) :
    lastValue writes jobs key =
      (jobs.filter names).getLast?.bind fun job => (writes job).lookup key := by
  induction jobs with
  | nil => rfl
  | cons job rest ih =>
      rw [lastValue_cons, ih, List.filter_cons]
      by_cases speaks : names job = true
      · rw [if_pos speaks, List.getLast?_cons]
        cases last : (rest.filter names).getLast? with
        | none => rfl
        | some later =>
            have member := List.mem_of_getLast? last
            obtain ⟨value, given⟩ := Option.isSome_iff_exists.mp
              (named later (List.of_mem_filter member))
            show ((writes later).lookup key).or _ = (writes later).lookup key
            rw [given, Option.some_or]
      · rw [if_neg speaks, silent job (Bool.eq_false_iff.mpr speaks), Option.or_none]

theorem writeAll_invariant (good : κ → ν → Prop) {entries : List (κ × ν)}
    (written : ∀ entry ∈ entries, good entry.1 entry.2) :
    ∀ map : κ → ν, (∀ key, good key (map key)) → ∀ key, good key (writeAll map entries key) := by
  induction entries with
  | nil => exact fun _ holds => holds
  | cons entry rest ih =>
      intro map holds
      refine ih (fun other member => written other (List.mem_cons_of_mem _ member)) _ fun key => ?_
      show good key (Function.update map entry.1 entry.2 key)
      by_cases same : key = entry.1
      · subst same
        rw [Function.update_self]
        exact written entry List.mem_cons_self
      · rw [Function.update_of_ne same]
        exact holds key

/-- What holds of every value written holds after a sequence of jobs. -/
theorem perform_invariant (good : κ → ν → Prop)
    (written : ∀ job, ∀ entry ∈ writes job, good entry.1 entry.2) (jobs : List ι) :
    ∀ map : κ → ν, (∀ key, good key (map key)) → ∀ key, good key (perform writes map jobs key) := by
  induction jobs with
  | nil => exact fun _ holds => holds
  | cons job rest ih =>
      intro map holds
      exact ih _ (writeAll_invariant good (written job) map holds)

end LastWrite
