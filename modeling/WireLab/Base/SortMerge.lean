import Mathlib.Algebra.BigOperators.Group.List.Basic
import Mathlib.Data.List.Sort

/-!
# Grouping by sorting

A table of records is grouped by sorting it by key and merging neighbours with one key,
in place. A `rank` says how the keys are ordered; whatever permutation of the records a
sort makes of them, once they are in order the pass leaves one record for each key, in
that order, and its `weight` is the sum over the records with that key
(`mergeRuns_groups`).
-/

namespace Base

variable {ρ κ ω L : Type*} [LinearOrder L]

/-! ## Sorting by a comparator -/

def sortBy (less : ρ → ρ → Bool) (records : List ρ) : List ρ :=
  records.insertionSort fun first second => less second first = false

theorem perm_sortBy (less : ρ → ρ → Bool) (records : List ρ) :
    (sortBy less records).Perm records :=
  List.perm_insertionSort _ records

/-- A sort by a comparator that compares ranks. -/
theorem sortBy_sorted {less : ρ → ρ → Bool} {rank : ρ → L}
    (hless : ∀ first second, less first second = true ↔ rank first < rank second)
    (records : List ρ) :
    (sortBy less records).Pairwise fun first second => rank first ≤ rank second := by
  have hle (first second : ρ) : less second first = false ↔ rank first ≤ rank second := by
    rw [← Bool.not_eq_true, hless, not_lt]
  have htotal : Std.Total fun first second => less second first = false :=
    ⟨fun first second => by
      rw [hle, hle]
      exact le_total _ _⟩
  have htrans : IsTrans ρ fun first second => less second first = false :=
    ⟨fun first second third => by
      rw [hle, hle, hle]
      exact le_trans⟩
  exact (List.pairwise_insertionSort _ records).imp fun h => (hle _ _).mp h

/-! ## Merging neighbours in place -/

/-- A pass: the records, of which the first ones are output. -/
structure MergePass (ρ : Type*) where
  records : List ρ
  outputIndex : Nat := 0

/-- One turn: the record at `index` is merged into the last output, or is output. -/
def mergeTurn (same : ρ → ρ → Bool) (add : ρ → ρ → ρ) (pass : MergePass ρ) (index : Nat) :
    MergePass ρ :=
  match pass.records[index]?, pass.records[pass.outputIndex - 1]? with
  | some entry, some aggregate =>
      if pass.outputIndex = 0 ∨ same aggregate entry = false then
        { records := pass.records.set pass.outputIndex entry, outputIndex := pass.outputIndex + 1 }
      else { pass with records := pass.records.set (pass.outputIndex - 1) (add aggregate entry) }
  | _, _ => pass

def mergeRuns (same : ρ → ρ → Bool) (add : ρ → ρ → ρ) (records : List ρ) : List ρ :=
  let pass := (List.range records.length).foldl (mergeTurn same add) { records }
  pass.records.take pass.outputIndex

/-- The output so far, the last record first, with one more record. -/
def pushRecord (same : ρ → ρ → Bool) (add : ρ → ρ → ρ) (output : List ρ) (entry : ρ) : List ρ :=
  match output with
  | [] => [entry]
  | aggregate :: earlier =>
      if same aggregate entry = false then entry :: aggregate :: earlier
      else add aggregate entry :: earlier

variable {same : ρ → ρ → Bool} {add : ρ → ρ → ρ}

/-- Where a pass is after some of the records: output, then records that have been read,
then those that have not. -/
private structure PassState (all : List ρ) (n : Nat) (output : List ρ) (pass : MergePass ρ) :
    Prop where
  index : pass.outputIndex = output.length
  within : output.length ≤ n
  records : ∃ read, read.length = n - output.length ∧
    pass.records = output.reverse ++ (read ++ all.drop n)

private theorem PassState.turn {all output : List ρ} {n : Nat} {pass : MergePass ρ}
    (h : PassState all n output pass) (hn : n < all.length) :
    PassState all (n + 1) (pushRecord same add output all[n]) (mergeTurn same add pass n) := by
  obtain ⟨hindex, hwithin, read, hread, hrecords⟩ := h
  have hentry : pass.records[n]? = some all[n] := by
    rw [hrecords, List.getElem?_append_right (by rw [List.length_reverse]; exact hwithin),
      List.length_reverse, List.getElem?_append_right (by omega), hread, List.getElem?_drop,
      Nat.sub_self, Nat.add_zero, List.getElem?_eq_getElem hn]
  have hdrop : all.drop n = all[n] :: all.drop (n + 1) := List.drop_eq_getElem_cons hn
  -- What a record that is output writes over, and what it leaves.
  have hpush : ∃ read', read'.length = n + 1 - (output.length + 1) ∧
      pass.records.set output.length all[n] =
        output.reverse ++ (all[n] :: (read' ++ all.drop (n + 1))) := by
    rw [hrecords, List.set_append_right _ _ (by rw [List.length_reverse]), List.length_reverse,
      Nat.sub_self, hdrop]
    cases read with
    | nil =>
        rw [List.length_nil] at hread
        exact ⟨[], by rw [List.length_nil]; omega, rfl⟩
    | cons first read =>
        refine ⟨read ++ [all[n]], by simp at hread ⊢; omega, ?_⟩
        rw [List.cons_append, List.set_cons_zero, List.append_assoc, List.singleton_append]
  cases output with
  | nil =>
      obtain ⟨read', hread', hset⟩ := hpush
      have hfirst : ∃ first, pass.records[pass.outputIndex - 1]? = some first := by
        rw [hindex, hrecords, hdrop]
        cases read with
        | nil => exact ⟨_, rfl⟩
        | cons first read => exact ⟨first, rfl⟩
      obtain ⟨first, hfirst⟩ := hfirst
      rw [mergeTurn, hentry, hfirst]
      simp only [hindex, List.length_nil, true_or, if_true, pushRecord]
      exact ⟨rfl, by simp, read', hread', by simpa using hset⟩
  | cons aggregate earlier =>
      have hlast : pass.records[pass.outputIndex - 1]? = some aggregate := by
        rw [hindex, hrecords, List.length_cons, Nat.add_sub_cancel, List.reverse_cons,
          List.append_assoc, List.getElem?_append_right (by rw [List.length_reverse]),
          List.length_reverse, Nat.sub_self]
        rfl
      rw [mergeTurn, hentry, hlast]
      have hsome : pass.outputIndex ≠ 0 := by
        rw [hindex, List.length_cons]
        omega
      simp only [hsome, false_or, pushRecord]
      cases hsame : same aggregate all[n] with
      | false =>
          obtain ⟨read', hread', hset⟩ := hpush
          simp only [if_true]
          refine ⟨by simp [hindex], by simpa using hwithin, read', hread', ?_⟩
          rw [hindex, hset]
          simp
      | true =>
          simp only [Bool.true_eq_false, if_false]
          refine ⟨by simp [hindex], Nat.le_succ_of_le hwithin, read ++ [all[n]], ?_, ?_⟩
          · rw [List.length_append, hread, List.length_singleton, List.length_cons,
              List.length_cons] at *
            omega
          · rw [hindex, hrecords, List.length_cons, Nat.add_sub_cancel, List.reverse_cons,
              List.append_assoc, List.set_append_right _ _ (by rw [List.length_reverse]),
              List.length_reverse, Nat.sub_self, List.reverse_cons, List.append_assoc,
              List.append_assoc, hdrop]
            rfl

/-- **The pass in place** does what appending to an output would. -/
theorem mergeRuns_eq (same : ρ → ρ → Bool) (add : ρ → ρ → ρ) (all : List ρ) :
    mergeRuns same add all = (all.foldl (pushRecord same add) []).reverse := by
  have hpass : ∀ n ≤ all.length, PassState all n ((all.take n).foldl (pushRecord same add) [])
      ((List.range n).foldl (mergeTurn same add) { records := all }) := by
    intro n hn
    induction n with
    | zero => exact ⟨rfl, Nat.le_refl 0, [], rfl, rfl⟩
    | succ n ih =>
        rw [List.range_succ, List.foldl_append, List.take_succ_eq_append_getElem (by omega),
          List.foldl_append]
        exact (ih (by omega)).turn (by omega)
  obtain ⟨hindex, -, read, -, hrecords⟩ := hpass all.length (Nat.le_refl _)
  rw [List.take_length] at hindex hrecords
  rw [mergeRuns, hrecords, hindex, List.take_append_of_le_length (by rw [List.length_reverse]),
    List.take_of_length_le (by rw [List.length_reverse])]

/-! ## Tables -/

section
variable [DecidableEq κ] [AddCommMonoid ω] (key : ρ → κ) (weight : ρ → ω)

/-- What the records with a key weigh together. -/
def groupSum (records : List ρ) (k : κ) : ω :=
  ((records.filter fun record => key record = k).map weight).sum

/-- A table has one record for each key of the items, and that record weighs what the
items with its key weigh together. -/
structure Groups (items table : List ρ) : Prop where
  keys : ∀ k, k ∈ table.map key ↔ k ∈ items.map key
  distinct : (table.map key).Nodup
  sums : ∀ record ∈ table, weight record = groupSum key weight items (key record)

variable {key weight}

theorem groupSum_append (first second : List ρ) (k : κ) :
    groupSum key weight (first ++ second) k =
      groupSum key weight first k + groupSum key weight second k := by
  rw [groupSum, List.filter_append, List.map_append, List.sum_append]
  rfl

theorem groupSum_singleton (record : ρ) (k : κ) :
    groupSum key weight [record] k = if key record = k then weight record else 0 := by
  by_cases h : key record = k
  · simp [groupSum, h]
  · simp [groupSum, h]

theorem groupSum_perm {first second : List ρ} (h : first.Perm second) (k : κ) :
    groupSum key weight first k = groupSum key weight second k :=
  ((h.filter _).map weight).sum_eq

/-- A key that no record has weighs nothing. -/
theorem groupSum_eq_zero {records : List ρ} {k : κ} (h : k ∉ records.map key) :
    groupSum key weight records k = 0 := by
  have hnone : records.filter (fun record => key record = k) = [] := by
    refine List.filter_eq_nil_iff.mpr fun record hrecord hkey => ?_
    exact h (List.mem_map.mpr ⟨record, hrecord, by simpa using hkey⟩)
  rw [groupSum, hnone]
  rfl

/-- The items, and the table, may stand in any order. -/
theorem Groups.perm {items items' table table' : List ρ} (h : Groups key weight items table)
    (hitems : items.Perm items') (htable : table.Perm table') : Groups key weight items' table' where
  keys k := by
    rw [← (htable.map key).mem_iff, h.keys, (hitems.map key).mem_iff]
  distinct := (htable.map key).nodup_iff.mp h.distinct
  sums record hrecord := by
    rw [h.sums record (htable.mem_iff.mpr hrecord), groupSum_perm hitems]

end

/-- What the output of a pass is after some of the records, the last record first. -/
private structure Merged [DecidableEq κ] [AddCommMonoid ω] (key : ρ → κ) (weight : ρ → ω)
    (rank : κ → L) (seen output : List ρ) : Prop where
  keys : ∀ k, k ∈ output.map key ↔ k ∈ seen.map key
  falling : output.Pairwise fun later earlier => rank (key earlier) < rank (key later)
  sums : ∀ record ∈ output, weight record = groupSum key weight seen (key record)

private theorem Merged.push [DecidableEq κ] [AddCommMonoid ω] {key : ρ → κ} {weight : ρ → ω}
    {rank : κ → L} (hrank : Function.Injective rank)
    (hsame : ∀ first second, same first second = true ↔ key first = key second)
    (hkey : ∀ first second, key (add first second) = key first)
    (hweight : ∀ first second, weight (add first second) = weight first + weight second)
    {seen output : List ρ} (h : Merged key weight rank seen output) {entry : ρ}
    (hentry : ∀ record ∈ seen, rank (key record) ≤ rank (key entry)) :
    Merged key weight rank (seen ++ [entry]) (pushRecord same add output entry) := by
  have hmem {record : ρ} (hrecord : record ∈ output) : rank (key record) ≤ rank (key entry) := by
    obtain ⟨item, hitem, heq⟩ := List.mem_map.mp ((h.keys _).mp (List.mem_map_of_mem hrecord))
    exact heq ▸ hentry item hitem
  -- The entry starts a new group unless the last output has its key.
  have hnew (hfresh : ∀ record ∈ output, key record ≠ key entry) :
      Merged key weight rank (seen ++ [entry]) (entry :: output) := by
    refine ⟨fun k => ?_, List.pairwise_cons.mpr ⟨fun record hrecord => ?_, h.falling⟩,
      fun record hrecord => ?_⟩
    · rw [List.map_cons, List.mem_cons, h.keys, List.map_append, List.mem_append,
        List.map_singleton, List.mem_singleton]
      exact or_comm
    · exact lt_of_le_of_ne (hmem hrecord) fun heq => hfresh record hrecord (hrank heq)
    · rw [groupSum_append, groupSum_singleton]
      rcases List.mem_cons.mp hrecord with rfl | hold
      · have hnone : key record ∉ seen.map key := by
          rw [← h.keys]
          intro hseen
          obtain ⟨other, hother, heq⟩ := List.mem_map.mp hseen
          exact hfresh other hother heq
        rw [groupSum_eq_zero hnone, if_pos rfl, zero_add]
      · rw [if_neg (Ne.symm (hfresh record hold)), add_zero]
        exact h.sums record hold
  cases output with
  | nil => exact hnew (by simp)
  | cons aggregate earlier =>
      obtain ⟨hfirst, hearlier⟩ := List.pairwise_cons.mp h.falling
      cases heq : same aggregate entry with
      | false =>
          have hne : key aggregate ≠ key entry := by
            rw [ne_eq, ← hsame, heq]
            exact Bool.false_ne_true
          simp only [pushRecord, heq, if_true]
          refine hnew fun record hrecord => ?_
          rcases List.mem_cons.mp hrecord with rfl | hold
          · exact hne
          · have hless := lt_of_lt_of_le (hfirst record hold) (hmem List.mem_cons_self)
            exact fun hsame => absurd hless (by rw [hsame]; exact lt_irrefl _)
      | true =>
          have hsameKey := (hsame aggregate entry).mp heq
          simp only [pushRecord, heq, Bool.true_eq_false, if_false]
          refine ⟨fun k => ?_, List.pairwise_cons.mpr ⟨?_, hearlier⟩, fun record hrecord => ?_⟩
          · have hkeys := h.keys k
            rw [List.map_cons, List.mem_cons] at hkeys
            rw [List.map_cons, List.mem_cons, hkey, hkeys, List.map_append, List.mem_append,
              List.map_singleton, List.mem_singleton, ← hsameKey]
            refine ⟨.inl, fun hk => hk.elim id fun hk => ?_⟩
            exact hkeys.mp (.inl hk)
          · rw [hkey]
            exact hfirst
          · rw [groupSum_append, groupSum_singleton]
            rcases List.mem_cons.mp hrecord with rfl | hold
            · rw [hkey, hweight, h.sums aggregate List.mem_cons_self, if_pos hsameKey.symm]
            · have hless := hfirst record hold
              have hne : key entry ≠ key record := by
                intro hsame
                rw [hsameKey, hsame] at hless
                exact lt_irrefl _ hless
              rw [if_neg hne, add_zero]
              exact h.sums record (List.mem_cons_of_mem _ hold)

/-- **Sorted records are grouped**: the pass leaves one record for each key, in the order
of the keys, with the sum over the records that have it. -/
theorem mergeRuns_groups [DecidableEq κ] [AddCommMonoid ω] {key : ρ → κ} {weight : ρ → ω}
    {rank : κ → L} (hrank : Function.Injective rank)
    (hsame : ∀ first second, same first second = true ↔ key first = key second)
    (hkey : ∀ first second, key (add first second) = key first)
    (hweight : ∀ first second, weight (add first second) = weight first + weight second)
    {all : List ρ}
    (hsorted : all.Pairwise fun first second => rank (key first) ≤ rank (key second)) :
    Groups key weight all (mergeRuns same add all) ∧
      (mergeRuns same add all).Pairwise fun first second => rank (key first) < rank (key second) := by
  have hmerged : ∀ rest seen output, Merged key weight rank seen output →
      (seen ++ rest).Pairwise (fun first second => rank (key first) ≤ rank (key second)) →
      Merged key weight rank (seen ++ rest) (rest.foldl (pushRecord same add) output) := by
    intro rest
    induction rest with
    | nil =>
        intro seen output h _
        rw [List.append_nil]
        exact h
    | cons entry rest ih =>
        intro seen output h hsorted
        have hentry : ∀ record ∈ seen, rank (key record) ≤ rank (key entry) := fun record hrecord =>
          (List.pairwise_append.mp hsorted).2.2 record hrecord entry List.mem_cons_self
        rw [List.append_cons] at hsorted ⊢
        exact ih _ _ (h.push hrank hsame hkey hweight hentry) hsorted
  have hall := hmerged all [] [] ⟨fun k => Iff.rfl, .nil, by simp⟩ hsorted
  rw [List.nil_append] at hall
  have hrising : (all.foldl (pushRecord same add) []).reverse.Pairwise
      fun first second => rank (key first) < rank (key second) := List.pairwise_reverse.mpr hall.falling
  rw [mergeRuns_eq]
  refine ⟨⟨fun k => ?_, ?_, fun record hrecord => ?_⟩, hrising⟩
  · rw [List.map_reverse, List.mem_reverse, hall.keys]
  · refine List.pairwise_map.mpr (hrising.imp fun hless heq => ?_)
    rw [heq] at hless
    exact lt_irrefl _ hless
  · exact hall.sums record (List.mem_reverse.mp hrecord)

/-- A sort by the rank of the keys, and the pass after it. -/
theorem sortMerge_groups [DecidableEq κ] [AddCommMonoid ω] {key : ρ → κ} {weight : ρ → ω}
    {less : ρ → ρ → Bool} (rank : κ → L) (hrank : Function.Injective rank)
    (hless : ∀ first second, less first second = true ↔ rank (key first) < rank (key second))
    (hsame : ∀ first second, same first second = true ↔ key first = key second)
    (hkey : ∀ first second, key (add first second) = key first)
    (hweight : ∀ first second, weight (add first second) = weight first + weight second)
    (records : List ρ) :
    Groups key weight records (mergeRuns same add (sortBy less records)) ∧
      (mergeRuns same add (sortBy less records)).Pairwise fun first second =>
        rank (key first) < rank (key second) := by
  have hsorted : (sortBy less records).Pairwise fun first second =>
      (rank ∘ key) first ≤ (rank ∘ key) second := sortBy_sorted hless records
  obtain ⟨hgroups, hrising⟩ := mergeRuns_groups hrank hsame hkey hweight hsorted
  exact ⟨hgroups.perm (perm_sortBy less records) (.refl _), hrising⟩

/-- A sort by a rank that tells keys apart, of a table without two records for a key. -/
theorem Groups.sortBy [DecidableEq κ] [AddCommMonoid ω] {key : ρ → κ} {weight : ρ → ω}
    {less : ρ → ρ → Bool} {items table : List ρ} (h : Groups key weight items table) (rank : ρ → L)
    (hless : ∀ first second, less first second = true ↔ rank first < rank second)
    (hrank : ∀ first second, rank first = rank second → key first = key second) :
    Groups key weight items (Base.sortBy less table) ∧
      (Base.sortBy less table).Pairwise fun first second => rank first < rank second := by
  have hgroups := h.perm (.refl _) (perm_sortBy less table).symm
  refine ⟨hgroups, ?_⟩
  have hdistinct := List.pairwise_map.mp hgroups.distinct
  refine (hdistinct.and (sortBy_sorted hless table)).imp fun hboth => ?_
  exact lt_of_le_of_ne hboth.2 fun heq => hboth.1 (hrank _ _ heq)

end Base
