import WireLab.Base.Memory

/-!
# Parallel launches

A launch runs one program in many threads. Each thread writes to places of an output
buffer; in which order the writes of all the threads happen is the machine's to
choose. Where every write to a place says what that place is to hold, and every place
is written, no order matters (`launch_iff`).

A thread that writes to a place again keeps its own writes in order (`Interleaves`).
Where no other thread writes, a place holds in the end what its thread alone would
have left there (`Interleaves.owned`).
-/

namespace Base

variable {ι α : Type*}

/-- Write to a place of an output buffer. -/
def store (output : List (Option α)) (write : Nat × α) : List (Option α) :=
  output.set write.1 (some write.2)

/-- What a launch may leave in an output buffer of `size` places. A thread without a
result has failed, and so has the launch. -/
inductive Launch (program : ι → Option (List (Nat × α))) (threads : List ι) (size : Nat) :
    List (Option α) → Prop
  | run {writes : ι → List (Nat × α)} {order : List (Nat × α)}
      (hthreads : ∀ thread ∈ threads, program thread = some (writes thread))
      (horder : order.Perm (threads.flatMap writes))
      (hwithin : ∀ write ∈ order, write.1 < size) :
      Launch program threads size (order.foldl store (List.replicate size none))

/-- A right write puts the right value, and leaves the others. -/
private theorem store_getElem? {values : List α} {output : List (Option α)}
    (hlength : values.length ≤ output.length) {write : Nat × α}
    (hwrite : values[write.1]? = some write.2) {i : Nat}
    (hi : output[i]? = (values.map some)[i]? ∨ i = write.1) :
    (store output write)[i]? = (values.map some)[i]? := by
  by_cases hnow : write.1 = i
  · have hlt := (List.getElem?_eq_some_iff.mp hwrite).1
    rw [store, ← hnow, List.getElem?_set_self (Nat.lt_of_lt_of_le hlt hlength), List.getElem?_map,
      hwrite]
    rfl
  · rw [store, List.getElem?_set_ne hnow]
    exact hi.resolve_right (Ne.symm hnow)

/-- After right writes, every place that was written holds the right value, as does
every place that held it before. -/
private theorem foldl_store {values : List α} {order : List (Nat × α)}
    (hright : ∀ write ∈ order, values[write.1]? = some write.2) {output : List (Option α)}
    (hlength : values.length ≤ output.length) {i : Nat}
    (hi : output[i]? = (values.map some)[i]? ∨ ∃ value, (i, value) ∈ order) :
    (order.foldl store output)[i]? = (values.map some)[i]? := by
  induction order generalizing output with
  | nil => exact hi.resolve_right (by simp)
  | cons write order ih =>
      obtain ⟨hwrite, hright⟩ := List.forall_mem_cons.mp hright
      refine ih hright (by rw [store, List.length_set]; exact hlength) ?_
      rcases hi with hheld | ⟨value, hmem⟩
      · exact .inl (store_getElem? hlength hwrite (.inl hheld))
      · rcases List.mem_cons.mp hmem with rfl | hlater
        · exact .inl (store_getElem? hlength hwrite (.inr rfl))
        · exact .inr ⟨value, hlater⟩

theorem length_foldl_store (order : List (Nat × α)) (output : List (Option α)) :
    (order.foldl store output).length = output.length := by
  induction order generalizing output with
  | nil => rfl
  | cons write order ih => rw [List.foldl_cons, ih, store, List.length_set]

/-- After right writes to all its first places, a buffer begins with the right values. -/
theorem take_foldl_store {values : List α} {order : List (Nat × α)}
    (hright : ∀ write ∈ order, values[write.1]? = some write.2)
    (hall : ∀ i < values.length, ∃ value, (i, value) ∈ order) {output : List (Option α)}
    (hlength : values.length ≤ output.length) :
    (order.foldl store output).take values.length = values.map some := by
  refine List.ext_getElem? fun i => ?_
  by_cases hi : i < values.length
  · rw [List.getElem?_take_of_lt hi]
    exact foldl_store hright hlength (.inr (hall i hi))
  · rw [List.getElem?_eq_none (by simp; omega), List.getElem?_eq_none (by simp; omega)]

/-- **A launch leaves the right values**, whatever the order: no thread fails, each
write is right, and each place is written. -/
theorem launch_iff {program : ι → Option (List (Nat × α))} {threads : List ι} {values : List α}
    (hthreads : ∀ thread ∈ threads, ∃ own, program thread = some own ∧
      ∀ write ∈ own, values[write.1]? = some write.2)
    (hall : ∀ i < values.length, ∃ thread ∈ threads, ∃ own, program thread = some own ∧
      ∃ value, (i, value) ∈ own)
    (output : List (Option α)) :
    Launch program threads values.length output ↔ output = values.map some := by
  have houtcome : ∀ {writes : ι → List (Nat × α)} {order : List (Nat × α)},
      (∀ thread ∈ threads, program thread = some (writes thread)) →
      order.Perm (threads.flatMap writes) →
      (∀ write ∈ order, write.1 < values.length) ∧
        order.foldl store (List.replicate values.length none) = values.map some := by
    intro writes order hwrites horder
    have hright : ∀ write ∈ order, values[write.1]? = some write.2 := by
      intro write hwrite
      obtain ⟨thread, hthread, hown⟩ := List.mem_flatMap.mp (horder.mem_iff.mp hwrite)
      obtain ⟨own, hprogram, hvalues⟩ := hthreads thread hthread
      obtain rfl := Option.some.inj (hprogram.symm.trans (hwrites thread hthread))
      exact hvalues write hown
    refine ⟨fun write hwrite => (List.getElem?_eq_some_iff.mp (hright write hwrite)).1, ?_⟩
    have hlength : (List.replicate values.length (none : Option α)).length = values.length :=
      List.length_replicate
    rw [← take_foldl_store hright (fun i hi => ?_) hlength.ge, List.take_of_length_le]
    · rw [length_foldl_store, hlength]
    · obtain ⟨thread, hthread, own, hprogram, value, hvalue⟩ := hall i hi
      obtain rfl := Option.some.inj (hprogram.symm.trans (hwrites thread hthread))
      exact ⟨value, horder.mem_iff.mpr (List.mem_flatMap.mpr ⟨thread, hthread, hvalue⟩)⟩
  constructor
  · rintro ⟨hwrites, horder, -⟩
    exact (houtcome hwrites horder).2
  · rintro rfl
    have hwrites : ∀ thread ∈ threads, program thread = some ((program thread).getD []) := by
      intro thread hthread
      obtain ⟨own, hprogram, _⟩ := hthreads thread hthread
      rw [hprogram]
      rfl
    obtain ⟨hwithin, hresult⟩ := houtcome hwrites (.refl _)
    exact hresult ▸ .run hwrites (.refl _) hwithin

/-! ## Threads that write in order -/

/-- An order of the writes of all the threads, in which the writes of one thread stand
in their own order. -/
structure Interleaves [DecidableEq ι] (threads : List ι) (writes : ι → List α)
    (order : List (ι × α)) : Prop where
  known : ∀ step ∈ order, step.1 ∈ threads
  own : ∀ thread ∈ threads,
    (order.filter fun step => step.1 = thread).map Prod.snd = writes thread

/-- The threads may as well run one after another. -/
theorem interleaves_flatMap [DecidableEq ι] {threads : List ι} (hnodup : threads.Nodup)
    (writes : ι → List α) :
    Interleaves threads writes (threads.flatMap fun thread => (writes thread).map (thread, ·)) where
  known := by
    intro step hstep
    obtain ⟨thread, hthread, hwrite⟩ := List.mem_flatMap.mp hstep
    obtain ⟨_, _, rfl⟩ := List.mem_map.mp hwrite
    exact hthread
  own := by
    have hown (other thread : ι) : (((writes other).map (other, ·)).filter fun step =>
        step.1 = thread).map Prod.snd = if other = thread then writes other else [] := by
      split
      · next heq => simp [List.filter_map, Function.comp_def, heq]
      · next hne => simp [List.filter_map, Function.comp_def, hne]
    intro thread hthread
    rw [List.filter_flatMap, List.map_flatMap]
    simp only [hown]
    induction threads with
    | nil => exact absurd hthread (by simp)
    | cons other threads ih =>
        obtain ⟨hother, hnodup⟩ := List.nodup_cons.mp hnodup
        rw [List.flatMap_cons]
        by_cases heq : other = thread
        · have hnone : threads.flatMap (fun other => if other = thread then writes other else []) =
              [] := by
            refine List.flatMap_eq_nil_iff.mpr fun later hlater => if_neg ?_
            rintro rfl
            exact hother (heq ▸ hlater)
          rw [hnone, if_pos heq, heq, List.append_nil]
        · rw [if_neg heq, List.nil_append]
          exact ih hnodup (List.mem_of_ne_of_mem (Ne.symm heq) hthread)

/-- The writes that happened, the last one first. -/
def happened (order : List (ι × (Nat × UInt8))) : Writes := (order.map Prod.snd).reverse

/-- What others write elsewhere does not count. -/
private theorem lookup_filter [DecidableEq ι] {thread : ι} {address : Nat}
    {order : List (ι × (Nat × UInt8))}
    (h : ∀ step ∈ order, step.1 ≠ thread → step.2.1 ≠ address) :
    (order.map Prod.snd).lookup address =
      ((order.filter fun step => step.1 = thread).map Prod.snd).lookup address := by
  induction order with
  | nil => rfl
  | cons step order ih =>
      obtain ⟨hstep, horder⟩ := List.forall_mem_cons.mp h
      by_cases hown : step.1 = thread
      · rw [List.filter_cons_of_pos (by simpa using hown), List.map_cons, List.map_cons,
          List.lookup_cons, List.lookup_cons, ih horder]
      · have hother : (address == step.2.1) = false :=
          beq_eq_false_iff_ne.mpr (Ne.symm (hstep hown))
        rw [List.filter_cons_of_neg (by simpa using hown), List.map_cons, List.lookup_cons, hother]
        exact ih horder

/-- **A place of one thread** holds what that thread alone would have left there. -/
theorem Interleaves.owned [DecidableEq ι] {threads : List ι} {writes : ι → List (Nat × UInt8)}
    {order : List (ι × (Nat × UInt8))} (h : Interleaves threads writes order) {thread : ι}
    (hthread : thread ∈ threads) {address : Nat}
    (hothers : ∀ other ∈ threads, other ≠ thread → ∀ write ∈ writes other, write.1 ≠ address) :
    (happened order).memory address = Writes.memory (writes thread).reverse address := by
  rw [happened, Writes.memory, Writes.memory, ← List.map_reverse,
    @lookup_filter ι _ thread, List.filter_reverse, List.map_reverse, h.own thread hthread]
  intro step hstep hother
  rw [List.mem_reverse] at hstep
  have hmem : step ∈ order.filter fun other => other.1 = step.1 :=
    List.mem_filter.mpr ⟨hstep, by simp⟩
  have hwrite : step.2 ∈ writes step.1 := by
    rw [← h.own step.1 (h.known step hstep)]
    exact List.mem_map.mpr ⟨step, hmem, rfl⟩
  exact hothers step.1 (h.known step hstep) hother step.2 hwrite

end Base
