import Mathlib.Algebra.Order.BigOperators.Group.List
import Mathlib.Tactic.Linarith

/-!
# Paced work

Jobs on one line, each with a start and a length. `Paced` says that from a given
moment on no job starts before the one before it has ended. On such a line the
work that starts within an interval is bounded by what the rate allows in that
time, and the job that started last (`Paced.work_le`).
-/

namespace Base

variable {α : Type*}

/-- From the moment `free` on, every job starts once the line is free. -/
def Paced (start length : α → Int) : Int → List α → Prop
  | _, [] => True
  | free, job :: jobs => free ≤ start job ∧ Paced start length (start job + length job) jobs

/-- When the line is free again. -/
def finish (start length : α → Int) : Int → List α → Int
  | free, [] => free
  | _, job :: jobs => finish start length (start job + length job) jobs

section
variable {start length : α → Int} {free : Int} {jobs : List α}

theorem paced_append {more : List α} :
    Paced start length free (jobs ++ more) ↔
      Paced start length free jobs ∧ Paced start length (finish start length free jobs) more := by
  induction jobs generalizing free with
  | nil => simp only [List.nil_append, Paced, finish, true_and]
  | cons job jobs ih => simp only [List.cons_append, Paced, finish, ih, and_assoc]

/-- The line is free when the last job ends. -/
theorem finish_getLast {last : α} (h : jobs.getLast? = some last) :
    finish start length free jobs = start last + length last := by
  induction jobs generalizing free with
  | nil => exact absurd h (by simp)
  | cons job jobs ih =>
      cases jobs with
      | nil =>
          obtain rfl : job = last := by simpa using h
          rfl
      | cons next jobs =>
          rw [List.getLast?_cons_cons] at h
          rw [finish]
          exact ih h

/-- A line that was free earlier is paced too. -/
theorem Paced.mono (h : Paced start length free jobs) {earlier : Int} (hle : earlier ≤ free) :
    Paced start length earlier jobs := by
  cases jobs with
  | nil => trivial
  | cons job jobs => exact ⟨hle.trans h.1, h.2⟩

/-- Each job waits for the one before it. -/
theorem Paced.isChain (h : Paced start length free jobs) :
    jobs.IsChain fun before job => start before + length before ≤ start job := by
  induction jobs generalizing free with
  | nil => exact .nil
  | cons job jobs ih =>
      cases jobs with
      | nil => exact .singleton _
      | cons next jobs => exact .cons_cons h.2.1 (ih h.2)

/-- Leaving jobs out keeps the rest paced. -/
theorem Paced.filter (hlength : ∀ job, 0 ≤ length job) (h : Paced start length free jobs)
    (keep : α → Bool) : Paced start length free (jobs.filter keep) := by
  induction jobs generalizing free with
  | nil => trivial
  | cons job jobs ih =>
      have hrest := ih h.2
      rw [List.filter_cons]
      split
      · exact ⟨h.1, hrest⟩
      · have hlater : free ≤ start job + length job := by
          have := hlength job
          have := h.1
          omega
        exact hrest.mono hlater

/-- All jobs but the last fit between the moment the line was free and the start
of the last one. -/
theorem Paced.sum_dropLast_le (h : Paced start length free jobs) {last : α}
    (hlast : jobs.getLast? = some last) :
    (jobs.dropLast.map length).sum ≤ start last - free := by
  induction jobs generalizing free with
  | nil => exact absurd hlast (by simp)
  | cons job jobs ih =>
      cases jobs with
      | nil =>
          obtain rfl : job = last := by simpa using hlast
          have := h.1
          simp only [List.dropLast_singleton, List.map_nil, List.sum_nil]
          omega
      | cons next jobs =>
          have hrest := ih h.2 (by simpa [List.getLast?_cons_cons] using hlast)
          have := h.1
          rw [List.dropLast_cons_cons, List.map_cons, List.sum_cons]
          omega

/-- **The rate is kept**: where a job's length pays for its work at the rate, the
work that starts between `first` and `until` exceeds what the rate allows by no
more than the last job. -/
theorem Paced.work_le {work : α → Nat} {rate : Nat}
    (hpays : ∀ job ∈ jobs, (work job : Int) ≤ rate * length job)
    (h : Paced start length free jobs) {first last : Int} (hle : first ≤ last)
    (hin : ∀ job ∈ jobs, first ≤ start job ∧ start job ≤ last) :
    ((jobs.map work).sum : Int) ≤ rate * (last - first) + (jobs.getLast?.map work).getD 0 := by
  cases hlast : jobs.getLast? with
  | none =>
      rw [List.getLast?_eq_none_iff] at hlast
      subst hlast
      have : (0 : Int) ≤ rate * (last - first) := Int.mul_nonneg (by omega) (by omega)
      simpa using this
  | some final =>
      have hsplit : jobs = jobs.dropLast ++ [final] :=
        (List.dropLast_append_getLast? final hlast).symm
      have hfrom : Paced start length first jobs := by
        cases jobs with
        | nil => trivial
        | cons job jobs => exact ⟨(hin job (by simp)).1, h.2⟩
      have hfinal : start final ≤ last := (hin final (List.mem_of_getLast? hlast)).2
      have htime := hfrom.sum_dropLast_le hlast
      have hearlier : (((jobs.dropLast).map work).sum : Int) ≤
          rate * ((jobs.dropLast).map length).sum := by
        have hmem : ∀ job ∈ jobs.dropLast, job ∈ jobs := fun _ hj => List.dropLast_subset jobs hj
        generalize jobs.dropLast = earlier at hmem ⊢
        induction earlier with
        | nil => simp
        | cons job earlier ih =>
            have hrest := ih fun j hj => hmem j (by simp [hj])
            have hjob := hpays job (hmem job (by simp))
            simp only [List.map_cons, List.sum_cons, Nat.cast_add, mul_add]
            omega
      have hroom : (rate : Int) * ((jobs.dropLast).map length).sum ≤ rate * (last - first) :=
        Int.mul_le_mul_of_nonneg_left (by omega) (by omega)
      have htotal : (jobs.map work).sum = (jobs.dropLast.map work).sum + work final := by
        conv_lhs => rw [hsplit]
        simp
      simp only [Option.map_some, Option.getD_some, htotal, Nat.cast_add]
      omega

end

end Base
