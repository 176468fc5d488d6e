import Mathlib.Logic.Function.Basic

/-!
# Leases over an owner's store

An owner configures values under keys; a second party lays temporary *leases*
over some of them. Two descriptions of such a component:

* `LeasedStore` is what it is for. Owner values and leases are kept apart, and
  what is in force is computed from both (`view`). Ending a lease cannot lose
  anything, because a lease never touched the owner's values.
* `SnapshotStore` is how it is usually built. There is one slot per key; a
  lease overwrites the slot and keeps a snapshot of what it found, and ending
  the lease writes the snapshot back.

The second refines the first (`owner_grant`, `owner_revoke`) as long as the
owner does not write under a live lease; `owner_put_leased` is the exception
that makes snapshots lose updates.
-/

namespace Base

variable {K V L : Type*}

/-- What the owner configured, and the leases in force over it. -/
@[ext]
structure LeasedStore (K V L : Type*) where
  base : K → Option V
  lease : K → Option L

namespace LeasedStore

/-- The value in force: the owner's own, with the lease laid over it. -/
def view (overlay : L → V → V) (empty : V) (s : LeasedStore K V L) (k : K) : Option V :=
  match s.lease k with
  | none => s.base k
  | some l => some (overlay l ((s.base k).getD empty))

variable {overlay : L → V → V} {empty : V} {s : LeasedStore K V L} {k : K}

theorem view_unleased (h : s.lease k = none) : s.view overlay empty k = s.base k := by
  simp only [view, h]

theorem view_leased {l : L} (h : s.lease k = some l) :
    s.view overlay empty k = some (overlay l ((s.base k).getD empty)) := by
  simp only [view, h]

variable [DecidableEq K]

/-- The owner sets or clears a value. -/
def write (s : LeasedStore K V L) (k : K) (v : Option V) : LeasedStore K V L :=
  { s with base := Function.update s.base k v }

/-- A lease begins, or changes what it imposes. -/
def grant (s : LeasedStore K V L) (k : K) (l : L) : LeasedStore K V L :=
  { s with lease := Function.update s.lease k (some l) }

/-- A lease ends. -/
def revoke (s : LeasedStore K V L) (k : K) : LeasedStore K V L :=
  { s with lease := Function.update s.lease k none }

end LeasedStore

/-- One slot per key, and for each leased key what the lease imposes and what
the slot held before it. -/
@[ext]
structure SnapshotStore (K V L : Type*) where
  value : K → Option V
  book : K → Option (L × Option V)

namespace SnapshotStore

/-- What the owner's value is taken to be: the snapshot under a lease, the slot
otherwise. -/
def snapshot (s : SnapshotStore K V L) (k : K) : Option V :=
  match s.book k with
  | none => s.value k
  | some (_, v) => v

/-- The leased store that a snapshot store stands for. -/
def owner (s : SnapshotStore K V L) : LeasedStore K V L where
  base := s.snapshot
  lease k := (s.book k).map Prod.fst

/-- Every slot holds what is in force. -/
def Shows (overlay : L → V → V) (empty : V) (s : SnapshotStore K V L) : Prop :=
  ∀ k, s.value k = s.owner.view overlay empty k

variable {overlay : L → V → V} {empty : V} {s : SnapshotStore K V L} {k : K}

theorem snapshot_unleased (h : s.book k = none) : s.snapshot k = s.value k := by
  simp only [snapshot, h]

theorem snapshot_leased {l : L} {v : Option V} (h : s.book k = some (l, v)) :
    s.snapshot k = v := by
  simp only [snapshot, h]

theorem snapshot_congr {t : SnapshotStore K V L} (hvalue : t.value k = s.value k)
    (hbook : t.book k = s.book k) : t.snapshot k = s.snapshot k := by
  simp only [snapshot, hvalue, hbook]

theorem shows_iff :
    s.Shows overlay empty ↔
      ∀ k l v, s.book k = some (l, v) → s.value k = some (overlay l (v.getD empty)) := by
  constructor
  · intro h k l v hbook
    rw [h k, LeasedStore.view_leased (l := l) (by simp [owner, hbook])]
    simp only [owner, snapshot_leased hbook]
  · intro h k
    cases hbook : s.book k with
    | none =>
        rw [LeasedStore.view_unleased (by simp [owner, hbook])]
        simp only [owner, snapshot_unleased hbook]
    | some b =>
        obtain ⟨l, v⟩ := b
        rw [LeasedStore.view_leased (l := l) (by simp [owner, hbook]), h k l v hbook]
        simp only [owner, snapshot_leased hbook]

variable [DecidableEq K]

/-- The owner overwrites a slot. -/
def put (s : SnapshotStore K V L) (k : K) (v : Option V) : SnapshotStore K V L :=
  { s with value := Function.update s.value k v }

/-- Impose `l` on `k`, taking a snapshot if there is none yet. -/
def grant (overlay : L → V → V) (empty : V) (s : SnapshotStore K V L) (k : K) (l : L) :
    SnapshotStore K V L where
  value := Function.update s.value k (some (overlay l ((s.snapshot k).getD empty)))
  book := Function.update s.book k (some (l, s.snapshot k))

/-- End the lease on `k` and write its snapshot back. -/
def revoke (s : SnapshotStore K V L) (k : K) : SnapshotStore K V L where
  value := Function.update s.value k (s.snapshot k)
  book := Function.update s.book k none

/-- **Granting refines granting**: the owner's values are untouched. -/
theorem owner_grant (s : SnapshotStore K V L) (k : K) (l : L) :
    (s.grant overlay empty k l).owner = s.owner.grant k l := by
  ext j : 2
  · by_cases hj : j = k
    · subst hj
      exact snapshot_leased (l := l) (v := s.snapshot j)
        (by simp only [grant, Function.update_self])
    · exact snapshot_congr (by simp [grant, hj]) (by simp [grant, hj])
  · by_cases hj : j = k
    · subst hj
      simp [owner, grant, LeasedStore.grant]
    · simp [owner, grant, LeasedStore.grant, hj]

/-- **Revoking refines revoking**: the owner's values are untouched. -/
theorem owner_revoke (s : SnapshotStore K V L) (k : K) :
    (s.revoke k).owner = s.owner.revoke k := by
  ext j : 2
  · by_cases hj : j = k
    · subst hj
      refine (snapshot_unleased (by simp only [revoke, Function.update_self])).trans ?_
      simp only [revoke, Function.update_self]
      rfl
    · exact snapshot_congr (by simp [revoke, hj]) (by simp [revoke, hj])
  · by_cases hj : j = k
    · subst hj
      simp [owner, revoke, LeasedStore.revoke]
    · simp [owner, revoke, LeasedStore.revoke, hj]

/-- Writing an unleased slot is the owner's write. -/
theorem owner_put_unleased (v : Option V) (h : s.book k = none) :
    (s.put k v).owner = s.owner.write k v := by
  ext j : 2
  · by_cases hj : j = k
    · subst hj
      refine (snapshot_unleased (s := s.put j v) h).trans ?_
      simp [put, LeasedStore.write]
    · simp only [LeasedStore.write, Function.update_of_ne hj]
      exact snapshot_congr (by simp [put, hj]) rfl
  · rfl

/-- Writing a leased slot does not reach the owner's values: the snapshot
stands, and will be written back over what was put. -/
theorem owner_put_leased (v : Option V) {b : L × Option V} (h : s.book k = some b) :
    (s.put k v).owner = s.owner := by
  ext j : 2
  · by_cases hj : j = k
    · subst hj
      exact (snapshot_leased (s := s.put j v) h).trans (snapshot_leased (s := s) h).symm
    · exact snapshot_congr (by simp [put, hj]) rfl
  · rfl

theorem Shows.grant (h : s.Shows overlay empty) (k : K) (l : L) :
    (s.grant overlay empty k l).Shows overlay empty := by
  rw [shows_iff] at h ⊢
  intro j l' v hbook
  by_cases hj : j = k
  · subst hj
    simp only [SnapshotStore.grant, Function.update_self, Option.some.injEq, Prod.mk.injEq] at hbook
    obtain ⟨rfl, rfl⟩ := hbook
    simp only [SnapshotStore.grant, Function.update_self]
  · simp only [SnapshotStore.grant, Function.update_of_ne hj] at hbook ⊢
    exact h j l' v hbook

theorem Shows.revoke (h : s.Shows overlay empty) (k : K) :
    (s.revoke k).Shows overlay empty := by
  rw [shows_iff] at h ⊢
  intro j l v hbook
  by_cases hj : j = k
  · subst hj
    simp [SnapshotStore.revoke] at hbook
  · simp only [SnapshotStore.revoke, Function.update_of_ne hj] at hbook ⊢
    exact h j l v hbook

/-- An unleased slot may be written freely. -/
theorem Shows.put (h : s.Shows overlay empty) (v : Option V) (hfree : s.book k = none) :
    (s.put k v).Shows overlay empty := by
  rw [shows_iff] at h ⊢
  intro j l w hbook
  have hj : j ≠ k := by
    rintro rfl
    simp [SnapshotStore.put, hfree] at hbook
  simp only [SnapshotStore.put, Function.update_of_ne hj]
  exact h j l w hbook

end SnapshotStore
end Base
