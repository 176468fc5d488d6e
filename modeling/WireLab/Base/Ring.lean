import Mathlib.Data.Nat.ModEq

/-!
# Positions in a ring

A ring of `depth` places is walked by a cursor that goes on by one and begins again
after the last place. Places that are fewer than `depth` steps apart differ
(`ahead_inj`).
-/

namespace Base.Ring

variable {depth : Nat}

/-- The position after another one. -/
def next (position : Fin depth) : Fin depth :=
  ⟨(position + 1) % depth, Nat.mod_lt _ position.pos⟩

/-- The position some steps on. -/
def ahead (position : Fin depth) (steps : Nat) : Fin depth :=
  ⟨(position + steps) % depth, Nat.mod_lt _ position.pos⟩

@[simp] theorem ahead_zero (position : Fin depth) : ahead position 0 = position :=
  Fin.ext (Nat.mod_eq_of_lt position.isLt)

theorem next_ahead (position : Fin depth) (steps : Nat) :
    next (ahead position steps) = ahead position (steps + 1) := by
  refine Fin.ext ?_
  show ((position + steps) % depth + 1) % depth = (position + (steps + 1)) % depth
  rw [Nat.mod_add_mod, Nat.add_assoc]

theorem ahead_next (position : Fin depth) (steps : Nat) :
    ahead (next position) steps = ahead position (steps + 1) := by
  refine Fin.ext ?_
  show ((position + 1) % depth + steps) % depth = (position + (steps + 1)) % depth
  rw [Nat.mod_add_mod, Nat.add_assoc, Nat.add_comm 1]

theorem ahead_inj {position : Fin depth} {first second : Nat} (hfirst : first < depth)
    (hsecond : second < depth) (h : ahead position first = ahead position second) :
    first = second := by
  have hmod : (position + first : Nat) ≡ position + second [MOD depth] := congrArg Fin.val h
  have hcancel := Nat.ModEq.add_left_cancel' _ hmod
  rwa [Nat.ModEq, Nat.mod_eq_of_lt hfirst, Nat.mod_eq_of_lt hsecond] at hcancel

end Base.Ring
