import WireLab.Base.Dict
import WireLab.Base.Tally

/-!
# Counters by name

A map that counts names: each name that comes by adds a unit to its counter, from zero.
What is counted under a name is how often it came by (`getD_lookup_countUp`), and all the
counters together count every name (`sum_countUp`).
-/

namespace Base

variable {K M : Type*} [DecidableEq K] [AddCommMonoid M] (unit : M)

/-- `++counts[name]`. -/
def countUp (counts : Dict K M) (name : K) : Dict K M :=
  counts.insert name ((counts.lookup name).getD 0 + unit)

/-- **A counter counts its name.** -/
theorem getD_lookup_countUp (counts : Dict K M) (names : List K) (name : K) :
    ((names.foldl (countUp unit) counts).lookup name).getD 0 =
      (counts.lookup name).getD 0 + (names.countP fun other => other = name) • unit := by
  induction names generalizing counts with
  | nil => rw [List.foldl_nil, List.countP_nil, zero_nsmul, add_zero]
  | cons first names ih =>
      rw [List.foldl_cons, ih, countUp, Dict.lookup_insert, List.countP_cons]
      by_cases hfirst : name = first
      · subst hfirst
        rw [if_pos rfl, Option.getD_some, if_pos (decide_eq_true rfl), succ_nsmul', add_assoc]
      · have hother : decide (first = name) = false := by simpa using Ne.symm hfirst
        rw [if_neg hfirst, hother, if_neg (by decide), Nat.add_zero]

theorem isSome_lookup_countUp {counts : Dict K M} {names : List K} {name : K}
    (h : name ∈ names ∨ (counts.lookup name).isSome = true) :
    ((names.foldl (countUp unit) counts).lookup name).isSome = true := by
  induction names generalizing counts with
  | nil => exact h.resolve_left List.not_mem_nil
  | cons first names ih =>
      refine ih ?_
      by_cases hfirst : name = first
      · subst hfirst
        right
        rw [countUp, Dict.lookup_insert, if_pos rfl]
        rfl
      · rcases h with hmem | hcounted
        · exact .inl ((List.mem_cons.mp hmem).resolve_left hfirst)
        · right
          rw [countUp, Dict.lookup_insert, if_neg hfirst]
          exact hcounted

/-- How often a name came by, as a tally. -/
theorem tally_count (names : List K) (name : K) :
    tally id (fun _ => unit) name names = (names.countP fun other => other = name) • unit := by
  rw [tally, List.map_const', List.sum_replicate, List.countP_eq_length_filter]
  rfl

/-- **The counters count all names.** -/
theorem sum_countUp (names : List K) :
    ((names.foldl (countUp unit) (∅ : Dict K M)).entries.map Sigma.snd).sum =
      names.length • unit := by
  generalize hcounts : names.foldl (countUp unit) (∅ : Dict K M) = counts
  have hvalues : counts.entries.map Sigma.snd =
      counts.keys.map fun name => tally id (fun _ => unit) name names := by
    rw [AList.keys, List.keys, List.map_map]
    refine List.map_congr_left fun entry hentry => ?_
    have hlookup := (Dict.mem_entries_iff counts entry.1 entry.2).mp hentry
    have hcount := getD_lookup_countUp unit (∅ : Dict K M) names entry.1
    rw [hcounts, hlookup, Dict.lookup_empty, Option.getD_some, Option.getD_none, zero_add]
      at hcount
    exact hcount.trans (tally_count unit names entry.1).symm
  -- Every name that came by has a counter.
  have hcover : ∀ name ∈ names, id name ∈ counts.keys := by
    intro name hname
    have hsome : ((names.foldl (countUp unit) (∅ : Dict K M)).lookup name).isSome = true :=
      isSome_lookup_countUp unit (.inl hname)
    rw [hcounts, AList.lookup_isSome] at hsome
    exact hsome
  have hsplit := sum_tally (fun _ => unit) counts.nodupKeys hcover
  rw [hvalues]
  refine hsplit.trans ?_
  rw [List.map_const', List.sum_replicate]

end Base
