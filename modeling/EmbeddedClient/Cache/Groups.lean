import EmbeddedClient.Beacons.Invariant
import EmbeddedClient.Beacons.Macs
import EmbeddedClient.Support.Apart

/-!
# Unique virtual groups

`count_uniq_vg` counts the APs of a list, but none that is similar to one counted before.
Similarity is not transitive, so the count depends on the order of the list.
-/

namespace EmbeddedClient

open Apart

namespace ApPlugin

variable {r : SkyRctx}

def uniqVgs (r : SkyRctx) : List Beacon := choose Beacon.similar [] r.aps

theorem countUniq_eq (counted as : List Beacon) :
    countUniq counted as + counted.length = (choose Beacon.similar counted as).length := by
  induction as generalizing counted with
  | nil => simp [countUniq, choose]
  | cons a as ih =>
    unfold countUniq choose
    split_ifs
    · exact ih counted
    · have rest := ih (counted ++ [a])
      rw [List.length_append, List.length_singleton] at rest
      omega

theorem countUniqVg_eq (r : SkyRctx) : countUniqVg r = (uniqVgs r).length := by
  have counted := countUniq_eq [] r.aps
  rwa [List.length_nil, Nat.add_zero] at counted

theorem exists_aps {l : List Beacon} (perm : l.Perm r.aps) : ∃ r' : SkyRctx, r'.aps = l := by
  refine ⟨{ r with beacon := l }, List.take_of_length_le ?_⟩
  rw [perm.length_eq, SkyRctx.aps, List.length_take]
  exact Nat.min_le_left _ _

/-- The count is the same for all orders of the list, and the APs it counts are not similar. -/
def GroupCount (r : SkyRctx) : Prop :=
  ∀ r' : SkyRctx, r'.aps.Perm r.aps → countUniqVg r' = countUniqVg r ∧
    (uniqVgs r').Pairwise fun a b => a.similar b = false

/-- The count belongs to the set of APs exactly if all largest choices of APs that are not
similar have the same number of APs. -/
theorem groupCount_iff (r : SkyRctx) : GroupCount r ↔ WellCovered Beacon.similar r.aps := by
  rw [← length_choose_perm_iff Beacon.similar_self]
  constructor
  · intro same l perm
    obtain ⟨r', aps⟩ := exists_aps perm
    have count := (same r' (aps ▸ perm)).1
    rwa [countUniqVg_eq, countUniqVg_eq, uniqVgs, uniqVgs, aps] at count
  · intro same r' perm
    rw [countUniqVg_eq, countUniqVg_eq]
    exact ⟨same _ perm, choose_pairwise _ .nil⟩

/-- Three APs of which the weakest one is similar to the other two, which are not similar. -/
def chainRequest : SkyRctx := requestOf [apCall 0x00 (-50), apCall 0x01 (-70), apCall 0x11 (-60)]

def turnedChain : SkyRctx :=
  { chainRequest with beacon := [chainRequest.slot 2, chainRequest.slot 0, chainRequest.slot 1] }

theorem countUniqVg_chain : countUniqVg turnedChain = 1 ∧ countUniqVg chainRequest = 2 := by
  decide +kernel

theorem turnedChain_perm : turnedChain.aps.Perm chainRequest.aps := by
  decide +kernel

/-- With the weakest AP in front one AP is counted, otherwise there are two. -/
theorem chainRequest_not_groupCount : ¬ GroupCount chainRequest := by
  intro same
  have equal := (same turnedChain turnedChain_perm).1
  rw [countUniqVg_chain.1, countUniqVg_chain.2] at equal
  contradiction

end ApPlugin

end EmbeddedClient
