import Mathlib.Data.List.Chain

/-!
# UptimeFlow.Chains

Chains of links, each leading from a source to a target where the next one
starts, and the transitive relations that hold along them.

`nodes` lists what a chain visits.  A transitive relation holds between any
two nodes, the earlier first, if and only if every link relates its own ends
(`pairwise_nodes_iff`): what a chain of any length does is decided link by
link.
-/

namespace UptimeFlow.Chains

variable {ν κ : Type*} (src tgt : κ → ν)

/-- Every link starts where the link before it ended. -/
def Linked (links : List κ) : Prop := links.IsChain fun a b => src b = tgt a

/-- The nodes a chain visits, in order: where it starts, and each target. -/
def nodes : List κ → List ν
  | [] => []
  | link :: links => src link :: (link :: links).map tgt

variable {src tgt} {R : ν → ν → Prop}

/-- A relation holds between neighbours of a chain exactly when each link relates its
ends. -/
theorem isChain_nodes_iff {links : List κ} (h : Linked src tgt links) :
    (nodes src tgt links).IsChain R ↔ ∀ link ∈ links, R (src link) (tgt link) := by
  induction links with
  | nil => simp [nodes]
  | cons link rest ih =>
      have hrest : Linked src tgt rest := h.of_cons
      cases rest with
      | nil => simp [nodes]
      | cons next later =>
          have hnext : src next = tgt link := (List.isChain_cons_cons.1 h).1
          have htail := ih hrest
          simp only [nodes, List.map_cons, List.forall_mem_cons, hnext] at htail ⊢
          rw [List.isChain_cons_cons, htail]

/-- **A transitive relation holds along a whole chain if and only if it holds across
every link.** -/
theorem pairwise_nodes_iff [IsTrans ν R] {links : List κ} (h : Linked src tgt links) :
    (nodes src tgt links).Pairwise R ↔ ∀ link ∈ links, R (src link) (tgt link) := by
  rw [← List.isChain_iff_pairwise]
  exact isChain_nodes_iff h

end UptimeFlow.Chains
