import Mathlib.Data.List.Basic
import Mathlib.Data.List.Nodup
import Mathlib.Logic.Function.Basic
import Mathlib.Tactic.Common

namespace SenseBox.Data

/-! Chains of nodes in a table of links. -/

/-- Each node of the chain is linked to the next one, and the last to what comes
after the chain. -/
def Leads {Node : Type} (next : Node → Option Node) :
    List Node → Option Node → Prop
  | [], _ => True
  | node :: rest, after => next node = rest.head?.or after ∧ Leads next rest after

abbrev Linked {Node : Type} (next : Node → Option Node) (chain : List Node) : Prop :=
  Leads next chain none

variable {Node : Type} {next next' : Node → Option Node}

theorem Leads.congr {chain : List Node} {after : Option Node}
    (hleads : Leads next chain after) (hsame : ∀ node ∈ chain, next' node = next node) :
    Leads next' chain after := by
  induction chain with
  | nil => trivial
  | cons node rest ih =>
      obtain ⟨hnode, hrest⟩ := hleads
      refine ⟨?_, ih hrest fun other hother => hsame other (.tail node hother)⟩
      rw [hsame node (.head rest)]
      exact hnode

theorem leads_append {left right : List Node} {after : Option Node} :
    Leads next (left ++ right) after ↔
      Leads next left (right.head?.or after) ∧ Leads next right after := by
  induction left with
  | nil => exact ⟨fun hright => ⟨trivial, hright⟩, And.right⟩
  | cons node rest ih =>
      have hhead : (rest ++ right).head?.or after =
          rest.head?.or (right.head?.or after) := by
        rw [List.head?_append, Option.or_assoc]
      constructor
      · rintro ⟨hnode, hrest⟩
        exact ⟨⟨hnode.trans hhead, (ih.mp hrest).1⟩, (ih.mp hrest).2⟩
      · rintro ⟨⟨hnode, hrest⟩, hright⟩
        exact ⟨hnode.trans hhead.symm, ih.mpr ⟨hrest, hright⟩⟩

namespace Linked

theorem next_eq {chain : List Node} (hlinked : Linked next chain) {place : Nat}
    {node : Node} (hnode : chain[place]? = some node) :
    next node = chain[place + 1]? := by
  induction chain generalizing place with
  | nil => cases hnode
  | cons head rest ih =>
      obtain ⟨hhead, hrest⟩ := hlinked
      cases place with
      | zero =>
          cases hnode
          rw [hhead, Option.or_none, List.getElem?_cons_succ,
            List.head?_eq_getElem?]
      | succ place => exact ih hrest hnode

/-- A chain is known from where it starts. -/
theorem eq_of_head {left right : List Node} (hleft : Linked next left)
    (hright : Linked next right) (hhead : left.head? = right.head?) :
    left = right := by
  induction left generalizing right with
  | nil => exact (List.head?_eq_none_iff.mp hhead.symm).symm
  | cons node rest ih =>
      cases right with
      | nil => cases hhead
      | cons other tail =>
          cases Option.some.inj hhead
          have htails : rest.head? = tail.head? := by
            have hnext := hleft.1.symm.trans hright.1
            rwa [Option.or_none, Option.or_none] at hnext
          rw [ih hleft.2 hright.2 htails]

theorem tail {left right : List Node} (hlinked : Linked next (left ++ right)) :
    Linked next right :=
  (leads_append.mp hlinked).2

/-- A chain with an end does not come back to a node. -/
theorem nodup {chain : List Node} (hlinked : Linked next chain) : chain.Nodup := by
  induction chain with
  | nil => exact List.nodup_nil
  | cons node rest ih =>
      refine List.nodup_cons.mpr ⟨fun hmem => ?_, ih hlinked.2⟩
      obtain ⟨between, again, rfl⟩ := List.append_of_mem hmem
      have hagain : node :: again = node :: (between ++ node :: again) :=
        eq_of_head (tail hlinked.2) hlinked rfl
      have hlength := congrArg List.length hagain
      rw [List.length_cons, List.length_cons, List.length_append,
        List.length_cons] at hlength
      omega

/-- A chain is put after the last node of another one. -/
theorem join {init group : List Node} {last head : Node} {after : Option Node}
    (hleads : Leads next (init ++ [last]) after) (hinit : ∀ node ∈ init, next' node = next node)
    (hlast : next' last = some head) (hhead : group.head? = some head)
    (hgroup : Linked next' group) : Linked next' (init ++ [last] ++ group) := by
  have hsplit := leads_append.mp hleads
  rw [Linked, leads_append, leads_append]
  refine ⟨⟨hsplit.1.congr hinit, ?_, trivial⟩, hgroup⟩
  rw [hlast, hhead]
  rfl

/-- A chain is ended after one of its nodes. -/
theorem cut {init rest : List Node} {last : Node}
    (hlinked : Linked next (init ++ [last] ++ rest))
    (hinit : ∀ node ∈ init, next' node = next node) (hlast : next' last = none) :
    Linked next' (init ++ [last]) := by
  have hsplit := leads_append.mp (leads_append.mp hlinked).1
  exact leads_append.mpr ⟨hsplit.1.congr hinit, hlast, trivial⟩

end Linked

end SenseBox.Data
