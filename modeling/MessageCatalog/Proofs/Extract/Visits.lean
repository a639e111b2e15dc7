import Mathlib
import MessageCatalog.Extract.Call

/-!
# The calls of a tree

A node of a tree has an address: which child is taken on each level. The calls of a tree are those
at its addresses, each of them once, and they are visited in the order of the addresses: a call
comes before those inside it, and these come before the calls of the children behind it.
-/

namespace MessageCatalog

namespace Source.Node

/-- The nodes right below a node, in the order in which they are visited. -/
def children : Node → List Node
  | .text _ | .constant _ | .name _ => []
  | .attribute object _ => [object]
  | .call _ _ function arguments keywords => function :: (arguments ++ keywords)
  | .sum left right => [left, right]
  | .formatted parts => parts
  | .choice test body orElse => [test, body, orElse]
  | .junction _ first second rest => first :: second :: rest
  | .other _ nodes => nodes

/-- The node at an address. -/
def at? (n : Node) : List Nat → Option Node
  | [] => some n
  | i :: address => n.children[i]?.bind fun child => child.at? address

/-- A node that is a call. -/
def call? : Node → Option Call
  | .call line endLine function arguments _ => some ⟨line, endLine, function, arguments⟩
  | _ => none

/-- The call at an address. -/
def callAt? (n : Node) (address : List Nat) : Option Call := (n.at? address).bind call?

lemma callAt?_nil (n : Node) : n.callAt? [] = n.call? := rfl

lemma callAt?_cons (n : Node) (i : Nat) (address : List Nat) :
    n.callAt? (i :: address) = n.children[i]?.bind fun child => child.callAt? address := by
  rw [callAt?, at?, Option.bind_assoc]
  rfl

lemma sizeOf_lt_of_mem_children {n child : Node} (h : child ∈ n.children) :
    sizeOf child < sizeOf n := by
  have hlt {nodes : List Node} (h : child ∈ nodes) : sizeOf child < sizeOf nodes :=
    List.sizeOf_lt_of_mem h
  cases n <;> simp only [children, List.mem_cons, List.mem_append, List.not_mem_nil, or_false] at h
  case «attribute» object id =>
    subst h
    simp only [Node.attribute.sizeOf_spec]
    omega
  case call line endLine function arguments keywords =>
    rw [Node.call.sizeOf_spec]
    rcases h with rfl | h | h
    · omega
    all_goals
      have hsize := hlt h
      omega
  case sum left right =>
    rw [Node.sum.sizeOf_spec]
    rcases h with rfl | rfl <;> omega
  case formatted parts =>
    have hsize := hlt h
    rw [Node.formatted.sizeOf_spec]
    omega
  case choice test body orElse =>
    rw [Node.choice.sizeOf_spec]
    rcases h with rfl | rfl | rfl <;> omega
  case junction isOr first second rest =>
    rw [Node.junction.sizeOf_spec]
    rcases h with rfl | rfl | h
    · omega
    · omega
    · have hsize := hlt h
      omega
  case other form nodes =>
    have hsize := hlt h
    rw [Node.other.sizeOf_spec]
    omega

/-- What passes from all children of a node to the node holds of every node. -/
theorem induction {P : Node → Prop} (h : ∀ n, (∀ child ∈ n.children, P child) → P n) (n : Node) :
    P n :=
  h n fun child _ => induction h child
termination_by sizeOf n
decreasing_by exact sizeOf_lt_of_mem_children ‹_›

end Source.Node

namespace Call

open Source

/-- The calls of some trees with their addresses, where the first tree is the child with a given
number: each call once, in the order of the addresses. -/
structure AreVisits (first : Nat) (ns : List Node) (visits : List (List Nat × Call)) : Prop where
  rising : (visits.map Prod.fst).Pairwise (· < ·)
  mem_iff : ∀ address c, (address, c) ∈ visits ↔ ∃ i below n, address = (first + i) :: below ∧
    ns[i]? = some n ∧ n.callAt? below = some c
  calls : visits.map Prod.snd = inNodes ns

/-- The calls of a tree with their addresses: each call once, in the order of the addresses. -/
structure IsVisit (n : Node) (visits : List (List Nat × Call)) : Prop where
  rising : (visits.map Prod.fst).Pairwise (· < ·)
  mem_iff : ∀ address c, (address, c) ∈ visits ↔ n.callAt? address = some c
  calls : visits.map Prod.snd = inNode n

lemma inNode_eq (n : Node) : inNode n = n.call?.toList ++ inNodes n.children := by
  cases n <;> simp [inNode, inNodes, Node.call?, Node.children]

/-- The calls of the first tree come before those of the others. -/
lemma AreVisits.cons {first : Nat} {n : Node} {ns : List Node} {own others : List (List Nat × Call)}
    (hown : IsVisit n own) (hothers : AreVisits (first + 1) ns others) :
    AreVisits first (n :: ns) (own.map (fun v => (first :: v.1, v.2)) ++ others) where
  rising := by
    rw [List.map_append, List.map_map, List.pairwise_append]
    refine ⟨?_, hothers.rising, ?_⟩
    · have hrising := List.pairwise_map.mp hown.rising
      exact List.pairwise_map.mpr (hrising.imp fun hlt => List.cons_lt_cons_self.mpr hlt)
    · intro a ha b hb
      obtain ⟨v, -, rfl⟩ := List.mem_map.mp ha
      obtain ⟨⟨address, c⟩, hv, rfl⟩ := List.mem_map.mp hb
      obtain ⟨i, below, n', rfl, -⟩ := (hothers.mem_iff address c).mp hv
      exact List.Lex.rel (by omega)
  mem_iff address c := by
    rw [List.mem_append, hothers.mem_iff]
    constructor
    · rintro (hv | ⟨i, below, n', rfl, hn', hc⟩)
      · obtain ⟨v, hmem, heq⟩ := List.mem_map.mp hv
        obtain ⟨rfl, rfl⟩ := Prod.mk.inj heq
        exact ⟨0, v.1, n, rfl, rfl, (hown.mem_iff _ _).mp hmem⟩
      · exact ⟨i + 1, below, n', by rw [Nat.add_right_comm, Nat.add_assoc], hn', hc⟩
    · rintro ⟨i, below, n', rfl, hn', hc⟩
      cases i with
      | zero =>
        obtain rfl := Option.some.inj hn'
        exact Or.inl (List.mem_map.mpr ⟨(below, c), (hown.mem_iff _ _).mpr hc, rfl⟩)
      | succ i =>
        exact Or.inr ⟨i, below, n', by rw [Nat.add_right_comm, Nat.add_assoc], hn', hc⟩
  calls := by
    rw [List.map_append, List.map_map, hothers.calls, inNodes, ← hown.calls]
    rfl

lemma exists_areVisits {ns : List Node} (h : ∀ n ∈ ns, ∃ visits, IsVisit n visits) (first : Nat) :
    ∃ visits, AreVisits first ns visits := by
  induction ns generalizing first with
  | nil => exact ⟨[], List.Pairwise.nil, by simp, rfl⟩
  | cons n ns ih =>
    obtain ⟨own, hown⟩ := h n List.mem_cons_self
    obtain ⟨others, hothers⟩ := ih (fun n hn => h n (List.mem_cons_of_mem _ hn)) (first + 1)
    exact ⟨_, AreVisits.cons hown hothers⟩

/-- A node that is a call comes before the calls inside it. -/
lemma AreVisits.node {n : Node} {visits : List (List Nat × Call)}
    (h : AreVisits 0 n.children visits) :
    IsVisit n (n.call?.toList.map ([], ·) ++ visits) where
  rising := by
    rw [List.map_append, List.pairwise_append]
    refine ⟨?_, h.rising, ?_⟩
    · cases n.call? <;> simp
    · intro a ha b hb
      obtain ⟨⟨address, c⟩, hv, rfl⟩ := List.mem_map.mp hb
      obtain ⟨i, below, n', rfl, -⟩ := (h.mem_iff address c).mp hv
      obtain ⟨_, hroot, rfl⟩ := List.mem_map.mp ha
      obtain ⟨_, -, rfl⟩ := List.mem_map.mp hroot
      exact List.Lex.nil
  mem_iff address c := by
    rw [List.mem_append, h.mem_iff]
    cases address with
    | nil => simp [Node.callAt?_nil]
    | cons i below => simp [Node.callAt?_cons, Option.bind_eq_some_iff, and_assoc]
  calls := by
    rw [List.map_append, h.calls, inNode_eq, List.map_map]
    exact congrArg (· ++ inNodes n.children) (List.map_id _)

theorem exists_isVisit (n : Node) : ∃ visits, IsVisit n visits := by
  induction n using Node.induction with
  | h n ih =>
    obtain ⟨visits, hvisits⟩ := exists_areVisits ih 0
    exact ⟨_, hvisits.node⟩

end Call

end MessageCatalog
