import RouteAlerts.Html.Query

/-!
Searches for elements against the nodes of a tree. A search carries along what stands around each
element, for selectors that ask for it; what it comes by are the elements among the nodes below, in
document order (`map_node_elements`, `map_node_descendants`).
-/

namespace RouteAlerts.Html

namespace Node

mutual

/-- The nodes below a node, in document order. -/
def nodesBelow : Node → List Node
  | element _ _ children => nodesOf children
  | _ => []

/-- The nodes of a list of trees, in document order. -/
def nodesOf : List Node → List Node
  | [] => []
  | n :: ns => n :: (nodesBelow n ++ nodesOf ns)

end

def isElement : Node → Bool
  | element .. => true
  | _ => false

/-- Only elements have names. -/
theorem isElement_of_name {n : Node} {name : String} (h : n.name = name) (named : name ≠ "") :
    n.isElement = true := by
  cases n with
  | element => rfl
  | text => exact absurd h.symm named
  | comment => exact absurd h.symm named

end Node

mutual

theorem map_node_elementsFrom : ∀ (ancestors : List Node) (n : Node),
    (elementsFrom ancestors n).map Located.node = (n :: n.nodesBelow).filter Node.isElement
  | _, .text _ => rfl
  | _, .comment _ => rfl
  | ancestors, .element name attributes children => by
    rw [elementsFrom, List.map_cons, map_node_elementsOf, Node.nodesBelow,
      List.filter_cons_of_pos rfl]

theorem map_node_elementsOf : ∀ (ancestors ns : List Node),
    (elementsOf ancestors ns).map Located.node = (Node.nodesOf ns).filter Node.isElement
  | _, [] => rfl
  | ancestors, n :: ns => by
    rw [elementsOf, List.map_append, map_node_elementsFrom ancestors n,
      map_node_elementsOf ancestors ns, Node.nodesOf, ← List.cons_append, List.filter_append]

end

theorem map_node_elements (page : List Node) :
    (elements page).map Located.node = (Node.nodesOf page).filter Node.isElement :=
  map_node_elementsOf [] page

theorem mem_map_node_elements {page : List Node} {n : Node} :
    n ∈ (elements page).map Located.node ↔ n ∈ Node.nodesOf page ∧ n.isElement = true := by
  rw [map_node_elements, List.mem_filter]

theorem map_node_descendants (l : Located) :
    l.descendants.map Located.node = l.node.nodesBelow.filter Node.isElement := by
  rw [Located.descendants, map_node_elementsOf]
  cases l.node <;> rfl

/-- The elements below a located one that a test on the element alone picks out are those that it
picks out of the nodes below, if it picks out elements only. -/
theorem map_node_filter_descendants {p : Node → Bool}
    (only : ∀ n, p n = true → n.isElement = true) (l : Located) :
    (l.descendants.filter fun d => p d.node).map Located.node = l.node.nodesBelow.filter p := by
  have picked : ∀ n ∈ l.node.nodesBelow, (n.isElement && p n) = p n := by
    intro n _
    cases h : p n with
    | true => rw [only n h, Bool.and_true]
    | false => rw [Bool.and_false]
  calc (l.descendants.filter (p ∘ Located.node)).map Located.node
      = (l.descendants.map Located.node).filter p := List.filter_map.symm
    _ = l.node.nodesBelow.filter fun n => n.isElement && p n := by
        rw [map_node_descendants, List.filter_filter]
        simp only [Bool.and_comm]
    _ = l.node.nodesBelow.filter p := List.filter_congr picked

/-! ### Selectors -/

namespace Selector

/-- The tests that a selector puts to the element itself. -/
def tests : Selector → List Test
  | only tests => tests
  | childOf _ tests => tests
  | within _ tests => tests

theorem holds_of_mem_tests {s : Selector} {n : Node} {ancestors : List Node}
    (h : s.holds n ancestors = true) {t : Test} (member : t ∈ s.tests) : t.holds n = true := by
  have all : s.tests.all (·.holds n) = true := by
    cases s with
    | only => simpa [holds, tests] using h
    | childOf =>
      cases ancestors with
      | nil => simp [holds] at h
      | cons =>
        rw [holds, Bool.and_eq_true_iff] at h
        exact h.1
    | within =>
      rw [holds, Bool.and_eq_true_iff] at h
      exact h.1
  exact List.all_eq_true.mp all t member

/-- Nothing around an element is named by a selector when none of it passes the tests. -/
theorem outerHolds_childOf {parent : Selector} {tests : List Test} {around : List Node}
    (other : ∀ p ∈ around, tests.all (·.holds p) = false) :
    holds.outerHolds (.childOf parent tests) around = false := by
  induction around with
  | nil => simp [holds.outerHolds]
  | cons p around ih =>
    have rest := ih fun q inRest => other q (List.mem_cons_of_mem _ inRest)
    have front : (Selector.childOf parent tests).holds p around = false := by
      rw [holds.eq_def]
      simp [other p List.mem_cons_self]
    rw [holds.outerHolds, front, rest]
    rfl

theorem among_only (tests : List Test) (located : List Located) :
    (Selector.only tests).among located = located.filter fun l => tests.all (·.holds l.node) := by
  simp [among, holds]

end Selector

theorem mem_of_head?_among {s : Selector} {ls : List Located} {l : Located}
    (h : (s.among ls).head? = some l) : l ∈ ls ∧ s.holds l.node l.ancestors = true :=
  List.mem_filter.mp (List.mem_of_head? h)

end RouteAlerts.Html
