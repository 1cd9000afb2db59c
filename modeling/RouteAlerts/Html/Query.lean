import RouteAlerts.Html.Node
import RouteAlerts.Text.Split

/-!
Finding elements: a selector names an element by its own properties and by the elements around it.
-/

namespace RouteAlerts.Html

/-- An element with the elements around it, the nearest first. -/
structure Located where
  node : Node
  ancestors : List Node

mutual

/-- The elements of a tree in document order, the root included. -/
def elementsFrom (ancestors : List Node) : Node → List Located
  | .element name attributes children =>
    ⟨.element name attributes children, ancestors⟩ ::
      elementsOf (.element name attributes children :: ancestors) children
  | _ => []

/-- The elements of a list of trees in document order. -/
def elementsOf (ancestors : List Node) : List Node → List Located
  | [] => []
  | n :: ns => elementsFrom ancestors n ++ elementsOf ancestors ns

end

def elements (page : List Node) : List Located := elementsOf [] page

def Located.descendants (l : Located) : List Located :=
  elementsOf (l.node :: l.ancestors) l.node.children

/-! ### Selectors -/

/-- A test on an element alone. -/
inductive Test where
  | name (s : String)
  | id (s : String)
  | hasClass (s : String)
  | hasAttribute (key : String)
  | startsWith (key value : String)

def Test.holds (t : Test) (n : Node) : Bool :=
  match t with
  | name s => n.name == s
  | id s => n.attribute? "id" == some s.toList
  | hasClass s => n.classes.contains s.toList
  | hasAttribute key => (n.attribute? key).isSome
  | startsWith key value =>
    match n.attribute? key with
    | some s => !value.isEmpty && value.toList.isPrefixOf s
    | none => false

/-- A selector: tests on the element, and a selector for its parent or for some element around it.
-/
inductive Selector where
  | only (tests : List Test)
  | childOf (parent : Selector) (tests : List Test)
  | within (outer : Selector) (tests : List Test)

/-- Whether a selector names an element with these elements around it. -/
def Selector.holds (s : Selector) (n : Node) (ancestors : List Node) : Bool :=
  match s with
  | only tests => tests.all (·.holds n)
  | childOf parent tests =>
    tests.all (·.holds n) &&
    match ancestors with
    | p :: around => parent.holds p around
    | [] => false
  | within outer tests => tests.all (·.holds n) && outerHolds outer ancestors
where
  /-- Whether a selector names one of the elements around. -/
  outerHolds (outer : Selector) : List Node → Bool
    | [] => false
    | p :: around => outer.holds p around || outerHolds outer around

def Selector.among (s : Selector) (ls : List Located) : List Located :=
  ls.filter fun l => s.holds l.node l.ancestors

end RouteAlerts.Html
