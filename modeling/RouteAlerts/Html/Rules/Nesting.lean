import RouteAlerts.Html.Draft

/-!
End tags that do not match the innermost open element. For most elements everything inside is
closed; a formatting element is split, so that it ends inside the block that it was wrongly closed
in and goes on around it.
-/

namespace RouteAlerts.Html.Draft

/-- An end tag without rules of its own: closes up to the innermost element of its name, unless an
element with rules of its own is in between. -/
def closeOther (d : Draft) (name : String) : Draft :=
  match d.opened.find? fun id => d.isNamed [name] id || d.isSpecial id with
  | none => d
  | some id =>
    if d.isNamed [name] id then (d.closeImplied [name]).popThrough (· == id) else d

def swap {α : Type} [BEq α] (old new : α) (xs : List α) : List α :=
  xs.map fun x => if x == old then new else x

/-- A list with an element put in front of another one; at the end when that one is missing. -/
def insertBefore {α : Type} [BEq α] (mark new : α) : List α → List α
  | [] => [new]
  | x :: xs => if x == mark then new :: x :: xs else x :: insertBefore mark new xs

/-- Where a split element goes in the list of formatting: in the place of the old one, or in front
of a newer one. -/
inductive Bookmark where
  | replace (id : Nat)
  | newerThan (id : Nat)

/-- Makes a copy of an element that stands nowhere yet. -/
def copy (d : Draft) (id : Nat) : Draft × Nat :=
  let e := d.entry id
  d.create e.space e.name e.attributes

/-- Goes through the elements `between` the block and the formatting element, innermost first, and
copies those that are formatting themselves around what was gathered so far. -/
def wrapBetween (d : Draft) (block : Nat) (last : Nat) (bookmark : Bookmark) (count : Nat) :
    List Nat → Draft × Nat × Bookmark
  | [] => (d, last, bookmark)
  | id :: between =>
    let d := if count > 3 then d.forget id else d
    if !d.formatting.contains (.element id) then
      { d with opened := d.opened.filter (· != id) }.wrapBetween block last bookmark (count + 1)
        between
    else
      let (d, new) := d.copy id
      let d := { d with
        formatting := swap (.element id) (.element new) d.formatting
        opened := swap id new d.opened }
      let bookmark := if last == block then .newerThan new else bookmark
      let d := d.place (.inside new) (.element last)
      d.wrapBetween block new bookmark (count + 1) between

/-- Splits a formatting element at the outermost block in it. -/
def splitAt (d : Draft) (element block : Nat) : Draft :=
  let around := (around? element d.opened).getD 0
  let between := ((d.opened.dropWhile (· != block)).drop 1).takeWhile (· != element)
  let (d, last, bookmark) := d.wrapBetween block block (.replace element) 1 between
  let d := d.detach last
  let d := d.place (d.spotIn around) (.element last)
  let (d, new) := d.copy element
  let children := (d.entry block).children
  let d := d.update block fun e => { e with children := [] }
  let d := d.update new fun e => { e with children }
  let d := children.foldl (fun d slot => d.adopt new slot) d
  let d := d.place (.inside block) (.element new)
  let formatting := match bookmark with
    | .replace id => swap (.element id) (.element new) d.formatting
    | .newerThan id =>
      insertBefore (.element id) (.element new) (d.formatting.filter (· != .element element))
  let opened := insertBefore block new (d.opened.filter (· != element))
  { d with formatting, opened }

/-- An end tag of a formatting element, repeated while there are blocks to split at. -/
def closeFormattingFrom (d : Draft) (name : String) : Nat → Draft
  | 0 => d
  | rounds + 1 =>
    match d.formattingSinceMark.find? (d.isNamed [name]) with
    | none => d.closeOther name
    | some element =>
      if !d.opened.contains element then d.forget element
      else if !d.inScopeOf d.isScope (· == element) then d
      else
        let inside := d.opened.takeWhile (· != element)
        match (inside.filter d.isSpecial).getLast? with
        | none => (d.popThrough (· == element)).forget element
        | some block => (d.splitAt element block).closeFormattingFrom name rounds

def closeFormatting (d : Draft) (name : String) : Draft :=
  if d.currentIs [name] && !d.formatting.contains (.element d.current) then d.pop
  else d.closeFormattingFrom name 8

end RouteAlerts.Html.Draft
