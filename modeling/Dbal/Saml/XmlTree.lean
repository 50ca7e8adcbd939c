/-
# Documents

A parsed document as the functions of `src/saml/xmldsig/` see it.  Nodes are linked to their first
child and to the next node of the same parent, and an element is known by its place in document
order.  The table of ids is what `xmlSecAddIDs` makes of the document: it registers every
attribute with one of the names, wherever its prefix leads, and the first registration of a value
stays.
-/

import Dbal.Store.UniqueIndex

namespace Dbal
namespace Saml

/-- `xmlAttr`: the prefix, the name without it, and the value. -/
structure XmlAttr where
  pfx : Option String := none
  name : String
  value : String

/-- A node and those after it with the same parent, as `next` links them; `other` is a node that
is no element, such as text or a comment, and `ns` is the `href` of the namespace. -/
inductive XmlNodes where
  | nil
  | other (next : XmlNodes)
  | element (name : String) (ns : Option String) (properties : List XmlAttr)
      (children next : XmlNodes)

/-- A node that is an element. -/
structure XmlElement where
  name : String
  ns : Option String
  properties : List XmlAttr
  children : XmlNodes

/-- `xmlDoc`: whether there is a DOCTYPE, and the root element. -/
structure XmlDoc where
  hasIntSubset : Bool := false
  root : XmlElement

/-- The elements in document order. -/
def XmlNodes.elements : XmlNodes → List XmlElement
  | .nil => []
  | .other next => next.elements
  | .element name ns properties children next =>
      ⟨name, ns, properties, children⟩ :: (children.elements ++ next.elements)

/-- The root element as a node; only comments and the like come after it. -/
def XmlDoc.rootNode (doc : XmlDoc) : XmlNodes :=
  .element doc.root.name doc.root.ns doc.root.properties doc.root.children .nil

def XmlDoc.elements (doc : XmlDoc) : List XmlElement := doc.rootNode.elements

/-- `xmlHasProp`: the first attribute with the name, whatever its prefix. -/
def XmlElement.xmlHasProp (element : XmlElement) (name : String) : Option XmlAttr :=
  element.properties.find? fun attr => attr.name = name

/-- `xmlGetProp`. -/
def XmlElement.xmlGetProp (element : XmlElement) (name : String) : Option String :=
  (element.xmlHasProp name).map (·.value)

/-! ### The table of ids -/

/-- The values of the attributes `ID`, with any prefix. -/
def XmlElement.ids (element : XmlElement) : List String :=
  (element.properties.filter fun attr => attr.name = "ID").map (·.value)

/-- The registrations of one element: a value that is registered already stays as it is. -/
def registerIds (place : Nat) : List String → Std.TreeMap String Nat → Std.TreeMap String Nat
  | [], table => table
  | value :: values, table => registerIds place values (table.insertIfNew value place)

/-- `xmlSecAddIDs` with the name `ID`, for the elements from a place on. -/
def xmlSecAddIDs : List XmlElement → Nat → Std.TreeMap String Nat → Std.TreeMap String Nat
  | [], _, table => table
  | element :: elements, place, table =>
      xmlSecAddIDs elements (place + 1) (registerIds place element.ids table)

/-- The place of the element to which a reference in the document leads, if there is one. -/
def XmlDoc.resolve (doc : XmlDoc) (uri : String) : Option Nat :=
  match uri.toList with
  | '#' :: id => (xmlSecAddIDs doc.elements 0 {})[String.ofList id]?
  | _ => none

variable {table : Std.TreeMap String Nat} {id : String} {place : Nat}

theorem registerIds_getElem? (values : List String) :
    (registerIds place values table)[id]? =
      table[id]?.or (if id ∈ values then some place else none) := by
  induction values generalizing table with
  | nil => simp [registerIds]
  | cons value values ih =>
      rw [registerIds, ih, Std.TreeMap.getElem?_insertIfNew]
      by_cases heq : value = id
      · subst heq
        by_cases hmem : value ∈ table <;> simp [hmem]
      · simp [heq, Ne.symm heq]

/-- **The first element that has the id among its attributes is the one registered.** -/
theorem xmlSecAddIDs_getElem? (elements : List XmlElement) :
    (xmlSecAddIDs elements place table)[id]? =
      table[id]?.or ((elements.findIdx? fun e => id ∈ e.ids).map (· + place)) := by
  induction elements generalizing place table with
  | nil => simp [xmlSecAddIDs]
  | cons element elements ih =>
      rw [xmlSecAddIDs, ih, registerIds_getElem?, Option.or_assoc, List.findIdx?_cons]
      by_cases hmem : id ∈ element.ids
      · simp [hmem]
      · rw [if_neg hmem, Option.none_or, if_neg (by simpa using hmem), Option.map_map]
        refine congrArg (Option.or _) (congrArg (Option.map · _) (funext fun i => ?_))
        show i + (place + 1) = i + 1 + place
        omega

theorem XmlDoc.resolve_eq (doc : XmlDoc) (id : String) :
    doc.resolve ("#" ++ id) = doc.elements.findIdx? fun e => id ∈ e.ids := by
  have htoList : ("#" ++ id).toList = '#' :: id.toList := by simp
  simp [XmlDoc.resolve, htoList, xmlSecAddIDs_getElem?]

end Saml
end Dbal
