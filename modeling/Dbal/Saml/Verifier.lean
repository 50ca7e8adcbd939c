/-
# The signed element

`verifySignedElement` of `src/saml/xmldsig/verifier.cpp` refuses documents in which two elements
have one id and then lets xmlsec resolve the reference of the signature.  The search for duplicates
sees one attribute `ID` of each element, the first; the table of ids registers all of them.  The
reference leads to the element that was to be verified exactly if no element before it has the
expected id in another attribute than its first `ID`.
-/

import Dbal.Saml.XmlTree
import Mathlib.Data.List.Nodup

namespace Dbal
namespace Saml

/-- The transforms that the code names. -/
inductive XmlSecTransformId where
  | rsaSha256
  | exclC14N
  | unexpected
  deriving DecidableEq

/-- The context after `xmlSecDSigCtxVerify`, with what the call returned. -/
structure DSigCtx where
  rc : Int
  statusSucceeded : Bool
  signMethod : Option XmlSecTransformId
  c14nMethod : Option XmlSecTransformId

/-- What the code uses of xmlsec.  `verify` is for a signature whose reference leads to the element
at a place, or to none. -/
structure XmlSec where
  nodeSignature : String
  nodeReference : String
  dSigNs : String
  createsCtx : Bool
  loadsKey : String → Bool
  verify : XmlDoc → XmlElement → Option Nat → String → DSigCtx

/-- `hasDuplicateIdAttribute`, with the values seen so far. -/
def hasDuplicateIdAttribute : XmlNodes → List String → Bool × List String
  | .nil, seen => (false, seen)
  | .other next, seen => hasDuplicateIdAttribute next seen
  | .element name ns properties children next, seen =>
      match (XmlElement.mk name ns properties children).xmlGetProp "ID" with
      | some value =>
          if value ∈ seen then (true, seen)
          else
            match hasDuplicateIdAttribute children (value :: seen) with
            | (true, seen) => (true, seen)
            | (false, seen) => hasDuplicateIdAttribute next seen
      | none =>
          match hasDuplicateIdAttribute children seen with
          | (true, seen) => (true, seen)
          | (false, seen) => hasDuplicateIdAttribute next seen

/-- The element has this name in this namespace. -/
def XmlElement.matches (element : XmlElement) (name ns : String) : Bool :=
  element.name = name && element.ns = some ns

/-- `countDirectChildren`, on the chain of children. -/
def countDirectChildren : XmlNodes → String → String → Nat
  | .nil, _, _ => 0
  | .other next, name, ns => countDirectChildren next name ns
  | .element name' ns' properties children next, name, ns =>
      countDirectChildren next name ns +
        if (XmlElement.mk name' ns' properties children).matches name ns then 1 else 0

/-- `findSingleDirectChild`, on the chain of children. -/
def findSingleDirectChild : XmlNodes → String → String → Option XmlElement
  | .nil, _, _ => none
  | .other next, name, ns => findSingleDirectChild next name ns
  | .element name' ns' properties children next, name, ns =>
      let element := XmlElement.mk name' ns' properties children
      if element.matches name ns then some element else findSingleDirectChild next name ns

/-- The end of `verifySignedElement`: what xmlsec says of the signature, whose reference has this
URI. -/
def verifyReference (xmlsec : XmlSec) (doc : XmlDoc) (signatureNode : XmlElement) (refUri : String)
    (publicKeyPem : String) : Bool :=
  if !xmlsec.createsCtx then false
  else if !xmlsec.loadsKey publicKeyPem then false
  else
    let ctx := xmlsec.verify doc signatureNode (doc.resolve refUri) publicKeyPem
    decide (ctx.rc ≥ 0) && ctx.statusSucceeded &&
      decide (ctx.signMethod = some .rsaSha256) && decide (ctx.c14nMethod = some .exclC14N)

/-- The checks of `verifySignedElement` on the signature of the element: one, with one reference,
and that to the expected id. -/
def verifySignature (xmlsec : XmlSec) (doc : XmlDoc) (element : XmlElement)
    (expectedId publicKeyPem : String) : Bool :=
  if countDirectChildren element.children xmlsec.nodeSignature xmlsec.dSigNs ≠ 1 then false
  else
    match findSingleDirectChild element.children xmlsec.nodeSignature xmlsec.dSigNs with
    | none => false
    | some signatureNode =>
        match findSingleDirectChild signatureNode.children "SignedInfo" xmlsec.dSigNs with
        | none => false
        | some signedInfoNode =>
            if countDirectChildren signedInfoNode.children xmlsec.nodeReference xmlsec.dSigNs ≠ 1 then
              false
            else
              match findSingleDirectChild signedInfoNode.children xmlsec.nodeReference
                  xmlsec.dSigNs with
              | none => false
              | some referenceNode =>
                  let refUri := (referenceNode.xmlGetProp "URI").getD ""
                  if refUri ≠ "#" ++ expectedId then false
                  else verifyReference xmlsec doc signatureNode refUri publicKeyPem

/-- `verifySignedElement`, for an element of the document. -/
def verifySignedElement (xmlsec : XmlSec) (doc : XmlDoc) (elementNode : Fin doc.elements.length)
    (expectedId publicKeyPem : String) : Bool :=
  if doc.hasIntSubset then false
  else if (hasDuplicateIdAttribute doc.rootNode []).1 then false
  else
    match (doc.elements[elementNode]).xmlHasProp "ID" with
    | none => false
    | some idAttr =>
        if idAttr.value ≠ expectedId then false
        else verifySignature xmlsec doc doc.elements[elementNode] expectedId publicKeyPem

/-! ### The search for duplicates -/

/-- The values that the search looks at, in document order. -/
def firstIds (nodes : XmlNodes) : List String := nodes.elements.filterMap (·.xmlGetProp "ID")

theorem firstIds_element (name : String) (ns : Option String) (properties : List XmlAttr)
    (children next : XmlNodes) :
    firstIds (.element name ns properties children next) =
      ((XmlElement.mk name ns properties children).xmlGetProp "ID").toList ++
        (firstIds children ++ firstIds next) := by
  unfold firstIds
  rw [XmlNodes.elements, List.filterMap_cons, List.filterMap_append]
  cases (XmlElement.mk name ns properties children).xmlGetProp "ID" <;> rfl

/-- **If the search finds no duplicate, no value that it looks at occurs twice.** -/
theorem hasDuplicateIdAttribute_false (nodes : XmlNodes) {seen : List String} (hseen : seen.Nodup)
    (hfalse : (hasDuplicateIdAttribute nodes seen).1 = false) :
    (hasDuplicateIdAttribute nodes seen).2 = (firstIds nodes).reverse ++ seen ∧
      ((firstIds nodes).reverse ++ seen).Nodup := by
  induction nodes generalizing seen with
  | nil => exact ⟨rfl, hseen⟩
  | other next ih => exact ih hseen hfalse
  | element name ns properties children next ihChildren ihNext =>
      -- what is seen once the element's own value is
      have hrest : ∀ seen' : List String, seen'.Nodup →
          (match hasDuplicateIdAttribute children seen' with
            | (true, seen) => (true, seen)
            | (false, seen) => hasDuplicateIdAttribute next seen).1 = false →
          (match hasDuplicateIdAttribute children seen' with
            | (true, seen) => (true, seen)
            | (false, seen) => hasDuplicateIdAttribute next seen).2 =
              (firstIds children ++ firstIds next).reverse ++ seen' ∧
            ((firstIds children ++ firstIds next).reverse ++ seen').Nodup := by
        intro seen' hseen' hfalse'
        have hchildren := ihChildren hseen'
        rcases hrun : hasDuplicateIdAttribute children seen' with ⟨_ | _, after⟩ <;>
          rw [hrun] at hfalse' hchildren
        · obtain ⟨rfl, hnodup⟩ := hchildren rfl
          have hnext := ihNext hnodup hfalse'
          simpa using hnext
        · cases hfalse'
      rw [firstIds_element]
      rw [hasDuplicateIdAttribute] at hfalse ⊢
      rcases hvalue : (XmlElement.mk name ns properties children).xmlGetProp "ID" with _ | value
      · rw [hvalue] at hfalse
        exact hrest seen hseen hfalse
      · simp only [hvalue] at hfalse ⊢
        split_ifs at hfalse ⊢ with hmem
        have hcons := hrest (value :: seen) (List.nodup_cons.2 ⟨hmem, hseen⟩) hfalse
        simpa using hcons

/-- The first `ID` of an element is the head of its ids. -/
theorem XmlElement.xmlGetProp_id (element : XmlElement) :
    element.xmlGetProp "ID" = element.ids.head? := by
  rw [xmlGetProp, xmlHasProp, ids, List.head?_map, List.head?_filter]

/-- In a document that passes the search two elements have different first ids. -/
theorem firstId_ne {doc : XmlDoc} (hfalse : (hasDuplicateIdAttribute doc.rootNode []).1 = false)
    {i j : Nat} (hj : j < doc.elements.length) (hij : i < j) (value : String)
    (hi : (doc.elements[i]).xmlGetProp "ID" = some value) :
    (doc.elements[j]).xmlGetProp "ID" ≠ some value := by
  have hnodup := (hasDuplicateIdAttribute_false doc.rootNode List.nodup_nil hfalse).2
  rw [List.append_nil, List.nodup_reverse] at hnodup
  have hpairs := List.pairwise_filterMap.1 hnodup
  intro hvalue
  exact List.pairwise_iff_getElem.1 hpairs i j (Nat.lt_trans hij hj) hj hij value hi value hvalue rfl

/-! ### What a verified element has passed -/

variable {xmlsec : XmlSec} {doc : XmlDoc} {elementNode : Fin doc.elements.length}
  {expectedId publicKeyPem : String}

theorem verifySignedElement_checks
    (h : verifySignedElement xmlsec doc elementNode expectedId publicKeyPem = true) :
    (hasDuplicateIdAttribute doc.rootNode []).1 = false ∧
      (doc.elements[elementNode]).xmlGetProp "ID" = some expectedId := by
  unfold verifySignedElement at h
  split_ifs at h with hsubset hduplicate
  rcases hprop : (doc.elements[elementNode]).xmlHasProp "ID" with _ | idAttr <;>
    simp only [hprop] at h
  · cases h
  · split_ifs at h with hvalue
    refine ⟨by simpa using hduplicate, ?_⟩
    rw [XmlElement.xmlGetProp, hprop]
    exact congrArg some (not_not.1 hvalue)

/-- **The reference of a verified element leads to the element itself exactly if no element before
it has the expected id in a second attribute.** -/
theorem reference_resolves_iff
    (h : verifySignedElement xmlsec doc elementNode expectedId publicKeyPem = true) :
    doc.resolve ("#" ++ expectedId) = some elementNode.val ↔
      ∀ earlier : Fin doc.elements.length, earlier < elementNode →
        expectedId ∉ (doc.elements[earlier]).ids.tail := by
  obtain ⟨hfalse, hid⟩ := verifySignedElement_checks h
  rw [doc.resolve_eq, List.findIdx?_eq_some_iff_getElem]
  constructor
  · rintro ⟨hlt, -, hfirst⟩ earlier hearlier hmem
    exact hfirst earlier hearlier (decide_eq_true (List.mem_of_mem_tail hmem))
  · intro hnone
    rw [XmlElement.xmlGetProp_id] at hid
    refine ⟨elementNode.isLt, decide_eq_true (List.mem_of_head? hid), fun j hj hmem => ?_⟩
    have hlt : j < doc.elements.length := Nat.lt_trans hj elementNode.isLt
    have hmem : expectedId ∈ (doc.elements[j]).ids := of_decide_eq_true hmem
    rcases hids : (doc.elements[j]).ids with _ | ⟨first, later⟩
    · rw [hids] at hmem
      cases hmem
    by_cases hfirst : first = expectedId
    · refine firstId_ne hfalse elementNode.isLt hj expectedId ?_ ?_
      · rw [XmlElement.xmlGetProp_id, hids, hfirst, List.head?_cons]
      · rw [XmlElement.xmlGetProp_id]
        exact hid
    · refine hnone ⟨j, hlt⟩ hj ?_
      have htail : expectedId ∈ later := (List.mem_cons.1 (hids ▸ hmem)).resolve_left (Ne.symm hfirst)
      simpa [hids] using htail

/-! ### Two documents -/

/-- An element with an id and one signature, whose reference leads to the id. -/
def signedElement (id : String) (next : XmlNodes) : XmlNodes :=
  .element "Assertion" none [{ name := "ID", value := id }]
    (.element "Signature" (some "dsig") []
      (.element "SignedInfo" (some "dsig") []
        (.element "Reference" (some "dsig") [{ name := "URI", value := "#" ++ id }] .nil .nil) .nil)
      .nil)
    next

/-- A response with one signed element, after an element with these attributes. -/
def response (properties : List XmlAttr) : XmlDoc where
  root := ⟨"Response", none, [], .element "Advice" none properties .nil (signedElement "x" .nil)⟩

/-- The signature is one of the element at the place, and the key is the right one. -/
def signerOf (place : Nat) : XmlSec where
  nodeSignature := "Signature"
  nodeReference := "Reference"
  dSigNs := "dsig"
  createsCtx := true
  loadsKey _ := true
  verify _ _ digested _ :=
    { rc := 0, statusSucceeded := decide (digested = some place), signMethod := some .rsaSha256,
      c14nMethod := some .exclC14N }

/-- The reference to an id that no other element has. -/
theorem reference_resolves_alone :
    (response [{ name := "ID", value := "y" }]).resolve ("#" ++ "x") = some 2 :=
  (@reference_resolves_iff (signerOf 2) _ ⟨2, by decide⟩ "x" "" (by decide +kernel)).2
    (by decide +kernel)

/-- **A second `ID` of an earlier element: the element that is verified is not the one that is
signed.** -/
theorem signature_of_another_element :
    let doc := response [{ name := "ID", value := "y" }, { pfx := some "p", name := "ID", value := "x" }]
    verifySignedElement (signerOf 1) doc ⟨2, by decide⟩ "x" "" = true ∧
      doc.resolve ("#" ++ "x") = some 1 := by
  decide +kernel

end Saml
end Dbal
