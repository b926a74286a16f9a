import CertApproval.Proofs.Der.Values
import CertApproval.Request.Certification

/-!
Requests and their parts, written and read. Each part has a condition for being well-formed,
which is what the encoding asks for beside a length that fits. Main statement: a request that is
well-formed is read back from what is written for it.
-/

namespace CertApproval.Request

open CertApproval.Der

/-- What is written for a list item by item is read back item by item. -/
theorem mapM_map_eq_some {α β : Type} {write : α → β} {read : β → Option α} {items : List α}
    (back : ∀ item ∈ items, read (write item) = some item) :
    (items.map write).mapM read = some items := by
  induction items with
  | nil =>
      rfl
  | cons item items inductionHypothesis =>
      have others := inductionHypothesis fun other member =>
        back other (List.mem_cons_of_mem _ member)
      simp [back item List.mem_cons_self, others]

/-! ## Names -/

namespace Attribute

structure WellFormed (item : Attribute) : Prop where
  type : item.type.WellFormed
  value : isSoundValue item.value = true

theorem read?_write {item : Attribute} (wellFormed : item.WellFormed) (fits : item.write.Fits) :
    read? item.write = some item := by
  simp only [read?, write, Element.sequence?_ofSequence fits, Element.oid?_ofOid wellFormed.type,
    wellFormed.value, if_true]

end Attribute

namespace Name

/-- Names whose sets stand in order. -/
def WellFormed (name : Name) : Prop :=
  ∀ set ∈ name, (∀ item ∈ set, item.WellFormed) ∧
    Element.ascending (set.map Attribute.write) = true

theorem read?_write {name : Name} (wellFormed : name.WellFormed) (fits : (write name).Fits) :
    read? (write name) = some name := by
  simp only [read?, write, Element.sequence?_ofSequence fits]
  refine mapM_map_eq_some fun set member => ?_
  obtain ⟨items, ascends⟩ := wellFormed set member
  have fitsSet : (Element.ofSet (set.map Attribute.write)).Fits :=
    fits.of_mem (List.mem_map_of_mem member)
  rw [Element.set?_ofSet fitsSet ascends, Option.bind_some]
  refine mapM_map_eq_some fun item isItem => ?_
  exact Attribute.read?_write (items item isItem) (fitsSet.of_mem (List.mem_map_of_mem isItem))

end Name

/-! ## Algorithms and keys -/

namespace Algorithm

structure WellFormed (algorithm : Algorithm) : Prop where
  id : algorithm.id.WellFormed
  sound : algorithm.isSound = true

theorem read?_write {algorithm : Algorithm} (wellFormed : algorithm.WellFormed)
    (fits : algorithm.write.Fits) : read? algorithm.write = some algorithm := by
  obtain ⟨id, parameters⟩ := algorithm
  have isId := Element.oid?_ofOid wellFormed.id
  simp only at isId
  have inside : (write ⟨id, parameters⟩).sequence? =
      some (.ofOid id :: parameters.toList) := Element.sequence?_ofSequence fits
  cases parameters with
  | none =>
      simp [read?, inside, isId, Option.filter, wellFormed.sound]
  | some parameters =>
      simp [read?, inside, isId, Option.filter, wellFormed.sound]

end Algorithm

namespace KeyInfo

structure WellFormed (info : KeyInfo) : Prop where
  algorithm : info.algorithm.WellFormed
  key : info.key.WellFormed

theorem read?_write {info : KeyInfo} (wellFormed : info.WellFormed) (fits : info.write.Fits) :
    read? info.write = some info := by
  have fitsAlgorithm : info.algorithm.write.Fits := fits.of_mem List.mem_cons_self
  simp only [read?, write, Element.sequence?_ofSequence fits,
    Algorithm.read?_write wellFormed.algorithm fitsAlgorithm, Element.bits?_ofBits wellFormed.key]

end KeyInfo

/-! ## General names -/

namespace GeneralName

def WellFormed : GeneralName → Prop
  | other type _ => type.WellFormed
  | directory name => name.WellFormed
  | registered id => id.WellFormed
  | email _ | dns _ | mailAddress _ | party _ | uri _ | address _ => True

theorem read?_write {name : GeneralName} (wellFormed : name.WellFormed)
    (fits : name.write.Fits) : read? name.write = some name := by
  cases name with
  | other type value =>
      have fitsValue : (Element.compose (.context true 0) [value]).Fits := fits.of_mem (by simp)
      have isType : (Element.ofOid type).oid? = some type := Element.oid?_ofOid wellFormed
      have inside := Element.readAll?_compose fits
      simp only [read?, write, inside, isType, Element.explicit?_compose fitsValue]
      rfl
  | email text | dns text | uri text =>
      simp [read?, write, Tag.context]
  | mailAddress content | party content | address content =>
      simp [read?, write, Tag.context]
  | directory name =>
      have fitsName : name.write.Fits := fits.of_mem List.mem_cons_self
      have tag : (write (directory name)).tag = .context true 4 := rfl
      have isName := Name.read?_write wellFormed fitsName
      have inside : (write (directory name)).explicit? 4 = some name.write :=
        Element.explicit?_compose fits
      simp [read?, tag, inside, isName, Tag.context]
  | registered id =>
      have isId : Oid.read? id.write = some id := Oid.read?_write wellFormed
      simp [read?, write, Tag.context, isId]

theorem readList?_write {names : List GeneralName} (wellFormed : ∀ name ∈ names, name.WellFormed)
    (fits : (Element.ofSequence (names.map write)).Fits) :
    readList? (names.map write) = some names :=
  mapM_map_eq_some fun name member =>
    read?_write (wellFormed name member) (fits.of_mem (List.mem_map_of_mem member))

end GeneralName

/-! ## Extensions and attributes -/

namespace Extension

theorem fits_value {extension : Extension} (fits : extension.write.Fits) :
    Element.Fits ⟨.octetString, extension.value⟩ := fits.of_mem (by simp)

theorem read?_write {extension : Extension} (wellFormed : extension.id.WellFormed)
    (fits : extension.write.Fits) : read? extension.write = some extension := by
  obtain ⟨id, critical, value⟩ := extension
  have isId : (Element.ofOid id).oid? = some id := Element.oid?_ofOid wellFormed
  have isValue : (⟨.octetString, value⟩ : Element).octets? = some value := rfl
  have inside := Element.sequence?_ofSequence fits
  cases critical with
  | false =>
      have parts : (write ⟨id, false, value⟩).sequence? =
          some [.ofOid id, ⟨.octetString, value⟩] := inside
      simp only [read?, parts, isId, isValue]
  | true =>
      have isMark : (⟨.boolean, [0xFF]⟩ : Element).bool? = some true := rfl
      have parts : (write ⟨id, true, value⟩).sequence? =
          some [.ofOid id, ⟨.boolean, [0xFF]⟩, ⟨.octetString, value⟩] := inside
      simp only [read?, parts, isId, isMark, isValue]

end Extension

namespace RequestAttribute

structure WellFormed (item : RequestAttribute) : Prop where
  type : item.type.WellFormed
  ascends : Element.ascending item.values = true

theorem read?_write {item : RequestAttribute} (wellFormed : item.WellFormed)
    (fits : item.write.Fits) : read? item.write = some item := by
  have fitsValues : (Element.ofSet item.values).Fits := fits.of_mem (by simp)
  simp only [read?, write, Element.sequence?_ofSequence fits, Element.oid?_ofOid wellFormed.type,
    Element.set?_ofSet fitsValues wellFormed.ascends]

theorem fits_extensions {item : RequestAttribute} {extensions : List Extension}
    (values : item.values = [.ofSequence (extensions.map Extension.write)])
    (fits : item.write.Fits) : (Element.ofSequence (extensions.map Extension.write)).Fits := by
  have fitsValues : (Element.ofSet item.values).Fits := fits.of_mem (by simp)
  exact fitsValues.of_mem (by simp [values])

theorem extensions?_write {item : RequestAttribute} {extensions : List Extension}
    (values : item.values = [.ofSequence (extensions.map Extension.write)])
    (wellFormed : ∀ extension ∈ extensions, extension.id.WellFormed)
    (fits : item.write.Fits) : item.extensions? = some extensions := by
  have fitsValue := fits_extensions values fits
  simp only [extensions?, values, Element.sequence?_ofSequence fitsValue, Option.bind_some]
  refine mapM_map_eq_some fun extension member => ?_
  exact Extension.read?_write (wellFormed extension member)
    (fitsValue.of_mem (List.mem_map_of_mem member))

end RequestAttribute

/-! ## Requests -/

namespace Info

structure WellFormed (info : Info) : Prop where
  version : info.version < versionLimit
  subject : info.subject.WellFormed
  key : info.key.WellFormed
  attributes : ∀ item ∈ info.attributes, item.WellFormed
  ascends : Element.ascending (info.attributes.map RequestAttribute.write) = true

/-- The attributes of a request whose encoding fits. -/
theorem fits_attributes {info : Info} (fits : info.write.Fits) :
    (Element.compose attributesTag (info.attributes.map RequestAttribute.write)).Fits :=
  fits.of_mem (by simp)

theorem read?_write {info : Info} (wellFormed : info.WellFormed) (fits : info.write.Fits) :
    read? info.write = some info := by
  have isVersion := Element.nat?_ofNat wellFormed.version
  have isSubject : Name.read? (Name.write info.subject) = some info.subject :=
    Name.read?_write wellFormed.subject (fits.of_mem (by simp))
  have isKey : KeyInfo.read? info.key.write = some info.key :=
    KeyInfo.read?_write wellFormed.key (fits.of_mem (by simp))
  have items : (info.attributes.map RequestAttribute.write).mapM RequestAttribute.read? =
      some info.attributes :=
    mapM_map_eq_some fun item member => RequestAttribute.read?_write
      (wellFormed.attributes item member)
      ((fits_attributes fits).of_mem (List.mem_map_of_mem member))
  have known : ¬(versionLimit ≤ info.version ∨
      !Element.ascending (info.attributes.map RequestAttribute.write)) := by
    simp [wellFormed.ascends, Nat.not_le.mpr wellFormed.version]
  simp only [read?, write, Element.sequence?_ofSequence fits, isVersion, isSubject, isKey,
    Element.inside?_compose (fits_attributes fits), items, known, if_false, Option.map_some]

end Info

namespace Certification

/-- Requests that are signed over their own encoding and whose encoding is not too long. -/
structure WellFormed (request : Certification) : Prop where
  info : request.info.WellFormed
  signed : request.signed = request.info.write.write
  algorithm : request.algorithm.WellFormed
  signature : request.signature.WellFormed
  fits : request.write.length < lengthLimit

variable {request : Certification}

theorem fits_outer (fits : request.write.length < lengthLimit) :
    (Element.ofSequence [request.info.write, request.algorithm.write,
      .ofBits request.signature]).Fits :=
  Nat.lt_of_le_of_lt (Element.length_content_le _) fits

theorem fits_info (fits : request.write.length < lengthLimit) : request.info.write.Fits :=
  (fits_outer fits).of_mem List.mem_cons_self

/-- A well-formed request is read back from its encoding. -/
theorem readDer?_write (wellFormed : request.WellFormed) :
    readDer? request.write = some request := by
  have outer := fits_outer wellFormed.fits
  have isInfo := Info.read?_write wellFormed.info (fits_info wellFormed.fits)
  have isAlgorithm : Algorithm.read? request.algorithm.write = some request.algorithm :=
    Algorithm.read?_write wellFormed.algorithm (outer.of_mem (by simp))
  simp only [readDer?, write, Element.readOne?_write outer, Option.bind_some,
    Element.sequence?_ofSequence outer, isInfo, isAlgorithm,
    Element.bits?_ofBits wellFormed.signature, ← wellFormed.signed]

end Certification

end CertApproval.Request
