import EnvConcord.Proofs.Settings.Layers
import Mathlib.Data.List.Find

/-!
# Mappings on top of each other

Two mappings that are put on settings one after the other come to one mapping: the lists that
accumulate are joined, the members of logging are united, and of every other setting the later
value counts.  Null gives nothing in a mapping of settings, but it is a value in one of logging.
-/

namespace EnvConcord.Settings

open Document

/-! ## Putting a mapping on settings -/

/-- The members of a mapping by their names. -/
def namedMembers (given : Dict Field Value) : List (String × Value) :=
  given.toList.map fun entry => (entry.1.name, entry.2)

/-- Settings with a mapping on top, if its values have the shapes that are expected. -/
def overlay (source : String) (base : Settings) (given : Dict Field Value) :
    Except Fault Settings :=
  (Override.ofMembers source (namedMembers given)).map (apply base)

/-- Whether the values of a mapping have the shapes that are expected. -/
def IsWellShaped (source : String) (given : Dict Field Value) : Prop :=
  ∃ layer, Override.ofMembers source (namedMembers given) = .ok layer

/-- The value that a mapping gives a setting; null gives nothing. -/
def valueIn? (given : Dict Field Value) (field : Field) : Option Value :=
  (given.get? field).filter fun value => !isNull value

/-- The value that a mapping gives an item; a null member of logging is given. -/
def partIn? (given : Dict Field Value) (item : Item) : Option Value :=
  (valueIn? given item.field).bind item.part?

/-! ## The product of two mappings -/

/-- Two mappings as one, where the second one wins. -/
def unite (first second : Mapping) : Mapping :=
  (first.filter fun entry => !second.any fun other => other.1.sameKey entry.1) ++ second

/-- What an earlier and a later value of a setting come to. -/
def Field.joinValues : Field → Value → Value → Value
  | .allowOptional, .list items, .list others => .list (items ++ others)
  | .ignoreKeys, .list items, .list others => .list (items ++ others)
  | .logging, .map members, .map others => .map (unite members others)
  | _, _, later => later

/-- The product of two mappings: what the second one gives after the first, without nulls. -/
def product (first second : Dict Field Value) : Dict Field Value :=
  .ofList (Field.all.filterMap fun field =>
    ((valueIn? first field).merge field.joinValues (valueIn? second field)).map (Prod.mk field))

theorem get?_product (first second : Dict Field Value) (field : Field) :
    (product first second).get? field =
      (valueIn? first field).merge field.joinValues (valueIn? second field) := by
  have listed : field ∈ Field.all := by cases field <;> decide
  rw [product, Dict.get?_ofList_filterMap (by decide), if_pos listed]

/-! ## Uniting mappings -/

theorem sameKey_text_iff {key : Value} {name : String} :
    key.sameKey (.text name) = true ↔ key = .text name := by
  cases key <;> simp [Value.sameKey, Value.toNumber?]

theorem find?_false {α : Type*} (items : List α) : items.find? (fun _ => false) = none :=
  List.find?_eq_none.2 (by simp)

/-- A text key has the value of its first entry. -/
theorem lookupText_eq_find? (members : Mapping) (name : String) :
    Value.lookupText members name =
      (members.find? fun entry => entry.1.sameKey (.text name)).map Prod.snd := by
  rw [Value.lookupText]
  congr 2
  funext entry
  obtain ⟨key, -⟩ := entry
  cases key <;> simp [Value.sameKey, Value.toNumber?]

/-- A united mapping has the members of the second mapping and the other ones of the first. -/
theorem lookupText_unite (first second : Mapping) (name : String) :
    Value.lookupText (unite first second) name =
      (Value.lookupText second name).or (Value.lookupText first name) := by
  simp only [lookupText_eq_find?, unite, List.find?_append, List.find?_filter]
  -- Of the first mapping the entry under the name is dropped if the second one has such an entry.
  have kept : ∀ entry ∈ first,
      decide ((!second.any fun other => other.1.sameKey entry.1) = true ∧
          entry.1.sameKey (.text name) = true) =
        ((!second.any fun other => other.1.sameKey (.text name)) &&
          entry.1.sameKey (.text name)) := by
    intro entry _
    cases under : entry.1.sameKey (.text name) with
    | false => simp
    | true => simp [sameKey_text_iff.1 under]
  rw [List.find?_congr kept, ← List.isSome_find?]
  cases second.find? fun other => other.1.sameKey (.text name) with
  | some later => simp [find?_false]
  | none => simp

theorem unknownMembers_unite {first second : Mapping} (first_known : unknownMembers first = [])
    (second_known : unknownMembers second = []) : unknownMembers (unite first second) = [] := by
  rw [unknownMembers, List.filter_eq_nil_iff] at *
  intro key mem
  rw [unite, List.map_append, List.mem_append] at mem
  rcases mem with kept | later
  · exact first_known key ((List.filter_sublist.map Prod.fst).subset kept)
  · exact second_known key later

/-! ## Joining values -/

theorem texts_textsOf {value : Value} (texts : (textItems? value).isSome = true) :
    Value.texts (textsOf value) = value := by
  obtain ⟨items, read⟩ := Option.isSome_iff_exists.1 texts
  rw [textsOf, read]
  exact (textItems?_eq_some_iff.1 read).symm

theorem isNull_of_accepts {field : Field} {value : Value} (accepted : field.accepts value = true) :
    isNull value = false := by
  cases value with
  | null => cases field <;> contradiction
  | _ => rfl

theorem Field.accepts_logging_iff {value : Value} :
    Field.logging.accepts value = true ↔
      ∃ members, value = .map members ∧ unknownMembers members = [] := by
  cases value <;> simp [Field.accepts]

theorem Field.joinValues_texts {field : Field}
    (accumulates : field = .allowOptional ∨ field = .ignoreKeys) (items others : List String) :
    field.joinValues (Value.texts items) (Value.texts others) = Value.texts (items ++ others) := by
  rcases accumulates with rfl | rfl <;> simp [Field.joinValues, Value.texts]

/-- What an earlier and a later value of an item come to. -/
def Item.joinValues (item : Item) (earlier later : Value) : Value :=
  if item.accumulates then Value.texts (textsOf earlier ++ textsOf later) else later

/-- Of the values of an item that does not accumulate the later one counts. -/
theorem Item.merge_joinValues {item : Item} (replaced : item.accumulates = false)
    (earlier later : Option Value) : earlier.merge item.joinValues later = later.or earlier := by
  cases earlier <;> cases later <;> simp [Item.joinValues, replaced]

section Accepted

variable {field : Field} {item : Item} {earlier later : Value}

/-- Values that a setting accepts come to one that it accepts. -/
theorem Field.accepts_joinValues (accepted : field.accepts earlier = true)
    (later_accepted : field.accepts later = true) :
    field.accepts (field.joinValues earlier later) = true := by
  cases field with
  | allowOptional | ignoreKeys =>
      rw [← texts_textsOf accepted, ← texts_textsOf later_accepted,
        Field.joinValues_texts (by simp), Field.accepts, textItems?_eq_some_iff.2 rfl]
      rfl
  | logging =>
      obtain ⟨members, rfl, known⟩ := Field.accepts_logging_iff.1 accepted
      obtain ⟨others, rfl, others_known⟩ := Field.accepts_logging_iff.1 later_accepted
      exact Field.accepts_logging_iff.2 ⟨_, rfl, unknownMembers_unite known others_known⟩
  | _ => exact later_accepted

/-- Joining values of a setting joins their parts. -/
theorem Item.part?_joinValues (accepted : item.field.accepts earlier = true)
    (later_accepted : item.field.accepts later = true) :
    item.part? (item.field.joinValues earlier later) =
      (item.part? earlier).merge item.joinValues (item.part? later) := by
  cases item with
  | allowOptional | ignoreKeys =>
      rw [← texts_textsOf accepted, ← texts_textsOf later_accepted]
      simp [Field.joinValues_texts, Item.joinValues, Item.part?, Item.field, Item.accumulates]
  | logLevel | logFormat =>
      obtain ⟨members, rfl, -⟩ := Field.accepts_logging_iff.1 accepted
      obtain ⟨others, rfl, -⟩ := Field.accepts_logging_iff.1 later_accepted
      rw [Item.merge_joinValues rfl]
      exact lookupText_unite members others _
  | _ => rfl

end Accepted

/-! ## Layers on layers -/

/-- A layer that gives what two layers give together has their effect. -/
theorem apply_apply (base : Settings) {first second both : Override}
    (joined : ∀ item, both.valueOf? item =
      (first.valueOf? item).merge item.joinValues (second.valueOf? item)) :
    apply (apply base first) second = apply base both := by
  refine ext_valueOf fun item => ?_
  rw [valueOf_apply, valueOf_apply, valueOf_apply, joined]
  cases first.valueOf? item with
  | none => cases second.valueOf? item <;> rfl
  | some earlier =>
      cases second.valueOf? item with
      | none => rfl
      | some later =>
          cases accumulating : item.accumulates <;>
            simp [Item.joinValues, accumulating, Collection.eraseDups_append_eraseDups]

/-- A layer has no effect on top of itself. -/
theorem apply_twice (base : Settings) (layer : Override) :
    apply (apply base layer) layer = apply base layer := by
  refine ext_valueOf fun item => ?_
  rw [valueOf_apply, valueOf_apply]
  cases layer.valueOf? item with
  | none => rfl
  | some value =>
      have known : textsOf value ⊆ textsOf (valueOf base item) ++ textsOf value :=
        List.subset_append_right ..
      have again : ((textsOf (valueOf base item) ++ textsOf value).eraseDups ++
          textsOf value).eraseDups = (textsOf (valueOf base item) ++ textsOf value).eraseDups := by
        rw [Collection.eraseDups_append_eraseDups, Collection.eraseDups_append_of_subset known]
      cases item.accumulates with
      | false => rfl
      | true => simpa using congrArg Value.texts again

/-! ## Layers of mappings -/

@[simp]
theorem Field.ofName?_name (field : Field) : Field.ofName? field.name = some field := by
  cases field <;> rfl

/-- Under the names of settings nothing is unknown. -/
theorem ofMembers_namedMembers (source : String) (given : Dict Field Value) :
    Override.ofMembers source (namedMembers given) = Override.ofFields source given.toList := by
  have known : ((namedMembers given).filterMap fun entry =>
      (Field.ofName? entry.1).map fun field => (field, entry.2)) = given.toList := by
    simp [namedMembers, List.filterMap_map]
  rw [Override.ofMembers, known]
  cases Override.ofFields source given.toList with
  | error fault => rfl
  | ok layer =>
      simp only [namedMembers, List.find?_map, Function.comp_def, Field.ofName?_name,
        Option.isNone_some, Bool.false_and, find?_false]
      rfl

/-- A mapping whose values are accepted is a layer of what they give each item. -/
theorem exists_layer (source : String) {given : Dict Field Value}
    (accepted : ∀ field value, valueIn? given field = some value → field.accepts value = true) :
    ∃ layer, Override.ofMembers source (namedMembers given) = .ok layer ∧
      ∀ item, layer.valueOf? item = partIn? given item := by
  have fits : ∀ entry ∈ given.toList, entry.1.fits entry.2 = true := by
    rintro ⟨field, value⟩ mem
    have found := (given.get?_eq_some_iff field value).2 mem
    cases null : isNull value with
    | true => simp [Field.fits, null]
    | false => simpa [Field.fits, null] using accepted field value (by simp [valueIn?, found, null])
  obtain ⟨layer, run, layer_eq⟩ := exists_ofFields source fits
  exact ⟨layer, (ofMembers_namedMembers source given).trans run, layer_eq⟩

/-- The values of a mapping that is well-shaped are accepted. -/
theorem IsWellShaped.accepts {source : String} {given : Dict Field Value}
    (shaped : IsWellShaped source given) {field : Field} {value : Value}
    (found : valueIn? given field = some value) : field.accepts value = true := by
  obtain ⟨layer, run⟩ := shaped
  rw [ofMembers_namedMembers] at run
  obtain ⟨found, not_null⟩ := Option.filter_eq_some_iff.1 found
  cases misfit : given.toList.find? fun entry => !entry.1.fits entry.2 with
  | none =>
      have fits := List.find?_eq_none.1 misfit _ ((given.get?_eq_some_iff field value).1 found)
      simpa [Field.fits, not_null] using fits
  | some entry =>
      obtain ⟨fault, failed, -⟩ := foldlM_add_of_misfit {} misfit
      cases failed.symm.trans run

/-- What an item with a value comes to when it may be given another one. -/
def Item.overlaid (item : Item) (earlier : Value) (given : Option Value) : Value :=
  given.elim earlier fun value =>
    if item.accumulates then Value.texts (textsOf earlier ++ textsOf value).eraseDups else value

/-- A well-shaped mapping puts a layer on settings, whatever they are. -/
theorem IsWellShaped.overlay_eq {source : String} {given : Dict Field Value}
    (shaped : IsWellShaped source given) :
    ∃ layer, (∀ base, overlay source base given = .ok (apply base layer)) ∧
      ∀ item, layer.valueOf? item = partIn? given item := by
  obtain ⟨layer, run, layer_eq⟩ := exists_layer source fun field value => shaped.accepts
  exact ⟨layer, fun base => by rw [overlay, run]; rfl, layer_eq⟩

/-! ## Mappings on mappings -/

section Shaped

variable {source : String} {first second : Dict Field Value}
  (first_shaped : IsWellShaped source first) (second_shaped : IsWellShaped source second)

include first_shaped second_shaped

theorem accepts_of_get?_product {field : Field} {value : Value}
    (found : (product first second).get? field = some value) : field.accepts value = true := by
  rw [get?_product, Option.merge_eq_some_iff] at found
  rcases found with ⟨alone, -⟩ | ⟨-, alone⟩ | ⟨earlier, later, given, given_later, rfl⟩
  · exact first_shaped.accepts alone
  · exact second_shaped.accepts alone
  · exact Field.accepts_joinValues (first_shaped.accepts given) (second_shaped.accepts given_later)

/-- A product of well-shaped mappings holds no null. -/
theorem valueIn?_product (field : Field) :
    valueIn? (product first second) field =
      (valueIn? first field).merge field.joinValues (valueIn? second field) := by
  rw [← get?_product, valueIn?]
  cases found : (product first second).get? field with
  | none => rfl
  | some value =>
      have accepted := accepts_of_get?_product first_shaped second_shaped found
      simp [isNull_of_accepts accepted]

theorem isWellShaped_product : IsWellShaped source (product first second) := by
  have accepted : ∀ field value,
      valueIn? (product first second) field = some value → field.accepts value = true := by
    intro field value found
    exact accepts_of_get?_product first_shaped second_shaped (Option.filter_eq_some_iff.1 found).1
  obtain ⟨layer, run, -⟩ := exists_layer source accepted
  exact ⟨layer, run⟩

/-- A product gives an item what its factors give it, joined. -/
theorem partIn?_product (item : Item) :
    partIn? (product first second) item =
      (partIn? first item).merge item.joinValues (partIn? second item) := by
  rw [partIn?, valueIn?_product first_shaped second_shaped, partIn?, partIn?]
  cases given : valueIn? first item.field with
  | none => simp
  | some earlier =>
      cases given_later : valueIn? second item.field with
      | none => simp
      | some later =>
          exact Item.part?_joinValues (first_shaped.accepts given)
            (second_shaped.accepts given_later)

/-- A product is put on settings by putting its factors on them one after the other. -/
theorem overlay_product_eq_bind (base : Settings) :
    overlay source base (product first second) =
      (overlay source base first).bind fun once => overlay source once second := by
  obtain ⟨layer, put, layer_eq⟩ := first_shaped.overlay_eq
  obtain ⟨later, put_later, later_eq⟩ := second_shaped.overlay_eq
  obtain ⟨both, put_both, both_eq⟩ :=
    (isWellShaped_product first_shaped second_shaped).overlay_eq
  have joined : ∀ item, both.valueOf? item =
      (layer.valueOf? item).merge item.joinValues (later.valueOf? item) := by
    intro item
    rw [both_eq, layer_eq, later_eq]
    exact partIn?_product first_shaped second_shaped item
  calc
    overlay source base (product first second) = .ok (apply base both) := put_both base
    _ = .ok (apply (apply base layer) later) := by rw [apply_apply base joined]
    _ = overlay source (apply base layer) second := (put_later _).symm
    _ = (overlay source base first).bind fun once => overlay source once second := by
      rw [put]
      rfl

/-- It makes no difference how a product of three mappings is formed. -/
theorem overlay_product_assoc {third : Dict Field Value} (third_shaped : IsWellShaped source third)
    (base : Settings) :
    overlay source base (product (product first second) third) =
      overlay source base (product first (product second third)) := by
  rw [overlay_product_eq_bind (isWellShaped_product first_shaped second_shaped) third_shaped,
    overlay_product_eq_bind first_shaped second_shaped,
    overlay_product_eq_bind first_shaped (isWellShaped_product second_shaped third_shaped)]
  simp only [overlay_product_eq_bind second_shaped third_shaped]
  cases overlay source base first <;> rfl

end Shaped

/-- Two mappings act on settings as their product does: it has the effect of the one and then
the other, which is to put on each item what it gives that item.  The empty mapping has no effect,
and a mapping has none on top of itself. -/
structure ActsAsProduct (source : String) (base : Settings) (first second : Dict Field Value) :
    Prop where
  shaped : IsWellShaped source (product first second)
  nothing : overlay source base .empty = .ok base
  both : ∃ once merged, overlay source base first = .ok once ∧
    overlay source once second = .ok merged ∧
    overlay source base (product first second) = .ok merged ∧
    ∀ item, valueOf merged item =
      item.overlaid (valueOf base item) (partIn? (product first second) item)
  again : ∃ once, overlay source base first = .ok once ∧ overlay source once first = .ok once

/-- Mappings whose values have the expected shapes act on settings as their product does. -/
theorem overlay_product {source : String} {first second : Dict Field Value}
    (first_shaped : IsWellShaped source first) (second_shaped : IsWellShaped source second)
    (base : Settings) : ActsAsProduct source base first second := by
  have shaped := isWellShaped_product first_shaped second_shaped
  obtain ⟨layer, put, -⟩ := first_shaped.overlay_eq
  obtain ⟨both, put_both, both_eq⟩ := shaped.overlay_eq
  have composed := overlay_product_eq_bind first_shaped second_shaped base
  rw [put, put_both] at composed
  constructor
  · exact shaped
  · rfl
  · refine ⟨apply base layer, apply base both, put base, composed.symm, put_both base, ?_⟩
    intro item
    rw [valueOf_apply, both_eq]
    rfl
  · exact ⟨apply base layer, put base, (put _).trans (by rw [apply_twice])⟩

/-- Members of logging of which one is null, and a setting that is null. -/
def quietMapping : Dict Field Value :=
  .ofList [(.allowOptional, Value.texts ["TRACE", "DEBUG", "TRACE"]), (.paths, .null),
    (.logging, .map [(.text "level", .null), (.text "format", .text "%(message)s")])]

/-- A member of logging that is given anew, and an empty list. -/
def loudMapping : Dict Field Value :=
  .ofList [(.logging, .map [(.text "level", .text "DEBUG")]), (.exitOnError, .null),
    (.allowOptional, Value.texts ["PORT", "DEBUG"]), (.paths, Value.texts [])]

theorem overlay_product_quiet_loud :
    IsWellShaped "config override" quietMapping ∧ IsWellShaped "config override" loudMapping ∧
      ActsAsProduct "config override" {} quietMapping loudMapping :=
  have quiet : IsWellShaped "config override" quietMapping := ⟨_, rfl⟩
  have loud : IsWellShaped "config override" loudMapping := ⟨_, rfl⟩
  ⟨quiet, loud, overlay_product quiet loud {}⟩

end EnvConcord.Settings
