import EventTopology.Proofs.Build.Steady
import EventTopology.Proofs.Resource.Annotations
import EventTopology.Proofs.Table

/-
  This file shows that the two layouts of event types say
  the same.  A type and a schema in a list of attributes are
  read like members of the spec: of several attributes with
  one name only the last one counts.  All schemas are
  written on the way, so those that give way must not be too
  long to be written.

  Key definitions include:
    * `Resource.lastValue?`
    * `Resource.Lists`
    * `Resource.OthersWritten`
    * `Resource.flattened`
    * `Resource.withSpec`

  The main results are:
    * `Resource.foldlM_addAttribute`
    * `Resource.typeAndSchema_of_attributes`
    * `Conversion.eventType_of_attributes`
-/

------------------------------------------------------------
-- Lists of Attributes
------------------------------------------------------------

namespace EventTopology

namespace Resource

open Json (Members)

/-
  The value of the last attribute with a name, if there is
  one.  An attribute without a value has the given one.
-/
def lastValue?
    (name : String)
    (absent : Json)
    (attributes : List Members) : Option Json :=
  (attributes.filter fun a =>
      (Json.find "name" a).isText name).getLast?.map
    fun a => (Table.lookup "value" a).getD absent

/- The type that a list of attributes gives. -/
def typeIn? (attributes : List Members) : Option Json :=
  lastValue? "type" (.str "") attributes

/- The schema that a list of attributes gives. -/
def schemaIn? (attributes : List Members) : Option Json :=
  lastValue? "schemadata" .null attributes

/- The value that one attribute gives under its name. -/
theorem lastValue?_singleton
    (name : String)
    (absent : Json)
    (a : Members) :
    lastValue? name absent [a] =
      if (Json.find "name" a).isText name then
        some ((Table.lookup "value" a).getD absent)
      else none := by
  unfold lastValue?
  cases hNamed : (Json.find "name" a).isText name <;>
    simp [hNamed]

/- An attribute counts unless a later one has its name. -/
theorem lastValue?_cons
    (name : String)
    (absent : Json)
    (a : Members)
    (attributes : List Members) :
    lastValue? name absent (a :: attributes) =
      (lastValue? name absent attributes).or
        (lastValue? name absent [a]) := by
  unfold lastValue?
  cases hNamed : (Json.find "name" a).isText name with
  | false => simp [hNamed]
  | true =>
      simp only [List.filter_cons, hNamed, if_true,
        List.getLast?_cons, List.filter_nil]
      cases (attributes.filter fun b =>
        (Json.find "name" b).isText name).getLast? <;> rfl

/- No value is two texts. -/
theorem isText_unique
    {v : Json}
    {s t : String}
    (hS : v.isText s = true)
    (hT : v.isText t = true) :
    s = t := by
  cases v with
  | str u =>
      have hS : u = s := of_decide_eq_true hS
      have hT : u = t := of_decide_eq_true hT
      exact hS.symm.trans hT
  | _ => cases hS

/- The schemas that a list of attributes holds, in order. -/
def schemasIn (attributes : List Members) : List Json :=
  (attributes.filter fun a =>
    (Json.find "name" a).isText "schemadata").map
    fun a => (Table.lookup "value" a).getD .null

/- The schema that counts is the last one. -/
theorem getLast?_schemasIn (attributes : List Members) :
    (schemasIn attributes).getLast? =
      schemaIn? attributes :=
  List.getLast?_map

/- The schema that one attribute holds, if it does. -/
theorem schemasIn_singleton (a : Members) :
    schemasIn [a] =
      if (Json.find "name" a).isText "schemadata" then
        [(Table.lookup "value" a).getD .null]
      else [] := by
  unfold schemasIn
  cases hNamed : (Json.find "name" a).isText "schemadata" <;>
    simp [hNamed]

/- One attribute changes what was found to what it says. -/
theorem addAttribute_eq
    (found : TypeAndSchema)
    (a : Members) :
    found.addAttribute (.obj a) =
      ((schemasIn [a]).foldlM (fun _ v => textOrNull v)
        found.schema).map
        fun schema =>
          ⟨(typeIn? [a]).getD found.type, schema⟩ := by
  rw [typeIn?, lastValue?_singleton, schemasIn_singleton]
  change (if (Json.find "name" a).isText "type" then _
    else if (Json.find "name" a).isText "schemadata" then _
    else _) = _
  by_cases hType : (Json.find "name" a).isText "type" = true
  · have hNot :
        ¬ (Json.find "name" a).isText "schemadata" = true := by
      intro hSchema
      exact absurd (isText_unique hType hSchema) (by decide)
    rw [if_pos hType, if_pos hType, if_neg hNot]
    rfl
  · rw [if_neg hType, if_neg hType]
    by_cases hSchema :
        (Json.find "name" a).isText "schemadata" = true
    · rw [if_pos hSchema, if_pos hSchema]
      change (textOrNull (Json.find "value" a) >>= _) =
        (textOrNull (Json.find "value" a) >>= pure).map _
      cases textOrNull (Json.find "value" a) <;> rfl
    · rw [if_neg hSchema, if_neg hSchema]
      rfl

/-
  Going through attributes writes their schemas one by one,
  and keeps the last schema and the last type.
-/
theorem foldlM_addAttribute
    (attributes : List Members)
    (found : TypeAndSchema) :
    (attributes.map Json.obj).foldlM
        TypeAndSchema.addAttribute found =
      ((schemasIn attributes).foldlM
        (fun _ v => textOrNull v) found.schema).map
        fun schema =>
          ⟨(typeIn? attributes).getD found.type, schema⟩ := by
  induction attributes generalizing found with
  | nil => rfl
  | cons a attributes ih =>
      have hType := lastValue?_cons "type" (.str "") a
        attributes
      have hSchemas : schemasIn (a :: attributes) =
          schemasIn [a] ++ schemasIn attributes := by
        simp only [schemasIn, ← List.map_append,
          ← List.filter_append, List.singleton_append]
      rw [List.map_cons, List.foldlM_cons, addAttribute_eq,
        hSchemas, List.foldlM_append]
      cases (schemasIn [a]).foldlM (fun _ v => textOrNull v)
        found.schema with
      | error e => rfl
      | ok schema =>
          change (attributes.map Json.obj).foldlM
            TypeAndSchema.addAttribute _ = _
          rw [ih]
          simp only [typeIn?, hType]
          cases lastValue? "type" (.str "") attributes <;> rfl

/- A spec has a list of attributes, which are objects. -/
def Lists
    (spec : Members)
    (attributes : List Members) : Prop :=
  Table.lookup "attributes" spec =
    some (.arr (attributes.map .obj))

variable {spec spec' : Members}
variable {attributes attributes' : List Members}

/- Members of other names leave the list alone. -/
theorem Lists.insert
    (hLists : Lists spec attributes)
    (name : String)
    (v : Json)
    (hNe : "attributes" ≠ name) :
    Lists (Table.insert name v spec) attributes := by
  rw [Lists, Table.lookup_insert_of_ne _ _ hNe]
  exact hLists

/- All schemas of a spec, of which the last one counts. -/
def schemas
    (attributes : List Members)
    (spec : Members) : List Json :=
  (Table.lookup "schema" spec).getD .null ::
    schemasIn attributes

/- The schemas that give way to the last can be written. -/
def OthersWritten
    (attributes : List Members)
    (spec : Members) : Prop :=
  ∀ v ∈ (schemas attributes spec).dropLast, v.HasText

instance
    (attributes : List Members)
    (spec : Members) :
    Decidable (OthersWritten attributes spec) :=
  inferInstanceAs (Decidable (∀ v ∈ List.dropLast _, _))

/-
  The type and the schema of a spec with attributes: its
  schemas are written in order, and the last one is kept.
-/
theorem typeAndSchema_of_lists
    (hLists : Lists spec attributes) :
    typeAndSchema (.obj spec) =
      ((schemas attributes spec).foldlM
        (fun _ v => textOrNull v) .null).map fun schema =>
          ⟨((typeIn? attributes).or
              (Table.lookup "type" spec)).getD (.str ""),
            schema⟩ := by
  have hIterated :
      ((Json.find "attributes" spec).orElse
          (.arr [])).iterate =
        .ok (attributes.map Json.obj) := by
    rw [Json.find, hLists]
    cases attributes <;> rfl
  change (textOrNull (Json.find "schema" spec) >>= fun s =>
    ((Json.find "attributes" spec).orElse
      (.arr [])).iterate >>= fun es =>
        es.foldlM TypeAndSchema.addAttribute
          ⟨(Table.lookup "type" spec).getD (.str ""), s⟩) = _
  rw [hIterated, schemas, List.foldlM_cons]
  change (textOrNull (Json.find "schema" spec) >>= _) =
    (textOrNull (Json.find "schema" spec) >>= _).map _
  cases textOrNull (Json.find "schema" spec) with
  | error e => rfl
  | ok s =>
      change (attributes.map Json.obj).foldlM
        TypeAndSchema.addAttribute _ = _
      rw [foldlM_addAttribute]
      cases typeIn? attributes <;> rfl

/- Only the last value matters if the others are written. -/
theorem foldlM_textOrNull
    {vs : List Json}
    (schema : Json)
    (hWritten : ∀ v ∈ vs.dropLast, v.HasText) :
    vs.foldlM (fun _ v => textOrNull v) schema =
      match vs.getLast? with
      | none => .ok schema
      | some v => textOrNull v := by
  induction vs generalizing schema with
  | nil => rfl
  | cons v vs ih =>
      rw [List.foldlM_cons]
      cases vs with
      | nil =>
          change (textOrNull v >>= pure) = textOrNull v
          cases textOrNull v <;> rfl
      | cons w vs =>
          have hFirst : v.HasText :=
            hWritten v List.mem_cons_self
          have hOk : ∃ s, textOrNull v = .ok s := by
            unfold textOrNull
            split
            · exact ⟨_, rfl⟩
            · rw [Json.text?_of_hasText hFirst]
              exact ⟨_, rfl⟩
          rcases hOk with ⟨s, hOk⟩
          rw [hOk, List.getLast?_cons_cons]
          exact ih s fun u hMem =>
            hWritten u (List.mem_cons_of_mem v hMem)

/-
  Where the schemas that give way can be written, a spec has
  the schema of its attributes, and else its own.
-/
theorem typeAndSchema_of_attributes
    (hLists : Lists spec attributes)
    (hWritten : OthersWritten attributes spec) :
    typeAndSchema (.obj spec) =
      (textOrNull
        (((schemaIn? attributes).or
          (Table.lookup "schema" spec)).getD .null)).map
        fun schema =>
          ⟨((typeIn? attributes).or
              (Table.lookup "type" spec)).getD (.str ""),
            schema⟩ := by
  rw [typeAndSchema_of_lists hLists,
    foldlM_textOrNull _ hWritten, schemas,
    List.getLast?_cons, getLast?_schemasIn]
  cases schemaIn? attributes <;> rfl

/- The type and the schema of a spec without attributes. -/
theorem typeAndSchema_of_flat
    (hFlat : Table.lookup "attributes" spec = none) :
    typeAndSchema (.obj spec) =
      (textOrNull
        ((Table.lookup "schema" spec).getD .null)).map
        fun schema =>
          ⟨(Table.lookup "type" spec).getD (.str ""),
            schema⟩ := by
  change (textOrNull (Json.find "schema" spec) >>= fun s =>
    ((Json.find "attributes" spec).orElse
      (.arr [])).iterate >>= fun es =>
        es.foldlM TypeAndSchema.addAttribute
          ⟨(Table.lookup "type" spec).getD (.str ""), s⟩) = _
  have hNone : Json.find "attributes" spec = .null := by
    rw [Json.find, hFlat]
    rfl
  rw [hNone]
  change (textOrNull (Json.find "schema" spec) >>= _) =
    (textOrNull (Json.find "schema" spec)).map _
  cases textOrNull (Json.find "schema" spec) <;> rfl

/- Specs that say the same have the same type and schema. -/
theorem typeAndSchema_congr
    (hLists : Lists spec attributes)
    (hLists' : Lists spec' attributes')
    (hType :
      (typeIn? attributes').or (Table.lookup "type" spec') =
        (typeIn? attributes).or (Table.lookup "type" spec))
    (hSchemas :
      (schemas attributes' spec').foldlM
          (fun _ v => textOrNull v) .null =
        (schemas attributes spec).foldlM
          (fun _ v => textOrNull v) .null) :
    typeAndSchema (.obj spec') =
      typeAndSchema (.obj spec) := by
  rw [typeAndSchema_of_lists hLists,
    typeAndSchema_of_lists hLists', hType, hSchemas]

end Resource

------------------------------------------------------------
-- Layouts of Specs
------------------------------------------------------------

namespace Resource

open Json (Members)

variable {spec : Members}
variable {attributes attributes' : List Members}

/- Give a name a value, if there is one. -/
def withValue
    (name : String)
    (v : Option Json)
    (ms : Members) : Members :=
  match v with
  | none => ms
  | some v => Table.insert name v ms

/-
  A spec with what its attributes say as members, in place
  of the attributes.
-/
def flattened
    (attributes : List Members)
    (spec : Members) : Members :=
  withValue "schema" (schemaIn? attributes)
    (withValue "type" (typeIn? attributes)
      (Table.without "attributes" spec))

/- A resource with another spec. -/
def withSpec (ms spec : Members) : Json :=
  .obj (Table.insert "spec" (.obj spec) ms)

theorem lookup_withValue_self
    (name : String)
    (v : Option Json)
    (ms : Members) :
    Table.lookup name (withValue name v ms) =
      v.or (Table.lookup name ms) := by
  cases v with
  | none => rfl
  | some v => exact Table.lookup_insert_self name v ms

theorem lookup_withValue_of_ne
    {name other : String}
    (v : Option Json)
    (ms : Members)
    (hNe : other ≠ name) :
    Table.lookup other (withValue name v ms) =
      Table.lookup other ms := by
  cases v with
  | none => rfl
  | some v => exact Table.lookup_insert_of_ne v ms hNe

/- A flattened spec keeps all its other members. -/
theorem lookup_flattened
    (attributes : List Members)
    (spec : Members)
    {name : String}
    (hOther : name ∉ ["type", "schema", "attributes"]) :
    Table.lookup name (flattened attributes spec) =
      Table.lookup name spec := by
  simp only [List.mem_cons, List.not_mem_nil, or_false,
    not_or] at hOther
  rcases hOther with ⟨hType, hSchema, hAttributes⟩
  rw [flattened, lookup_withValue_of_ne _ _ hSchema,
    lookup_withValue_of_ne _ _ hType,
    Table.lookup_without_of_ne _ hAttributes]

/- One member is set, and others stay as they are. -/
theorem lookup_insert_of_mem
    {names : List String}
    {key name : String}
    {v : Json}
    (spec : Members)
    (hKey : key ∈ names)
    (hName : name ∉ names) :
    Table.lookup name (Table.insert key v spec) =
      Table.lookup name spec := by
  apply Table.lookup_insert_of_ne
  intro hSame
  exact hName (hSame ▸ hKey)

/- What a flattened spec says, its attributes said. -/
theorem typeAndSchema_flattened
    (hLists : Lists spec attributes)
    (hWritten : OthersWritten attributes spec) :
    typeAndSchema (.obj (flattened attributes spec)) =
      typeAndSchema (.obj spec) := by
  have hFlat : Table.lookup "attributes"
      (flattened attributes spec) = none := by
    rw [flattened, lookup_withValue_of_ne _ _ (by decide),
      lookup_withValue_of_ne _ _ (by decide),
      Table.lookup_without_self]
  have hType : Table.lookup "type"
      (flattened attributes spec) =
        (typeIn? attributes).or
          (Table.lookup "type" spec) := by
    rw [flattened, lookup_withValue_of_ne _ _ (by decide),
      lookup_withValue_self,
      Table.lookup_without_of_ne _ (by decide)]
  have hSchema : Table.lookup "schema"
      (flattened attributes spec) =
        (schemaIn? attributes).or
          (Table.lookup "schema" spec) := by
    rw [flattened, lookup_withValue_self,
      lookup_withValue_of_ne _ _ (by decide),
      Table.lookup_without_of_ne _ (by decide)]
  rw [typeAndSchema_of_flat hFlat,
    typeAndSchema_of_attributes hLists hWritten, hType,
    hSchema]

/- The last ones are all that matters of attributes. -/
theorem typeAndSchema_insert_attributes
    (hLists : Lists spec attributes)
    (hType : typeIn? attributes' = typeIn? attributes)
    (hSchema :
      schemaIn? attributes' = schemaIn? attributes)
    (hWritten : OthersWritten attributes spec)
    (hWritten' : OthersWritten attributes' spec) :
    typeAndSchema
        (.obj
          (Table.insert "attributes"
            (.arr (attributes'.map .obj)) spec)) =
      typeAndSchema (.obj spec) := by
  have hSame : schemas attributes'
      (Table.insert "attributes"
        (.arr (attributes'.map .obj)) spec) =
      schemas attributes' spec := by
    rw [schemas, Table.lookup_insert_of_ne _ _ (by decide),
      schemas]
  apply typeAndSchema_congr hLists
    (Table.lookup_insert_self _ _ _)
  · rw [hType, Table.lookup_insert_of_ne _ _ (by decide)]
  · rw [hSame, foldlM_textOrNull _ hWritten,
      foldlM_textOrNull _ hWritten', schemas, schemas,
      List.getLast?_cons, List.getLast?_cons,
      getLast?_schemasIn, getLast?_schemasIn, hSchema]

/- Beside the type of an attribute no other type counts. -/
theorem typeAndSchema_insert_type
    (hLists : Lists spec attributes)
    (v : Json)
    (hSome : typeIn? attributes ≠ none) :
    typeAndSchema (.obj (Table.insert "type" v spec)) =
      typeAndSchema (.obj spec) := by
  rcases Option.ne_none_iff_exists'.mp hSome with
    ⟨type, hType⟩
  apply typeAndSchema_congr hLists
    (hLists.insert "type" v (by decide))
  · rw [hType, Option.some_or, Option.some_or]
  · rw [schemas, Table.lookup_insert_of_ne _ _ (by decide),
      schemas]

/-
  Beside the schema of an attribute no other counts, as long
  as it can be written.
-/
theorem typeAndSchema_insert_schema
    (hLists : Lists spec attributes)
    (v : Json)
    (hSome : schemaIn? attributes ≠ none)
    (hWritten : OthersWritten attributes spec)
    (hValue : v.HasText) :
    typeAndSchema (.obj (Table.insert "schema" v spec)) =
      typeAndSchema (.obj spec) := by
  rcases Option.ne_none_iff_exists'.mp hSome with
    ⟨schema, hSchema⟩
  have hLast := getLast?_schemasIn attributes
  rw [hSchema] at hLast
  have hSchemas : schemas attributes
      (Table.insert "schema" v spec) =
      v :: schemasIn attributes := by
    rw [schemas, Table.lookup_insert_self]
    rfl
  have hNe : schemasIn attributes ≠ [] := by
    intro hNil
    rw [hNil] at hLast
    cases hLast
  have hWritten' : ∀ w ∈
      (v :: schemasIn attributes).dropLast, w.HasText := by
    rw [List.dropLast_cons_of_ne_nil hNe]
    rintro w (_ | ⟨_, hMem⟩)
    · exact hValue
    · refine hWritten w ?_
      rw [schemas, List.dropLast_cons_of_ne_nil hNe]
      exact List.mem_cons_of_mem _ hMem
  apply typeAndSchema_congr hLists
    (hLists.insert "schema" v (by decide))
  · rw [Table.lookup_insert_of_ne _ _ (by decide)]
  · rw [hSchemas, foldlM_textOrNull _ hWritten,
      foldlM_textOrNull _ hWritten', schemas,
      List.getLast?_cons, List.getLast?_cons, hLast]
    rfl

end Resource

------------------------------------------------------------
-- Event Types in Both Layouts
------------------------------------------------------------

namespace Conversion

open Json (Members)
open Resource

variable {c : Conversion}
variable {ms spec spec' : Members}
variable {attributes : List Members}

/-
  An event type is the same under another spec with the same
  type and schema and the same other members.
-/
theorem eventType_of_specs
    (hSpec : Table.lookup "spec" ms = some (.obj spec))
    (hFound :
      typeAndSchema (.obj spec') =
        typeAndSchema (.obj spec))
    (hRest : ∀ name,
      name ∉ ["type", "schema", "attributes"] →
        Table.lookup name spec' = Table.lookup name spec) :
    c.eventType (withSpec ms spec') =
      c.eventType (.obj ms) := by
  have hObject (t : Members) :
      (Json.obj t).orEmpty = .obj t := by
    cases t <;> rfl
  have hMd : metadata (withSpec ms spec') =
      metadata (.obj ms) := by
    change Except.ok (Json.find "metadata"
      (Table.insert "spec" _ ms)).orEmpty = _
    rw [Json.find, Table.lookup_insert_of_ne _ _ (by decide)]
    rfl
  have hIs : Resource.spec (.obj ms) = .ok (.obj spec) := by
    change Except.ok (Json.find "spec" ms).orEmpty = _
    rw [Json.find, hSpec]
    exact congrArg Except.ok (hObject spec)
  have hIs' : Resource.spec (withSpec ms spec') =
      .ok (.obj spec') := by
    change Except.ok (Json.find "spec"
      (Table.insert "spec" _ ms)).orEmpty = _
    rw [Json.find, Table.lookup_insert_self]
    exact congrArg Except.ok (hObject spec')
  have hGet (name : String)
      (hOther : name ∉ ["type", "schema", "attributes"]) :
      (Json.obj spec').get name = (Json.obj spec).get name := by
    change Except.ok (Json.find name spec') =
      .ok (Json.find name spec)
    rw [Json.find, hRest name hOther, Json.find]
  simp (disch := decide) only [eventType, provider, hMd,
    hIs, hIs', hFound, Failure.lift_ok_bind, hGet]

end Conversion

------------------------------------------------------------
-- An Event Type with Attributes
------------------------------------------------------------

namespace Shop

open Json (Members)

/- A type and a schema, each given more than once. -/
def listed : List Members :=
  [[("name", .str "type"), ("value", .str "order")],
   [("name", .str "schemadata"), ("value", .str "v1")],
   [("name", .str "source"), ("value", .str "till")],
   [("name", .str "type"), ("value", .str "order.placed")],
   [("name", .str "schemadata")]]

/- Orders, with a spec in both layouts. -/
def listedSpec : Members :=
  [("type", .str "order.shipped"), ("schema", .str "v0"),
   ("attributes", .arr (listed.map .obj))]

def listedOrder : Members :=
  [("metadata",
     .obj [("name", .str "order"), ("namespace", .str "shop")]),
   ("spec", .obj listedSpec)]

theorem listedOrder_lists :
    Resource.Lists listedSpec listed :=
  rfl

end Shop

end EventTopology
