import EventTopology.Proofs.Json.Reading
import EventTopology.Proofs.Json.Spelling
import EventTopology.Proofs.Table
import EventTopology.Resource.Declaration

/-
  This file shows that a declaration is read as it is
  written, however it is spelled, and that any other text
  gives the types of an array of objects or one failure that
  names the definition.

  Key definitions include:
    * `Declaration.Entry.texts`
    * `Declaration.IsListOf`
    * `Conversion.Declares`

  The main results are:
    * `Declaration.text?_of_isListOf`
    * `Declaration.types_of_spelled`
    * `Declaration.types_eq_ok_iff`
    * `Conversion.declares_of_lookup`
-/

------------------------------------------------------------
-- Entries as Members
------------------------------------------------------------

namespace EventTopology

namespace Declaration

open Json (textPair)

/- The members of an entry: its type, and what it also has. -/
def Entry.texts (e : Entry) : List (String × String) :=
  ("type", e.type) ::
    ((e.schema.map ("schema", ·)).toList ++
      (e.description.map ("description", ·)).toList)

/- No entry has a member twice. -/
theorem Entry.nodup_names (e : Entry) :
    (e.texts.map (·.1)).Nodup := by
  rcases e with ⟨type, _ | schema, _ | description⟩ <;>
    simp [texts]

/- The type of an entry is found wherever it stands. -/
theorem typeOf_of_perm
    {e : Entry}
    {ms : List (String × String)}
    (hPerm : ms.Perm e.texts) :
    typeOf (Json.ofMembers (ms.map textPair)) =
      e.type := by
  have hNames : (Table.keys (ms.map textPair)).Nodup := by
    have hSame : Table.keys (ms.map textPair) =
        ms.map (·.1) := by
      simp [Table.keys, textPair]
    rw [hSame]
    exact (hPerm.map (·.1)).nodup_iff.mpr e.nodup_names
  have hMem :
      ("type", Json.str e.type) ∈ ms.map textPair :=
    List.mem_map.mpr
      ⟨("type", e.type),
        hPerm.mem_iff.mpr List.mem_cons_self, rfl⟩
  unfold typeOf Json.find Json.ofMembers
  rw [Table.ofList_eq_self hNames,
    (Table.lookup_eq_some_iff hNames).mpr hMem]
  by_cases hEmpty : e.type = ""
  · simp [Json.orElse, Json.truthy, Json.text, hEmpty]
  · simp [Json.orElse, Json.truthy, Json.text, hEmpty]

end Declaration

------------------------------------------------------------
-- Types of Arrays
------------------------------------------------------------

namespace Declaration

open Json (textPair arrayTokens Spelled)

theorem typesOf_objects (mss : List Json.Members) :
    typesOf (mss.map .obj) = some (mss.map typeOf) := by
  induction mss with
  | nil => rfl
  | cons ms mss ih =>
      simp only [List.map_cons, typesOf, ih,
        Option.map_some]

/- Only objects declare types. -/
theorem exists_objects
    {es : List Json}
    {ts : List String}
    (hTypes : typesOf es = some ts) :
    ∃ mss : List Json.Members, es = mss.map .obj := by
  induction es generalizing ts with
  | nil => exact ⟨[], rfl⟩
  | cons v es ih =>
      cases v with
      | obj ms =>
          rw [typesOf, Option.map_eq_some_iff] at hTypes
          rcases hTypes with ⟨ts', hRest, -⟩
          rcases ih hRest with ⟨mss, rfl⟩
          exact ⟨ms :: mss, rfl⟩
      | _ => cases hTypes

/- A text reads as an array of these objects. -/
def IsListOf
    (written : String)
    (mss : List Json.Members) : Prop :=
  Json.read? .strict written = some (.arr (mss.map .obj))

/- A text reads as a value, but not as such an array. -/
def IsNoList (written : String) : Prop :=
  ∃ v, Json.read? .strict written = some v ∧
    ∀ mss : List Json.Members, v ≠ .arr (mss.map .obj)

variable {written : String}

theorem types_of_isListOf
    {mss : List Json.Members}
    (hList : IsListOf written mss) :
    types written = .ok (mss.map typeOf) := by
  have hRead : Json.read? .strict written = _ := hList
  simp only [types, hRead, typesOf_objects]

/- A type that is read from a declaration has a text. -/
theorem text?_of_isListOf
    {mss : List Json.Members}
    {ms : Json.Members}
    (hList : IsListOf written mss)
    (hMem : ms ∈ mss) :
    ((Json.find "type" ms).orElse (.str "")).text? =
      .ok (typeOf ms) := by
  have hArray : (Json.arr (mss.map .obj)).IsSendable :=
    Json.isSendable_of_read? hList
  have hObject : (Json.obj ms).IsSendable :=
    Json.isSendable_arr_iff.mp hArray _
      (List.mem_map_of_mem hMem)
  have hType : (Json.find "type" ms).HasText := by
    unfold Json.find
    cases hFind : Table.lookup "type" ms with
    | none => exact Json.hasText_null
    | some v =>
        exact .of_isSendable (Json.isSendable_obj_iff.mp
          hObject _ (Table.mem_of_lookup hFind))
  refine Json.text?_of_hasText ?_
  unfold Json.orElse
  split
  · exact hType
  · exact Json.hasText_str ""

theorem types_of_isNoList
    (hNoList : IsNoList written) :
    types written = .error .notObjects := by
  rcases hNoList with ⟨v, hRead, hNot⟩
  unfold types
  rw [hRead]
  cases v with
  | arr es =>
      cases hTypes : typesOf es with
      | none => simp only [hTypes]
      | some ts =>
          rcases exists_objects hTypes with ⟨mss, rfl⟩
          exact (hNot mss rfl).elim
  | _ => rfl

theorem types_of_none
    (hNone : Json.read? .strict written = none) :
    types written = .error .notJson := by
  simp only [types, hNone]

/- A text is a list of objects, or another value, or none. -/
theorem isListOf_or
    (written : String) :
    (∃ mss, IsListOf written mss) ∨ IsNoList written ∨
      Json.read? .strict written = none := by
  cases hRead : Json.read? .strict written with
  | none => exact .inr (.inr rfl)
  | some v =>
      by_cases hList : ∃ mss : List Json.Members,
          v = .arr (mss.map .obj)
      · rcases hList with ⟨mss, rfl⟩
        exact .inl ⟨mss, hRead⟩
      · exact .inr (.inl ⟨v, hRead, fun mss hSame =>
          hList ⟨mss, hSame⟩⟩)

/- An array of objects declares one type for each. -/
theorem types_eq_ok_iff
    {ts : List String} :
    types written = .ok ts ↔
      ∃ mss, IsListOf written mss ∧ ts = mss.map typeOf := by
  constructor
  · intro hOk
    rcases isListOf_or written with
      ⟨mss, hList⟩ | hNoList | hNone
    · rw [types_of_isListOf hList] at hOk
      exact ⟨mss, hList, (Except.ok.inj hOk).symm⟩
    · rw [types_of_isNoList hNoList] at hOk
      cases hOk
    · rw [types_of_none hNone] at hOk
      cases hOk
  · rintro ⟨mss, hList, rfl⟩
    exact types_of_isListOf hList

/- There is a fault in all else, and it is told apart. -/
theorem types_eq_error_iff
    {fault : DeclarationFault} :
    types written = .error fault ↔
      (Json.read? .strict written = none ∧
        fault = .notJson) ∨
      (IsNoList written ∧ fault = .notObjects) := by
  constructor
  · intro hError
    rcases isListOf_or written with
      ⟨mss, hList⟩ | hNoList | hNone
    · rw [types_of_isListOf hList] at hError
      cases hError
    · rw [types_of_isNoList hNoList] at hError
      exact .inr ⟨hNoList, (Except.error.inj hError).symm⟩
    · rw [types_of_none hNone] at hError
      exact .inl ⟨hNone, (Except.error.inj hError).symm⟩
  · rintro (⟨hNone, rfl⟩ | ⟨hNoList, rfl⟩)
    · exact types_of_none hNone
    · exact types_of_isNoList hNoList

/- Entries declare their types. -/
theorem map_typeOf_of_perm
    {es : List Entry}
    {mss : List (List (String × String))}
    (hEntries :
      List.Forall₂ (fun ms e => ms.Perm e.texts) mss es) :
    mss.map (fun ms =>
        typeOf (Json.ofMembers (ms.map textPair))) =
      es.map (·.type) := by
  induction hEntries with
  | nil => rfl
  | cons hPerm _ ih =>
      rw [List.map_cons, List.map_cons,
        typeOf_of_perm hPerm, ih]

/-
  Entries are read back from any text that spells them, with
  the members of each in any order.
-/
theorem types_of_spelled
    {es : List Entry}
    {mss : List (List (String × String))}
    (hEntries :
      List.Forall₂ (fun ms e => ms.Perm e.texts) mss es)
    (hSpelled : Spelled (arrayTokens mss) written.toList) :
    types written = .ok (es.map (·.type)) := by
  have hList : IsListOf written
      (mss.map fun ms =>
        Json.ofMembers (ms.map textPair)) := by
    unfold IsListOf
    rw [Json.read?_of_spelled hSpelled,
      Json.ofTokens?_arrayTokens, List.map_map]
    rfl
  rw [types_of_isListOf hList, List.map_map]
  exact congrArg Except.ok (map_typeOf_of_perm hEntries)

end Declaration

------------------------------------------------------------
-- Declared Types
------------------------------------------------------------

namespace Conversion

open Declaration (Entry IsListOf IsNoList typeOf)
open Json (arrayTokens Spelled)

/-
  What a kind declares by the text of its annotation: the
  types of entries that it spells, in order, or those of any
  objects that it lists, or else a failure.
-/
structure Declares
    (c : Conversion)
    (coords : KindCoordinates)
    (written : String) : Prop where
  decodes :
    ∀ (es : List Entry) (mss : List (List (String × String))),
      List.Forall₂ (fun ms e => ms.Perm e.texts) mss es →
      Spelled (arrayTokens mss) written.toList →
      c.declaredTypes coords = .ok (es.map (·.type))
  lists :
    ∀ ts, c.declaredTypes coords = .ok ts ↔
      ∃ mss, IsListOf written mss ∧ ts = mss.map typeOf
  rejects :
    ∀ f, c.declaredTypes coords = .error f ↔
      (Json.read? .strict written = none ∧
        f = .declaration coords.definition .notJson) ∨
      (IsNoList written ∧
        f = .declaration coords.definition .notObjects)

variable {c : Conversion}
variable {coords : KindCoordinates}
variable {written : String}

/- A fault is told with the definition it is in. -/
theorem declaredTypes_of_lookup
    (hWritten :
      Table.lookup c.declaredUnder coords.annotations =
        some written) :
    c.declaredTypes coords =
      (Declaration.types written).mapError
        (.declaration coords.definition) := by
  unfold declaredTypes
  rw [hWritten]
  cases hTypes : Declaration.types written with
  | ok ts => simp only [hTypes, Except.mapError]
  | error fault => simp only [hTypes, Except.mapError]

theorem declaredTypes_eq_ok_iff
    {ts : List String}
    (hWritten :
      Table.lookup c.declaredUnder coords.annotations =
        some written) :
    c.declaredTypes coords = .ok ts ↔
      Declaration.types written = .ok ts := by
  rw [declaredTypes_of_lookup hWritten]
  cases Declaration.types written <;> simp [Except.mapError]

theorem declaredTypes_eq_error_iff
    {f : Failure}
    (hWritten :
      Table.lookup c.declaredUnder coords.annotations =
        some written) :
    c.declaredTypes coords = .error f ↔
      ∃ fault, Declaration.types written = .error fault ∧
        f = .declaration coords.definition fault := by
  rw [declaredTypes_of_lookup hWritten]
  cases Declaration.types written <;>
    simp [Except.mapError, @eq_comm _ f]

/-
  Every annotation is read so, whatever its text, and no
  failure but the one of the definition comes of it.
-/
theorem declares_of_lookup
    (hWritten :
      Table.lookup c.declaredUnder coords.annotations =
        some written) :
    c.Declares coords written := by
  refine ⟨?_, ?_, ?_⟩
  · intro es mss hEntries hSpelled
    rw [declaredTypes_eq_ok_iff hWritten]
    exact Declaration.types_of_spelled hEntries hSpelled
  · intro ts
    rw [declaredTypes_eq_ok_iff hWritten,
      Declaration.types_eq_ok_iff]
  · intro f
    rw [declaredTypes_eq_error_iff hWritten]
    simp only [Declaration.types_eq_error_iff]
    constructor
    · rintro ⟨_, ⟨hNone, rfl⟩ | ⟨hNoList, rfl⟩, rfl⟩
      · exact .inl ⟨hNone, rfl⟩
      · exact .inr ⟨hNoList, rfl⟩
    · rintro (⟨hNone, rfl⟩ | ⟨hNoList, rfl⟩)
      · exact ⟨_, .inl ⟨hNone, rfl⟩, rfl⟩
      · exact ⟨_, .inr ⟨hNoList, rfl⟩, rfl⟩

/- A kind that declares event types by a text. -/
def declaring (written : String) : KindCoordinates where
  definition := "shops.shop.dev"
  group := "shop.dev"
  version := "v1"
  resource := "shops"
  kind := "Shop"
  annotations := [(({} : Conversion).declaredUnder, written)]

/- Two entries, with blanks and the first type not first. -/
def rush : String :=
  "[ \x7b\"description\": \"soon\",\n\t\"type\":" ++
    "\"say \\\"rush\\\"\\u000a\"\x7d," ++
    "\x7b\"type\" :\"\"\x7d] "

/- What it says: a type with quotes, and an empty one. -/
def rushEntries : List Entry :=
  [{ type := "say \"rush\"\n", description := some "soon" },
   { type := "" }]

/- The members of its objects, as they stand in it. -/
def rushMembers : List (List (String × String)) :=
  [[("description", "soon"), ("type", "say \"rush\"\n")],
   [("type", "")]]

private theorem spelled_rush :
    Spelled (arrayTokens rushMembers) rush.toList := by
  have hNone : Json.Blanks [] := by decide
  have hBlank : Json.Blanks [' '] := by decide
  have hLine : Json.Blanks ['\n', '\t'] := by decide
  have hText (s : String) :
      (Json.Token.text s).Spells (Json.writeText s) :=
    .text (Json.spellsText_writeText s)
  have hTokens : Spelled (arrayTokens rushMembers) _ :=
    .cons hNone .openArray <|
    .cons hBlank .openObject <|
    .cons hNone (hText "description") <|
    .cons hNone .colon <|
    .cons hBlank (hText "soon") <|
    .cons hNone .comma <|
    .cons hLine (hText "type") <|
    .cons hNone .colon <|
    .cons hNone (hText "say \"rush\"\n") <|
    .cons hNone .closeObject <|
    .cons hNone .comma <|
    .cons hNone .openObject <|
    .cons hNone (hText "type") <|
    .cons hBlank .colon <|
    .cons hNone (hText "") <|
    .cons hNone .closeObject <|
    .cons hNone .closeArray <|
    .nil hBlank
  convert hTokens using 1
  decide +kernel

/- Both are read back, quotes and line feed included. -/
theorem declares_rush :
    List.Forall₂ (fun ms e => ms.Perm e.texts)
      rushMembers rushEntries ∧
    Spelled (arrayTokens rushMembers) rush.toList ∧
    Table.lookup ({} : Conversion).declaredUnder
      (declaring rush).annotations = some rush ∧
    ({} : Conversion).declaredTypes (declaring rush) =
      .ok ["say \"rush\"\n", ""] ∧
    ({} : Conversion).Declares (declaring rush) rush := by
  have hEntries :
      List.Forall₂ (fun ms e => ms.Perm e.texts)
        rushMembers rushEntries :=
    .cons (List.Perm.swap _ _ _)
      (.cons (List.Perm.refl _) .nil)
  have hDeclares :
      ({} : Conversion).Declares (declaring rush) rush :=
    declares_of_lookup rfl
  exact ⟨hEntries, spelled_rush, rfl,
    hDeclares.decodes _ _ hEntries spelled_rush, hDeclares⟩

end Conversion

end EventTopology
