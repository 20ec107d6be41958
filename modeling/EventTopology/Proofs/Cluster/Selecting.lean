import EventTopology.Proofs.Cluster.Holding

/-
  This file shows that label selectors mean what they say.
  In whatever way requirements are written as terms, the
  selector selects just the labels of which all of them
  hold, and a store lists just the definitions with such
  labels, in the order in which they were added.

  Key definitions include:
    * `Selector.Requirement.WellFormed`
    * `Selector.Requirement.HoldsOf`
    * `Selector.Requirement.Spelled`
    * `Selector.Written`
    * `Selector.Means`

  The main results are:
    * `Selector.parse_joined`
    * `Selector.selects_of_parse`
    * `Store.listDefinitions_of_parse`
    * `Selector.means_of_written`
-/

------------------------------------------------------------
-- Requirements on Labels
------------------------------------------------------------

namespace EventTopology

namespace Selector

/- Nothing but blanks. -/
def Blanks (cs : List Char) : Prop :=
  ∀ c ∈ cs, Text.isBlank c = true

instance (cs : List Char) : Decidable (Blanks cs) :=
  List.decidableBAll (fun c => Text.isBlank c = true) cs

/- A text that can be required as a value. -/
structure IsValue (s : String) : Prop where
  noComma : ',' ∉ s.toList
  bare : Text.IsBare Text.isBlank s.toList

/- A text that can be required as a key. -/
structure IsKey (s : String) : Prop extends IsValue s where
  nonempty : s ≠ ""
  noSign : '=' ∉ s.toList

instance (s : String) : Decidable (IsValue s) :=
  decidable_of_iff
    (',' ∉ s.toList ∧ Text.IsBare Text.isBlank s.toList)
    ⟨fun h => ⟨h.1, h.2⟩, fun h => ⟨h.1, h.2⟩⟩

instance (s : String) : Decidable (IsKey s) :=
  decidable_of_iff
    (IsValue s ∧ s ≠ "" ∧ '=' ∉ s.toList)
    ⟨fun h => ⟨h.1, h.2.1, h.2.2⟩,
      fun h => ⟨h.toIsValue, h.nonempty, h.noSign⟩⟩

namespace Requirement

/- The parts of a requirement can stand in a term. -/
def WellFormed : Requirement → Prop
| .present key => IsKey key
| .equals key value => IsKey key ∧ IsValue value

instance (r : Requirement) : Decidable r.WellFormed :=
  match r with
  | .present _ => inferInstanceAs (Decidable (IsKey _))
  | .equals _ _ => inferInstanceAs (Decidable (_ ∧ _))

/-
  A requirement holds of labels.  A label that is not there
  equals no value, not even the empty one.
-/
def HoldsOf (labels : Labels) : Requirement → Prop
| .present key => key ∈ Table.keys labels
| .equals key value => Table.lookup key labels = some value

instance (labels : Labels) (r : Requirement) :
    Decidable (r.HoldsOf labels) :=
  match r with
  | .present _ => inferInstanceAs (Decidable (_ ∈ _))
  | .equals _ _ => inferInstanceAs (Decidable (_ = _))

end Requirement

end Selector

------------------------------------------------------------
-- Written Requirements
------------------------------------------------------------

namespace Selector

/-
  A term spells a requirement.  Blanks may stand around the
  key and around the value.
-/
inductive Requirement.Spelled :
    Requirement → List Char → Prop where
| present {before after : List Char} (key : String) :
    Blanks before → Blanks after →
    Spelled (.present key) (before ++ key.toList ++ after)
| equals
    {before after before' after' : List Char}
    (key value : String) :
    Blanks before → Blanks after →
    Blanks before' → Blanks after' →
    Spelled (.equals key value)
      ((before ++ key.toList ++ after) ++
        '=' :: (before' ++ value.toList ++ after'))

/-
  Terms spell requirements in order.  Blank terms may stand
  anywhere among them.
-/
inductive Written :
    List Requirement → List (List Char) → Prop where
| nil : Written [] []
| blank
    {rs : List Requirement}
    {blanks : List Char}
    {terms : List (List Char)} :
    Blanks blanks → Written rs terms →
    Written rs (blanks :: terms)
| term
    {r : Requirement}
    {rs : List Requirement}
    {term : List Char}
    {terms : List (List Char)} :
    r.Spelled term → Written rs terms →
    Written (r :: rs) (term :: terms)

/- Terms with commas between them. -/
def joined (terms : List (List Char)) : String :=
  String.ofList ([','].intercalate terms)

end Selector

------------------------------------------------------------
-- Reading What Is Written
------------------------------------------------------------

namespace Selector

variable {r : Requirement} {rs : List Requirement}
variable {term : List Char} {terms : List (List Char)}

theorem noComma_of_blanks
    {cs : List Char}
    (hBlanks : Blanks cs) :
    ',' ∉ cs := by
  intro hMem
  exact absurd (hBlanks ',' hMem) (by decide)

theorem noSign_of_blanks
    {cs : List Char}
    (hBlanks : Blanks cs) :
    '=' ∉ cs := by
  intro hMem
  exact absurd (hBlanks '=' hMem) (by decide)

/- A term of a well-formed requirement has no comma in it. -/
theorem noComma_of_spelled
    (hWell : r.WellFormed)
    (hSpelled : r.Spelled term) :
    ',' ∉ term := by
  cases hSpelled with
  | present key hBefore hAfter =>
      simp [noComma_of_blanks hBefore,
        noComma_of_blanks hAfter, hWell.noComma]
  | equals key value hBefore hAfter hBefore' hAfter' =>
      simp [noComma_of_blanks hBefore,
        noComma_of_blanks hAfter,
        noComma_of_blanks hBefore',
        noComma_of_blanks hAfter', hWell.1.noComma,
        hWell.2.noComma]

/- A selector is taken apart into its terms. -/
theorem splitOn_joined
    (hWell : ∀ r ∈ rs, r.WellFormed)
    (hWritten : Written rs terms)
    (hNe : terms ≠ []) :
    Text.splitOn ',' (joined terms) =
      terms.map String.ofList := by
  have hParts : ∀ term ∈ terms, ',' ∉ term := by
    clear hNe
    induction hWritten with
    | nil => simp
    | blank hBlanks _ ih =>
        exact List.forall_mem_cons.mpr
          ⟨noComma_of_blanks hBlanks, ih hWell⟩
    | term hSpelled _ ih =>
        rw [List.forall_mem_cons] at hWell
        exact List.forall_mem_cons.mpr
          ⟨noComma_of_spelled hWell.1 hSpelled,
            ih hWell.2⟩
  rw [Text.splitOn, joined, String.toList_ofList,
    Text.fields_eq_splitOn,
    List.splitOn_intercalate ',' hParts hNe]

/- What is stripped off a term does not hide what it says. -/
theorem requirementOf_strip
    (hWell : r.WellFormed)
    (hSpelled : r.Spelled term) :
    Text.strip (String.ofList term) ≠ "" ∧
      requirementOf (Text.strip (String.ofList term)) = r := by
  cases hSpelled with
  | @present before after key hBefore hAfter =>
      have hKey : IsKey key := hWell
      have hStrip : Text.strip (String.ofList
          (before ++ key.toList ++ after)) = key := by
        rw [Text.strip, String.toList_ofList,
          Text.trimBoth_padded hBefore hAfter hKey.bare,
          String.ofList_toList]
      have hWhole : Text.splitOnce '=' key = none :=
        Text.splitOnce_eq_none_iff.mpr hKey.noSign
      rw [hStrip, requirementOf, hWhole]
      exact ⟨hKey.nonempty, rfl⟩
  | @equals before after before' after' key value
      hBefore hAfter hBefore' hAfter' =>
      have hKey : IsKey key := hWell.1
      have hValue : IsValue value := hWell.2
      have hNoSign : '=' ∉ before ++ key.toList ++ after := by
        simp [noSign_of_blanks hBefore,
          noSign_of_blanks hAfter, hKey.noSign]
      have hStrip : (Text.strip (String.ofList
          ((before ++ key.toList ++ after) ++ '=' ::
            (before' ++ value.toList ++ after')))).toList =
          (before ++ key.toList ++ after).dropWhile
              Text.isBlank ++
            '=' :: Text.trimEnd Text.isBlank
              (before' ++ value.toList ++ after') := by
        rw [Text.strip, String.toList_ofList,
          String.toList_ofList,
          Text.trimBoth_append_cons (by decide)]
      have hSplit : Text.splitOnce '=' (Text.strip
          (String.ofList
            ((before ++ key.toList ++ after) ++ '=' ::
              (before' ++ value.toList ++ after')))) =
          some
            (String.ofList
              ((before ++ key.toList ++ after).dropWhile
                Text.isBlank),
             String.ofList (Text.trimEnd Text.isBlank
              (before' ++ value.toList ++ after'))) := by
        rw [Text.splitOnce_eq_some_iff, hStrip,
          String.toList_ofList, String.toList_ofList]
        exact ⟨rfl, fun hMem => hNoSign
          ((List.dropWhile_suffix _).subset hMem)⟩
      refine ⟨?_, ?_⟩
      · intro hEmpty
        rw [hEmpty] at hStrip
        simp at hStrip
      · rw [requirementOf, hSplit]
        dsimp only
        rw [Text.strip, Text.strip, String.toList_ofList,
          String.toList_ofList, Text.trimBoth_dropWhile,
          Text.trimBoth_trimEnd,
          Text.trimBoth_padded hBefore hAfter hKey.bare,
          Text.trimBoth_padded hBefore' hAfter'
            hValue.bare,
          String.ofList_toList, String.ofList_toList]

/- What is written is read, however it is written. -/
theorem parse_joined
    (hWell : ∀ r ∈ rs, r.WellFormed)
    (hWritten : Written rs terms) :
    parse (joined terms) = rs := by
  by_cases hNe : terms = []
  · subst hNe
    cases hWritten
    rfl
  · rw [parse, splitOn_joined hWell hWritten hNe,
      List.map_map]
    clear hNe
    induction hWritten with
    | nil => rfl
    | @blank rs blanks terms hBlanks _ ih =>
        have hStrip :
            Text.strip (String.ofList blanks) = "" := by
          rw [Text.strip, String.toList_ofList,
            Text.trimBoth_eq_nil hBlanks]
        simpa [hStrip] using ih hWell
    | @term r rs term terms hSpelled _ ih =>
        rw [List.forall_mem_cons] at hWell
        rcases requirementOf_strip hWell.1 hSpelled with
          ⟨hFull, hRead⟩
        simpa [hFull, hRead] using ih hWell.2

end Selector

------------------------------------------------------------
-- Selecting Labels
------------------------------------------------------------

namespace Selector

variable {selector : String} {rs : List Requirement}

/- A requirement is tested by looking its key up. -/
theorem holds_labelsJson
    (labels : Labels)
    (r : Requirement) :
    r.holds (Mesh.labelsJson (some labels)) =
      .ok (decide (r.HoldsOf labels)) := by
  have hLookup (key : String) :
      Table.lookup key
          (labels.map fun l => (l.1, Json.str l.2)) =
        (Table.lookup key labels).map .str :=
    Table.lookup_map Json.str key labels
  cases r with
  | present key =>
      change Except.ok (Table.has key _) = _
      rw [Table.has, hLookup, Option.isSome_map]
      simp [Requirement.HoldsOf, Table.mem_keys_iff,
        Option.ne_none_iff_isSome]
  | equals key value =>
      change Except.ok (Json.isText
        ((Table.lookup key _).getD .null) value) = _
      rw [hLookup]
      cases hFound : Table.lookup key labels with
      | none =>
          simp [Requirement.HoldsOf, hFound, Json.isText]
      | some found =>
          simp [Requirement.HoldsOf, hFound, Json.isText]

/- A selector selects labels when all it requires holds. -/
theorem selects_of_parse
    (hParse : parse selector = rs)
    (labels : Labels) :
    selects selector (Mesh.labelsJson (some labels)) =
      .ok (decide (∀ r ∈ rs, r.HoldsOf labels)) := by
  rw [selects, hParse]
  clear hParse
  induction rs with
  | nil => rfl
  | cons r rs ih =>
      rw [allHold, holds_labelsJson]
      by_cases hFirst : r.HoldsOf labels
      · simp only [hFirst, decide_true, List.forall_mem_cons,
          true_and]
        exact ih
      · simp only [hFirst, decide_false,
          List.forall_mem_cons, false_and]
        rfl

end Selector

------------------------------------------------------------
-- Labelled Resources
------------------------------------------------------------

namespace Resource

open Json.Shape

/- The shape of a resource whose labels are texts, if any. -/
def labelledShape : Json.Shape :=
  object
    [("metadata",
      optional (object [("labels", optional (texts []))]))]

/- The labels of a resource. -/
def labelsIn (raw : Json) : Labels :=
  (raw.dig ["metadata", "labels"]).textMembers

theorem labelsOf_of_labelled
    {raw : Json}
    (hLabelled : labelledShape raw) :
    labelsOf raw =
      .ok (Mesh.labelsJson (some (labelsIn raw))) := by
  rcases exists_members hLabelled with ⟨ms, rfl⟩
  have hMetadata : object [("labels", optional (texts []))]
      ((Json.obj ms).member "metadata").orEmpty :=
    object_orEmpty (optional_optional
      (optional_member hLabelled rfl))
  have hLabels : optional (texts [])
      ((Json.obj ms).dig ["metadata", "labels"]) := by
    have hMember : optional (optional (texts []))
        (((Json.obj ms).member "metadata").orEmpty.member
          "labels") := optional_member hMetadata rfl
    rw [Json.member_orEmpty] at hMember
    exact optional_optional hMember
  have hGet := (Json.Shape.get_any hMetadata
    "labels").exists_ok
  rcases hGet with ⟨labels, hGet, rfl⟩
  change (((Json.obj ms).member "metadata").orEmpty.get
    "labels" >>= fun v => pure v.orEmpty) = _
  rw [hGet, Json.member_orEmpty]
  have hWritten := eq_labelsJson (texts_orEmpty hLabels)
  rw [Json.textMembers_orEmpty] at hWritten
  exact congrArg Except.ok hWritten

end Resource

------------------------------------------------------------
-- Listing Definitions
------------------------------------------------------------

namespace Store

open Resource

variable {s : Store}
variable {selector : String}
variable {rs : List Selector.Requirement}

/- A store lists the definitions that meet requirements. -/
theorem listDefinitions_of_parse
    (hParse : Selector.parse selector = rs)
    (hPrimed :
      Table.lookup "definitions" s.listingErrors = none)
    (hLabelled : ∀ d ∈ s.definitions, labelledShape d) :
    s.listDefinitions selector =
      .ok (.arr (s.definitions.filter fun d =>
        ∀ r ∈ rs, r.HoldsOf (labelsIn d))) := by
  have hTagged : ∀ d ∈ s.definitions, tagged selector d =
      .ok (decide (∀ r ∈ rs, r.HoldsOf (labelsIn d))) := by
    intro d hMem
    unfold tagged
    rw [labelsOf_of_labelled (hLabelled d hMem)]
    exact Selector.selects_of_parse hParse _
  unfold listDefinitions
  rw [Except.filterM_eq_filter hTagged]
  unfold listing
  rw [hPrimed]
  rfl

end Store

------------------------------------------------------------
-- Meaning
------------------------------------------------------------

namespace Selector

/-
  A selector means requirements.  It selects the labels of
  which all of them hold, and of the definitions that were
  added to a store it lists those with such labels, in the
  order of their addition.
-/
structure Means
    (selector : String)
    (rs : List Requirement) : Prop where
  selects : ∀ labels : Labels,
    selects selector (Mesh.labelsJson (some labels)) =
      .ok (decide (∀ r ∈ rs, r.HoldsOf labels))
  lists : ∀ (s : Store) (calls : List (List Json)),
    Table.lookup "definitions" s.listingErrors = none →
    (∀ d ∈ (s.filled calls).definitions,
      Resource.labelledShape d) →
    (s.filled calls).listDefinitions selector =
      .ok (.arr
        ((s.definitions ++
          (calls.flatMap (·.takeWhile Store.isSorted)).filter
            (Store.belongsTo .definitions)).filter fun d =>
          ∀ r ∈ rs, r.HoldsOf (Resource.labelsIn d)))

variable {rs written : List Requirement}
variable {terms : List (List Char)}

/-
  Requirements may be written in any order, with blanks
  around all parts, with blank terms in between, and more
  than once.  The selector means them in every case.
-/
theorem means_of_written
    (hWell : ∀ r ∈ rs, r.WellFormed)
    (hSame : ∀ r, r ∈ written ↔ r ∈ rs)
    (hWritten : Written written terms) :
    Means (joined terms) rs := by
  have hParse : parse (joined terms) = written :=
    parse_joined (fun r hMem => hWell r ((hSame r).mp hMem))
      hWritten
  have hAll (labels : Labels) :
      (∀ r ∈ written, r.HoldsOf labels) ↔
        ∀ r ∈ rs, r.HoldsOf labels := by
    simp only [hSame]
  refine ⟨fun labels => ?_, fun s calls hPrimed hShapes => ?_⟩
  · rw [selects_of_parse hParse]
    simp only [hAll]
  · have hListed := Store.listDefinitions_of_parse hParse
      ((s.listingErrors_filled calls).symm ▸ hPrimed) hShapes
    have hBucket : (s.filled calls).definitions =
        s.definitions ++
          (calls.flatMap (·.takeWhile Store.isSorted)).filter
            (Store.belongsTo .definitions) :=
      s.contents_filled calls .definitions
    rw [hListed, hBucket]
    simp only [hAll]

/- A tag, an empty value and a value with signs in it. -/
def tags : List Requirement :=
  [.present "tag", .equals "tier" "",
    .equals "query" "a = b"]

/- The same in another order, the tag twice. -/
def retold : List Requirement :=
  [.equals "query" "a = b", .present "tag",
    .equals "tier" "", .present "tag"]

/- Terms for them, one of them blank. -/
def retoldTerms : List (List Char) :=
  [" query= a = b".toList, "".toList, " tag\t".toList,
    "tier = ".toList, "tag".toList]

private theorem written_retold :
    Written retold retoldTerms := by
  have hBlank : Blanks [' '] := by decide
  have hTab : Blanks ['\t'] := by decide
  have hNone : Blanks [] := by decide
  have hWritten : Written retold _ :=
    .term (.equals "query" "a = b" hBlank hNone hBlank hNone)
      (.blank hNone
        (.term (.present "tag" hBlank hTab)
          (.term (.equals "tier" "" hNone hBlank hBlank hNone)
            (.term (.present "tag" hNone hNone) .nil))))
  convert hWritten using 1
  decide +kernel

/- However they are told, the tags are what is meant. -/
theorem means_tags :
    joined retoldTerms =
      " query= a = b,, tag\t,tier = ,tag" ∧
    (∀ r ∈ tags, r.WellFormed) ∧
    (∀ r, r ∈ retold ↔ r ∈ tags) ∧
    Written retold retoldTerms ∧
    Means (joined retoldTerms) tags := by
  have hWell : ∀ r ∈ tags, r.WellFormed := by decide +kernel
  have hSame (r : Requirement) : r ∈ retold ↔ r ∈ tags := by
    simp only [retold, tags, List.mem_cons, List.not_mem_nil]
    tauto
  exact ⟨by decide +kernel, hWell, hSame, written_retold,
    means_of_written hWell hSame written_retold⟩

end Selector

end EventTopology
