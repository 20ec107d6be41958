import EventTopology.Proofs.Client.Tabling
import EventTopology.Proofs.Cluster.Typing
import EventTopology.Resource.Manifest
import Mathlib.Data.List.TakeWhile

/-
  This file shows what is found in a store of what was added
  to it.  Additions go to the end of the buckets, and lookups
  search the bucket of instances.  So a store finds what a
  cluster with the same resources would, unless the kind has
  a listing of its own: such a resource is never found.

  Key definitions include:
    * `Store.filled`
    * `Store.listedKinds`
    * `ObjectReference.labelAmong`
    * `Client.Library.Holds`

  The main results are:
    * `Store.contents_filled`
    * `Store.resolveIdentity_filled`
    * `Session.identity_of_holds`
    * `Store.identity_of_filled`
-/

------------------------------------------------------------
-- Additions
------------------------------------------------------------

namespace EventTopology

namespace Store

/- Is there a bucket for a resource? -/
def isSorted (raw : Json) : Bool :=
  (bucketOf raw).isOk

/- Does a resource belong to a bucket? -/
def belongsTo (b : Bucket) (raw : Json) : Bool :=
  (bucketOf raw).toOption = some b

/- A store after some additions, one after the other. -/
def filled (s : Store) (calls : List (List Json)) : Store :=
  calls.foldl (fun s raws => (s.add raws).1) s

variable (s : Store)

/-
  An addition extends each bucket by what belongs to it, up
  to the first resource that cannot be sorted.
-/
theorem contents_add
    (raws : List Json)
    (b : Bucket) :
    (s.add raws).1.contents b =
      s.contents b ++
        (raws.takeWhile isSorted).filter (belongsTo b) := by
  induction raws generalizing s with
  | nil => exact (List.append_nil _).symm
  | cons raw raws ih =>
      unfold add
      rw [List.takeWhile_cons]
      cases hBucket : bucketOf raw with
      | error e =>
          have hNot : isSorted raw = false := by
            rw [isSorted, hBucket]
            rfl
          rw [hNot]
          exact (List.append_nil _).symm
      | ok b' =>
          have hSorted : isSorted raw = true := by
            rw [isSorted, hBucket]
            rfl
          have hBelongs :
              belongsTo b raw = decide (b' = b) := by
            simp [belongsTo, hBucket, Except.toOption]
          dsimp only
          rw [ih, contents_put, hSorted, if_pos rfl,
            List.filter_cons, hBelongs, List.append_assoc]
          by_cases hSame : b' = b <;> simp [hSame]

/- Additions leave alone what no single one changes. -/
theorem add_of_put
    {β : Type}
    {f : Store → β}
    (hPut : ∀ s b raw, f (put s b raw) = f s)
    (raws : List Json) :
    f (s.add raws).1 = f s := by
  induction raws generalizing s with
  | nil => rfl
  | cons raw raws ih =>
      unfold add
      cases bucketOf raw with
      | error e => rfl
      | ok b => exact (ih (s.put b raw)).trans (hPut s b raw)

theorem contents_filled
    (calls : List (List Json))
    (b : Bucket) :
    (s.filled calls).contents b =
      s.contents b ++
        (calls.flatMap (·.takeWhile isSorted)).filter
          (belongsTo b) := by
  induction calls generalizing s with
  | nil => exact (List.append_nil _).symm
  | cons raws calls ih =>
      change (filled (s.add raws).1 calls).contents b = _
      rw [ih, contents_add, List.flatMap_cons,
        List.filter_append, List.append_assoc]

theorem filled_of_put
    {β : Type}
    {f : Store → β}
    (hPut : ∀ s b raw, f (put s b raw) = f s)
    (calls : List (List Json)) :
    f (s.filled calls) = f s := by
  induction calls generalizing s with
  | nil => rfl
  | cons raws calls ih =>
      exact (ih _).trans (s.add_of_put hPut raws)

/- Additions leave the errors of lookups as they are. -/
theorem lookupErrors_filled (calls : List (List Json)) :
    (s.filled calls).lookupErrors = s.lookupErrors :=
  s.filled_of_put (fun _ b _ => by cases b <;> rfl) calls

/- Additions leave the errors of listings as they are. -/
theorem listingErrors_filled (calls : List (List Json)) :
    (s.filled calls).listingErrors = s.listingErrors :=
  s.filled_of_put (fun _ b _ => by cases b <;> rfl) calls

variable {free : List String}

/- What is well typed is added to the end. -/
theorem contents_filled_of_shape
    {calls : List (List Json)}
    (hShapes : ∀ raw ∈ calls.flatten,
      Resource.shape free raw)
    (b : Bucket) :
    (s.filled calls).contents b =
      s.contents b ++ calls.flatten.filter (belongsTo b) := by
  have hSorted : calls.map (·.takeWhile isSorted) =
      calls.map id := by
    refine List.map_congr_left fun raws hCall => ?_
    rw [id, List.takeWhile_eq_self_iff]
    intro raw hMem
    have hShape := hShapes raw
      (List.mem_flatten.mpr ⟨raws, hCall, hMem⟩)
    rcases (bucketOf_of_shape hShape).exists_ok with
      ⟨b, hBucket, -⟩
    rw [isSorted, hBucket]
    rfl
  rw [contents_filled, List.flatMap_def, hSorted,
    List.map_id]

end Store

------------------------------------------------------------
-- Lookups after Additions
------------------------------------------------------------

namespace Json

theorem eq_of_isText
    {v : Json}
    {s : String}
    (hText : v.isText s = true) :
    v = .str s := by
  cases v with
  | str t => exact congrArg Json.str (of_decide_eq_true hText)
  | _ => cases hText

end Json

namespace Store

/- The kinds that have listings of their own. -/
def listedKinds : List (String × String) :=
  [("eventing.knative.dev", "Broker"),
   ("eventing.knative.dev", "EventType"),
   ("eventing.knative.dev", "Trigger"),
   ("messaging.knative.dev", "Subscription"),
   ("apiextensions.k8s.io", "CustomResourceDefinition")]

/- The resources of all other kinds are instances. -/
theorem bucketFor_eq_objects_iff
    (group kind : String) :
    bucketFor group (.str kind) = .objects ↔
      (group, kind) ∉ listedKinds := by
  unfold bucketFor listedKinds Json.isText
  dsimp only
  split_ifs <;> simp_all

end Store

namespace ObjectReference

/-
  The label of the first resource that a reference names.
  Null stands for a missing resource or label.
-/
def labelAmong
    (ref : ObjectReference)
    (label : String)
    (raws : List Json) : Json :=
  match raws.find? ref.names with
  | none => .null
  | some raw => raw.dig ["metadata", "labels", label]

/- Does a reference name a kind with its own listing? -/
def isListed (ref : ObjectReference) : Bool :=
  (ref.group, ref.kind) ∈ Store.listedKinds

end ObjectReference

namespace Store

variable {free : List String}
variable {ref : ObjectReference}
variable {raw : Json}

/- What is named is an instance by the reference's kind. -/
theorem belongsTo_objects_of_names
    (hShape : Resource.shape free raw)
    (hNames : ref.names raw = true) :
    belongsTo .objects raw = !ref.isListed := by
  rcases (bucketOf_of_shape hShape).exists_ok with
    ⟨b, hBucket, hIs⟩
  unfold ObjectReference.names at hNames
  simp only [Bool.and_eq_true, decide_eq_true_eq] at hNames
  rcases hNames with ⟨⟨⟨hGroup, hKind⟩, -⟩, -⟩
  rw [hGroup, Json.eq_of_isText hKind] at hIs
  unfold belongsTo ObjectReference.isListed
  rw [hBucket, hIs, ← decide_not,
    decide_eq_decide, ← bucketFor_eq_objects_iff]
  exact Option.some_inj

/- Instances are named among all resources, or not at all. -/
theorem find?_objects
    {raws : List Json}
    (hShapes : ∀ raw ∈ raws, Resource.shape free raw) :
    (raws.filter (belongsTo .objects)).find? ref.names =
      if ref.isListed then none
      else raws.find? ref.names := by
  induction raws with
  | nil => simp
  | cons raw raws ih =>
      rw [List.forall_mem_cons] at hShapes
      have hRest := ih hShapes.2
      rw [List.filter_cons, List.find?_cons]
      cases hNames : ref.names raw with
      | false =>
          split <;> simp [hNames, hRest]
      | true =>
          rw [belongsTo_objects_of_names hShapes.1 hNames]
          cases hListed : ref.isListed with
          | false => simp [hNames]
          | true => simpa [hListed] using hRest

/-
  A lookup gives the label of the first resource that was
  added under the name, but nothing for kinds that have a
  listing of their own.
-/
theorem resolveIdentity_filled
    {s : Store}
    {calls : List (List Json)}
    (hEmpty : ∀ b, s.contents b = [])
    (hShapes : ∀ raw ∈ calls.flatten,
      Resource.shape free raw)
    (hPrimed : Table.lookup ref.key s.lookupErrors = none)
    (label : String) :
    ((s.filled calls).resolveIdentity ref label).1 =
      .ok (if ref.isListed then .null
        else ref.labelAmong label calls.flatten) := by
  have hObjects : (s.filled calls).objects =
      calls.flatten.filter (belongsTo .objects) := by
    change (s.filled calls).contents .objects = _
    rw [contents_filled_of_shape s hShapes, hEmpty]
    rfl
  have hTyped : ∀ raw ∈ (s.filled calls).objects,
      Resource.shape free raw := by
    intro raw hMem
    rw [hObjects] at hMem
    exact hShapes raw (List.mem_filter.mp hMem).1
  have hFind := findNamed_of_shape ref hTyped
  rcases hFind.exists_ok with ⟨found, hFound, hFirst⟩
  rw [hObjects, find?_objects hShapes] at hFirst
  unfold resolveIdentity ObjectReference.labelAmong
  rw [lookupErrors_filled, hPrimed]
  dsimp only
  rw [hFound, hFirst]
  cases ref.isListed with
  | true => rfl
  | false =>
      cases hNamed : calls.flatten.find? ref.names with
      | none => rfl
      | some raw =>
          have hShape := hShapes raw
            (List.mem_of_find?_eq_some hNamed)
          rcases (getLabel_of_shape label hShape).exists_ok
            with ⟨v, hLabel, rfl⟩
          exact congrArg Failure.ofShape hLabel

end Store

------------------------------------------------------------
-- Libraries of Clusters with Resources
------------------------------------------------------------

namespace Client

/-
  What a library answers if its cluster holds resources, as
  far as a reference to one of them goes.  The first one of
  a name is the one that is held.  The kind of a resource
  that is held is served; other kinds need not be.
-/
structure Library.Holds
    (lib : Library)
    (raws : List Json)
    (ref : ObjectReference) : Prop where
  connects : lib.Permits .connect
  prepares : lib.Permits .prepareLookups
  found : ∀ raw, raws.find? ref.names = some raw →
    lib.Permits (.kind ref.apiVersion ref.kind) ∧
    lib.Answers
      (.get ref.apiVersion ref.kind ref.name ref.ns)
      (· = .ok raw)
  lacking : raws.find? ref.names = none →
    lib.Answers (.kind ref.apiVersion ref.kind)
      (· = .error .noSuchKind) ∨
    lib.Permits (.kind ref.apiVersion ref.kind) ∧
    lib.Answers
      (.get ref.apiVersion ref.kind ref.name ref.ns)
      fun o => ∃ status reason,
        o = .error (.lookup true status reason)

end Client

namespace Session

open Client

variable {lib : Library}
variable {ref : ObjectReference}

/- A kind that is not served is where a lookup ends. -/
theorem outcome_find_of_kind
    {e : Fault}
    (hConnect : lib.Permits .connect)
    (hPrepare : lib.Permits .prepareLookups)
    (hKind : lib.Answers (.kind ref.apiVersion ref.kind)
      (· = .error e))
    (s : Session) :
    (find lib ref s).1 = .error e := by
  unfold find
  refine (succeeds_prepareLookups hConnect
    hPrepare).outcome_bind (P := (· = .error e))
      (fun n s' => ?_) s
  have hFails := outcome_sendOver hKind n s'
  exact outcome_bind_of_error
    (outcome_bind_of_error (f := fun _ => pure ()) hFails)

/-
  A session over a cluster that holds resources gives the
  label of the one that is named, whatever its kind.
-/
theorem identity_of_holds
    {free : List String}
    {raws : List Json}
    (hShapes : ∀ raw ∈ raws, Resource.shape free raw)
    (hHolds : lib.Holds raws ref)
    (label : String)
    (s : Session) :
    (answer lib (.identity ref label) s).outcome =
      .ok (ref.labelAmong label raws) := by
  rw [outcome_identity]
  unfold ObjectReference.labelAmong
  cases hNamed : raws.find? ref.names with
  | some raw =>
      rcases hHolds.found raw hNamed with ⟨hKind, hGet⟩
      have hFind := outcome_find hHolds.connects
        hHolds.prepares hKind hGet s
      rw [hFind]
      have hShape := hShapes raw
        (List.mem_of_find?_eq_some hNamed)
      rcases (Store.getLabel_of_shape label hShape).exists_ok
        with ⟨v, hLabel, rfl⟩
      exact congrArg Failure.ofShape hLabel
  | none =>
      rcases hHolds.lacking hNamed with
        hUnserved | ⟨hKind, hGet⟩
      · rw [outcome_find_of_kind hHolds.connects
          hHolds.prepares hUnserved]
        rfl
      · rcases outcome_find hHolds.connects hHolds.prepares
          hKind hGet s with ⟨status, reason, hFind⟩
        rw [hFind]
        rfl

end Session

namespace Client

/- Is there a resource of a group and kind among some? -/
def serves
    (raws : List Json)
    (group kind : String) : Bool :=
  raws.any fun raw =>
    Resource.groupIn raw = group &&
    (raw.member "kind").isText kind

/- Answers of a cluster that holds resources. -/
def holdingScript
    (raws : List Json) : Call → Except Fault Json
| .kind apiVersion kind =>
    if serves raws (Key.resourceGroupOf apiVersion) kind
    then .ok .null
    else .error .noSuchKind
| .get apiVersion kind name ns =>
    match raws.find?
      (ObjectReference.names ⟨apiVersion, kind, ns, name⟩)
    with
    | some raw => .ok raw
    | none =>
        .error (.lookup true (some 404) (some "Not Found"))
| _ => .ok .null

variable {raws : List Json}
variable {ref : ObjectReference}

/- What is named is of a kind that is served. -/
theorem serves_of_find?
    {raw : Json}
    (hNamed : raws.find? ref.names = some raw) :
    serves raws ref.group ref.kind = true := by
  have hNames := List.find?_some hNamed
  unfold ObjectReference.names at hNames
  simp only [Bool.and_eq_true] at hNames
  unfold serves
  rw [List.any_eq_true]
  refine ⟨raw, List.mem_of_find?_eq_some hNamed, ?_⟩
  rw [Bool.and_eq_true]
  exact hNames.1.1

theorem permits_kind_holdingScript
    (hServes : serves raws ref.group ref.kind = true) :
    (Library.ofScript (holdingScript raws)).Permits
      (.kind ref.apiVersion ref.kind) := by
  intro before n c
  change (if serves raws ref.group ref.kind then _ else _ :
    Except Fault Json).Succeeds _
  rw [if_pos hServes]
  trivial

/- They are those of a library whose cluster holds them. -/
theorem holds_holdingScript
    (raws : List Json)
    (ref : ObjectReference) :
    (Library.ofScript (holdingScript raws)).Holds raws
      ref where
  connects := fun _ _ _ => trivial
  prepares := fun _ _ _ => trivial
  found := by
    intro raw hNamed
    refine ⟨permits_kind_holdingScript
      (serves_of_find? hNamed), fun before n c => ?_⟩
    change (match raws.find? ref.names with
      | some raw => _
      | none => _) = _
    rw [hNamed]
  lacking := by
    intro hNone
    by_cases hServes : serves raws ref.group ref.kind = true
    · refine Or.inr ⟨permits_kind_holdingScript hServes,
        fun before n c => ⟨some 404, some "Not Found", ?_⟩⟩
      change (match raws.find? ref.names with
        | some raw => _
        | none => _) = _
      rw [hNone]
    · exact Or.inl fun before n c => if_neg hServes

end Client

------------------------------------------------------------
-- Stores and Clusters with the Same Resources
------------------------------------------------------------

namespace Store

open Client

/-
  A store to which resources were added in any number of
  additions, and a session over a cluster that holds them,
  look a reference up.  The session gives the label of the
  first resource that is named, or null.  So does the store,
  except for resources of the kinds that have listings of
  their own: these it holds, but never finds.
-/
theorem identity_of_filled
    {free : List String}
    {s : Store}
    {calls : List (List Json)}
    {ref : ObjectReference}
    {lib : Library}
    (hEmpty : ∀ b, s.contents b = [])
    (hShapes : ∀ raw ∈ calls.flatten,
      Resource.shape free raw)
    (hPrimed : Table.lookup ref.key s.lookupErrors = none)
    (hHolds : lib.Holds calls.flatten ref)
    (label : String)
    (t : Session) :
    let held := ref.labelAmong label calls.flatten
    let found :=
      ((s.filled calls).resolveIdentity ref label).1
    let answered :=
      (Session.answer lib (.identity ref label) t).outcome
    answered = .ok held ∧
    found = .ok (if ref.isListed then .null else held) ∧
    (found = answered ↔
      ref.isListed = false ∨ held = .null) := by
  intro held found answered
  have hAnswered : answered = .ok held :=
    Session.identity_of_holds hShapes hHolds label t
  have hFound : found =
      .ok (if ref.isListed then .null else held) :=
    resolveIdentity_filled hEmpty hShapes hPrimed label
  refine ⟨hAnswered, hFound, ?_⟩
  rw [hAnswered, hFound, Except.ok.injEq]
  cases ref.isListed with
  | false => simp
  | true => simp [eq_comm]

end Store

namespace Shop

/- A reference to a service of the shop. -/
def serviceNamed (name : String) : ObjectReference where
  apiVersion := "v1"
  kind := "Service"
  ns := "shop"
  name := name

/- A reference to the broker of the shop. -/
def brokerNamed (name : String) : ObjectReference where
  apiVersion := "eventing.knative.dev/v1"
  kind := "Broker"
  ns := "shop"
  name := name

/- Labels that tie a resource to the catalog. -/
def catalogued (identity : String) : Json :=
  .obj [(Manifest.identityLabel, .str identity)]

/- A broker and two services under one name, in two goes. -/
def additions : List (List Json) :=
  [[Manifest.broker (.str "main") (.str "shop") (.str "")
      (catalogued "front") .null,
    Manifest.service (.str "billing") (.str "shop")
      (.str "billing")],
   [Manifest.service (.str "billing") (.str "shop")
      (.str "second")]]

theorem shape_additions :
    ∀ raw ∈ additions.flatten, Resource.shape [] raw := by
  decide +kernel

end Shop

namespace Store

/- Of two services under one name, both find the first. -/
theorem shop_identity :
    let label := Manifest.identityLabel
    let ref := Shop.serviceNamed "billing"
    let s : Store := {}
    let lib := Client.Library.ofScript
      (Client.holdingScript Shop.additions.flatten)
    let t := Session.start { host := "https://shop" } none
      "v1beta2"
    (∀ b, s.contents b = []) ∧
    (∀ raw ∈ Shop.additions.flatten,
      Resource.shape [] raw) ∧
    Table.lookup ref.key s.lookupErrors = none ∧
    lib.Holds Shop.additions.flatten ref ∧
    ((s.filled Shop.additions).resolveIdentity ref label).1 =
      .ok (.str "billing") ∧
    (Session.answer lib (.identity ref label) t).outcome =
      .ok (.str "billing") := by
  intro label ref s lib t
  have hEmpty (b : Bucket) : s.contents b = [] := by
    cases b <;> rfl
  have hHolds : lib.Holds Shop.additions.flatten ref :=
    Client.holds_holdingScript Shop.additions.flatten ref
  have hHeld : ref.labelAmong label Shop.additions.flatten =
      .str "billing" :=
    Json.eq_of_isText (by decide +kernel)
  have hInstance : ref.isListed = false := by
    decide +kernel
  rcases identity_of_filled hEmpty Shop.shape_additions rfl
    hHolds label t with ⟨hAnswered, hFound, -⟩
  rw [hHeld] at hAnswered hFound
  rw [hInstance] at hFound
  exact ⟨hEmpty, Shop.shape_additions, rfl, hHolds, hFound,
    hAnswered⟩

/-
  The broker is held and has a label, but the store gives
  null for it.
-/
theorem shop_broker_unresolved :
    let ref := Shop.brokerNamed "main"
    let label := Manifest.identityLabel
    let s := ({} : Store).filled Shop.additions
    (∀ raw ∈ Shop.additions.flatten,
      Resource.shape [] raw) ∧
    Table.lookup ref.key s.lookupErrors = none ∧
    ref.labelAmong label Shop.additions.flatten =
      .str "front" ∧
    (s.resolveIdentity ref label).1 = .ok .null :=
  ⟨Shop.shape_additions, rfl, rfl, rfl⟩

end Store

end EventTopology
