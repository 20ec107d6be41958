import EventTopology.Proofs.Build.Steps
import EventTopology.Proofs.Cluster.Holding

/-
  This file shows that a store sorts its whole history into
  its buckets.  Whatever is added and asked, in whatever
  order, each bucket holds just the resources of its class
  that were accepted, in the order of addition.  An addition
  accepts what stands before the first resource that it
  cannot sort; nothing else ever changes a bucket.

  Key definitions include:
    * `Resource.groupAndKind?`
    * `Resource.isOf`
    * `Store.Bucket.takes`
    * `Store.Operation`
    * `Store.after`
    * `Store.Partitions`

  The main results are:
    * `Store.toOption_bucketOf`
    * `Store.add_cut`
    * `Store.contents_apply`
    * `Store.contents_after`
    * `Store.partitions_after`
-/

------------------------------------------------------------
-- Groups and Kinds of Resources
------------------------------------------------------------

namespace EventTopology

namespace Key

/-
  The group that an untyped version has.  Arrays and objects
  pass as versions without a group, unless a slash is found
  among their elements or names.
-/
def groupOfAny? : Json → Option String
| .str version => some (resourceGroupOf version)
| .arr es => if es.any (·.isText "/") then none else some ""
| .obj ms => if Table.has "/" ms then none else some ""
| _ => none

theorem groupOfAny?_eq (v : Json) :
    groupOfAny? v = (resourceGroupOfValue v).toOption := by
  cases v with
  | str version =>
      rw [resourceGroupOfValue_of_text]
      rfl
  | arr es =>
      simp only [groupOfAny?, resourceGroupOfValue,
        Json.contains]
      cases es.any (·.isText "/") <;> rfl
  | obj ms =>
      simp only [groupOfAny?, resourceGroupOfValue,
        Json.contains]
      cases Table.has "/" ms <;> rfl
  | _ => rfl

end Key

namespace Resource

/- The group and the kind by which a resource is sorted. -/
def groupAndKind? : Json → Option (String × Json)
| .obj ms =>
    (Key.groupOfAny?
      ((Table.lookup "apiVersion" ms).getD (.str ""))).map
      fun group => (group, Json.find "kind" ms)
| _ => none

/- Can a resource be sorted? -/
def isSortable (raw : Json) : Bool :=
  (groupAndKind? raw).isSome

/- Are this the group and the kind that are asked for? -/
def agrees
    (asked : String × String)
    (own : String × Json) : Bool :=
  own.1 = asked.1 && own.2.isText asked.2

/- Is a resource of a group and kind? -/
def isOf (asked : String × String) (raw : Json) : Bool :=
  (groupAndKind? raw).any (agrees asked)

theorem agrees_iff
    {asked : String × String}
    {own : String × Json} :
    agrees asked own = true ↔
      own = (asked.1, .str asked.2) := by
  rcases own with ⟨group, kind⟩
  unfold agrees
  rw [Bool.and_eq_true, decide_eq_true_eq, Prod.mk.injEq]
  apply and_congr_right
  intro _
  constructor
  · exact Json.eq_of_isText
  · intro hKind
    rw [hKind]
    exact decide_eq_true rfl

end Resource

------------------------------------------------------------
-- Classes of Resources
------------------------------------------------------------

namespace Store

open Resource

/- The group and kind that a bucket is for, if just one. -/
def Bucket.listed? : Bucket → Option (String × String)
| .brokers => some ("eventing.knative.dev", "Broker")
| .eventTypes => some ("eventing.knative.dev", "EventType")
| .triggers => some ("eventing.knative.dev", "Trigger")
| .subscriptions =>
    some ("messaging.knative.dev", "Subscription")
| .definitions =>
    some ("apiextensions.k8s.io", "CustomResourceDefinition")
| .objects => none

theorem Bucket.filterMap_listed? :
    Bucket.all.filterMap Bucket.listed? = listedKinds := rfl

/-
  Does a bucket take a resource?  It must be of the bucket's
  group and kind.  What is of no such group and kind goes to
  the instances.
-/
def Bucket.takes (b : Bucket) (raw : Json) : Bool :=
  match b.listed? with
  | some listed => isOf listed raw
  | none =>
      isSortable raw && listedKinds.all (!isOf · raw)

/- The group and the kind are what is read of a resource. -/
theorem groupAndKind?_eq (raw : Json) :
    groupAndKind? raw =
      (do return (← groupOf raw, ← raw.get "kind") :
        Except Json.ShapeFault (String × Json)).toOption := by
  cases raw with
  | obj ms =>
      have hGroup : groupOf (.obj ms) =
          Key.resourceGroupOfValue
            ((Table.lookup "apiVersion" ms).getD
              (.str "")) := rfl
      simp only [groupAndKind?, Key.groupOfAny?_eq, hGroup]
      cases Key.resourceGroupOfValue
        ((Table.lookup "apiVersion" ms).getD (.str ""))
        <;> rfl
  | _ => rfl

theorem groupAndKind?_eq_some_iff
    {raw : Json}
    {own : String × Json} :
    groupAndKind? raw = some own ↔
      groupOf raw = .ok own.1 ∧
        raw.get "kind" = .ok own.2 := by
  rcases own with ⟨group, kind⟩
  rw [groupAndKind?_eq]
  cases groupOf raw with
  | error e =>
      simp [bind, Except.bind, Except.toOption]
  | ok own =>
      cases raw.get "kind" <;>
        simp [bind, Except.bind, pure, Except.pure,
          Except.toOption]

/- A resource is sorted by its group and its kind. -/
theorem toOption_bucketOf (raw : Json) :
    (bucketOf raw).toOption =
      (groupAndKind? raw).map fun own =>
        bucketFor own.1 own.2 := by
  rw [groupAndKind?_eq]
  unfold bucketOf
  cases groupOf raw with
  | error e => rfl
  | ok group => cases raw.get "kind" <;> rfl

theorem isSorted_eq : isSorted = isSortable := by
  funext raw
  have hOption := congrArg Option.isSome
    (toOption_bucketOf raw)
  rw [Option.isSome_map] at hOption
  unfold isSortable
  rw [← hOption, isSorted]
  cases bucketOf raw <;> rfl

/- A bucket with a group and kind is for nothing else. -/
theorem bucketFor_eq_iff
    {b : Bucket}
    {listed : String × String}
    (hListed : b.listed? = some listed)
    (own : String × Json) :
    bucketFor own.1 own.2 = b ↔
      agrees listed own = true := by
  constructor
  · intro hBucket
    unfold bucketFor at hBucket
    split_ifs at hBucket <;> subst hBucket <;>
      cases hListed <;> simp [agrees, *]
  · intro hAgrees
    rw [agrees_iff.mp hAgrees]
    cases b <;> cases hListed <;> rfl

theorem mem_listedKinds_iff {listed : String × String} :
    listed ∈ listedKinds ↔
      ∃ b : Bucket, b.listed? = some listed := by
  rw [← Bucket.filterMap_listed?, List.mem_filterMap]
  constructor
  · intro hMem
    rcases hMem with ⟨b, -, hListed⟩
    exact ⟨b, hListed⟩
  · intro hListed
    rcases hListed with ⟨b, hListed⟩
    exact ⟨b, by cases b <;> decide, hListed⟩

/- The instances are all that has no bucket of its own. -/
theorem bucketFor_eq_rest_iff (own : String × Json) :
    bucketFor own.1 own.2 = .objects ↔
      listedKinds.all (!agrees · own) = true := by
  simp only [List.all_eq_true, Bool.not_eq_true']
  constructor
  · intro hRest listed hMem
    rcases mem_listedKinds_iff.mp hMem with ⟨b, hListed⟩
    apply eq_false_of_ne_true
    intro hAgrees
    have hBucket := (bucketFor_eq_iff hListed own).mpr hAgrees
    rw [hRest] at hBucket
    subst hBucket
    cases hListed
  · intro hNone
    cases hListed : (bucketFor own.1 own.2).listed? with
    | none =>
        cases hBucket : bucketFor own.1 own.2 with
        | objects => rfl
        | _ =>
            rw [hBucket] at hListed
            cases hListed
    | some listed =>
        have hAgrees := (bucketFor_eq_iff hListed own).mp rfl
        have hMem := mem_listedKinds_iff.mpr ⟨_, hListed⟩
        rw [hNone listed hMem] at hAgrees
        cases hAgrees

/- What belongs to a bucket is what the bucket takes. -/
theorem belongsTo_eq (b : Bucket) :
    belongsTo b = b.takes := by
  funext raw
  unfold belongsTo Bucket.takes isSortable isOf
  rw [toOption_bucketOf]
  cases groupAndKind? raw with
  | none => cases b <;> rfl
  | some own =>
      rw [Option.map_some, Bool.eq_iff_iff,
        decide_eq_true_eq, Option.some_inj]
      cases hListed : b.listed? with
      | some listed => exact bucketFor_eq_iff hListed own
      | none =>
          cases b with
          | objects => exact bucketFor_eq_rest_iff own
          | _ => cases hListed

/- What can be sorted is sorted into some bucket. -/
theorem exists_bucketOf
    {raw : Json}
    (hSortable : isSortable raw = true) :
    ∃ b, bucketOf raw = .ok b := by
  rw [← isSorted_eq, isSorted] at hSortable
  cases hBucket : bucketOf raw with
  | error e =>
      rw [hBucket] at hSortable
      cases hSortable
  | ok b => exact ⟨b, rfl⟩

/- What can be sorted is taken by just one bucket. -/
theorem existsUnique_takes
    {raw : Json}
    (hSortable : isSortable raw = true) :
    ∃! b : Bucket, b.takes raw = true := by
  rcases exists_bucketOf hSortable with ⟨b, hBucket⟩
  have hTakes (b' : Bucket) :
      b'.takes raw = true ↔ b = b' := by
    rw [← belongsTo_eq, belongsTo, hBucket,
      decide_eq_true_eq]
    exact Option.some_inj
  refine ⟨b, (hTakes b).mpr rfl, ?_⟩
  intro b' hOther
  exact ((hTakes b').mp hOther).symm

/- The test for a kind is passed by what is of the kind. -/
theorem isOfKind_of_sortable
    {raw : Json}
    (hSortable : isSortable raw = true)
    (group kind : String) :
    isOfKind group kind raw =
      .ok (isOf (group, kind) raw) := by
  rcases Option.isSome_iff_exists.mp hSortable with
    ⟨own, hOwn⟩
  rcases groupAndKind?_eq_some_iff.mp hOwn with
    ⟨hGroup, hKind⟩
  unfold isOfKind isOf
  rw [hOwn, hGroup, hKind]
  rfl

/- The buckets share resources out that can be sorted. -/
theorem perm_flatMap_filter_takes
    {raws : List Json}
    (hSortable : ∀ raw ∈ raws, isSortable raw = true) :
    (Bucket.all.flatMap fun b =>
      raws.filter b.takes).Perm raws := by
  induction raws with
  | nil => exact List.Perm.refl []
  | cons raw raws ih =>
      rw [List.forall_mem_cons] at hSortable
      rcases exists_bucketOf hSortable.1 with ⟨b, hBucket⟩
      have hTakes (b' : Bucket) :
          (raw :: raws).filter b'.takes =
            (if b = b' then [raw] else []) ++
              raws.filter b'.takes := by
        have hOnly : b'.takes raw = decide (b = b') := by
          rw [← belongsTo_eq, belongsTo, hBucket]
          exact decide_eq_decide.mpr Option.some_inj
        rw [List.filter_cons, hOnly]
        by_cases hSame : b = b' <;> simp [hSame]
      have hOne :
          (Bucket.all.flatMap fun b' =>
            if b = b' then [raw] else []) = [raw] := by
        cases b <;> rfl
      simp only [hTakes]
      refine (List.flatMap_append_perm _ _ _).symm.trans ?_
      rw [hOne]
      exact (ih hSortable.2).cons raw

end Store

------------------------------------------------------------
-- Additions
------------------------------------------------------------

namespace Store

open Resource

variable (s : Store)

/- An addition succeeds if all resources can be sorted. -/
theorem add_eq_ok_iff {raws : List Json} :
    (s.add raws).2 = .ok () ↔
      ∀ raw ∈ raws, isSortable raw = true := by
  rw [← isSorted_eq]
  induction raws generalizing s with
  | nil => simp [add]
  | cons raw raws ih =>
      unfold add
      rw [List.forall_mem_cons, isSorted]
      cases bucketOf raw with
      | error e => simp [Except.isOk, Except.toBool]
      | ok b =>
          rw [ih (s.put b raw)]
          simp [Except.isOk, Except.toBool]

/- What can be sorted may as well be added on its own. -/
theorem add_append
    {before : List Json}
    (hBefore : ∀ raw ∈ before, isSortable raw = true)
    (after : List Json) :
    s.add (before ++ after) = (s.add before).1.add after := by
  induction before generalizing s with
  | nil => rfl
  | cons raw before ih =>
      rw [List.forall_mem_cons] at hBefore
      rcases exists_bucketOf hBefore.1 with ⟨b, hBucket⟩
      have hAdd (raws : List Json) :
          s.add (raw :: raws) = (s.put b raw).add raws := by
        rw [add, hBucket]
      rw [List.cons_append, hAdd, hAdd]
      exact ih (s.put b raw) hBefore.2

/-
  An addition is cut at the first resource that cannot be
  sorted, and ends with the error of that.
-/
theorem add_cut
    {before : List Json}
    {raw : Json}
    {e : Json.ShapeFault}
    (hBefore : ∀ raw ∈ before, isSortable raw = true)
    (hRaw : bucketOf raw = .error e)
    (after : List Json) :
    s.add (before ++ raw :: after) =
      ((s.add before).1, .error e) := by
  rw [add_append s hBefore]
  generalize (s.add before).1 = s'
  rw [add, hRaw]

end Store

------------------------------------------------------------
-- Histories
------------------------------------------------------------

namespace Store

open Resource

/- What is done with a store, one thing at a time. -/
inductive Operation where
| add (raws : List Json)
/- A listing, with or without a selector, or a lookup. -/
| ask (r : Request)
| build (p : Plan)
| probe
| failListing (name : String) (e : ClusterError)
| failLookup (ref : ObjectReference) (e : ClusterError)
| close

/- A store after something was done with it. -/
def apply (s : Store) : Operation → Store
| .add raws => (s.add raws).1
| .ask r => (cluster.answer r s).state
| .build p => (p.run cluster s).2.state
| .probe => (cluster.health s).state
| .failListing name e => s.failListing name e
| .failLookup ref e => s.failLookup ref e
| .close => (cluster.close s).2

/- A store after its history. -/
def after (s : Store) (ops : List Operation) : Store :=
  ops.foldl apply s

/- Is something added? -/
def Operation.adds : Operation → Bool
| .add _ => true
| _ => false

/-
  The resources that are processed: what is added before the
  first one that cannot be sorted.
-/
def Operation.processed : Operation → List Json
| .add raws => raws.takeWhile isSortable
| _ => []

/- All resources that were processed in a history. -/
def processed (ops : List Operation) : List Json :=
  ops.flatMap Operation.processed

theorem isSortable_of_mem_processed
    {ops : List Operation}
    {raw : Json}
    (hMem : raw ∈ processed ops) :
    isSortable raw = true := by
  rcases List.mem_flatMap.mp hMem with ⟨op, -, hOp⟩
  cases op with
  | add raws => exact List.mem_takeWhile_imp hOp
  | _ => cases hOp

/- A build leaves a store as it is. -/
theorem state_run (p : Plan) (s : Store) :
    (p.run cluster s).2.state = s := by
  have hKeeps := p.keeps_run cluster s
  exact hKeeps.trans (after_cluster s _)

/- Nothing but additions changes a bucket. -/
theorem contents_apply_of_still
    {op : Operation}
    (hStill : op.adds = false)
    (s : Store)
    (b : Bucket) :
    (s.apply op).contents b = s.contents b := by
  cases op with
  | add raws => cases hStill
  | build p => exact congrArg (contents · b) (state_run p s)
  | failListing name e => cases b <;> rfl
  | failLookup ref e => cases b <;> rfl
  | _ => rfl

/-
  Whatever is done, each bucket is extended by what it takes
  of the resources that are processed.
-/
theorem contents_apply
    (s : Store)
    (op : Operation)
    (b : Bucket) :
    (s.apply op).contents b =
      s.contents b ++ op.processed.filter b.takes := by
  cases hAdds : op.adds with
  | true =>
      cases op with
      | add raws =>
          have hContents := s.contents_add raws b
          rw [isSorted_eq, belongsTo_eq] at hContents
          exact hContents
      | _ => cases hAdds
  | false =>
      have hNone : op.processed = [] := by
        cases op with
        | add raws => cases hAdds
        | _ => rfl
      rw [contents_apply_of_still hAdds, hNone]
      exact (List.append_nil _).symm

/- So it is with whole histories, whatever came before. -/
theorem contents_after
    (s : Store)
    (ops : List Operation)
    (b : Bucket) :
    (s.after ops).contents b =
      s.contents b ++ (processed ops).filter b.takes := by
  induction ops generalizing s with
  | nil => exact (List.append_nil _).symm
  | cons op ops ih =>
      change ((s.apply op).after ops).contents b = _
      have hProcessed : processed (op :: ops) =
          op.processed ++ processed ops := List.flatMap_cons
      rw [ih, contents_apply, hProcessed,
        List.filter_append, List.append_assoc]

/- Additions that succeed as one may be made in parts. -/
theorem after_parts
    {parts : List (List Json)}
    (hSortable : ∀ raw ∈ parts.flatten,
      isSortable raw = true)
    (s : Store) :
    s.after (parts.map .add) = (s.add parts.flatten).1 := by
  induction parts generalizing s with
  | nil => rfl
  | cons part parts ih =>
      rw [List.flatten_cons, List.forall_mem_append]
        at hSortable
      rw [List.flatten_cons, add_append s hSortable.1]
      exact ih hSortable.2 (s.add part).1

end Store

------------------------------------------------------------
-- Stores as Partitions of Their Histories
------------------------------------------------------------

namespace Store

open Resource

/- A store holds its history, sorted into its buckets. -/
structure Partitions
    (s : Store)
    (ops : List Operation) : Prop where
  /- A bucket is what it takes of what was processed. -/
  contents : ∀ b : Bucket,
    s.contents b = (processed ops).filter b.takes
  unique : ∀ raw ∈ processed ops,
    ∃! b : Bucket, b.takes raw = true
  /- Nothing is lost, and nothing is there twice. -/
  whole :
    (Bucket.all.flatMap s.contents).Perm (processed ops)
  /- What cannot be sorted ends an addition. -/
  cut : ∀ before raw after e,
    (∀ raw ∈ before, isSortable raw = true) →
    bucketOf raw = .error e →
    s.add (before ++ raw :: after) =
      ((s.add before).1, .error e)
  succeeds : ∀ raws,
    (s.add raws).2 = .ok () ↔
      ∀ raw ∈ raws, isSortable raw = true
  split : ∀ parts : List (List Json),
    (s.add parts.flatten).2 = .ok () →
    s.after (parts.map .add) = (s.add parts.flatten).1
  still : ∀ (op : Operation) (b : Bucket),
    op.adds = false →
    (s.apply op).contents b = s.contents b
  /- Instances are listed by their group and kind. -/
  instances : ∀ coords : KindCoordinates,
    s.listInstances coords =
      s.listing coords.resource
        (s.objects.filter
          (isOf (coords.group, coords.kind)))

/- Instances that can be sorted are listed by their kind. -/
theorem listInstances_of_sortable
    {s : Store}
    (hSortable : ∀ raw ∈ s.objects, isSortable raw = true)
    (coords : KindCoordinates) :
    s.listInstances coords =
      s.listing coords.resource
        (s.objects.filter
          (isOf (coords.group, coords.kind))) := by
  have hTest : ∀ raw ∈ s.objects,
      isOfKind coords.group coords.kind raw =
        .ok (isOf (coords.group, coords.kind) raw) :=
    fun raw hMem =>
      isOfKind_of_sortable (hSortable raw hMem) _ _
  unfold listInstances
  rw [Except.filterM_eq_filter hTest]
  rfl

/-
  Whatever is added and asked of a new store, it sorts its
  history into its buckets.
-/
theorem partitions_after (ops : List Operation) :
    (({} : Store).after ops).Partitions ops := by
  have hContents (b : Bucket) :
      (({} : Store).after ops).contents b =
        (processed ops).filter b.takes := by
    have hStart : ({} : Store).contents b = [] := by
      cases b <;> rfl
    rw [contents_after, hStart, List.nil_append]
  generalize ({} : Store).after ops = s at hContents ⊢
  refine {
    contents := hContents
    unique := ?_
    whole := ?_
    cut := ?_
    succeeds := fun raws => s.add_eq_ok_iff
    split := ?_
    still := fun op b hStill =>
      contents_apply_of_still hStill s b
    instances := ?_ }
  · intro raw hMem
    exact existsUnique_takes
      (isSortable_of_mem_processed hMem)
  · rw [funext hContents]
    exact perm_flatMap_filter_takes fun raw hMem =>
      isSortable_of_mem_processed hMem
  · intro before raw after e hBefore hRaw
    exact s.add_cut hBefore hRaw after
  · intro parts hAdded
    exact after_parts (s.add_eq_ok_iff.mp hAdded) s
  · apply listInstances_of_sortable
    intro raw hMem
    change raw ∈ s.contents .objects at hMem
    rw [hContents] at hMem
    exact isSortable_of_mem_processed
      (List.mem_filter.mp hMem).1

/- What follows a value without a group is not added. -/
example :
    let service := Manifest.service (.str "billing")
      (.str "shop") .null
    let s := ({} : Store).after
      [.add [service, .null, service], .probe,
        .add [service]]
    s.objects = [service, service] := rfl

end Store

end EventTopology
