import EventTopology.Proofs.Build.Listening
import EventTopology.Proofs.Build.Steady

/-
  This file shows that providers are unique and keep the
  order in which they are discovered: of several records
  with one key a mesh has the first, where brokers come
  before subscribables and kinds come one after the other.

  Key definitions include:
    * `Mesh.KeepsFirst`
    * `Shop.crowded`

  The main results are:
    * `Index.unclaimed_eq_eraseDupsBy`
    * `Plan.providers_of_run`
-/

------------------------------------------------------------
-- First Records of Keys
------------------------------------------------------------

namespace EventTopology

/-
  Unclaimed are the first occurrences of keys among the
  records whose keys are not taken.
-/
theorem Index.unclaimed_eq_eraseDupsBy
    {α : Type}
    (key : α → String)
    (taken : List String)
    (as : List α) :
    unclaimed key taken as =
      (as.filter (key · ∉ taken)).eraseDupsBy
        (key · = key ·) := by
  induction as generalizing taken with
  | nil => rfl
  | cons a as ih =>
      by_cases hTaken : key a ∈ taken
      · rw [unclaimed, if_pos hTaken,
          List.filter_cons_of_neg (by simpa using hTaken)]
        exact ih taken
      · rw [unclaimed, if_neg hTaken,
          List.filter_cons_of_pos (by simpa using hTaken),
          List.eraseDupsBy_cons, List.filter_filter, ih]
        simp [not_or]

/- A broker, whatever it provides. -/
def Broker.bare (b : Broker) : Broker :=
  { b with providedEventTypes := [] }

/- A subscribable, whatever it provides. -/
def Subscribable.bare (s : Subscribable) : Subscribable :=
  { s with providedEventTypes := [] }

/-
  Of listed brokers, and then of listed subscribables, a mesh
  keeps the first of each key in listing order.
-/
structure Mesh.KeepsFirst
    (bs : List Broker)
    (ss : List Subscribable)
    (m : Mesh) : Prop where
  distinct :
    (m.brokers.map (·.key) ++
      m.subscribables.map (·.key)).Nodup
  brokers :
    m.brokers.map (·.bare) =
      (bs.eraseDupsBy (·.key = ·.key)).map (·.bare)
  /- A key that a broker has is taken. -/
  subscribables :
    m.subscribables.map (·.bare) =
      ((ss.filter fun s =>
          s.key ∉ m.brokers.map (·.key)).eraseDupsBy
        (·.key = ·.key)).map (·.bare)

------------------------------------------------------------
-- Providers of Findings
------------------------------------------------------------

namespace Findings

variable (f : Findings)

/- A mesh shows the brokers of its index. -/
theorem mesh_brokers_map
    {β : Type}
    {g : Broker → β}
    (hBare : ∀ b, g b.bare = g b) :
    f.mesh.brokers.map g = f.index.brokers.map g := by
  simp only [mesh, Mesh.ofIndex, List.map_map]
  refine List.map_congr_left fun b _ => ?_
  rw [Function.comp_apply, ← hBare b, ← hBare]
  rfl

theorem mesh_subscribables_map
    {β : Type}
    {g : Subscribable → β}
    (hBare : ∀ s, g s.bare = g s) :
    f.mesh.subscribables.map g =
      f.index.subscribables.map g := by
  simp only [mesh, Mesh.ofIndex, List.map_map]
  refine List.map_congr_left fun s _ => ?_
  rw [Function.comp_apply, ← hBare s, ← hBare]
  rfl

/- A mesh of findings keeps the first of each key. -/
theorem keepsFirst :
    f.mesh.KeepsFirst f.brokers f.subscribables where
  distinct := by
    have hKeys := f.nodup_providerKeys
    rw [← f.mesh_providerKeys] at hKeys
    exact hKeys
  brokers := by
    rw [f.mesh_brokers_map fun _ => rfl, f.index_brokers,
      Index.unclaimed_eq_eraseDupsBy]
    simp
  subscribables := by
    rw [f.mesh_subscribables_map fun _ => rfl,
      f.mesh_brokers_map fun _ => rfl,
      f.index_subscribables,
      Index.unclaimed_eq_eraseDupsBy]

end Findings

------------------------------------------------------------
-- A Crowded Shop
------------------------------------------------------------

namespace Shop

/- A resource of a kind that is told by its uid. -/
def marked (kind ns name uid : String) : Json :=
  .obj
    [("kind", .str kind),
     ("metadata",
       .obj
         [("name", .str name), ("namespace", .str ns),
          ("uid", .str uid)])]

/- The definition of a kind with one version. -/
def definition (group plural kind : String) : Json :=
  .obj
    [("metadata",
       .obj [("name", .str (plural ++ "." ++ group))]),
     ("spec",
       .obj
         [("group", .str group), ("version", .str "v1"),
          ("names",
            .obj
              [("plural", .str plural),
               ("kind", .str kind)])])]

/-
  Replies with two brokers of one key, and with two kinds
  whose instances take the keys of a broker and of each
  other.
-/
def crowded : Replies
| .brokers =>
    .ok (.arr
      [marked "Broker" "shop" "main" "b1",
       marked "Broker" "lab" "main" "b2",
       marked "Broker" "shop" "main" "b3"])
| .definitions tag =>
    .ok (.arr
      (if tag = ({} : Plan).subscribableTag then
        [definition "shop.dev" "channels" "Channel",
         definition "shop.dev" "queues" "Queue",
         definition Broker.apiGroup "hubs" "Hub"]
       else []))
| .instances coords =>
    .ok (.arr
      (if coords.resource = "channels" then
        [marked "Channel" "shop" "returns" "s1",
         marked "Queue" "shop" "returns" "s2"]
       else if coords.resource = "queues" then
        [marked "Queue" "shop" "returns" "s3"]
       else
        [marked Broker.apiKind "lab" "main" "s4",
         marked "Hub" "lab" "main" "s5"]))
| _ => .ok (.arr [])

/- The providers of a mesh, by their uids. -/
def uids (m : Mesh) : List String :=
  m.brokers.map (·.uid) ++ m.subscribables.map (·.uid)

end Shop

------------------------------------------------------------
-- Built Meshes
------------------------------------------------------------

namespace Plan

variable {σ : Type}

/-
  Whatever a cluster answers, the mesh that a build gives
  keeps the first of each key, of the brokers as listed and
  of the instances of the discovered kinds, kind by kind.
  Each of these is converted from the reply to its own turn
  among the requests.
-/
theorem providers_of_run
    {p : Plan}
    {c : Cluster σ}
    {s : σ}
    {m : Mesh}
    {run : Run σ}
    (hRun : p.run c s = (.ok m, run)) :
    let heard := c.Heard s run.requests
    let bs := p.heardBrokers c s
    let kinds := p.subscribableKinds c s
    let parts := p.heardSubscribables c s
    heard.Yields .brokers p.conversion.broker bs ∧
    heard.Kinds p.subscribableTag kinds ∧
    List.Forall₂ (fun coords part =>
      heard.Yields (.instances coords)
        (p.conversion.subscribable coords) part)
      kinds parts ∧
    m.KeepsFirst bs parts.flatten := by
  intro heard bs kinds parts
  rcases heard_of_run hRun with ⟨turns, rfl, _⟩
  exact ⟨yields_heardBrokers hRun,
    kinds_subscribableKinds hRun,
    yields_heardSubscribables hRun,
    (p.heardFindings c s turns).keepsFirst⟩

/- The crowded shop has one provider for each key. -/
theorem crowded_providers :
    let c := Cluster.ofTable Shop.crowded
    let bs := Plan.heardBrokers {} c ()
    let kinds := Plan.subscribableKinds {} c ()
    let parts := Plan.heardSubscribables {} c ()
    ∃ m run,
      Plan.run {} c () = (.ok m, run) ∧
      Shop.uids m = ["b1", "b2", "s1", "s2", "s5"] ∧
      bs.map (·.uid) = ["b1", "b2", "b3"] ∧
      parts.map (·.map (·.uid)) =
        [["s1", "s2"], ["s3"], ["s4", "s5"]] ∧
      (c.Heard () run.requests).Yields .brokers
        ({} : Plan).conversion.broker bs ∧
      (c.Heard () run.requests).Kinds
        ({} : Plan).subscribableTag kinds ∧
      List.Forall₂ (fun coords part =>
        (c.Heard () run.requests).Yields (.instances coords)
          (({} : Plan).conversion.subscribable coords) part)
        kinds parts ∧
      m.KeepsFirst bs parts.flatten := by
  have hView :
      (Plan.run {} (Cluster.ofTable Shop.crowded)
          ()).1.toOption.map Shop.uids =
        some ["b1", "b2", "s1", "s2", "s5"] := by
    decide +kernel
  rcases exists_run_of_view hView with
    ⟨m, run, hRun, hShown⟩
  exact ⟨m, run, hRun, hShown, by decide +kernel,
    by decide +kernel, providers_of_run hRun⟩

end Plan

end EventTopology
