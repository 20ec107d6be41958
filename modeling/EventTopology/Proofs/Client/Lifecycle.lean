import EventTopology.Proofs.Client.Sending
import Mathlib.Data.List.Infix

/-
  This file shows how a session handles its connections.  It
  has at most one at a time and knows it, and it sends
  nothing over a connection that is closed.

  Key definitions include:
    * `Client.Wire`
    * `Client.Wire.Allows`
    * `Client.Library.wire`
    * `Session.Sound`
    * `Session.Use`
    * `Session.Orderly`

  The main results are:
    * `Client.Library.Lawful.balanced`
    * `Session.leads_connect`
    * `Session.leads_prepareLookups`
    * `Session.sound_after`
    * `Session.Sound.orderly`
-/

------------------------------------------------------------
-- The Wire
------------------------------------------------------------

namespace EventTopology

namespace Client

/- What is open on the side of the library. -/
structure Wire where
  /- How many connections were opened and closed. -/
  opened : Nat := 0
  closed : Nat := 0
  /- The connections that are open. -/
  live : List Nat := []
  /- The connections that lookups were prepared over. -/
  ready : List Nat := []

namespace Wire

/- What a call changes, by whether it ends well. -/
def take (w : Wire) (x : Sent) (isOk : Bool) : Wire :=
  match x.call with
  | .connect =>
      if isOk then
        { w with
          opened := w.opened + 1
          live := w.live ++ [x.connection] }
      else w
  | .prepareLookups =>
      if isOk then
        { w with ready := w.ready ++ [x.connection] }
      else w
  | .disconnect =>
      { w with
        closed := w.closed + 1
        live := w.live.erase x.connection
        ready := w.ready.erase x.connection }
  | _ => w

/-
  Is a call in order?  A connection is opened under a new
  number, when no other is open.  All else goes over one
  that is open, and what looks a resource up over one that
  is prepared for that.
-/
def Allows (w : Wire) (x : Sent) : Prop :=
  match x.call with
  | .connect => w.live = [] ∧ x.connection = w.opened
  | .kind _ _ | .get _ _ _ _ =>
      x.connection ∈ w.live ∧ x.connection ∈ w.ready
  | _ => x.connection ∈ w.live

end Wire

/- Does a call need an open connection and no more? -/
def Call.isDirect : Call → Bool
| .prepareLookups | .list _ _ _ _ | .version => true
| _ => false

/- Does a call need a connection that is prepared? -/
def Call.isLookup : Call → Bool
| .kind _ _ | .get _ _ _ _ => true
| _ => false

namespace Wire

variable {w : Wire} {x : Sent}

theorem allows_of_isDirect
    (hDirect : x.call.isDirect = true)
    (hLive : x.connection ∈ w.live) :
    w.Allows x := by
  unfold Allows
  cases hCall : x.call <;> rw [hCall] at hDirect <;>
    first | exact hLive | cases hDirect

theorem allows_of_isLookup
    (hLookup : x.call.isLookup = true)
    (hLive : x.connection ∈ w.live)
    (hReady : x.connection ∈ w.ready) :
    w.Allows x := by
  unfold Allows
  cases hCall : x.call <;> rw [hCall] at hLookup <;>
    first | exact ⟨hLive, hReady⟩ | cases hLookup

end Wire

variable {lib : Library} {log : List Sent}

/- What is open after some calls. -/
def Library.wire (lib : Library) (log : List Sent) : Wire :=
  (log.foldl
    (fun (before, w) x =>
      (before ++ [x], Wire.take w x (lib before x).isOk))
    ([], {})).2

theorem Library.wire_concat
    (lib : Library)
    (log : List Sent)
    (x : Sent) :
    lib.wire (log ++ [x]) =
      (lib.wire log).take x (lib log x).isOk := by
  -- What was folded over is what came before.
  have hBefore (before : List Sent) (w : Wire) :
      (log.foldl
        (fun (before, w) x =>
          (before ++ [x], Wire.take w x (lib before x).isOk))
        (before, w)).1 = before ++ log := by
    induction log generalizing before w with
    | nil => exact (List.append_nil before).symm
    | cons y log ih =>
        rw [List.foldl_cons, ih, List.append_assoc]
        rfl
  unfold wire
  rw [List.foldl_append, List.foldl_cons, List.foldl_nil]
  dsimp only
  rw [hBefore [] {}]
  rfl

/- Every call was in order when it was made. -/
def Library.Lawful (lib : Library) (log : List Sent) : Prop :=
  ∀ before x, before ++ [x] <+: log →
    (lib.wire before).Allows x

theorem Library.Lawful.of_prefix
    {log' : List Sent}
    (hLawful : lib.Lawful log)
    (hPrefix : log' <+: log) :
    lib.Lawful log' :=
  fun before x hBefore =>
    hLawful before x (hBefore.trans hPrefix)

theorem Library.Lawful.concat
    {x : Sent}
    (hLawful : lib.Lawful log)
    (hAllows : (lib.wire log).Allows x) :
    lib.Lawful (log ++ [x]) := by
  intro before y hPrefix
  rcases List.prefix_concat_iff.mp hPrefix with hAll | hOld
  · rcases List.append_inj' hAll rfl with ⟨rfl, hLast⟩
    cases hLast
    exact hAllows
  · exact hLawful before y hOld

/-
  As long as all calls are in order, no more than one
  connection is open, and all others are closed again.
-/
theorem Library.Lawful.balanced
    (hLawful : lib.Lawful log) :
    (lib.wire log).live.length ≤ 1 ∧
    (lib.wire log).opened =
      (lib.wire log).closed +
        (lib.wire log).live.length := by
  induction log using List.reverseRecOn with
  | nil => exact ⟨Nat.zero_le 1, rfl⟩
  | append_singleton log x ih =>
      have hAllows := hLawful log x (List.prefix_refl _)
      rcases ih (hLawful.of_prefix (List.prefix_append _ _))
        with ⟨hOne, hBalance⟩
      rw [wire_concat]
      unfold Wire.Allows at hAllows
      unfold Wire.take
      cases hCall : x.call with
      | connect =>
          rw [hCall] at hAllows
          rcases hAllows with ⟨hNone, -⟩
          rw [hNone] at hBalance
          cases (lib log x).isOk with
          | false => exact ⟨hOne, by simpa [hNone]⟩
          | true => simpa [hNone]
      | disconnect =>
          rw [hCall] at hAllows
          have hSome := List.length_pos_of_mem hAllows
          have hErased :=
            List.length_erase_of_mem hAllows
          dsimp only
          omega
      | prepareLookups =>
          cases (lib log x).isOk <;> exact ⟨hOne, hBalance⟩
      | _ => exact ⟨hOne, hBalance⟩

end Client

------------------------------------------------------------
-- Sound Sessions
------------------------------------------------------------

namespace Session

open Client

/-
  A session knows what is open.  It has the settings of the
  one it comes from, and all that it sent was in order.
-/
structure Sound
    (lib : Library)
    (origin s : Session) : Prop where
  configuration : s.configuration = origin.configuration
  version : s.eventTypesVersion = origin.eventTypesVersion
  opened : (lib.wire s.sent).opened = s.opened
  live : (lib.wire s.sent).live = s.connection.toList
  ready : ∀ n, s.lookups = some n →
    s.connection = some n ∧ n ∈ (lib.wire s.sent).ready
  lawful : lib.Lawful s.sent

/- A session that made one more call. -/
def pushed (s : Session) (n : Nat) (call : Call) : Session :=
  { s with
    sent := s.sent ++ [⟨n, s.configuration, call⟩] }

variable {lib : Library} {origin s : Session}

/- A new session is sound. -/
theorem sound_start
    (lib : Library)
    (shared : Configuration)
    (token : Option String)
    (version : String) :
    Sound lib (start shared token version)
      (start shared token version) where
  configuration := rfl
  version := rfl
  opened := rfl
  live := rfl
  ready := by
    intro n hLookups
    cases hLookups
  lawful := by
    intro before x hPrefix
    have hNil := List.prefix_nil.mp hPrefix
    exact (List.concat_ne_nil x before hNil).elim

/- Without a connection nothing was prepared. -/
theorem Sound.lookups_eq_none
    (hSound : Sound lib origin s)
    (hNone : s.connection = none) :
    s.lookups = none := by
  cases hLookups : s.lookups with
  | none => rfl
  | some n =>
      have hSome := (hSound.ready n hLookups).1
      rw [hNone] at hSome
      cases hSome

/- Calls that leave open what is open keep it sound. -/
theorem Sound.pushed
    {n : Nat}
    {call : Call}
    (hSound : Sound lib origin s)
    (hAllows : (lib.wire s.sent).Allows
      ⟨n, s.configuration, call⟩)
    (hOpened : (lib.wire (s.pushed n call).sent).opened =
      (lib.wire s.sent).opened)
    (hLive : (lib.wire (s.pushed n call).sent).live =
      (lib.wire s.sent).live)
    (hReady : ∀ m ∈ (lib.wire s.sent).ready,
      m ∈ (lib.wire (s.pushed n call).sent).ready) :
    Sound lib origin (s.pushed n call) where
  configuration := hSound.configuration
  version := hSound.version
  opened := hOpened.trans hSound.opened
  live := hLive.trans hSound.live
  ready := fun m hLookups =>
    ⟨(hSound.ready m hLookups).1,
      hReady m (hSound.ready m hLookups).2⟩
  lawful := hSound.lawful.concat hAllows

theorem wire_pushed
    (lib : Library)
    (s : Session)
    (n : Nat)
    (call : Call) :
    lib.wire (s.pushed n call).sent =
      (lib.wire s.sent).take ⟨n, s.configuration, call⟩
        (lib s.sent ⟨n, s.configuration, call⟩).isOk :=
  lib.wire_concat s.sent _

/- What is neither opening nor closing is such a call. -/
theorem Sound.push
    {n : Nat}
    {call : Call}
    (hSound : Sound lib origin s)
    (hAllows : (lib.wire s.sent).Allows
      ⟨n, s.configuration, call⟩)
    (hCall : call.isDirect = true ∨ call.isLookup = true) :
    Sound lib origin (s.pushed n call) := by
  have hTake (isOk : Bool) :
      let w := lib.wire s.sent
      let w' := w.take ⟨n, s.configuration, call⟩ isOk
      w'.opened = w.opened ∧ w'.live = w.live ∧
        ∀ m ∈ w.ready, m ∈ w'.ready := by
    intro w w'
    cases call with
    | connect | disconnect =>
        rcases hCall with hCall | hCall <;> cases hCall
    | prepareLookups =>
        cases isOk with
        | false => exact ⟨rfl, rfl, fun _ hMem => hMem⟩
        | true =>
            exact ⟨rfl, rfl, fun _ hMem =>
              List.mem_append_left _ hMem⟩
    | _ => exact ⟨rfl, rfl, fun _ hMem => hMem⟩
  rcases hTake (lib s.sent ⟨n, s.configuration, call⟩).isOk
    with ⟨hOpened, hLive, hReady⟩
  rw [← wire_pushed] at hOpened hLive hReady
  exact hSound.pushed hAllows hOpened hLive hReady

end Session

------------------------------------------------------------
-- Steps of Sound Sessions
------------------------------------------------------------

namespace Session

open Client

/-
  A step leads from one condition to another, which may rely
  on the value; after a failure a third one holds.
-/
def Leads
    {α : Type}
    (t : Talk α)
    (P : Session → Prop)
    (Q : α → Session → Prop)
    (E : Session → Prop) : Prop :=
  ∀ s, P s →
    match t s with
    | (.ok a, s') => Q a s'
    | (.error _, s') => E s'

variable {α β : Type}
variable {P E : Session → Prop}

theorem Leads.bind
    {t : Talk α}
    {f : α → Talk β}
    {Q : α → Session → Prop}
    {R : β → Session → Prop}
    (hFirst : Leads t P Q E)
    (hRest : ∀ a, Leads (f a) (Q a) R E) :
    Leads (t >>= f) P R E := by
  intro s hHolds
  have hNext := hFirst s hHolds
  rw [run_bind]
  rcases hTalk : t s with ⟨e | a, s'⟩ <;> rw [hTalk] at hNext
  · exact hNext
  · exact hRest a s' hNext

/- Where failure makes no difference, a condition is kept. -/
theorem Leads.keeps
    {t : Talk α}
    (hLeads : Leads t P (fun _ => P) P) :
    Keeps t P := by
  intro s hHolds
  have hNext := hLeads s hHolds
  rcases hTalk : t s with ⟨e | a, s'⟩ <;>
    rw [hTalk] at hNext <;> exact hNext

variable {lib : Library} {origin s : Session} {n : Nat}

/- A sound session with an open connection. -/
structure Connected
    (lib : Library)
    (origin : Session)
    (n : Nat)
    (s : Session) : Prop where
  sound : Sound lib origin s
  connection : s.connection = some n

/- A sound session with a connection for lookups. -/
structure Prepared
    (lib : Library)
    (origin : Session)
    (n : Nat)
    (s : Session) : Prop where
  sound : Sound lib origin s
  lookups : s.lookups = some n

theorem Connected.live
    (hConnected : Connected lib origin n s) :
    n ∈ (lib.wire s.sent).live := by
  rw [hConnected.sound.live, hConnected.connection]
  exact List.mem_singleton_self n

theorem Prepared.connected
    (hPrepared : Prepared lib origin n s) :
    Connected lib origin n s :=
  ⟨hPrepared.sound,
    (hPrepared.sound.ready n hPrepared.lookups).1⟩

theorem connect_of_some
    (hOpen : s.connection = some n) :
    connect lib s = (.ok n, s) := by
  cases s
  cases hOpen
  rfl

theorem run_sendOver
    (n : Nat)
    (call : Call) :
    sendOver lib n call s =
      (lib s.sent ⟨n, s.configuration, call⟩,
        s.pushed n call) :=
  rfl

theorem run_discard_sendOver
    (n : Nat)
    (call : Call) :
    (discard (sendOver lib n call)) s =
      match lib s.sent ⟨n, s.configuration, call⟩ with
      | .ok _ => (.ok (), s.pushed n call)
      | .error e => (.error e, s.pushed n call) := by
  refine (run_bind (sendOver lib n call)
    (fun _ => pure ()) s).trans ?_
  rw [run_sendOver]
  cases lib s.sent ⟨n, s.configuration, call⟩ <;> rfl

/- A connection is kept only if it could be opened. -/
theorem connect_of_none
    (hNone : s.connection = none) :
    connect lib s =
      let s' := s.pushed s.opened .connect
      match lib s.sent
        ⟨s.opened, s.configuration, .connect⟩ with
      | .ok _ =>
          (.ok s.opened,
            { s' with
              connection := some s.opened
              opened := s.opened + 1 })
      | .error e => (.error e, s') := by
  have hRun : connect lib s =
      (do
        discard (sendOver lib s.opened .connect)
        modify fun t =>
          { t with
            connection := some s.opened
            opened := s.opened + 1 }
        return s.opened : Talk Nat) s := by
    cases s
    cases hNone
    rfl
  rw [hRun, run_bind, run_discard_sendOver]
  cases lib s.sent ⟨s.opened, s.configuration, .connect⟩ <;>
    rfl

/- Connecting leads to an open connection, or nowhere. -/
theorem leads_connect :
    Leads (connect lib) (Sound lib origin)
      (Connected lib origin) (Sound lib origin) := by
  intro s hSound
  cases hOpen : s.connection with
  | some n =>
      rw [connect_of_some hOpen]
      exact ⟨hSound, hOpen⟩
  | none =>
      have hLive : (lib.wire s.sent).live = [] := by
        rw [hSound.live, hOpen]
        rfl
      have hAllows : (lib.wire s.sent).Allows
          ⟨s.opened, s.configuration, .connect⟩ :=
        ⟨hLive, hSound.opened.symm⟩
      have hWire := wire_pushed lib s s.opened .connect
      rw [connect_of_none hOpen]
      cases hReply : lib s.sent
        ⟨s.opened, s.configuration, .connect⟩ with
      | error e =>
          rw [hReply] at hWire
          refine hSound.pushed hAllows ?_ ?_ ?_ <;> rw [hWire]
          · rfl
          · rfl
          · exact fun _ hMem => hMem
      | ok v =>
          rw [hReply] at hWire
          refine ⟨?_, rfl⟩
          exact
            { configuration := hSound.configuration
              version := hSound.version
              opened := by
                rw [hWire, ← hSound.opened]
                rfl
              live := by
                rw [hWire]
                change _ ++ [s.opened] = [s.opened]
                rw [hLive]
                rfl
              ready := fun n hLookups => by
                change s.lookups = some n at hLookups
                rw [hSound.lookups_eq_none hOpen] at hLookups
                cases hLookups
              lawful := hSound.lawful.concat hAllows }

theorem prepareLookups_of_some
    (hReady : s.lookups = some n) :
    prepareLookups lib s = (.ok n, s) := by
  cases s
  cases hReady
  rfl

/- Lookups are prepared over the connection, once. -/
theorem prepareLookups_of_none
    (hNone : s.lookups = none) :
    prepareLookups lib s =
      (do
        let n ← connect lib
        discard (sendOver lib n .prepareLookups)
        modify fun t => { t with lookups := some n }
        return n : Talk Nat) s := by
  cases s
  cases hNone
  rfl

/- Preparing leads to a prepared connection, or nowhere. -/
theorem leads_prepareLookups :
    Leads (prepareLookups lib) (Sound lib origin)
      (Prepared lib origin) (Sound lib origin) := by
  intro s hSound
  cases hLookups : s.lookups with
  | some n =>
      rw [prepareLookups_of_some hLookups]
      exact ⟨hSound, hLookups⟩
  | none =>
      rw [prepareLookups_of_none hLookups]
      refine leads_connect.bind (fun n s hConnected => ?_)
        s hSound
      have hPushed : Sound lib origin
          (s.pushed n .prepareLookups) :=
        hConnected.sound.push
          (Wire.allows_of_isDirect rfl hConnected.live)
          (Or.inl rfl)
      have hWire := wire_pushed lib s n .prepareLookups
      rw [run_bind, run_discard_sendOver]
      cases hReply : lib s.sent
        ⟨n, s.configuration, .prepareLookups⟩ with
      | error e => exact hPushed
      | ok v =>
          rw [hReply] at hWire
          refine ⟨?_, rfl⟩
          exact
            { hPushed with
              ready := by
                intro m hSame
                cases hSame
                refine ⟨hConnected.connection, ?_⟩
                rw [hWire]
                exact List.mem_append_right _
                  (List.mem_singleton_self n) }

/- After a call the session has made one more. -/
theorem leads_sendOver
    {Q : Session → Prop}
    {call : Call}
    (hPush : ∀ s, P s → Q (s.pushed n call)) :
    Leads (sendOver lib n call) P (fun _ => Q) Q := by
  intro s hHolds
  rw [run_sendOver]
  cases lib s.sent ⟨n, s.configuration, call⟩ <;>
    exact hPush s hHolds

theorem sound_send
    {call : Call}
    (hDirect : call.isDirect = true) :
    Keeps (send lib call) (Sound lib origin) := by
  refine Leads.keeps (leads_connect.bind fun n =>
    leads_sendOver fun s hConnected => ?_)
  exact hConnected.sound.push
    (Wire.allows_of_isDirect hDirect hConnected.live)
    (Or.inl hDirect)

/- A call to look something up leaves lookups prepared. -/
theorem Prepared.push
    {call : Call}
    (hPrepared : Prepared lib origin n s)
    (hLookup : call.isLookup = true) :
    Prepared lib origin n (s.pushed n call) where
  sound := hPrepared.sound.push
    (Wire.allows_of_isLookup hLookup
      hPrepared.connected.live
      (hPrepared.sound.ready n hPrepared.lookups).2)
    (Or.inr hLookup)
  lookups := hPrepared.lookups

theorem sound_find (ref : ObjectReference) :
    Keeps (find lib ref) (Sound lib origin) := by
  refine Leads.keeps (leads_prepareLookups.bind fun n => ?_)
  refine Leads.bind (Q := fun _ => Prepared lib origin n)
    ?_ fun _ => leads_sendOver fun s hPrepared =>
      (hPrepared.push rfl).sound
  intro s hPrepared
  have hPushed : Prepared lib origin n
      (s.pushed n (.kind ref.apiVersion ref.kind)) :=
    hPrepared.push rfl
  rw [run_discard_sendOver]
  cases lib s.sent ⟨n, s.configuration, _⟩ with
  | ok v => exact hPushed
  | error e => exact hPushed.sound

end Session

------------------------------------------------------------
-- Sessions in Use
------------------------------------------------------------

namespace Session

open Client

variable {lib : Library} {origin s : Session}

theorem sound_list
    {group version plural tag : String}
    (hSound : Sound lib origin s) :
    Sound lib origin
      (list lib group version plural tag s).state := by
  rw [state_list]
  exact sound_send rfl s hSound

theorem sound_answer
    (r : Request)
    (hSound : Sound lib origin s) :
    Sound lib origin (answer lib r s).state := by
  cases r with
  | identity ref label =>
      change Sound lib origin
        (resolveIdentity lib ref label s).state
      rw [state_resolveIdentity]
      exact sound_find ref s hSound
  | _ => exact sound_list hSound

theorem sound_health
    (hSound : Sound lib origin s) :
    Sound lib origin (health lib s).state := by
  rw [state_health]
  exact sound_send rfl s hSound

/- A closed session has no connection of any sort. -/
structure IsClosed (s : Session) : Prop where
  connection : s.connection = none
  lookups : s.lookups = none

/- What is closed is not closed again. -/
theorem IsClosed.close_eq (hClosed : s.IsClosed) :
    s.close = s := by
  unfold close
  rw [hClosed.connection]

theorem Sound.isClosed_close
    (hSound : Sound lib origin s) :
    s.close.IsClosed := by
  unfold close
  split
  · rename_i hNone
    exact ⟨hNone, hSound.lookups_eq_none hNone⟩
  · exact ⟨rfl, rfl⟩

theorem sound_close
    (hSound : Sound lib origin s) :
    Sound lib origin s.close := by
  unfold close
  split
  · exact hSound
  · rename_i n hOpen
    have hConnected : Connected lib origin n s :=
      ⟨hSound, hOpen⟩
    have hWire := lib.wire_concat s.sent
      ⟨n, s.configuration, .disconnect⟩
    exact
      { configuration := hSound.configuration
        version := hSound.version
        opened := by
          rw [hWire]
          exact hSound.opened
        live := by
          rw [hWire]
          change (lib.wire s.sent).live.erase n = []
          rw [hSound.live, hOpen]
          exact List.erase_cons_head n []
        ready := fun m hLookups => by cases hLookups
        lawful := hSound.lawful.concat hConnected.live }

/- What can be done with a session. -/
inductive Use where
| ask (r : Request)
| probe
| close

/- What is done, and what comes of it. -/
def use (lib : Library) : Use → Session → Answer Session Json
| .ask r, s => answer lib r s
| .probe, s => health lib s
| .close, s => .still s.close (.ok .null)

/- A session after some uses. -/
def after
    (lib : Library)
    (uses : List Use)
    (s : Session) : Session :=
  uses.foldl (fun s u => (use lib u s).state) s

theorem sound_use
    (u : Use)
    (hSound : Sound lib origin s) :
    Sound lib origin (use lib u s).state := by
  cases u with
  | ask r => exact sound_answer r hSound
  | probe => exact sound_health hSound
  | close => exact sound_close hSound

/- A session stays sound, whatever the library answers. -/
theorem sound_after
    (uses : List Use)
    (hSound : Sound lib origin s) :
    Sound lib origin (s.after lib uses) := by
  induction uses generalizing s with
  | nil => exact hSound
  | cons u uses ih => exact ih (sound_use u hSound)

end Session

------------------------------------------------------------
-- Orderly Sessions
------------------------------------------------------------

namespace Session

open Client

/-
  A session and the library agree on what is open.  No more
  than one connection is, as many were closed as there are
  others, and lookups were prepared over the open one.
-/
structure Orderly (lib : Library) (s : Session) : Prop where
  live : (lib.wire s.sent).live = s.connection.toList
  atMostOne : (lib.wire s.sent).live.length ≤ 1
  balance : (lib.wire s.sent).opened =
    (lib.wire s.sent).closed +
      if s.connection.isSome then 1 else 0
  ready : ∀ n, s.lookups = some n →
    s.connection = some n ∧ n ∈ (lib.wire s.sent).ready

theorem Sound.orderly
    {lib : Library}
    {origin s : Session}
    (hSound : Sound lib origin s) :
    Orderly lib s := by
  have hBalanced := hSound.lawful.balanced
  refine ⟨hSound.live, hBalanced.1, ?_, hSound.ready⟩
  rw [hBalanced.2, hSound.live]
  cases s.connection <;> rfl

end Session

end EventTopology
