import EventTopology.Proofs.Client.Lifecycle

/-
  This file shows that a session that was closed can be used
  again.  What it does is what a new session does, over the
  connections that are opened from then on.

  Key definitions include:
    * `Client.Library.since`
    * `Session.onto`
    * `Session.Follows`
    * `Session.outcomes`

  The main results are:
    * `Session.use_onto`
    * `Session.outcomes_onto`
    * `Session.orderly_after`
-/

------------------------------------------------------------
-- Sessions after Earlier Uses
------------------------------------------------------------

namespace EventTopology

namespace Client

/- A call with its connection renumbered. -/
def Sent.renumbered (k : Nat) (x : Sent) : Sent :=
  { x with connection := x.connection + k }

/-
  What a library answers to one who does not know what a
  session sent before and which numbers it gave away.
-/
def Library.since (lib : Library) (base : Session) : Library :=
  fun before x =>
    lib (base.sent ++ before.map (Sent.renumbered base.opened))
      (x.renumbered base.opened)

end Client

namespace Session

open Client

/- A session that follows on another one. -/
def onto (base s : Session) : Session where
  configuration := s.configuration
  eventTypesVersion := s.eventTypesVersion
  connection := s.connection.map (· + base.opened)
  lookups := s.lookups.map (· + base.opened)
  opened := s.opened + base.opened
  closed := s.closed + base.closed
  sent := base.sent ++
    s.sent.map (Sent.renumbered base.opened)

/-
  A step of a session that follows on another one does what
  a step of the session alone does.
-/
def Follows
    {α β : Type}
    (base : Session)
    (t : Talk α)
    (t' : Talk β)
    (g : β → α) : Prop :=
  ∀ s, t (base.onto s) =
    ((t' s).1.map g, base.onto (t' s).2)

variable {α β γ δ : Type}
variable {base : Session}

theorem Follows.bind
    {t : Talk α}
    {t' : Talk β}
    {f : α → Talk γ}
    {f' : β → Talk δ}
    {g : β → α}
    {h : δ → γ}
    (hFirst : Follows base t t' g)
    (hRest : ∀ b, Follows base (f (g b)) (f' b) h) :
    Follows base (t >>= f) (t' >>= f') h := by
  intro s
  rw [run_bind, run_bind, hFirst s]
  rcases t' s with ⟨e | b, s'⟩
  · rfl
  · exact hRest b s'

theorem follows_pure
    {g : β → α}
    (b : β) :
    Follows base (pure (g b)) (pure b) g :=
  fun _ => rfl

theorem connection_onto (base s : Session) :
    (base.onto s).connection =
      s.connection.map (· + base.opened) :=
  rfl

theorem lookups_onto (base s : Session) :
    (base.onto s).lookups =
      s.lookups.map (· + base.opened) :=
  rfl

variable (lib : Library)

theorem pushed_onto
    (base s : Session)
    (n : Nat)
    (call : Call) :
    (base.onto s).pushed (n + base.opened) call =
      base.onto (s.pushed n call) := by
  unfold onto pushed
  rw [List.map_append, List.append_assoc]
  rfl

theorem apply_onto
    (base s : Session)
    (n : Nat)
    (call : Call) :
    lib (base.onto s).sent
        ⟨n + base.opened, (base.onto s).configuration,
          call⟩ =
      lib.since base s.sent ⟨n, s.configuration, call⟩ :=
  rfl

theorem follows_sendOver
    (n : Nat)
    (call : Call) :
    Follows base (sendOver lib (n + base.opened) call)
      (sendOver (lib.since base) n call) id := by
  intro s
  rw [run_sendOver, run_sendOver, pushed_onto,
    apply_onto lib, Except.map_id]
  rfl

theorem follows_discard_sendOver
    (n : Nat)
    (call : Call) :
    Follows base
      (discard (sendOver lib (n + base.opened) call))
      (discard (sendOver (lib.since base) n call)) id := by
  intro s
  rw [run_discard_sendOver, run_discard_sendOver,
    pushed_onto, apply_onto lib]
  cases lib.since base s.sent ⟨n, s.configuration, call⟩ <;>
    rfl

theorem follows_connect :
    Follows base (connect lib) (connect (lib.since base))
      (· + base.opened) := by
  intro s
  cases hOpen : s.connection with
  | some n =>
      have hOnto : (base.onto s).connection =
          some (n + base.opened) := by
        rw [connection_onto, hOpen, Option.map_some]
      rw [connect_of_some hOpen, connect_of_some hOnto]
      rfl
  | none =>
      have hOnto : (base.onto s).connection = none := by
        rw [connection_onto, hOpen, Option.map_none]
      have hOpened : (base.onto s).opened =
          s.opened + base.opened := rfl
      have hNext : s.opened + base.opened + 1 =
          s.opened + 1 + base.opened :=
        Nat.add_right_comm _ _ _
      rw [connect_of_none hOpen, connect_of_none hOnto]
      dsimp only
      rw [hOpened, apply_onto lib, pushed_onto, hNext]
      cases lib.since base s.sent
        ⟨s.opened, s.configuration, .connect⟩ <;> rfl

theorem follows_prepareLookups :
    Follows base (prepareLookups lib)
      (prepareLookups (lib.since base))
      (· + base.opened) := by
  intro s
  cases hReady : s.lookups with
  | some n =>
      have hOnto : (base.onto s).lookups =
          some (n + base.opened) := by
        rw [lookups_onto, hReady, Option.map_some]
      rw [prepareLookups_of_some hReady,
        prepareLookups_of_some hOnto]
      rfl
  | none =>
      have hOnto : (base.onto s).lookups = none := by
        rw [lookups_onto, hReady, Option.map_none]
      rw [prepareLookups_of_none hReady,
        prepareLookups_of_none hOnto]
      refine (follows_connect lib).bind (fun n => ?_) s
      refine (follows_discard_sendOver lib n _).bind
        fun _ => ?_
      exact fun s => rfl

theorem follows_send (call : Call) :
    Follows base (send lib call)
      (send (lib.since base) call) id :=
  (follows_connect lib).bind fun n =>
    follows_sendOver lib n call

theorem follows_find (ref : ObjectReference) :
    Follows base (find lib ref)
      (find (lib.since base) ref) id := by
  refine (follows_prepareLookups lib).bind fun n => ?_
  refine (follows_discard_sendOver lib n _).bind fun _ => ?_
  exact follows_sendOver lib n _

/- An answer to a session that follows on another one. -/
def answerOnto
    (base : Session)
    (a : Answer Session Json) : Answer Session Json :=
  ⟨a.outcome, base.onto a.state, a.events⟩

theorem list_onto
    (group version plural tag : String)
    (base s : Session) :
    list lib group version plural tag (base.onto s) =
      base.answerOnto
        (list (lib.since base) group version plural tag
          s) := by
  unfold list
  dsimp only
  rw [follows_send lib _ s]
  rcases send (lib.since base) _ s with ⟨e | body, s'⟩ <;>
    rfl

theorem resolveIdentity_onto
    (ref : ObjectReference)
    (label : String)
    (base s : Session) :
    resolveIdentity lib ref label (base.onto s) =
      base.answerOnto
        (resolveIdentity (lib.since base) ref label s) := by
  unfold resolveIdentity
  rw [follows_find lib ref s]
  rcases find (lib.since base) ref s with
    ⟨e | body, s'⟩ <;> rfl

theorem answer_onto
    (r : Request)
    (base s : Session) :
    answer lib r (base.onto s) =
      base.answerOnto (answer (lib.since base) r s) := by
  cases r with
  | identity ref label =>
      exact resolveIdentity_onto lib ref label base s
  | _ => exact list_onto lib _ _ _ _ base s

theorem health_onto (base s : Session) :
    health lib (base.onto s) =
      base.answerOnto (health (lib.since base) s) := by
  unfold health
  rw [follows_send lib _ s]
  rcases send (lib.since base) .version s with
    ⟨e | body, s'⟩ <;> rfl

theorem close_onto (base s : Session) :
    (base.onto s).close = base.onto s.close := by
  unfold close
  cases hOpen : s.connection with
  | none =>
      have hOnto : (base.onto s).connection = none := by
        rw [connection_onto, hOpen, Option.map_none]
      rw [hOnto]
  | some n =>
      have hOnto : (base.onto s).connection =
          some (n + base.opened) := by
        rw [connection_onto, hOpen, Option.map_some]
      have hClosed : s.closed + base.closed + 1 =
          s.closed + 1 + base.closed :=
        Nat.add_right_comm _ _ _
      rw [hOnto]
      unfold onto
      dsimp only
      rw [hClosed, List.map_append, List.append_assoc]
      rfl

/- What is done with it comes to the same. -/
theorem use_onto
    (u : Use)
    (base s : Session) :
    use lib u (base.onto s) =
      base.answerOnto (use (lib.since base) u s) := by
  cases u with
  | ask r => exact answer_onto lib r base s
  | probe => exact health_onto lib base s
  | close =>
      change Answer.still (base.onto s).close _ = _
      rw [close_onto]
      rfl

/- What some uses come to, and what is told of them. -/
def outcomes (lib : Library) :
    List Use → Session →
      List (Except Failure Json × List Log.Event)
| [], _ => []
| u :: uses, s =>
    let a := use lib u s
    (a.outcome, a.events) :: outcomes lib uses a.state

theorem outcomes_onto
    (uses : List Use)
    (base s : Session) :
    outcomes lib uses (base.onto s) =
      outcomes (lib.since base) uses s := by
  induction uses generalizing s with
  | nil => rfl
  | cons u uses ih =>
      unfold outcomes
      rw [use_onto]
      exact congrArg _ (ih _)

/- What is closed follows on itself as a new session. -/
theorem IsClosed.eq_onto
    {origin s : Session}
    (hClosed : s.IsClosed)
    (hSound : Sound lib origin s) :
    s = s.onto
      { configuration := origin.configuration
        eventTypesVersion := origin.eventTypesVersion } := by
  rcases s with ⟨c, v, connection, lookups, _, _, _⟩
  cases hClosed.connection
  cases hClosed.lookups
  cases hSound.configuration
  cases hSound.version
  simp [onto]

end Session

------------------------------------------------------------
-- Lifecycles
------------------------------------------------------------

namespace Session

open Client

/-
  However a session is used and whatever the library answers,
  each call is in order, at every point there is no more than
  one connection, and the session knows what is open.  Once
  it is closed nothing is, to close it again does nothing,
  and it goes on like the session that was started.
-/
theorem orderly_after
    (lib : Library)
    (shared : Configuration)
    (token : Option String)
    (version : String)
    (uses : List Use) :
    let new := start shared token version
    let s := new.after lib uses
    Orderly lib s ∧
    (∀ before x, before ++ [x] <+: s.sent →
      (lib.wire before).Allows x) ∧
    (∀ before, before <+: s.sent →
      (lib.wire before).live.length ≤ 1 ∧
      (lib.wire before).opened =
        (lib.wire before).closed +
          (lib.wire before).live.length) ∧
    Orderly lib s.close ∧
    s.close.IsClosed ∧
    (lib.wire s.close.sent).live = [] ∧
    s.close.close = s.close ∧
    ∀ more, outcomes lib more s.close =
      outcomes (lib.since s.close) more new := by
  intro new s
  have hSound : Sound lib new s :=
    sound_after uses (sound_start lib shared token version)
  have hLater : Sound lib new s.close := sound_close hSound
  have hClosed : s.close.IsClosed := hSound.isClosed_close
  refine ⟨hSound.orderly, hSound.lawful, ?_, hLater.orderly,
    hClosed, ?_, hClosed.close_eq, ?_⟩
  · intro before hPrefix
    exact (hSound.lawful.of_prefix hPrefix).balanced
  · rw [hLater.live, hClosed.connection]
    rfl
  · intro more
    have hOnto := hClosed.eq_onto lib hLater
    rw [congrArg (outcomes lib more) hOnto, outcomes_onto]
    rfl

end Session

end EventTopology
