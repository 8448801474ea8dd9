import Sam.System.Streams

/-!
# Bytes and messages, connection by connection

A state of `Network` is compared with one of `System`: what the service and the applications have
done is the same, and each connection and each application stand in a relation of their own.  One
step changes one connection and the application on it; the others carry along.

* `Comparison` — the two relations, `Related` — the comparison of two states.
* `Related.server`, `Related.client`, `Related.alone` — a session task moves, an application moves
  on its link, an application changes by itself.
-/

namespace Sam

variable {η ω : Type*}

/-- A session task that may still write. -/
def ServerTask.Serving : ServerTask → Prop
  | .awaiting | .registered _ _ => True
  | .closing _ _ | .ended => False

/-- How connection `k` is compared with its link, while whoever opened it is `writing` or not, and
    how the task of an application with the link it is on, while the session task is `serving` or
    not. -/
structure Comparison (η ω : Type*) where
  joined : Nat → Prop → Connection → Link → Prop
  down : ApplicationId → Prop → Link → ClientTask η ω → Prop
  joined_imp : ∀ {k writing writing' connection link}, joined k writing connection link →
    (writing' → writing) → joined k writing' connection link
  down_imp : ∀ {a serving serving' link task}, down a serving link task →
    (serving' → serving) → down a serving' link task
  down_congr : ∀ {a serving link link' task}, down a serving link task → link'.down = link.down →
    down a serving link' task

namespace Network

variable {C : Comparison η ω} {b : Network η ω} {t : System η} {k : Nat} {a : ApplicationId}
  {connection : Connection} {link : Link} {task : ClientTask η ω} {bytes : List UInt8}

/-- Whoever opened connection `k` is still on it. -/
def Writing (b : Network η ω) (k : Nat) : Prop :=
  ∀ a, (b.connections k).owner = some a → (b.clients a).link? = some k

/-- An application in the two states. -/
structure Attached (C : Comparison η ω) (b : Network η ω) (t : System η) (a : ApplicationId) :
    Prop where
  client : t.clients a = (b.clients a).client
  owner : ∀ k, (b.clients a).link? = some k → (b.connections k).owner = some a
  down : ∀ k, (b.clients a).link? = some k →
    C.down a (b.connections k).task.Serving (t.links k) (b.clients a)

/-- The connections and the applications compare, and all else is the same. -/
structure Related (C : Comparison η ω) (b : Network η ω) (t : System η) : Prop where
  service : t.service = b.service
  operations : t.operations = b.operations
  calls : t.calls = b.calls
  joined : ∀ k, C.joined k (b.Writing k) (b.connections k) (t.links k)
  attached : ∀ a, Attached C b t a

/-! ## What a step leaves alone -/

theorem perform_nil : b.perform [] = b := by
  unfold perform
  rw [List.append_nil]
  rfl

theorem recordCall_none : b.recordCall a k none none = b := by
  unfold recordCall
  rw [Option.toList_none, List.map_nil, List.append_nil]

theorem setConnection_self : b.setConnection k (b.connections k) = b := by
  unfold setConnection
  rw [Function.update_eq_self]

theorem setClient_self (h : b.clients a = task) : b.setClient a task = b := by
  unfold setClient
  rw [← h, Function.update_eq_self]

theorem setLink_self : t.setLink k (t.links k) = t := by
  unfold System.setLink
  rw [Function.update_eq_self]

theorem receives_client : (task.receives k bytes).client = task.client := by
  cases task with
  | registering k' r =>
    rw [ClientTask.receives]
    split <;> rfl
  | running k' s =>
    rw [ClientTask.receives]
    split <;> rfl
  | _ => rfl

theorem receives_link : (task.receives k bytes).link? = task.link? := by
  rw [ClientTask.link?, receives_client, ClientTask.link?]

theorem receives_other (h : task.link? ≠ some k) : task.receives k bytes = task := by
  cases task with
  | registering k' r => rw [ClientTask.receives, if_neg fun heq => h (congrArg some heq)]
  | running k' s => rw [ClientTask.receives, if_neg fun heq => h (congrArg some heq)]
  | _ => rfl

theorem receives_nil : task.receives k [] = task := by
  cases task with
  | registering k' r =>
    rw [ClientTask.receives, List.append_nil]
    split <;> rfl
  | running k' s =>
    rw [ClientTask.receives, RunningSession.extend_nil]
    split <;> rfl
  | _ => rfl

theorem deliver_connections : (b.deliver k bytes).connections = b.connections := by
  unfold deliver
  split <;> rfl

theorem deliver_service : (b.deliver k bytes).service = b.service := by
  unfold deliver
  split <;> rfl

theorem deliver_operations : (b.deliver k bytes).operations = b.operations := by
  unfold deliver
  split <;> rfl

theorem deliver_calls : (b.deliver k bytes).calls = b.calls := by
  unfold deliver
  split <;> rfl

/-- What is written on a link is received by whoever is on it. -/
theorem deliver_clients (b : Network η ω) (k : Nat) (bytes : List UInt8)
    (howner : ∀ a, (b.clients a).link? = some k → (b.connections k).owner = some a)
    (a : ApplicationId) : (b.deliver k bytes).clients a = (b.clients a).receives k bytes := by
  unfold deliver
  split
  · rename_i x hx
    by_cases hax : a = x
    · rw [hax]
      exact Function.update_self ..
    · rw [receives_other fun hon => hax (Option.some.inj ((howner a hon).symm.trans hx))]
      exact Function.update_of_ne hax ..
  · rename_i hx
    rw [receives_other fun hon => by rw [howner a hon] at hx; cases hx]

namespace Related

/-! ## One party moves -/

/-- SAM itself is called. -/
theorem call (h : Related C b t) (ops : List Operation) :
    Related C (b.perform ops) (t.perform ops) where
  service := congrArg (SamService.run · ops) h.service
  operations := congrArg (· ++ ops) h.operations
  calls := h.calls
  joined := h.joined
  attached a := ⟨(h.attached a).client, (h.attached a).owner, (h.attached a).down⟩

/-- A session task moves. -/
theorem server (h : Related C b t) (ops : List Operation)
    (bytes : List UInt8) (hj : C.joined k (b.Writing k) connection link)
    (howner : connection.owner = (b.connections k).owner)
    (hd : ∀ a, (b.clients a).link? = some k → C.down a connection.task.Serving
      link ((b.clients a).receives k bytes)) :
    Related C (((b.perform ops).setConnection k connection).deliver k bytes)
      ((t.perform ops).setLink k link) := by
  have howners : ∀ k', (Function.update b.connections k connection k').owner =
      (b.connections k').owner := by
    intro k'
    by_cases hk : k' = k
    · rw [hk, Function.update_self, howner]
    · rw [Function.update_of_ne hk]
  have hclients := deliver_clients ((b.perform ops).setConnection k connection) k bytes
    fun a hon => (howners k).trans ((h.attached a).owner k hon)
  have hlinks : ∀ x, ((((b.perform ops).setConnection k connection).deliver k bytes).clients
    x).link? =
      (b.clients x).link? := fun x => by rw [hclients, receives_link]; rfl
  have hwriting : ∀ k', (((b.perform ops).setConnection k connection).deliver k bytes).Writing k' →
      b.Writing k' := by
    intro k' hw a ha
    rw [← hlinks]
    refine hw a ?_
    rw [deliver_connections]
    exact (howners k').trans ha
  refine ⟨?_, ?_, ?_, fun k' => ?_, fun a => ⟨?_, fun k' hon => ?_, fun k' hon => ?_⟩⟩
  · rw [deliver_service]
    exact congrArg (SamService.run · ops) h.service
  · rw [deliver_operations]
    exact congrArg (· ++ ops) h.operations
  · rw [deliver_calls]
    exact h.calls
  · rw [deliver_connections]
    show C.joined k' _ (Function.update b.connections k connection k')
      (Function.update t.links k link k')
    by_cases hk : k' = k
    · subst hk
      rw [Function.update_self, Function.update_self]
      exact C.joined_imp hj (hwriting k')
    · rw [Function.update_of_ne hk, Function.update_of_ne hk]
      exact C.joined_imp (h.joined k') (hwriting k')
  · rw [hclients, receives_client]
    exact (h.attached a).client
  · rw [hlinks] at hon
    rw [deliver_connections]
    exact (howners k').trans ((h.attached a).owner k' hon)
  · rw [hlinks] at hon
    rw [deliver_connections, hclients]
    show C.down a (Function.update b.connections k connection k').task.Serving
      (Function.update t.links k link k') ((b.clients a).receives k bytes)
    by_cases hk : k' = k
    · subst hk
      rw [Function.update_self, Function.update_self]
      exact hd a hon
    · rw [Function.update_of_ne hk, Function.update_of_ne hk,
        receives_other fun hon' => hk (Option.some.inj (hon.symm.trans hon'))]
      exact (h.attached a).down k' hon

/-- A session task moves without writing. -/
theorem silent (h : Related C b t) (ops : List Operation)
    (hj : C.joined k (b.Writing k) connection link)
    (howner : connection.owner = (b.connections k).owner)
    (hserving : connection.task.Serving → (b.connections k).task.Serving)
    (hdown : link.down = (t.links k).down) :
    Related C ((b.perform ops).setConnection k connection)
      ((t.perform ops).setLink k link) := by
  have hs := h.server (k := k) ops [] hj howner fun a hon => by
    rw [receives_nil]
    exact C.down_congr (C.down_imp ((h.attached a).down k hon) hserving) hdown
  unfold deliver at hs
  split at hs
  · rwa [receives_nil, setClient_self rfl] at hs
  · exact hs

/-- A session task moves, and the link stays as it is. -/
theorem quiet (h : Related C b t)
    (hj : C.joined k (b.Writing k) connection (t.links k))
    (howner : connection.owner = (b.connections k).owner)
    (hserving : connection.task.Serving → (b.connections k).task.Serving) :
    Related C (b.setConnection k connection) t := by
  have hs := h.silent [] hj howner hserving rfl
  rwa [perform_nil, System.perform_nil, setLink_self] at hs

/-- An application moves on link `k`, or leaves it. -/
theorem client (h : Related C b t) (task : ClientTask η ω) (call : Option HandlerCall)
    (answer : Option ApplicationToSam) (hj : C.joined k (task.link? = some k) connection link)
    (howner : connection.owner = some a)
    (hfree : (b.clients a).link? = some k ∨ (b.clients a).link? = none ∧
      (b.connections k).owner = none)
    (hlink : task.link? = some k ∨ task.link? = none)
    (hd : task.link? = some k → C.down a connection.task.Serving link task) :
    Related C (((b.setConnection k connection).setClient a task).recordCall a k call answer)
      (((t.setLink k link).setClient a task.client).recordCall a k call answer) := by
  have hclient : Function.update b.clients a task a = task := Function.update_self ..
  have hother : ∀ x, x ≠ a → Function.update b.clients a task x = b.clients x :=
    fun x hx => Function.update_of_ne hx ..
  -- nobody else is on the link
  have haway : ∀ x, x ≠ a → ∀ k', (b.clients x).link? = some k' → k' ≠ k := by
    rintro x hx k' hon rfl
    have hx' := (h.attached x).owner k' hon
    rcases hfree with hfree | ⟨-, hfree⟩
    · exact hx (Option.some.inj (hx'.symm.trans ((h.attached a).owner k' hfree)))
    · rw [hfree] at hx'
      cases hx'
  refine ⟨h.service, h.operations, ?_, fun k' => ?_, fun x => ?_⟩
  · exact congrArg (· ++ call.toList.map (⟨a, k, ·, answer⟩)) h.calls
  · show C.joined k' (∀ x, (Function.update b.connections k connection k').owner = some x →
      (Function.update b.clients a task x).link? = some k')
        (Function.update b.connections k connection k')
      (Function.update t.links k link k')
    by_cases hk : k' = k
    · subst hk
      rw [Function.update_self, Function.update_self]
      refine C.joined_imp hj fun hw => ?_
      rw [← hclient]
      exact hw a howner
    · rw [Function.update_of_ne hk, Function.update_of_ne hk]
      refine C.joined_imp (h.joined k') fun hw x hx => ?_
      by_cases hxa : x = a
      · subst hxa
        have hon := hw x hx
        rw [hclient] at hon
        rcases hlink with hlink | hlink
        · exact absurd (Option.some.inj (hon.symm.trans hlink)) hk
        · rw [hlink] at hon
          cases hon
      · rw [← hother x hxa]
        exact hw x hx
  · by_cases hx : x = a
    · subst hx
      have hk : ∀ k', task.link? = some k' → k' = k := by
        intro k' hon
        rcases hlink with hlink | hlink
        · exact Option.some.inj (hon.symm.trans hlink)
        · rw [hlink] at hon
          cases hon
      refine ⟨?_, fun k' hon => ?_, fun k' hon => ?_⟩
      · show Function.update t.clients x task.client x = (Function.update b.clients x task x).client
        rw [hclient]
        exact Function.update_self ..
      · change (Function.update b.clients x task x).link? = some k' at hon
        rw [hclient] at hon
        obtain rfl := hk k' hon
        show (Function.update b.connections k' connection k').owner = some x
        rw [Function.update_self, howner]
      · change (Function.update b.clients x task x).link? = some k' at hon
        rw [hclient] at hon
        obtain rfl := hk k' hon
        show C.down x (Function.update b.connections k' connection k').task.Serving
          (Function.update t.links k' link k') (Function.update b.clients x task x)
        rw [Function.update_self, Function.update_self, hclient]
        exact hd hon
    · refine ⟨?_, fun k' hon => ?_, fun k' hon => ?_⟩
      · show Function.update t.clients a task.client x = (Function.update b.clients a task x).client
        rw [hother x hx, Function.update_of_ne hx]
        exact (h.attached x).client
      · change (Function.update b.clients a task x).link? = some k' at hon
        rw [hother x hx] at hon
        show (Function.update b.connections k connection k').owner = some x
        rw [Function.update_of_ne (haway x hx k' hon)]
        exact (h.attached x).owner k' hon
      · change (Function.update b.clients a task x).link? = some k' at hon
        rw [hother x hx] at hon
        show C.down x (Function.update b.connections k connection k').task.Serving
          (Function.update t.links k link k') (Function.update b.clients a task x)
        rw [Function.update_of_ne (haway x hx k' hon), Function.update_of_ne (haway x hx k' hon),
          hother x hx]
        exact (h.attached x).down k' hon

/-- An application moves on link `k` without running a callback for a transition. -/
theorem moves (h : Related C b t) (task : ClientTask η ω)
    (hj : C.joined k (task.link? = some k) connection link) (howner : connection.owner = some a)
    (hfree : (b.clients a).link? = some k ∨ (b.clients a).link? = none ∧
      (b.connections k).owner = none)
    (hlink : task.link? = some k ∨ task.link? = none)
    (hd : task.link? = some k → C.down a connection.task.Serving link task) :
    Related C ((b.setConnection k connection).setClient a task)
      ((t.setLink k link).setClient a task.client) := by
  have hc := h.client task none none hj howner hfree hlink hd
  rwa [recordCall_none, System.recordCall_none] at hc

/-- An application changes by itself. -/
theorem alone (h : Related C b t)
    (hlink : task.link? = (b.clients a).link? ∨ task.link? = none)
    (hd : ∀ k, task.link? = some k → C.down a (b.connections k).task.Serving
      (t.links k) task) :
    Related C (b.setClient a task) (t.setClient a task.client) := by
  have hclient : Function.update b.clients a task a = task := Function.update_self ..
  have hother : ∀ x, x ≠ a → Function.update b.clients a task x = b.clients x :=
    fun x hx => Function.update_of_ne hx ..
  have hkeeps : ∀ k, task.link? = some k → (b.clients a).link? = some k := by
    intro k hon
    rcases hlink with hlink | hlink
    · rw [← hlink, hon]
    · rw [hlink] at hon
      cases hon
  refine ⟨h.service, h.operations, h.calls, fun k => ?_, fun x => ?_⟩
  · refine C.joined_imp (h.joined k) fun hw x hx => ?_
    have hon : (Function.update b.clients a task x).link? = some k := hw x hx
    by_cases hxa : x = a
    · subst hxa
      rw [hclient] at hon
      exact hkeeps k hon
    · rwa [hother x hxa] at hon
  · by_cases hx : x = a
    · subst hx
      refine ⟨?_, fun k hon => ?_, fun k hon => ?_⟩
      · show Function.update t.clients x task.client x = (Function.update b.clients x task x).client
        rw [hclient]
        exact Function.update_self ..
      · change (Function.update b.clients x task x).link? = some k at hon
        rw [hclient] at hon
        exact (h.attached x).owner k (hkeeps k hon)
      · change (Function.update b.clients x task x).link? = some k at hon
        show C.down x (b.connections k).task.Serving (t.links k)
          (Function.update b.clients x task x)
        rw [hclient] at hon ⊢
        exact hd k hon
    · have hsame : (b.setClient a task).clients x = b.clients x := hother x hx
      refine ⟨?_, fun k hon => ?_, fun k hon => ?_⟩
      · rw [hsame]
        exact (Function.update_of_ne hx ..).trans (h.attached x).client
      · rw [hsame] at hon
        exact (h.attached x).owner k hon
      · rw [hsame] at hon ⊢
        exact (h.attached x).down k hon

/-- It leaves its link. -/
theorem leave (h : Related C b t) (task : ClientTask η ω) (hlink : task.link? = none) :
    Related C (b.setClient a task) (t.setClient a task.client) :=
  h.alone (.inr hlink) fun k hon => by rw [hlink] at hon; cases hon

/-- It goes on as before, its bytes apart. -/
theorem inside (h : Related C b t)
    (hclient : task.client = (b.clients a).client)
    (hd : ∀ k, task.link? = some k → C.down a (b.connections k).task.Serving
      (t.links k) task) :
    Related C (b.setClient a task) t := by
  have ha := h.alone (a := a) (.inl (by rw [ClientTask.link?, hclient, ClientTask.link?])) hd
  rwa [hclient, ← (h.attached a).client, System.setClient_self] at ha

end Related

end Network

end Sam
