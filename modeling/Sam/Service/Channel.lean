import Mathlib.Logic.Function.Basic
import Sam.Core.Registry

/-!
# Outbound channels (`tokio::sync::mpsc`)

A bounded channel of messages to one connection, as `SamService` sees it through its `Sender`
and the connection's session task through the `Receiver`.

* `trySend` fails when the receiver is gone or the queue is full, and never blocks.
* `delivered` (what the receiver has taken) and `refused` (whether some `try_send` has failed)
  are history variables: no operation reads them.  `sent` is everything ever queued.
* `broadcastOn` — one `try_send` per client, ignoring failures; `broadcastOn_spec` says what it
  leaves in a channel, shared by any number of clients.
-/

namespace Sam

/-- `tokio::sync::mpsc::Sender<SamToApplication>`: a handle to one channel. -/
structure Sender where
  channel : Nat
  deriving DecidableEq, Repr

/-- `tokio::sync::mpsc::error::TrySendError`. -/
inductive TrySendError where
  | full
  | closed
  deriving DecidableEq, Repr

/-- One bounded channel. -/
structure Channel where
  capacity : Nat
  delivered : List SamToApplication
  queue : List SamToApplication
  receiverAlive : Bool
  refused : Bool
  deriving DecidableEq

namespace Channel

/-- `mpsc::channel(capacity)`. -/
def new (capacity : Nat) : Channel := ⟨capacity, [], [], true, false⟩

/-- Everything queued so far, oldest first. -/
def sent (ch : Channel) : List SamToApplication := ch.delivered ++ ch.queue

/-- A `try_send` would succeed. -/
def HasRoom (ch : Channel) : Prop := ch.receiverAlive = true ∧ ch.queue.length < ch.capacity

instance (ch : Channel) : Decidable ch.HasRoom := inferInstanceAs (Decidable (_ ∧ _))

/-- `Sender::try_send`. -/
def trySend (ch : Channel) (message : SamToApplication) : Except TrySendError Unit × Channel :=
  if ch.receiverAlive = false then (.error .closed, { ch with refused := true })
  else if ch.queue.length < ch.capacity then
    (.ok (), { ch with queue := ch.queue ++ [message] })
  else (.error .full, { ch with refused := true })

/-- `Receiver::recv` on a nonempty queue; an empty one is left as it is. -/
def recv (ch : Channel) : Channel :=
  match ch.queue with
  | [] => ch
  | message :: rest => { ch with delivered := ch.delivered ++ [message], queue := rest }

/-- The receiver is dropped. -/
def dropReceiver (ch : Channel) : Channel := { ch with receiverAlive := false }

variable {ch : Channel} {message : SamToApplication}

theorem trySend_room (h : ch.HasRoom) :
    ch.trySend message = (.ok (), { ch with queue := ch.queue ++ [message] }) := by
  unfold trySend; rw [if_neg (by simp [h.1]), if_pos h.2]

theorem trySend_noRoom (h : ¬ ch.HasRoom) (message : SamToApplication) :
    ∃ e, ch.trySend message = (.error e, { ch with refused := true }) := by
  unfold trySend
  split
  · exact ⟨_, rfl⟩
  · rename_i ha
    rw [if_neg fun hl => h ⟨by simpa using ha, hl⟩]
    exact ⟨_, rfl⟩

/-- What one `try_send` does to the history of a channel. -/
theorem sent_trySend :
    (ch.trySend message).2.sent = ch.sent ++ if ch.HasRoom then [message] else [] := by
  by_cases h : ch.HasRoom
  · rw [trySend_room h, if_pos h]; simp [sent]
  · obtain ⟨e, he⟩ := trySend_noRoom h message
    rw [he, if_neg h]; simp [sent]

theorem refused_trySend :
    (ch.trySend message).2.refused = (ch.refused || !decide ch.HasRoom) := by
  by_cases h : ch.HasRoom
  · rw [trySend_room h]; simp [h]
  · obtain ⟨e, he⟩ := trySend_noRoom h message
    rw [he]; simp [h]

/-- Sending takes nothing from the queue. -/
theorem delivered_trySend : (ch.trySend message).2.delivered = ch.delivered := by
  unfold trySend; split
  · rfl
  · split <;> rfl

@[simp] theorem sent_new (capacity : Nat) : (new capacity).sent = [] := rfl

@[simp] theorem refused_new (capacity : Nat) : (new capacity).refused = false := rfl

@[simp] theorem sent_recv : ch.recv.sent = ch.sent := by
  unfold recv sent; split
  · rfl
  · rename_i hq; rw [hq]; simp

@[simp] theorem refused_recv : ch.recv.refused = ch.refused := by
  unfold recv; split <;> rfl

@[simp] theorem sent_dropReceiver : ch.dropReceiver.sent = ch.sent := rfl

@[simp] theorem refused_dropReceiver : ch.dropReceiver.refused = ch.refused := rfl

end Channel

/-- All channels there are, by sender. -/
abbrev Channels := Sender → Channel

namespace Channels

/-- `try_send` on the channel a sender refers to. -/
def trySend (channels : Channels) (tx : Sender) (message : SamToApplication) :
    Except TrySendError Unit × Channels :=
  let r := (channels tx).trySend message
  (r.1, Function.update channels tx r.2)

/-- One `try_send` of the same message for each sender of a list, ignoring failures. -/
def broadcastOn (channels : Channels) (txs : List Sender) (message : SamToApplication) :
    Channels :=
  txs.foldl (fun channels tx => (channels.trySend tx message).2) channels

variable {channels : Channels} {tx c : Sender} {txs : List Sender} {message : SamToApplication}

theorem trySend_self : (channels.trySend tx message).2 tx = ((channels tx).trySend message).2 :=
  Function.update_self ..

theorem trySend_ne (h : c ≠ tx) : (channels.trySend tx message).2 c = channels c :=
  Function.update_of_ne h ..

theorem broadcastOn_cons :
    channels.broadcastOn (tx :: txs) message =
      ((channels.trySend tx message).2).broadcastOn txs message := rfl

theorem broadcastOn_notMem (h : c ∉ txs) : channels.broadcastOn txs message c = channels c := by
  induction txs generalizing channels with
  | nil => rfl
  | cons tx txs ih =>
    rw [List.mem_cons, not_or] at h
    rw [broadcastOn_cons, ih h.2, trySend_ne h.1]

theorem delivered_broadcastOn (channels : Channels) (txs : List Sender)
    (message : SamToApplication) (c : Sender) :
    (channels.broadcastOn txs message c).delivered = (channels c).delivered := by
  induction txs generalizing channels with
  | nil => rfl
  | cons tx txs ih =>
    rw [broadcastOn_cons, ih]
    by_cases h : c = tx
    · subst h; rw [trySend_self, Channel.delivered_trySend]
    · rw [trySend_ne h]

/-- When no channel is listed twice, each listed one gets exactly one `try_send`. -/
theorem broadcastOn_mem (hn : txs.Nodup) (h : c ∈ txs) :
    channels.broadcastOn txs message c = ((channels c).trySend message).2 := by
  induction txs generalizing channels with
  | nil => cases h
  | cons tx txs ih =>
    rw [broadcastOn_cons]
    rw [List.nodup_cons] at hn
    by_cases hc : c = tx
    · subst hc; rw [broadcastOn_notMem hn.1, trySend_self]
    · have hm : c ∈ txs := (List.mem_cons.mp h).resolve_left hc
      rw [ih hn.2 hm, trySend_ne hc]

/-- **What a broadcast leaves in a channel**: some number of copies of the message, one per
    listed sender of the channel unless a `try_send` failed. -/
theorem broadcastOn_spec (channels : Channels) (txs : List Sender) (message : SamToApplication)
    (c : Sender) :
    ∃ k, (channels.broadcastOn txs message c).sent =
        (channels c).sent ++ List.replicate k message ∧
      ((channels.broadcastOn txs message c).refused = false →
        k = txs.count c ∧ (channels c).refused = false) := by
  induction txs generalizing channels with
  | nil => exact ⟨0, by simp [broadcastOn], fun h => ⟨rfl, h⟩⟩
  | cons tx txs ih =>
    rw [broadcastOn_cons]
    obtain ⟨k, hs, hr⟩ := ih (channels.trySend tx message).2
    by_cases hc : c = tx
    · subst hc
      rw [trySend_self, Channel.sent_trySend] at hs
      rw [trySend_self, Channel.refused_trySend] at hr
      by_cases hroom : (channels c).HasRoom
      · refine ⟨k + 1, ?_, fun h => ?_⟩
        · rw [hs, if_pos hroom, List.append_assoc, List.replicate_succ]; rfl
        · obtain ⟨hk, hn⟩ := hr h
          simp only [Bool.or_eq_false_iff] at hn
          exact ⟨by rw [hk, List.count_cons_self], hn.1⟩
      · refine ⟨k, by rw [hs, if_neg hroom, List.append_nil], fun h => ?_⟩
        have := (hr h).2
        simp [hroom] at this
    · rw [trySend_ne hc] at hs hr
      refine ⟨k, hs, fun h => ?_⟩
      rw [List.count_cons_of_ne (Ne.symm hc)]
      exact hr h

end Channels

end Sam
