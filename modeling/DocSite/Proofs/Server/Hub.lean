import Mathlib.Data.List.Basic
import DocSite.Server.Reload

/-!
# Clients of the hub

How far a client has come changes by what is done for that client alone (`Hub.AgreesBut`). A client that is not
further behind than the hub remembers gets the very message that comes next for it (`Hub.Keeps.recent`).
-/

namespace DocSite.Server

namespace Hub

variable {hub other third : Hub} {client : Nat}

/-! ## §1 How far a client has come -/

@[simp] theorem passed?_send (hub : Hub) (message : Message) (client : Nat) :
    (hub.send message).passed? client = hub.passed? client := rfl

theorem passed?_unsubscribe (hub : Hub) (client other : Nat) :
    (hub.unsubscribe client).passed? other = if other = client then none else hub.passed? other := by
  unfold passed? unsubscribe
  rw [List.find?_filter]
  split
  · rename_i same
    subst same
    simp
  · rename_i differs
    congr 2
    funext entry
    by_cases same : entry.1 = other
    · simp [same, differs]
    · simp [same]

theorem passed?_subscribe (hub : Hub) (client other : Nat) :
    (hub.subscribe client).passed? other =
      if other = client then some hub.sent else hub.passed? other := by
  have before := passed?_unsubscribe hub client other
  unfold passed? at before ⊢
  simp only [subscribe, List.find?_append, Option.map_or, before]
  split
  · rename_i same
    simp [same]
  · rename_i differs
    simp [Ne.symm differs]

theorem passed?_pass (hub : Hub) (client passed other : Nat) :
    (hub.pass client passed).passed? other =
      if other = client then (hub.passed? client).map fun _ => passed else hub.passed? other := by
  unfold passed? pass
  induction hub.clients with
  | nil => simp
  | cons entry clients ih =>
    simp only [List.map_cons, List.find?_cons]
    by_cases here : entry.1 = client
    · by_cases same : other = client
      · simp [here, same]
      · simpa [here, same, Ne.symm same] using ih
    · by_cases same : other = client
      · simpa [here, same] using ih
      · by_cases found : entry.1 = other
        · simp [same, found]
        · simpa [here, found] using ih

/-! ## §2 What is done for one client -/

/-- Two hubs are the same but for one client. -/
structure AgreesBut (hub other : Hub) (client : Nat) : Prop where
  sent : other.sent = hub.sent
  recent : other.recent = hub.recent
  passed : ∀ client', client' ≠ client → other.passed? client' = hub.passed? client'

theorem AgreesBut.refl (hub : Hub) (client : Nat) : hub.AgreesBut hub client :=
  ⟨rfl, rfl, fun _ _ => rfl⟩

theorem AgreesBut.trans (h : hub.AgreesBut other client) (h' : other.AgreesBut third client) :
    hub.AgreesBut third client where
  sent := h'.sent.trans h.sent
  recent := h'.recent.trans h.recent
  passed client' differs := (h'.passed client' differs).trans (h.passed client' differs)

theorem unsubscribe_agreesBut (hub : Hub) (client : Nat) :
    hub.AgreesBut (hub.unsubscribe client) client :=
  ⟨rfl, rfl, fun _ differs => by rw [passed?_unsubscribe, if_neg differs]⟩

theorem subscribe_agreesBut (hub : Hub) (client : Nat) :
    hub.AgreesBut (hub.subscribe client) client :=
  ⟨rfl, rfl, fun _ differs => by rw [passed?_subscribe, if_neg differs]⟩

theorem pass_agreesBut (hub : Hub) (client passed : Nat) :
    hub.AgreesBut (hub.pass client passed) client :=
  ⟨rfl, rfl, fun _ differs => by rw [passed?_pass, if_neg differs]⟩

/-! ## §3 What the hub remembers -/

/-- The hub has got some messages since the time when it had got a number of them. -/
structure Keeps (hub : Hub) (since : Nat) (due : List Message) : Prop where
  sent : hub.sent = since + due.length
  recent : ∃ old, hub.recent = (due.reverse ++ old).take hubCapacity

theorem Keeps.nil (hub : Hub) : hub.Keeps hub.sent [] where
  sent := rfl
  recent := by
    have bounded : hub.recent.length ≤ hubCapacity := by
      rw [hub.bounded]
      exact Nat.min_le_right ..
    exact ⟨hub.recent, (List.take_of_length_le bounded).symm⟩

theorem Keeps.send {since : Nat} {due : List Message} (h : hub.Keeps since due) (message : Message) :
    (hub.send message).Keeps since (due ++ [message]) where
  sent := by simp [Hub.send, h.sent, Nat.add_assoc]
  recent := by
    obtain ⟨old, recent⟩ := h.recent
    refine ⟨old, ?_⟩
    show (message :: hub.recent).take hubCapacity = _
    have capacity : hubCapacity = (hubCapacity - 1) + 1 := by decide
    rw [recent, capacity]
    simp [List.take_take]

theorem Keeps.of_agreesBut {since : Nat} {due : List Message} (h : hub.Keeps since due)
    (agrees : hub.AgreesBut other client) : other.Keeps since due :=
  ⟨agrees.sent.trans h.sent, by rw [agrees.recent]; exact h.recent⟩

/-- **The message that comes next is remembered** until there are too many behind it. -/
theorem Keeps.recent_getElem? {since passed : Nat} {due : List Message} (h : hub.Keeps since due)
    (waiting : passed < due.length) (near : due.length - passed ≤ hubCapacity) :
    hub.recent[due.length - passed - 1]? = due[passed]? := by
  obtain ⟨old, recent⟩ := h.recent
  rw [recent, List.getElem?_take_of_lt (by omega), List.getElem?_append_left (by simp; omega),
    List.getElem?_reverse (by omega)]
  congr 1
  omega

/-- **What a client gets** that has passed some of the messages: nothing if it has fallen too far behind or if
there is nothing new, and otherwise the message that comes next. -/
theorem Keeps.receive?_cases {since passed : Nat} {due : List Message} (h : hub.Keeps since due)
    (place : hub.passed? client = some (since + passed)) (bound : passed ≤ due.length) :
    (hubCapacity < due.length - passed ∧ ∃ missed after, hub.AgreesBut after client ∧
      hub.receive? client = some (.lagged missed, after)) ∨
    (due.length - passed = 0 ∧ hub.receive? client = some (.empty, hub)) ∨
    (due.length - passed ≤ hubCapacity ∧ ∃ message, due[passed]? = some message ∧
      hub.receive? client = some (.message message, hub.pass client (since + (passed + 1)))) := by
  have behind : hub.sent - (since + passed) = due.length - passed := by
    rw [h.sent]
    omega
  simp only [receive?, place, Option.map_some, behind]
  by_cases far : hubCapacity < due.length - passed
  · rw [if_pos far]
    exact Or.inl ⟨far, _, _, pass_agreesBut .., rfl⟩
  · rw [if_neg far]
    refine Or.inr ?_
    rcases Nat.eq_zero_or_pos (due.length - passed) with none | waiting
    · rw [none]
      exact Or.inl ⟨rfl, rfl⟩
    · have next := h.recent_getElem? (by omega : passed < due.length) (Nat.le_of_not_lt far)
      obtain ⟨index, position⟩ := Nat.exists_eq_add_one_of_ne_zero (Nat.pos_iff_ne_zero.mp waiting)
      have there := List.getElem?_eq_getElem (show passed < due.length by omega)
      rw [position, Nat.add_sub_cancel, there] at next
      rw [position]
      exact Or.inr ⟨by omega, due[passed], there, by simp [next, Nat.add_assoc]⟩

end Hub

/-! ## §4 Connections -/

theorem Hub.receive?_agreesBut {hub after : Hub} {client : Nat} {receipt : Receipt}
    (h : hub.receive? client = some (receipt, after)) : hub.AgreesBut after client := by
  obtain ⟨passed, -, got⟩ := Option.map_eq_some_iff.mp h
  dsimp only at got
  split at got
  · cases got
    exact pass_agreesBut ..
  · split at got
    · cases got
      exact .refl ..
    · split at got
      · cases got
        exact pass_agreesBut ..
      · cases got
        exact .refl ..

/-- A connection asks for its own client. -/
theorem Connection.next_agreesBut (connection : Connection) (hub : Hub) :
    hub.AgreesBut (connection.next hub).2.2 connection.client ∧
      (connection.next hub).2.1.client = connection.client := by
  unfold Connection.next
  split
  · exact ⟨.refl .., rfl⟩
  · split
    · exact ⟨.refl .., rfl⟩
    · split
      · rename_i got
        exact ⟨Hub.receive?_agreesBut got, rfl⟩
      · rename_i got
        exact ⟨Hub.receive?_agreesBut got, rfl⟩
      · rename_i got
        exact ⟨(Hub.receive?_agreesBut got).trans (Hub.unsubscribe_agreesBut ..), rfl⟩
      · exact ⟨.refl .., rfl⟩

end DocSite.Server
