import DocSite.Proofs.Server.Hub
import DocSite.Server.Audience

/-!
# What reaches an open page

Whatever happens around the hub, a page receives the greeting and then the messages that were sent since it
connected, in order and without a gap, up to some point. How far it has come is known to the hub
(`Listener.Follows`), and every step keeps it that way. A page that falls too far behind has received the last
message that it will (`Audience.received_in_order`).
-/

namespace DocSite.Server

/-! ## §1 One page -/

namespace Listener

@[simp] theorem handed_mk (connection : Connection) (underway : Option Message)
    (received : List Message) (closed : Bool) :
    (⟨connection, underway, received, closed⟩ : Listener).handed = received ++ underway.toList := rfl

/-- How many of the messages behind the greeting were handed over. -/
def served (listener : Listener) : Nat := listener.handed.length - 1

/-- How many of the messages that are due to the page are still to be handed over. -/
def behind (listener : Listener) (due : List Message) : Nat := due.length - listener.served

/-- What the page will have received at least, if it stays: what was handed over, or else the greeting. -/
def owed (listener : Listener) : List Message :=
  if listener.connection.greeted then listener.handed else [.connected]

/-- Whether the page will get nothing more of what is due to it. -/
def IsLost (listener : Listener) (due : List Message) : Prop :=
  listener.connection.ended = true ∨ hubCapacity < listener.behind due

/-- A page connected when the hub had got a number of messages, and those that came since are due to it. -/
structure Follows (listener : Listener) (hub : Hub) (client since : Nat) (due : List Message) : Prop where
  keeps : hub.Keeps since due
  own : listener.connection.client = client
  inOrder : listener.handed <+: .connected :: due
  new : listener.connection.greeted = false →
    listener.handed = [] ∧ listener.connection.ended = false
  greeted : listener.connection.greeted = true → listener.connection.ended = false →
    listener.handed ≠ []
  passed : listener.connection.ended = false → hub.passed? client = some (since + listener.served)

variable {listener : Listener} {hub other : Hub} {client since : Nat} {due : List Message}
variable {message : Message}

theorem handed_of_free (h : listener.underway = none) : listener.handed = listener.received := by
  simp [handed, h]

theorem handed_of_underway (h : listener.underway = some message) :
    listener.handed = listener.received ++ [message] := by
  simp [handed, h]

theorem received_prefix_handed (listener : Listener) : listener.received <+: listener.handed :=
  List.prefix_append ..

/-- A connection does not ask while a message is on its way. -/
theorem ask_of_underway (h : listener.underway = some message) : listener.ask hub = (listener, hub) := by
  simp [ask, h]

theorem arrive_of_free (h : listener.underway = none) : listener.arrive hub = (listener, hub) := by
  simp [arrive, h]

theorem Follows.served_le (h : listener.Follows hub client since due) : listener.served ≤ due.length := by
  have length := h.inOrder.length_le
  simp only [List.length_cons] at length
  simp only [served]
  omega

/-- **What happens when a connection asks**: it has ended, or greets the page, or has fallen too far behind and
ends, or there is nothing new, or it hands over the message that comes next. -/
theorem Follows.ask_cases (h : listener.Follows hub client since due) (free : listener.underway = none) :
    (listener.connection.ended = true ∧ listener.ask hub = (listener, hub)) ∨
    (listener.connection.ended = false ∧ listener.connection.greeted = false ∧
      listener.ask hub =
        ({ listener with
            connection := { listener.connection with greeted := true }
            underway := some .connected }, hub)) ∨
    (listener.connection.ended = false ∧ listener.connection.greeted = true ∧
      hubCapacity < listener.behind due ∧ ∃ after, hub.AgreesBut after client ∧
      listener.ask hub =
        ({ listener with connection := { listener.connection with ended := true } }, after)) ∨
    (listener.connection.ended = false ∧ listener.connection.greeted = true ∧
      listener.behind due = 0 ∧ listener.ask hub = (listener, hub)) ∨
    (listener.connection.ended = false ∧ listener.connection.greeted = true ∧
      listener.behind due ≤ hubCapacity ∧ ∃ message, due[listener.served]? = some message ∧
      listener.ask hub =
        ({ listener with underway := some message },
          hub.pass client (since + (listener.served + 1)))) := by
  obtain ⟨⟨own, isGreeted, hasEnded⟩, underway, received, closed⟩ := listener
  obtain rfl : underway = none := free
  obtain rfl : own = client := h.own
  cases hasEnded with
  | true => exact Or.inl ⟨rfl, rfl⟩
  | false =>
    cases isGreeted with
    | false => exact Or.inr (Or.inl ⟨rfl, rfl, rfl⟩)
    | true =>
      refine Or.inr (Or.inr ?_)
      rcases h.keeps.receive?_cases (h.passed rfl) h.served_le with
        ⟨far, missed, after, agrees, got⟩ | ⟨none, got⟩ | ⟨near, message, next, got⟩
      · refine Or.inl ⟨rfl, rfl, far, _, agrees.trans (Hub.unsubscribe_agreesBut ..), ?_⟩
        simp [ask, Connection.next, got]
      · refine Or.inr (Or.inl ⟨rfl, rfl, none, ?_⟩)
        simp [ask, Connection.next, got]
      · refine Or.inr (Or.inr ⟨rfl, rfl, near, message, next, ?_⟩)
        simp [ask, Connection.next, got]

/-- A message that comes next makes a beginning longer. -/
theorem append_prefix_of_getElem? {messages all : List Message} {message : Message}
    (h : messages <+: all) (next : all[messages.length]? = some message) :
    messages ++ [message] <+: all := by
  obtain ⟨rest, rfl⟩ := h
  rw [List.getElem?_append_right (Nat.le_refl _), Nat.sub_self] at next
  cases rest with
  | nil => cases next
  | cons first rest =>
    cases next
    exact ⟨rest, by simp⟩

theorem Follows.of_agreesBut {third : Nat} (h : listener.Follows hub client since due)
    (agrees : hub.AgreesBut other third) (differs : client ≠ third) :
    listener.Follows other client since due :=
  { h with
    keeps := h.keeps.of_agreesBut agrees
    passed := fun opened => (agrees.passed client differs).trans (h.passed opened) }

theorem Follows.send (h : listener.Follows hub client since due) (message : Message) :
    listener.Follows (hub.send message) client since (due ++ [message]) :=
  { h with
    keeps := h.keeps.send message
    inOrder := h.inOrder.trans ⟨[message], by simp⟩ }

/-- Something is on its way only to a page that is greeted. -/
theorem Follows.greeted_of_underway (h : listener.Follows hub client since due)
    (underway : listener.underway = some message) : listener.connection.greeted = true := by
  by_contra isNew
  have none := (h.new (by simpa using isNew)).1
  simp [Listener.handed, underway] at none

/-- The greeting was handed over first. -/
theorem Follows.length_handed (h : listener.Follows hub client since due)
    (isGreeted : listener.connection.greeted = true) (opened : listener.connection.ended = false) :
    listener.handed.length = listener.served + 1 := by
  have := List.length_pos_iff.mpr (h.greeted isGreeted opened)
  simp only [served]
  omega

theorem Follows.ask (h : listener.Follows hub client since due) :
    (listener.ask hub).1.Follows (listener.ask hub).2 client since due := by
  cases free : listener.underway with
  | some message =>
    rwa [ask_of_underway free]
  | none =>
    have received := handed_of_free free
    rcases h.ask_cases free with ⟨-, asked⟩ | ⟨opened, isNew, asked⟩ |
      ⟨-, isGreeted, -, after, agrees, asked⟩ | ⟨-, -, -, asked⟩ |
      ⟨opened, isGreeted, -, message, next, asked⟩
    · rwa [asked]
    · -- The greeting is handed over, as the first of all.
      have nothing := (h.new isNew).1
      rw [asked]
      exact {
        keeps := h.keeps
        own := h.own
        inOrder := by simp [← received, nothing]
        new := by simp
        greeted := by simp
        passed := fun _ => by simpa [served, ← received, nothing] using h.passed opened }
    · -- The connection ends, so it need not be known any more how far the page has come.
      rw [asked]
      exact {
        keeps := h.keeps.of_agreesBut agrees
        own := h.own
        inOrder := h.inOrder
        new := by simp [isGreeted]
        greeted := by simp
        passed := by simp }
    · rwa [asked]
    · -- One more message is handed over, and the hub counts it as passed.
      have length := h.length_handed isGreeted opened
      rw [asked]
      exact {
        keeps := h.keeps.of_agreesBut (Hub.pass_agreesBut ..)
        own := h.own
        inOrder := by
          rw [handed_mk, ← received]
          exact append_prefix_of_getElem? h.inOrder (by simpa [length] using next)
        new := by simp [isGreeted]
        greeted := by simp
        passed := fun _ => by
          have grown : (listener.received ++ [message]).length - 1 = listener.served + 1 := by
            simp [← received, length]
          rw [Hub.passed?_pass, if_pos rfl, h.passed opened]
          show some _ = some (since + ((listener.received ++ [message]).length - 1))
          rw [grown] }

theorem Follows.arrive (h : listener.Follows hub client since due) :
    (listener.arrive hub).1.Follows (listener.arrive hub).2 client since due := by
  cases underway : listener.underway with
  | none =>
    rwa [arrive_of_free underway]
  | some message =>
    have isGreeted := h.greeted_of_underway underway
    have whole := (handed_of_underway underway).symm
    cases closed : listener.closed with
    | true =>
      -- The message is lost, but the connection ends with it, so this leaves no gap.
      simp only [Listener.arrive, underway, closed, if_true]
      exact {
        keeps := h.keeps.of_agreesBut (Hub.unsubscribe_agreesBut ..)
        own := h.own
        inOrder := by
          simpa using listener.received_prefix_handed.trans h.inOrder
        new := by simp [isGreeted]
        greeted := by simp
        passed := by simp }
    | false =>
      simp only [Listener.arrive, underway, closed, Bool.false_eq_true, if_false]
      exact {
        keeps := h.keeps
        own := h.own
        inOrder := by simpa [whole] using h.inOrder
        new := by simp [isGreeted]
        greeted := by simp
        passed := fun opened => by simpa [served, whole] using h.passed opened }

/-- **Every turn keeps a page in order.** -/
theorem Follows.after (h : listener.Follows hub client since due) (turn : Turn) :
    (listener.after hub turn).1.Follows (listener.after hub turn).2 client since due := by
  cases turn with
  | ask => exact h.ask
  | arrive => exact h.arrive
  | close => exact { h with }

/-! ## §2 Pages that are too far behind -/

/-- What is behind stays behind while nothing is handed over. -/
theorem IsLost.append (h : listener.IsLost due) (more : List Message) : listener.IsLost (due ++ more) := by
  rcases h with ended | far
  · exact Or.inl ended
  · refine Or.inr ?_
    simp only [behind, List.length_append] at far ⊢
    omega

/-- **A page that is lost stays lost**, and receives at most what was handed over for it before. -/
theorem Follows.after_of_isLost (h : listener.Follows hub client since due) (lost : listener.IsLost due)
    (turn : Turn) :
    (listener.after hub turn).1.IsLost due ∧ (listener.after hub turn).1.owed <+: listener.owed := by
  cases turn with
  | close => exact ⟨lost, List.prefix_refl _⟩
  | ask =>
    cases free : listener.underway with
    | some message =>
      rw [Listener.after, ask_of_underway free]
      exact ⟨lost, List.prefix_refl _⟩
    | none =>
      rcases h.ask_cases free with ⟨-, asked⟩ | ⟨opened, isNew, asked⟩ | ⟨-, -, -, after, -, asked⟩ |
        ⟨-, -, -, asked⟩ | ⟨opened, -, near, message, -, asked⟩
      · rw [Listener.after, asked]
        exact ⟨lost, List.prefix_refl _⟩
      · -- The greeting is still owed to a page that falls behind before it is greeted.
        have nothing := (h.new isNew).1
        have received : listener.received = [] := (List.append_eq_nil_iff.mp nothing).1
        rw [Listener.after, asked]
        refine ⟨?_, ?_⟩
        · simpa [IsLost, behind, served, received, nothing] using lost
        · simp [owed, isNew, received]
      · rw [Listener.after, asked]
        exact ⟨Or.inl rfl, List.prefix_refl _⟩
      · rw [Listener.after, asked]
        exact ⟨lost, List.prefix_refl _⟩
      · -- The hub hands nothing over to a page that is lost.
        rcases lost with ended | far
        · rw [opened] at ended
          cases ended
        · omega
  | arrive =>
    cases underway : listener.underway with
    | none =>
      rw [Listener.after, arrive_of_free underway]
      exact ⟨lost, List.prefix_refl _⟩
    | some message =>
      have isGreeted := h.greeted_of_underway underway
      have whole := (handed_of_underway underway).symm
      cases closed : listener.closed with
      | true =>
        simp only [Listener.after, Listener.arrive, underway, closed, if_true]
        refine ⟨Or.inl rfl, ?_⟩
        simp [owed, isGreeted, ← whole]
      | false =>
        simp only [Listener.after, Listener.arrive, underway, closed, Bool.false_eq_true, if_false]
        refine ⟨?_, ?_⟩
        · simpa [IsLost, behind, served, whole] using lost
        · simp [owed, isGreeted, whole]

/-! ## §3 Several turns -/

/-- The page and the hub after several turns of the page. -/
def afterAll (listener : Listener) (hub : Hub) : List Turn → Listener × Hub
  | [] => (listener, hub)
  | turn :: turns => (listener.after hub turn).1.afterAll (listener.after hub turn).2 turns

theorem underway_arrive (listener : Listener) (hub : Hub) : (listener.arrive hub).1.underway = none := by
  unfold Listener.arrive
  split
  · assumption
  · split <;> rfl

theorem Follows.ended_after (h : listener.Follows hub client since due)
    (ended : listener.connection.ended = true) (turn : Turn) :
    (listener.after hub turn).1.connection.ended = true := by
  cases turn with
  | close => exact ended
  | ask =>
    cases free : listener.underway with
    | some message => simpa [Listener.after, Listener.ask, free] using ended
    | none =>
      rcases h.ask_cases free with ⟨-, asked⟩ | ⟨opened, -⟩ | ⟨opened, -⟩ | ⟨opened, -⟩ | ⟨opened, -⟩
      · rwa [Listener.after, asked]
      all_goals
        rw [ended] at opened
        cases opened
  | arrive =>
    simp only [Listener.after, Listener.arrive]
    split
    · exact ended
    · split
      · rfl
      · exact ended

/-- A page that is lost and that nothing is on its way to is greeted, if it was not, or else its connection
ends. -/
theorem Follows.ask_of_isLost (h : listener.Follows hub client since due) (lost : listener.IsLost due)
    (free : listener.underway = none) :
    (listener.ask hub).1.connection.ended = true ∨
      (listener.connection.greeted = false ∧ (listener.ask hub).1.connection.greeted = true) := by
  rcases h.ask_cases free with ⟨ended, asked⟩ | ⟨-, isNew, asked⟩ | ⟨-, -, -, after, -, asked⟩ |
    ⟨opened, -, none, -⟩ | ⟨opened, -, near, -⟩
  · rw [asked]
    exact Or.inl ended
  · rw [asked]
    exact Or.inr ⟨isNew, rfl⟩
  · rw [asked]
    exact Or.inl rfl
  all_goals
    rcases lost with ended | far
    · rw [opened] at ended
      cases ended
    · omega

theorem greeted_arrive (listener : Listener) (hub : Hub) :
    (listener.arrive hub).1.connection.greeted = listener.connection.greeted := by
  unfold Listener.arrive
  split
  · rfl
  · split <;> rfl

/-- **The connection of a page that is lost ends** when it has had its turns. -/
theorem Follows.ends_of_isLost (h : listener.Follows hub client since due) (lost : listener.IsLost due) :
    (listener.afterAll hub [.arrive, .ask, .arrive, .ask]).1.connection.ended = true := by
  simp only [afterAll]
  -- At most the message on its way and the greeting come before the turn in which the hub says so.
  have first := h.after .arrive
  have lost₁ := (h.after_of_isLost lost .arrive).1
  have second := first.after .ask
  have third := second.after .arrive
  rcases first.ask_of_isLost lost₁ (underway_arrive ..) with ended | ⟨-, isGreeted⟩
  · exact third.ended_after (second.ended_after ended .arrive) .ask
  · have lost₂ := (first.after_of_isLost lost₁ .ask).1
    have lost₃ := (second.after_of_isLost lost₂ .arrive).1
    rcases third.ask_of_isLost lost₃ (underway_arrive ..) with ended | ⟨isNew, -⟩
    · exact ended
    · -- The greeting was handed over in the second turn.
      cases isGreeted.symm.trans ((greeted_arrive ..).symm.trans isNew)

/-- What is on its way to a page that stays arrives. -/
theorem arrive_of_here (listener : Listener) (here : listener.closed = false) (hub : Hub) :
    listener.arrive hub = ({ listener with underway := none, received := listener.handed }, hub) := by
  obtain ⟨connection, underway, received, closed⟩ := listener
  obtain rfl : closed = false := here
  cases underway <;> simp [Listener.arrive]

theorem Follows.received_prefix_owed (h : listener.Follows hub client since due) :
    listener.received <+: listener.owed := by
  have received := listener.received_prefix_handed
  rw [owed]
  split
  · exact received
  · rename_i isNew
    rw [(h.new (by simpa using isNew)).1, List.prefix_nil] at received
    rw [received]
    exact List.nil_prefix

/-- The turns in which one message is handed over and arrives. -/
def round : List Turn := [.ask, .arrive]

/-- **A page receives what comes next for it** if it is there and not too far behind. -/
theorem Follows.received_round (h : listener.Follows hub client since due)
    (here : listener.closed = false) (opened : listener.connection.ended = false)
    (free : listener.underway = none) (near : listener.behind due ≤ hubCapacity)
    (next : (Message.connected :: due)[listener.received.length]? = some message) :
    (listener.afterAll hub round).1 =
      { listener with
          connection := { listener.connection with greeted := true }
          underway := none
          received := listener.received ++ [message] } := by
  have received := handed_of_free free
  simp only [Listener.round, afterAll, Listener.after]
  rcases h.ask_cases free with ⟨ended, -⟩ | ⟨-, isNew, asked⟩ | ⟨-, -, far, -⟩ |
    ⟨-, isGreeted, none, -⟩ | ⟨-, isGreeted, -, comes, due', asked⟩
  · rw [opened] at ended
    cases ended
  · have nothing : listener.received = [] := received ▸ (h.new isNew).1
    obtain rfl : .connected = message := by simpa [nothing] using next
    simp [asked, Listener.arrive, here, nothing]
  · omega
  · have length := h.length_handed isGreeted opened
    have bound : listener.received.length < due.length + 1 := by
      simpa using (List.getElem?_eq_some_iff.mp next).1
    simp only [behind] at none
    rw [received] at length
    omega
  · have length := h.length_handed isGreeted opened
    rw [← received, length, List.getElem?_cons_succ, due'] at next
    obtain rfl := Option.some.inj next
    obtain ⟨⟨own, greeted, ended⟩, underway, got, closed⟩ := listener
    obtain rfl : greeted = true := isGreeted
    obtain rfl : closed = false := here
    simp [asked, Listener.arrive]

/-- **A page that stays and is not too far behind receives everything** that is due to it, turn by turn. -/
theorem Follows.catches_up (h : listener.Follows hub client since due)
    (here : listener.closed = false) (opened : listener.connection.ended = false)
    (free : listener.underway = none) (near : listener.behind due ≤ hubCapacity) :
    ∃ rounds, (listener.afterAll hub (List.replicate rounds round).flatten).1.received =
      .connected :: due := by
  have received := handed_of_free free
  -- By induction on how many messages the page still lacks, the greeting among them.
  induction left : due.length + 1 - listener.received.length generalizing listener hub with
  | zero =>
    refine ⟨0, ?_⟩
    have inOrder := h.inOrder
    rw [received] at inOrder
    exact inOrder.eq_of_length_le (by simp only [List.length_cons]; omega)
  | succ left ih =>
    have more : listener.received.length < (Message.connected :: due).length := by
      simp only [List.length_cons]
      omega
    have next := List.getElem?_eq_getElem more
    have step := h.received_round here opened free near next
    have follows : (listener.afterAll hub round).1.Follows (listener.afterAll hub round).2 client since due :=
      (h.after .ask).after .arrive
    rw [step] at follows
    obtain ⟨rounds, all⟩ := ih follows here opened rfl
      (by
        simp only [behind, served, handed_mk, Option.toList_none, List.append_nil,
          List.length_append, List.length_singleton] at near ⊢
        rw [received] at near
        omega)
      (by simp [Listener.handed])
      (by simp only [List.length_append, List.length_singleton]; omega)
    refine ⟨rounds + 1, ?_⟩
    have unfolded : listener.afterAll hub (List.replicate (rounds + 1) round).flatten =
        (listener.afterAll hub round).1.afterAll (listener.afterAll hub round).2
          (List.replicate rounds round).flatten := rfl
    rw [unfolded, step]
    exact all

theorem after_agreesBut (listener : Listener) (hub : Hub) (turn : Turn) :
    hub.AgreesBut (listener.after hub turn).2 listener.connection.client ∧
      (listener.after hub turn).1.connection.client = listener.connection.client := by
  cases turn with
  | close => exact ⟨.refl .., rfl⟩
  | ask =>
    simp only [Listener.after, Listener.ask]
    split
    · exact ⟨.refl .., rfl⟩
    · exact listener.connection.next_agreesBut hub
  | arrive =>
    simp only [Listener.after, Listener.arrive]
    split
    · exact ⟨.refl .., rfl⟩
    · split
      · exact ⟨Hub.unsubscribe_agreesBut .., rfl⟩
      · exact ⟨.refl .., rfl⟩

end Listener

/-! ## §4 All pages -/

/-- The messages that come to the hub in a step. -/
def AudienceStep.sent : AudienceStep → List Message
  | .send message => [message]
  | .line _ => []

/-- The messages that come to the hub in several steps, in order. -/
def sentIn (steps : List AudienceStep) : List Message := steps.flatMap AudienceStep.sent

/-- The steps in which one page has its turns. -/
def turnsOf (page : Nat) (turns : List Turn) : List AudienceStep :=
  turns.map fun turn => .line (.turn page turn)

namespace Audience

/-- Every page is the client with its number. -/
def Numbered (audience : Audience) : Prop :=
  ∀ (page : Nat) (listener : Listener),
    audience.listeners[page]? = some listener → listener.connection.client = page

variable {audience : Audience} {page since : Nat} {listener : Listener} {due : List Message}

theorem turn_of_some {turn : Turn} (there : audience.listeners[page]? = some listener) :
    audience.turn page turn =
      ⟨(listener.after audience.hub turn).2,
        audience.listeners.set page (listener.after audience.hub turn).1⟩ := by
  simp [Audience.turn, there]

theorem Numbered.step (numbered : audience.Numbered) (step : AudienceStep) :
    (audience.step step).Numbered := by
  intro page listener there
  cases step with
  | send message => exact numbered page listener there
  | line line =>
    cases line with
    | connect =>
      simp only [Audience.step, Audience.line, connect, List.getElem?_append] at there
      split at there
      · exact numbered page listener there
      · rename_i new
        rw [List.getElem?_singleton] at there
        split at there
        · obtain rfl := Option.some.inj there
          show audience.listeners.length = page
          omega
        · cases there
    | turn moved turn =>
      cases before : audience.listeners[moved]? with
      | none =>
        simp only [Audience.step, Audience.line, Audience.turn, before] at there
        exact numbered page listener there
      | some other =>
        simp only [Audience.step, Audience.line, turn_of_some before, List.getElem?_set] at there
        split at there
        · rename_i same
          split at there
          · obtain rfl := Option.some.inj there
            rw [(other.after_agreesBut audience.hub turn).2, numbered moved other before, same]
          · cases there
        · exact numbered page listener there

theorem Numbered.run (numbered : audience.Numbered) (steps : List AudienceStep) :
    (audience.run steps).Numbered := by
  induction steps generalizing audience with
  | nil => exact numbered
  | cons step steps ih => exact ih (numbered.step step)

/-- **Every step keeps every page in order**, and one that is lost gets nothing more than is on its way. -/
theorem exists_step (numbered : audience.Numbered) (there : audience.listeners[page]? = some listener)
    (follows : listener.Follows audience.hub page since due) (step : AudienceStep) :
    ∃ after, (audience.step step).listeners[page]? = some after ∧
      after.Follows (audience.step step).hub page since (due ++ step.sent) ∧
      (listener.IsLost due → after.IsLost (due ++ step.sent) ∧ after.owed <+: listener.owed) := by
  cases step with
  | send message =>
    exact ⟨listener, there, follows.send message, fun lost => ⟨lost.append _, List.prefix_refl _⟩⟩
  | line line =>
    simp only [AudienceStep.sent, List.append_nil]
    cases line with
    | connect =>
      have old : page < audience.listeners.length := (List.getElem?_eq_some_iff.mp there).1
      refine ⟨listener, ?_, ?_, fun lost => ⟨lost, List.prefix_refl _⟩⟩
      · simp only [Audience.step, Audience.line, connect]
        rwa [List.getElem?_append_left old]
      · exact follows.of_agreesBut (Hub.subscribe_agreesBut _ audience.listeners.length) (by omega)
    | turn moved turn =>
      cases before : audience.listeners[moved]? with
      | none =>
        have same : audience.turn moved turn = audience := by simp [Audience.turn, before]
        simp only [Audience.step, Audience.line, same]
        exact ⟨listener, there, follows, fun lost => ⟨lost, List.prefix_refl _⟩⟩
      | some other =>
        simp only [Audience.step, Audience.line, turn_of_some before]
        by_cases same : moved = page
        · subst same
          obtain rfl : listener = other := Option.some.inj (there.symm.trans before)
          refine ⟨_, ?_, follows.after turn, fun lost => follows.after_of_isLost lost turn⟩
          rw [List.getElem?_set_self (List.getElem?_eq_some_iff.mp there).1]
        · have agrees := (other.after_agreesBut audience.hub turn).1
          rw [numbered moved other before] at agrees
          refine ⟨listener, ?_, follows.of_agreesBut agrees (Ne.symm same),
            fun lost => ⟨lost, List.prefix_refl _⟩⟩
          rwa [List.getElem?_set_ne same]

/-- **Every run keeps every page in order.** -/
theorem exists_run (numbered : audience.Numbered) (there : audience.listeners[page]? = some listener)
    (follows : listener.Follows audience.hub page since due) (steps : List AudienceStep) :
    ∃ after, (audience.run steps).listeners[page]? = some after ∧
      after.Follows (audience.run steps).hub page since (due ++ sentIn steps) ∧
      (listener.IsLost due → after.IsLost (due ++ sentIn steps) ∧ after.owed <+: listener.owed) := by
  induction steps generalizing audience listener due with
  | nil =>
    simp only [sentIn, List.flatMap_nil, List.append_nil]
    exact ⟨listener, there, follows, fun lost => ⟨lost, List.prefix_refl _⟩⟩
  | cons step steps ih =>
    obtain ⟨middle, there', follows', lost'⟩ := exists_step numbered there follows step
    obtain ⟨after, there'', follows'', lost''⟩ := ih (numbered.step step) there' follows'
    rw [List.append_assoc] at follows'' lost''
    refine ⟨after, there'', follows'', fun lost => ?_⟩
    obtain ⟨isLost, owed⟩ := lost' lost
    obtain ⟨isLost', owed'⟩ := lost'' isLost
    exact ⟨isLost', owed'.trans owed⟩

/-- A page that has just connected has nothing, and nothing is due to it yet. -/
theorem exists_connect (audience : Audience) :
    ∃ new, (audience.step (.line .connect)).listeners[audience.listeners.length]? = some new ∧
      new.Follows (audience.step (.line .connect)).hub audience.listeners.length audience.hub.sent [] := by
  refine ⟨⟨⟨audience.listeners.length, false, false⟩, none, [], false⟩, ?_, ?_⟩
  · simp [Audience.step, Audience.line, connect, Connection.open]
  · exact {
      keeps := (Hub.Keeps.nil audience.hub).of_agreesBut (Hub.subscribe_agreesBut ..)
      own := rfl
      inOrder := List.nil_prefix
      new := fun _ => ⟨rfl, rfl⟩
      greeted := by simp
      passed := fun _ => by
        show (audience.hub.subscribe audience.listeners.length).passed? _ = _
        rw [Hub.passed?_subscribe, if_pos rfl]
        rfl }

theorem run_turnsOf (there : audience.listeners[page]? = some listener) (turns : List Turn) :
    (audience.run (turnsOf page turns)).listeners[page]? =
      some (listener.afterAll audience.hub turns).1 := by
  induction turns generalizing audience listener with
  | nil => exact there
  | cons turn turns ih =>
    have moved : (audience.step (.line (.turn page turn))).listeners[page]? =
        some (listener.after audience.hub turn).1 := by
      simp only [Audience.step, Audience.line, turn_of_some there]
      rw [List.getElem?_set_self (List.getElem?_eq_some_iff.mp there).1]
    have hub : (audience.step (.line (.turn page turn))).hub = (listener.after audience.hub turn).2 := by
      simp only [Audience.step, Audience.line, turn_of_some there]
    have rest := ih moved
    rw [hub] at rest
    exact rest

/-- **Pages receive in order.** Let a page connect at any time, and let anything happen after that. Then the page
has received the greeting and the messages that came to the hub since, up to some point. At every moment in
between, all messages that come later are due to the page. If it was further behind than the hub remembers, it
has received no further message of the hub, only what was on its way already or the greeting if that was still to
come, and when it has had its turns its connection ends. If it was not and neither page nor connection is gone, a
number of turns is all that it takes to receive everything that was due. -/
theorem received_in_order (hub : Hub) (before after : List AudienceStep) :
    let crowd : Audience := (⟨hub, []⟩ : Audience).run before
    let page := crowd.listeners.length
    let joined := crowd.step (.line .connect)
    crowd.listeners[page]? = none ∧
    ∃ listener, (joined.run after).listeners[page]? = some listener ∧
      listener.received <+: .connected :: sentIn after ∧
      ∀ early late, after = early ++ late →
        ∃ earlier, (joined.run early).listeners[page]? = some earlier ∧
          (.connected ∈ earlier.received → sentIn late <:+ sentIn after) ∧
          (hubCapacity < earlier.behind (sentIn early) →
            listener.received <+: earlier.owed ∧
            ((joined.run early).run (turnsOf page [.arrive, .ask, .arrive, .ask])).listeners[page]?.map
              (·.connection.ended) = some true) ∧
          (earlier.closed = false → earlier.connection.ended = false →
            earlier.behind (sentIn early) ≤ hubCapacity →
            ∃ rounds, ((joined.run early).run (turnsOf page
                (.arrive :: (List.replicate rounds Listener.round).flatten))).listeners[page]?.map
              (·.received) = some (.connected :: sentIn early)) := by
  intro crowd page joined
  have numbered : crowd.Numbered := by
    have none : (⟨hub, []⟩ : Audience).Numbered := fun page listener there => by simp at there
    exact none.run before
  obtain ⟨new, there, follows⟩ := exists_connect crowd
  have numbered' : joined.Numbered := numbered.step _
  refine ⟨List.getElem?_eq_none (Nat.le_refl _), ?_⟩
  obtain ⟨listener, final, inOrder, -⟩ := exists_run numbered' there follows after
  refine ⟨listener, final, ?_, fun early late split => ?_⟩
  · exact listener.received_prefix_handed.trans inOrder.inOrder
  · obtain ⟨earlier, there', follows', -⟩ := exists_run numbered' there follows early
    rw [List.nil_append] at follows'
    refine ⟨earlier, there', fun _ => ?_, fun far => ⟨?_, ?_⟩, fun here opened near => ?_⟩
    · exact ⟨sentIn early, by simp [split, sentIn]⟩
    · have rest : joined.run after = (joined.run early).run late := by
        rw [split, Audience.run, List.foldl_append]
        rfl
      obtain ⟨listener', final', follows'', lost⟩ :=
        exists_run (numbered'.run early) there' follows' late
      rw [← rest, final] at final'
      obtain rfl := Option.some.inj final'
      exact follows''.received_prefix_owed.trans (lost (Or.inr far)).2
    · rw [run_turnsOf there']
      exact congrArg some (follows'.ends_of_isLost (Or.inr far))
    · have arrived := earlier.arrive_of_here here (joined.run early).hub
      have follows'' := follows'.arrive
      rw [arrived] at follows''
      obtain ⟨rounds, all⟩ := follows''.catches_up here opened rfl
        (by simpa [Listener.behind, Listener.served] using near)
      refine ⟨rounds, ?_⟩
      rw [run_turnsOf there', Listener.afterAll, Listener.after, arrived]
      exact congrArg some all

/-- A page is greeted after the first of very many messages, so it gets none of them. -/
theorem received_in_order_flood :
    let crowd : Audience := (⟨Hub.empty, []⟩ : Audience).run [.line .connect, .send .reload]
    let joined := crowd.step (.line .connect)
    let early := .send .reload :: turnsOf 1 [.ask, .arrive] ++ List.replicate 128 (.send .reload)
    let late := turnsOf 1 [.ask, .arrive]
    ∃ earlier listener, (joined.run early).listeners[1]? = some earlier ∧
      hubCapacity < earlier.behind (sentIn early) ∧
      (joined.run (early ++ late)).listeners[1]? = some listener ∧
      listener.received <+: [.connected] := by
  intro crowd joined early late
  obtain ⟨-, listener, final, -, moments⟩ :=
    received_in_order Hub.empty [.line .connect, .send .reload] (early ++ late)
  obtain ⟨earlier, there, -, lost, -⟩ := moments early late rfl
  have known : (joined.run early).listeners[1]? =
      some ⟨⟨1, true, false⟩, none, [.connected], false⟩ := by decide +kernel
  obtain rfl := Option.some.inj (known.symm.trans there)
  have far : hubCapacity <
      (⟨⟨1, true, false⟩, none, [.connected], false⟩ : Listener).behind (sentIn early) := by
    decide +kernel
  exact ⟨_, listener, there, far, final, (lost far).1⟩

end Audience

end DocSite.Server
