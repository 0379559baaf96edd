import TrafficRouter.Proofs.Gateway.Steps

/-!
# How often an exchange reads

A read that leaves a message unfinished brings at least one byte, and the buffer never holds more
than its limit. So the room in the buffer shrinks with every read after which the loop goes on,
whatever the message declares, however its bytes are split and however late each of them comes:

* `Intake.room`, `Collection.room`: how many more reads there can be, and `room_feed_lt`: each read
  leaves room for fewer;
* `exists_returning`: a loop of which that holds returns, within as many reads as it had room for;
* `Reads`: the invariant of every exchange. What has been read and what there is room for are
  together no more than the bound, and no read waits beyond its own time;
* `reading_ends`: both loops end within their bounds, against every peer.

NOT here: what the reads come to (`Request`, `Completion`).
-/

namespace TrafficRouter

open Http (MessageBuffer Framing MessageError)

/-! ## 1. Room in the buffer -/

namespace Http.MessageBuffer

/-- How many more reads a buffer has room for: one for each byte, and the one that is too many. -/
def room (b : MessageBuffer) : Nat := b.limit - b.bytes.length + 1

/-- **Bytes that a buffer takes** leave it room for fewer reads. -/
theorem room_extend_lt {b b' : MessageBuffer} {chunk : Bytes} (hne : chunk ≠ [])
    (h : b.extend chunk = .ok b') : b'.room < b.room := by
  unfold extend at h
  split at h
  · cases h
  · next hfits =>
    cases h
    have hpos : 0 < chunk.length := List.length_pos_iff.mpr hne
    show b.limit - (b.bytes ++ chunk).length + 1 < b.limit - b.bytes.length + 1
    rw [List.length_append]
    omega

end Http.MessageBuffer

namespace Intake

/-- Whether the request is still being read. -/
def isReading : Intake → Bool
  | .reading _ => true
  | .complete _ | .rejected _ => false

/-- How many more reads of the request there can be. -/
def room : Intake → Nat
  | .reading buffer => buffer.room
  | .complete _ | .rejected _ => 0

theorem room_ofBuffer_le (buffer : MessageBuffer) : (ofBuffer buffer).room ≤ buffer.room := by
  unfold ofBuffer
  split
  · exact Nat.zero_le _
  · exact Nat.zero_le _
  · exact Nat.zero_le _
  · exact Nat.le_refl _
  · exact Nat.le_refl _

/-- **Each read of a request leaves room for fewer.** -/
theorem room_feed_lt {i : Intake} (h : i.isReading = true) (reading : Reading) :
    (i.feed reading).room < i.room := by
  cases i with
  | complete request | rejected rejection => cases h
  | reading buffer =>
    have hpos : 0 < buffer.room := Nat.succ_pos _
    cases reading with
    | timedOut | failed => exact hpos
    | bytes chunk =>
      cases chunk with
      | nil => exact hpos
      | cons b chunk =>
        show (ofExtended (buffer.extend (b :: chunk))).room < buffer.room
        cases he : buffer.extend (b :: chunk) with
        | error e => exact hpos
        | ok buffer' =>
          exact Nat.lt_of_le_of_lt (room_ofBuffer_le buffer')
            (MessageBuffer.room_extend_lt (List.cons_ne_nil b chunk) he)

/-- A request begins with room for what its initial bytes leave, and with none if they do not fit. -/
theorem room_start (limit : Nat) (initial : Bytes) :
    (start limit initial).room ≤ limit - initial.length + 1 ∧
      (limit < initial.length → (start limit initial).room = 0) := by
  unfold start MessageBuffer.ofInitial MessageBuffer.extend
  simp only [List.length_nil, Nat.zero_add, List.nil_append]
  split
  · exact ⟨Nat.zero_le _, fun _ => rfl⟩
  · next hfits => exact ⟨room_ofBuffer_le _, fun hlong => absurd hlong hfits⟩

end Intake

namespace Collection

/-- Whether the response is still being read. -/
def isReading : Collection → Bool
  | .reading .. => true
  | .complete _ | .failed _ => false

/-- How many more reads of the response there can be. -/
def room : Collection → Nat
  | .reading buffer _ => buffer.room
  | .complete _ | .failed _ => 0

theorem room_ofBuffer_le (buffer : MessageBuffer) : (ofBuffer buffer).room ≤ buffer.room := by
  unfold ofBuffer
  split
  · exact Nat.zero_le _
  · exact Nat.zero_le _
  · exact Nat.le_refl _

/-- **Each read of a response leaves room for fewer.** -/
theorem room_feed_lt {c : Collection} (h : c.isReading = true) (reading : Reading) :
    (c.feed reading).room < c.room := by
  cases c with
  | complete response | failed error => cases h
  | reading buffer framing =>
    have hpos : 0 < buffer.room := Nat.succ_pos _
    cases reading with
    | timedOut | failed => cases framing <;> exact hpos
    | bytes chunk =>
      cases chunk with
      | nil => cases framing <;> exact hpos
      | cons b chunk =>
        have hfeed : (reading buffer framing).feed (.bytes (b :: chunk)) =
            ofExtended (buffer.extend (b :: chunk)) := by cases framing <;> rfl
        rw [hfeed]
        cases he : buffer.extend (b :: chunk) with
        | error e => exact hpos
        | ok buffer' =>
          exact Nat.lt_of_le_of_lt (room_ofBuffer_le buffer')
            (MessageBuffer.room_extend_lt (List.cons_ne_nil b chunk) he)

/-- A response begins with room for the limit. -/
theorem room_start (limit : Nat) : (start limit).room = limit + 1 := rfl

end Collection

/-! ## 2. Loops that shrink -/

/-- What the first reads of a peer come to. -/
def firstReads (peer : Nat → Reading) (count : Nat) : List Reading := (List.range count).map peer

theorem firstReads_succ (peer : Nat → Reading) (count : Nat) :
    firstReads peer (count + 1) = peer 0 :: firstReads (fun n => peer (n + 1)) count := by
  unfold firstReads
  rw [List.range_succ_eq_map, List.map_cons, List.map_map]
  rfl

/-- **A loop that has room for fewer reads with every read returns**, whatever the reads come to,
after at most as many as it had room for. -/
theorem exists_returning {σ : Type} {feed : σ → Reading → σ} {isReading : σ → Bool} {room : σ → Nat}
    (shrinks : ∀ {s}, isReading s = true → ∀ reading, room (feed s reading) < room s)
    (peer : Nat → Reading) (s : σ) :
    ∃ count ≤ room s, isReading ((firstReads peer count).foldl feed s) = false ∧
      ∀ fewer < count, isReading ((firstReads peer fewer).foldl feed s) = true := by
  induction hn : room s using Nat.strongRecOn generalizing s peer with
  | ind n ih =>
    cases hs : isReading s with
    | false => exact ⟨0, Nat.zero_le _, hs, fun fewer hlt => absurd hlt (Nat.not_lt_zero _)⟩
    | true =>
      have hlt : room (feed s (peer 0)) < n := hn ▸ shrinks hs (peer 0)
      obtain ⟨count, hcount, hover, hbefore⟩ :=
        ih _ hlt (fun n => peer (n + 1)) (feed s (peer 0)) rfl
      refine ⟨count + 1, by omega, ?_, fun fewer hfewer => ?_⟩
      · rw [firstReads_succ]
        exact hover
      · cases fewer with
        | zero => exact hs
        | succ fewer =>
          rw [firstReads_succ]
          exact hbefore fewer (Nat.lt_of_succ_lt_succ hfewer)

/-! ## 3. The reads of an exchange -/

namespace Exchange

/-- How many more reads of the client an exchange can make. -/
def clientRoom : Exchange → Nat
  | .intake buffer _ => buffer.room
  | .dialling .. | .sending _ | .collecting .. | .answering .. | .closing _ | .ended _ => 0

/-- How many more reads of the service an exchange can make. -/
def serviceRoom (g : GatewaySettings) : Exchange → Nat
  | .intake .. | .dialling .. | .sending _ => g.maxMessage + 1
  | .collecting buffer _ _ => buffer.room
  | .answering .. | .closing _ | .ended _ => 0

/-- How long the read may take that an exchange is at. -/
def patience? (g : GatewaySettings) : Exchange → Option Nat
  | .intake .. => some g.clientRead
  | .collecting _ framing _ => some (Collection.patience g.backendRead g.responseIdle framing)
  | .dialling .. | .sending _ | .answering .. | .closing _ | .ended _ => none

/-- When the read comes to nothing that an exchange is at. -/
def deadline? : Exchange → Option Nat
  | .intake _ deadline | .collecting _ _ deadline => some deadline
  | .dialling .. | .sending _ | .answering .. | .closing _ | .ended _ => none

/-- Whether the response is still being collected. -/
def isCollecting : Exchange → Bool
  | .collecting .. => true
  | .intake .. | .dialling .. | .sending _ | .answering .. | .closing _ | .ended _ => false

/-- The exchange may read the client as often as the request, and the service as often as any
response; a read begins its wait now. -/
theorem reads_ofIntake (g : GatewaySettings) (now : Nat) (i : Intake) :
    (ofIntake g now i).clientRoom = i.room ∧
      (ofIntake g now i).serviceRoom g ≤ g.maxMessage + 1 ∧
      (ofIntake g now i).deadline? = ((ofIntake g now i).patience? g).map (now + ·) := by
  cases i with
  | reading buffer => exact ⟨rfl, Nat.le_refl _, rfl⟩
  | rejected rejection => exact ⟨rfl, Nat.zero_le _, rfl⟩
  | complete request =>
    unfold ofIntake
    cases hr : rejectionOf request with
    | none =>
      simp only [hr]
      exact ⟨rfl, Nat.le_refl _, rfl⟩
    | some rejection =>
      simp only [hr]
      exact ⟨rfl, Nat.zero_le _, rfl⟩

/-- The exchange may read the service as often as the response; a read begins its wait now. -/
theorem reads_ofCollection (g : GatewaySettings) (now : Nat) (c : Collection) :
    (ofCollection g now c).clientRoom = 0 ∧ (ofCollection g now c).serviceRoom g = c.room ∧
      (ofCollection g now c).deadline? = ((ofCollection g now c).patience? g).map (now + ·) := by
  cases c with
  | reading buffer framing => exact ⟨rfl, rfl, rfl⟩
  | complete response | failed error => exact ⟨rfl, rfl, rfl⟩

theorem reads_sent (g : GatewaySettings) (now : Nat) (rest : Bytes) :
    (Exchange.sent g now rest).clientRoom = 0 ∧
      (Exchange.sent g now rest).serviceRoom g ≤ g.maxMessage + 1 ∧
      (Exchange.sent g now rest).deadline? =
        ((Exchange.sent g now rest).patience? g).map (now + ·) := by
  rcases sent_cases g now rest with ⟨-, e⟩ | e <;> rw [e]
  · obtain ⟨hclient, hservice, hdeadline⟩ :=
      reads_ofCollection g now (Collection.start g.maxMessage)
    exact ⟨hclient, Nat.le_of_eq hservice, hdeadline⟩
  · exact ⟨rfl, Nat.le_refl _, rfl⟩

/-- **Each read leaves room for fewer**, of the client and of the service, no other step makes room,
and the wait of the next read begins at the step. -/
theorem Step.rooms {g : GatewaySettings} {now : Nat} {dial : Option DialAnswer} {x x' : Exchange}
    {w w' : Wires} {ledger : Ledger} (h : Step g now dial x w x' w' ledger) :
    x.isIntake.toNat + x'.clientRoom ≤ x.clientRoom ∧
      x.isCollecting.toNat + x'.serviceRoom g ≤ x.serviceRoom g ∧
      x'.deadline? = (x'.patience? g).map (now + ·) := by
  cases h with
  | read h =>
    rename_i buffer deadline reading source
    obtain ⟨hclient, hservice, hdeadline⟩ :=
      reads_ofIntake g now ((Intake.reading buffer).feed reading)
    have hless : ((Intake.reading buffer).feed reading).room < buffer.room :=
      Intake.room_feed_lt rfl reading
    refine ⟨?_, ?_, hdeadline⟩
    · show 1 + _ ≤ buffer.room
      omega
    · show 0 + _ ≤ g.maxMessage + 1
      omega
  | collect h =>
    rename_i buffer framing deadline reading source
    obtain ⟨hclient, hservice, hdeadline⟩ :=
      reads_ofCollection g now ((Collection.reading buffer framing).feed reading)
    have hless : ((Collection.reading buffer framing).feed reading).room < buffer.room :=
      Collection.room_feed_lt rfl reading
    refine ⟨?_, ?_, hdeadline⟩
    · show 0 + _ ≤ 0
      omega
    · show 1 + _ ≤ buffer.room
      omega
  | sentNothing =>
    obtain ⟨hclient, hservice, hdeadline⟩ := reads_sent g now []
    refine ⟨?_, ?_, hdeadline⟩
    · show 0 + _ ≤ 0
      omega
    · show 0 + _ ≤ g.maxMessage + 1
      omega
  | sent h =>
    rename_i request rest sink
    obtain ⟨hclient, hservice, hdeadline⟩ := reads_sent g now rest
    refine ⟨?_, ?_, hdeadline⟩
    · show 0 + _ ≤ 0
      omega
    · show 0 + _ ≤ g.maxMessage + 1
      omega
  | connected h => exact ⟨Nat.le_refl _, Nat.le_of_eq (Nat.zero_add _), rfl⟩
  | refused h | unanswered h hd | sendFault h => exact ⟨Nat.le_refl _, Nat.zero_le _, rfl⟩
  | answeredNothing | answerFault h | closed h | closeFault h =>
    exact ⟨Nat.le_refl _, Nat.le_refl _, rfl⟩
  | answered h =>
    unfold written
    split <;> exact ⟨Nat.le_refl _, Nat.le_refl _, rfl⟩

end Exchange

namespace ExchangeRun

/-- A step reads the client at most once, and only while the request is taken in. -/
theorem length_clientReading_le (r : ExchangeRun) :
    r.clientReading.toList.length ≤ r.exchange.isIntake.toNat := by
  unfold clientReading
  cases r.exchange with
  | intake buffer deadline => exact Option.length_toList_le
  | dialling | sending | collecting | answering | closing | ended => exact Nat.le_refl _

/-- A step reads the service at most once, and only while the response is collected. -/
theorem length_serviceReading_le (r : ExchangeRun) :
    r.serviceReading.toList.length ≤ r.exchange.isCollecting.toNat := by
  unfold serviceReading
  cases r.exchange with
  | collecting buffer framing deadline => exact Option.length_toList_le
  | intake | dialling | sending | answering | closing | ended => exact Nat.le_refl _

/-- **A read whose time is over does not wait any more.** -/
theorem step_isSome_of_deadline {r : ExchangeRun} {deadline : Nat}
    (h : r.exchange.deadline? = some deadline) (hdue : deadline ≤ r.now) :
    r.step.isSome = true := by
  have hcomes (source : Source) : (source.await exchangeChunk r.now deadline).1 ≠ none := by
    rcases hr : source.read exchangeChunk with ⟨_ | reading, rest⟩
    · rw [Source.await_of_wait hr, if_pos hdue]
      exact Option.some_ne_none _
    · rw [Source.await_of_read hr]
      exact Option.some_ne_none _
  rw [step_isSome_iff]
  unfold Ready
  cases hx : r.exchange with
  | intake buffer deadline' =>
    rw [hx] at h
    cases h
    show r.clientReading ≠ none
    rw [clientReading_of_intake hx]
    exact hcomes _
  | collecting buffer framing deadline' =>
    rw [hx] at h
    cases h
    show r.serviceReading ≠ none
    rw [serviceReading_of_collecting hx]
    exact hcomes _
  | dialling | sending | answering | closing | ended =>
    rw [hx] at h
    cases h

end ExchangeRun

/-! ## 4. Both loops end -/

/-- **The invariant of the reads**: with those that there is still room for they are no more than the
bound, and the read that an exchange is at began its wait with the last step. -/
structure Reads (g : GatewaySettings) (initial : Bytes) (w : Watched) : Prop where
  settings : w.state.settings = g
  client : w.notes.clientReads.length + w.state.exchange.clientRoom ≤
    (Intake.start g.maxMessage initial).room
  service : w.notes.serviceReads.length + w.state.exchange.serviceRoom g ≤ g.maxMessage + 1
  deadline : w.state.exchange.deadline? =
    (w.state.exchange.patience? g).map (w.notes.movedAt + ·)

theorem reads_start (g : GatewaySettings) (initial : Bytes) (client : Duplex) :
    Reads g initial (.begin (.start g initial client)) := by
  obtain ⟨hclient, hservice, hdeadline⟩ :=
    Exchange.reads_ofIntake g 0 (Intake.start g.maxMessage initial)
  refine ⟨rfl, ?_, ?_, hdeadline⟩
  · show 0 + (Exchange.ofIntake g 0 (Intake.start g.maxMessage initial)).clientRoom ≤ _
    omega
  · show 0 + (Exchange.ofIntake g 0 (Intake.start g.maxMessage initial)).serviceRoom g ≤ _
    omega

theorem reads_outside {g : GatewaySettings} {initial : Bytes} (w : Watched) (r : ExchangeRun)
    (ho : ExchangeRun.Outside w.state r) (h : Reads g initial w) :
    Reads g initial ⟨r, w.notes⟩ := by
  refine ⟨ho.settings.trans h.settings, ?_, ?_, ?_⟩ <;> show _ <;> simp only [ho.exchange]
  · exact h.client
  · exact h.service
  · exact h.deadline

theorem reads_step {g : GatewaySettings} {initial : Bytes} (w : Watched) (s : ExchangeRun)
    (hs : w.state.step = some s) (h : Reads g initial w) :
    Reads g initial ⟨s, w.notes.after w.state s⟩ := by
  obtain ⟨ledger, hstep, hset, -, -⟩ := ExchangeRun.step_cases hs
  rw [h.settings] at hstep
  obtain ⟨hclient, hservice, hdeadline⟩ := hstep.rooms
  have hclientRead := w.state.length_clientReading_le
  have hserviceRead := w.state.length_serviceReading_le
  have hclientBound := h.client
  have hserviceBound := h.service
  refine ⟨hset.trans h.settings, ?_, ?_, hdeadline⟩
  · show (w.notes.clientReads ++ w.state.clientReading.toList).length + _ ≤ _
    rw [List.length_append]
    show _ + s.exchange.clientRoom ≤ _
    omega
  · show (w.notes.serviceReads ++ w.state.serviceReading.toList).length + _ ≤ _
    rw [List.length_append]
    show _ + s.exchange.serviceRoom g ≤ _
    omega

/-- **The invariant at every moment.** -/
theorem reads_run (g : GatewaySettings) (initial : Bytes) (client : Duplex)
    (labels : List ExchangeLabel) :
    Reads g initial ((Watched.begin (.start g initial client)).run labels) :=
  Watched.run_induct reads_outside reads_step (reads_start g initial client) labels

/-- A read that an exchange is at is one that there is room for. -/
theorem Exchange.room_pos (g : GatewaySettings) (x : Exchange) :
    x.isIntake.toNat ≤ x.clientRoom ∧ x.isCollecting.toNat ≤ x.serviceRoom g := by
  cases x with
  | intake | collecting => exact ⟨Nat.le_add_left _ _, Nat.le_add_left _ _⟩
  | dialling | sending | answering | closing | ended => exact ⟨Nat.le_refl _, Nat.zero_le _⟩

/-- **Both loops end, whatever the peer does.** Whatever each read comes to, and whatever length is
declared: the loop that takes the request in returns after some number of reads, at most one more
than the bytes that the initial ones leave of the limit, and none if those exceed it; the loop that
collects the response returns after at most one more than the limit. And so it is in every run of an
exchange, whatever client and service do and whenever it is polled, the read that it is at counted
in; such a read waits for no more than its own time behind the last step, however long the bytes
before it took, and then comes to something. -/
theorem reading_ends :
    (∀ (limit : Nat) (initial : Bytes) (peer : Nat → Reading),
      ∃ count ≤ limit - initial.length + 1, (limit < initial.length → count = 0) ∧
        ((Intake.start limit initial).run (firstReads peer count)).isReading = false ∧
        ∀ fewer < count,
          ((Intake.start limit initial).run (firstReads peer fewer)).isReading = true) ∧
    (∀ (limit : Nat) (peer : Nat → Reading),
      ∃ count ≤ limit + 1,
        ((Collection.start limit).run (firstReads peer count)).isReading = false ∧
        ∀ fewer < count,
          ((Collection.start limit).run (firstReads peer fewer)).isReading = true) ∧
    ∀ (g : GatewaySettings) (initial : Bytes) (client : Duplex) (labels : List ExchangeLabel),
      let w := (Watched.begin (.start g initial client)).run labels
      w.notes.clientReads.length + w.state.exchange.isIntake.toNat ≤
          g.maxMessage - initial.length + 1 ∧
        (g.maxMessage < initial.length →
          w.notes.clientReads = [] ∧ w.state.exchange.isIntake = false) ∧
        w.notes.serviceReads.length + w.state.exchange.isCollecting.toNat ≤ g.maxMessage + 1 ∧
        ∀ wait, w.state.exchange.patience? g = some wait →
          w.notes.movedAt + wait ≤ w.state.now → w.state.step.isSome = true := by
  refine ⟨fun limit initial peer => ?_, fun limit peer => ?_, fun g initial client labels => ?_⟩
  · obtain ⟨hroom, hnone⟩ := Intake.room_start limit initial
    obtain ⟨count, hcount, hends⟩ :=
      exists_returning Intake.room_feed_lt peer (Intake.start limit initial)
    exact ⟨count, by omega, fun hlong => by have := hnone hlong; omega, hends⟩
  · exact exists_returning Collection.room_feed_lt peer (Collection.start limit)
  · intro w
    have h : Reads g initial w := reads_run g initial client labels
    obtain ⟨hroom, hnone⟩ := Intake.room_start g.maxMessage initial
    obtain ⟨hintake, hcollecting⟩ := w.state.exchange.room_pos g
    have hclient := h.client
    have hservice := h.service
    refine ⟨by omega, fun hlong => ?_, by omega, fun wait hwait hdue => ?_⟩
    · have hzero := hnone hlong
      refine ⟨List.eq_nil_of_length_eq_zero (by omega), ?_⟩
      cases hx : w.state.exchange.isIntake with
      | false => rfl
      | true =>
        rw [hx] at hintake
        simp only [Bool.toNat_true] at hintake
        omega
    · have hdeadline := h.deadline
      rw [hwait] at hdeadline
      exact ExchangeRun.step_isSome_of_deadline hdeadline hdue

/-- A client that sends byte after byte has all of its reads. -/
example :
    ((Intake.start 3 []).run (firstReads (fun _ => .bytes [71]) 3)).isReading = true ∧
      ((Intake.start 3 []).run (firstReads (fun _ => .bytes [71]) 4)).isReading = false := by
  decide

end TrafficRouter
