import ArmKernel.ClockServer.Timeliness

/-!
# The bookkeeping of the clock server

The server with its clients: a task that has sent a message waits for the reply, and does not
send another before. With at most 63 clients an entry is always free for the next of
them. In every run each task that waits is on the blocked list once, behind all tasks with
an earlier deadline and behind those with the same deadline that came before it; every
other request has been answered, and none before its time.
-/

namespace ArmKernel

open PartialMachine LinkedChain

/-- A request that waits for its reply: the message, the tick count when it was received and the
number of messages that were received before it. -/
structure ClockRequest where
  msg : ClockServerMsg
  since : Word
  arrival : ℕ
  deriving DecidableEq

/-- The tick count that must be exceeded before the reply. -/
def ClockRequest.deadline? (request : ClockRequest) : Option ℤ :=
  deadlineOf request.msg request.since

/-- The server, the request of each task that waits for its reply, and how often `Receive` has
returned. -/
structure ClockSystem where
  server : ClockServer
  pending : Tid → Option ClockRequest
  received : ℕ

namespace ClockSystem

/-- A task gets its reply. -/
def deliver (pending : Tid → Option ClockRequest) (reply : ClockReply) :
    Tid → Option ClockRequest := Function.update pending reply.tid none

/-- The requests with that of the sender of the message that is received. -/
def requests (system : ClockSystem) : ClockEvent → Tid → Option ClockRequest
  | .receive sender msg =>
      Function.update system.pending sender (some ⟨msg, system.server.ticks, system.received⟩)
  | .receiveFails => system.pending

/-- A task that waits for a reply does not send a message. -/
def CanHappen (system : ClockSystem) : ClockEvent → Prop
  | .receive sender _ => system.pending sender = none
  | .receiveFails => True

instance (system : ClockSystem) (event : ClockEvent) : Decidable (system.CanHappen event) := by
  cases event
  · exact inferInstanceAs (Decidable (_ = none))
  · exact inferInstanceAs (Decidable True)

def stepReplies (system : ClockSystem) (event : ClockEvent) :
    Option (ClockSystem × List ClockReply) :=
  if system.CanHappen event then do
    let (server, replies) ← system.server.stepReplies event
    some
      ({ server := server
         pending := replies.foldl deliver (system.requests event)
         received := system.received + 1 }, replies)
  else
    none

def step (system : ClockSystem) (event : ClockEvent) : Option ClockSystem :=
  (system.stepReplies event).map Prod.fst

def start (server : ClockServer) : ClockSystem where
  server := server
  pending := fun _ => none
  received := 0

end ClockSystem

/-- A step of the system. -/
abbrev ClockSystemTransition := Transition ClockSystem ClockEvent

/-- The replies that the server sends in a step. -/
def ClockSystemTransition.replies (transition : ClockSystemTransition) : List ClockReply :=
  ((transition.before.stepReplies transition.input).map Prod.snd).getD []

/-- A TIME, DELAY, DELAYUNTIL or TICK message, the first three from a client, whose deadline is
below 2^31. -/
def OfClients (clients : Finset Tid) (system : ClockSystem) : ClockEvent → Prop
  | .receive sender msg =>
      (msg.type = .tick ∨
        (msg.type = .time ∨ msg.type = .delay ∨ msg.type = .delayUntil) ∧ sender ∈ clients) ∧
      ∀ deadline ∈ deadlineOf msg system.server.ticks, deadline < 2 ^ 31
  | .receiveFails => False

instance (clients : Finset Tid) (system : ClockSystem) (event : ClockEvent) :
    Decidable (OfClients clients system event) := by
  cases event <;> unfold OfClients <;> infer_instance

/-- The order on the blocked list: by deadline, and then by arrival. -/
def Precedes (pending : Tid → Option ClockRequest) (left right : ClockEntry) : Prop :=
  left.ticks.toInt < right.ticks.toInt ∨ left.ticks.toInt = right.ticks.toInt ∧
    ∀ first ∈ pending left.tid, ∀ second ∈ pending right.tid, first.arrival < second.arrival

/-- The tasks that wait are the ones on the blocked list. -/
structure Waiting (clients : Finset Tid) (system : ClockSystem) (blocked : List ClockEntry) :
    Prop where
  shown : system.server.lists.Shows blocked
  phase : system.server.phase = .serving
  positive : ∀ entry ∈ blocked, 0 < entry.ticks.toInt
  pending : ∀ entry ∈ blocked, ∃ request ∈ system.pending entry.tid,
    request.deadline? = some entry.ticks.toInt
  listed : ∀ tid, (system.pending tid).isSome → tid ∈ blocked.map (·.tid)
  once : (blocked.map (·.tid)).Nodup
  clients : ∀ entry ∈ blocked, entry.tid ∈ clients
  sorted : blocked.Pairwise (Precedes system.pending)
  arrived : ∀ tid, ∀ request ∈ system.pending tid, request.arrival < system.received

theorem ClockSystem.stepReplies_eq_some {system after : ClockSystem} {event : ClockEvent}
    {replies : List ClockReply} :
    system.stepReplies event = some (after, replies) ↔
      system.CanHappen event ∧ ∃ server,
        system.server.stepReplies event = some (server, replies) ∧
          after = ⟨server, replies.foldl ClockSystem.deliver (system.requests event),
            system.received + 1⟩ := by
  rw [ClockSystem.stepReplies]
  split_ifs with canHappen
  · simp only [Option.bind_eq_bind, Option.bind_eq_some_iff, Option.some.injEq, Prod.mk.injEq,
      canHappen, true_and]
    constructor
    · rintro ⟨⟨server, sent⟩, handled, rfl, rfl⟩
      exact ⟨server, handled, rfl⟩
    · rintro ⟨server, handled, rfl⟩
      exact ⟨(server, replies), handled, rfl, rfl⟩
  · simp [canHappen]

theorem ClockSystem.stepReplies_of_handle {system : ClockSystem} {event : ClockEvent}
    {server : ClockServer} {replies : List ClockReply}
    (serving : system.server.phase = .serving) (canHappen : system.CanHappen event)
    (done : (system.server.load event).handle = some (server, replies)) :
    system.stepReplies event = some
      (⟨server, replies.foldl ClockSystem.deliver (system.requests event), system.received + 1⟩,
        replies) := by
  rw [ClockSystem.stepReplies, if_pos canHappen, ClockServer.stepReplies_serving serving, done]
  rfl

section Lists

variable {clients : Finset Tid} {system : ClockSystem} {blocked rest : List ClockEntry}
  {front : ClockEntry} {server : ClockServer} {count : ℕ}

theorem Precedes.congr {pending pending' : Tid → Option ClockRequest} {left right : ClockEntry}
    (precedes : Precedes pending left right) (sameLeft : pending' left.tid = pending left.tid)
    (sameRight : pending' right.tid = pending right.tid) : Precedes pending' left right := by
  rcases precedes with less | ⟨same, before⟩
  · exact .inl less
  · refine .inr ⟨same, ?_⟩
    rw [sameLeft, sameRight]
    exact before

theorem Waiting.tid_ne (waiting : Waiting clients system blocked) {sender : Tid}
    (idle : system.pending sender = none) {entry : ClockEntry} (entryMem : entry ∈ blocked) :
    entry.tid ≠ sender := by
  rintro rfl
  rcases waiting.pending entry entryMem with ⟨request, requestMem, -⟩
  rw [Option.mem_def, idle] at requestMem
  cases requestMem

theorem Waiting.length_le (waiting : Waiting clients system blocked) :
    blocked.length ≤ clients.card := by
  rw [← List.length_map, ← List.toFinset_card_of_nodup waiting.once]
  apply Finset.card_le_card
  intro tid tidMem
  rcases List.mem_map.mp (List.mem_toFinset.mp tidMem) with ⟨entry, entryMem, rfl⟩
  exact waiting.clients entry entryMem

theorem Waiting.same (waiting : Waiting clients system blocked) (later : system.received ≤ count)
    (shown : server.lists.Shows blocked) (phase : server.phase = .serving) :
    Waiting clients ⟨server, system.pending, count⟩ blocked :=
  { waiting with
    shown := shown
    phase := phase
    arrived := fun tid request requestMem =>
      (waiting.arrived tid request requestMem).trans_le later }

theorem Waiting.tail (waiting : Waiting clients system (front :: rest))
    (later : system.received ≤ count) (shown : server.lists.Shows rest)
    (phase : server.phase = .serving) :
    Waiting clients ⟨server, Function.update system.pending front.tid none, count⟩ rest := by
  rcases List.nodup_cons.mp waiting.once with ⟨frontOnce, restOnce⟩
  have notFront : ∀ entry ∈ rest, entry.tid ≠ front.tid := by
    intro entry entryMem sameTid
    exact frontOnce (List.mem_map.mpr ⟨entry, entryMem, sameTid⟩)
  have samePending : ∀ entry ∈ rest,
      Function.update system.pending front.tid none entry.tid = system.pending entry.tid :=
    fun entry entryMem => Function.update_of_ne (notFront entry entryMem) _ _
  have inList : ∀ entry ∈ rest, entry ∈ front :: rest :=
    fun entry entryMem => List.mem_cons_of_mem front entryMem
  refine ⟨shown, phase, ?_, ?_, ?_, restOnce, ?_, ?_, ?_⟩
  · exact fun entry entryMem => waiting.positive entry (inList entry entryMem)
  · intro entry entryMem
    simp only [samePending entry entryMem]
    exact waiting.pending entry (inList entry entryMem)
  · intro tid isPending
    rcases eq_or_ne tid front.tid with rfl | tidNe
    · simp only [Function.update_self, Option.isSome_none, Bool.false_eq_true] at isPending
    · simp only [Function.update_of_ne tidNe] at isPending
      rcases List.mem_cons.mp (waiting.listed tid isPending) with isFront | restMem
      · exact absurd isFront tidNe
      · exact restMem
  · exact fun entry entryMem => waiting.clients entry (inList entry entryMem)
  · apply (List.pairwise_cons.mp waiting.sorted).2.imp_of_mem
    intro left right leftMem rightMem precedes
    exact precedes.congr (samePending left leftMem) (samePending right rightMem)
  · intro tid request requestMem
    rcases eq_or_ne tid front.tid with rfl | tidNe
    · simp only [Function.update_self, Option.not_mem_none] at requestMem
    · simp only [Function.update_of_ne tidNe] at requestMem
      exact (waiting.arrived tid request requestMem).trans_le later

theorem Waiting.insert (waiting : Waiting clients system blocked) {sender : Tid} {time : Word}
    {request : ClockRequest} (idle : system.pending sender = none) (isClient : sender ∈ clients)
    (positive : 0 < time.toInt) (deadline : request.deadline? = some time.toInt)
    (arrival : request.arrival = system.received)
    (shown : server.lists.Shows (blocked.orderedInsert Earlier ⟨time, sender⟩))
    (phase : server.phase = .serving) :
    Waiting clients
      ⟨server, Function.update system.pending sender (some request), system.received + 1⟩
      (blocked.orderedInsert Earlier ⟨time, sender⟩) := by
  have perm := List.perm_orderedInsert Earlier (⟨time, sender⟩ : ClockEntry) blocked
  have tids : ((blocked.orderedInsert Earlier ⟨time, sender⟩).map (·.tid)).Perm
      (sender :: blocked.map (·.tid)) := perm.map _
  have notSender : ∀ entry ∈ blocked, entry.tid ≠ sender :=
    fun entry entryMem => waiting.tid_ne idle entryMem
  have samePending : ∀ entry ∈ blocked,
      Function.update system.pending sender (some request) entry.tid =
        system.pending entry.tid :=
    fun entry entryMem => Function.update_of_ne (notSender entry entryMem) _ _
  have cases : ∀ entry ∈ blocked.orderedInsert Earlier ⟨time, sender⟩,
      entry = ⟨time, sender⟩ ∨ entry ∈ blocked :=
    fun entry entryMem => (List.mem_orderedInsert _).mp entryMem
  refine ⟨shown, phase, ?_, ?_, ?_, ?_, ?_, ?_, ?_⟩
  · intro entry entryMem
    rcases cases entry entryMem with rfl | oldMem
    · exact positive
    · exact waiting.positive entry oldMem
  · intro entry entryMem
    rcases cases entry entryMem with rfl | oldMem
    · exact ⟨request, Function.update_self _ _ _, deadline⟩
    · simp only [samePending entry oldMem]
      exact waiting.pending entry oldMem
  · intro tid isPending
    rw [tids.mem_iff]
    rcases eq_or_ne tid sender with rfl | tidNe
    · exact List.mem_cons_self
    · simp only [Function.update_of_ne tidNe] at isPending
      exact List.mem_cons_of_mem sender (waiting.listed tid isPending)
  · rw [tids.nodup_iff, List.nodup_cons]
    refine ⟨?_, waiting.once⟩
    intro senderMem
    rcases List.mem_map.mp senderMem with ⟨entry, entryMem, sameTid⟩
    exact notSender entry entryMem sameTid
  · intro entry entryMem
    rcases cases entry entryMem with rfl | oldMem
    · exact isClient
    · exact waiting.clients entry oldMem
  · apply pairwise_orderedInsert
    · apply waiting.sorted.imp_of_mem
      intro left right leftMem rightMem precedes
      exact precedes.congr (samePending left leftMem) (samePending right rightMem)
    · intro other otherMem notEarlier
      rcases lt_or_eq_of_le (not_lt.mp notEarlier) with less | same
      · exact .inl less
      · refine .inr ⟨same, ?_⟩
        -- the new request came after all that wait
        intro first firstMem second secondMem
        simp only [samePending other otherMem] at firstMem
        simp only [Function.update_self] at secondMem
        rcases Option.some.inj secondMem with rfl
        rw [arrival]
        exact waiting.arrived _ first firstMem
    · exact fun other _ earlier => .inl earlier
    · intro left right precedes earlier
      rcases precedes with less | ⟨same, -⟩
      · exact lt_trans earlier less
      · exact lt_of_lt_of_eq earlier same
  · intro tid other otherMem
    rcases eq_or_ne tid sender with rfl | tidNe
    · simp only [Function.update_self] at otherMem
      rcases Option.some.inj otherMem with rfl
      rw [arrival]
      exact Nat.lt_succ_self _
    · simp only [Function.update_of_ne tidNe] at otherMem
      exact (waiting.arrived tid other otherMem).trans (Nat.lt_succ_self _)

end Lists

/-- The reply answers a request of its task, and not before the deadline has passed. -/
def AnswersInTime (requests : Tid → Option ClockRequest) (ticks : Word) (reply : ClockReply) :
    Prop :=
  ∃ request ∈ requests reply.tid,
    ∀ deadline ∈ request.deadline?, deadline < (ticks.toNat : ℤ)

section Steps

variable {clients : Finset Tid} {system after : ClockSystem} {blocked : List ClockEntry}
  {event : ClockEvent} {replies : List ClockReply}

/-- What a step of the clients does: the replies answer different requests, and the tasks that
wait are on the blocked list again. -/
theorem Waiting.stepReplies (waiting : Waiting clients system blocked)
    (ofClients : OfClients clients system event)
    (done : system.stepReplies event = some (after, replies)) :
    (∃ blocked', Waiting clients after blocked') ∧
      (∀ reply ∈ replies, AnswersInTime (system.requests event) after.server.ticks reply) ∧
      (replies.map (·.tid)).Nodup ∧
      after.pending = replies.foldl ClockSystem.deliver (system.requests event) := by
  cases event with
  | receiveFails => exact ofClients.elim
  | receive sender msg =>
      rcases ofClients with ⟨kind, small⟩
      rcases ClockSystem.stepReplies_eq_some.mp done with ⟨idle, server, handled, rfl⟩
      let request : ClockRequest := ⟨msg, system.server.ticks, system.received⟩
      have ofSender : system.requests (.receive sender msg) sender = some request :=
        Function.update_self _ _ _
      have settled : Function.update (system.requests (.receive sender msg)) sender none =
          system.pending := by
        rw [ClockSystem.requests, Function.update_idem]
        exact Function.update_eq_self_iff.mpr idle.symm
      rcases ClockServer.stepReplies_cases handled waiting.shown with
        ⟨blocked', shown, handles⟩ | ⟨notServing, -⟩
      · cases handles with
        | idle isTick _ ticks phase =>
            have type : msg.type = .tick := isTick
            refine ⟨⟨blocked, ?_⟩, ?_, List.nodup_singleton _, rfl⟩
            · change Waiting clients ⟨server, Function.update _ sender none, _⟩ blocked
              rw [settled]
              exact waiting.same (Nat.le_succ _) shown (phase.trans waiting.phase)
            · intro reply replyMem
              rcases List.mem_singleton.mp replyMem with rfl
              refine ⟨request, ofSender, ?_⟩
              intro deadline deadlineMem
              simp only [ClockRequest.deadline?, deadlineOf, request, type, Option.not_mem_none]
                at deadlineMem
        | @wakes msg' front _ isTick shape due ticks phase =>
            have type : msg.type = .tick := isTick
            subst shape
            have frontNe : front.tid ≠ sender := waiting.tid_ne idle List.mem_cons_self
            refine ⟨⟨blocked', ?_⟩, ?_, ?_, rfl⟩
            · change Waiting clients ⟨server,
                Function.update (Function.update _ sender none) front.tid none, _⟩ blocked'
              rw [settled]
              exact waiting.tail (Nat.le_succ _) shown (phase.trans waiting.phase)
            · intro reply replyMem
              rcases List.mem_cons.mp replyMem with rfl | isSecond
              · refine ⟨request, ofSender, ?_⟩
                intro deadline deadlineMem
                simp only [ClockRequest.deadline?, deadlineOf, request, type, Option.not_mem_none]
                  at deadlineMem
              · rcases List.mem_singleton.mp isSecond with rfl
                rcases waiting.pending front List.mem_cons_self with
                  ⟨waited, waitedMem, isDeadline⟩
                refine ⟨waited, (Function.update_of_ne frontNe _ _).trans waitedMem, ?_⟩
                intro deadline deadlineMem
                rw [isDeadline] at deadlineMem
                rcases Option.some.inj deadlineMem with rfl
                have positive := waiting.positive front List.mem_cons_self
                rw [ClockServer.toInt_eq_toNat positive, ticks]
                exact_mod_cast BitVec.lt_def.mp due
            · exact List.nodup_cons.mpr
                ⟨fun senderMem => frontNe (List.mem_singleton.mp senderMem).symm,
                  List.nodup_singleton _⟩
        | @answers msg' notTick late ticks phase =>
            refine ⟨⟨blocked, ?_⟩, ?_, List.nodup_singleton _, rfl⟩
            · change Waiting clients ⟨server, Function.update _ sender none, _⟩ blocked
              rw [settled]
              exact waiting.same (Nat.le_succ _) shown (phase.trans waiting.phase)
            · intro reply replyMem
              rcases List.mem_singleton.mp replyMem with rfl
              refine ⟨request, ofSender, ?_⟩
              intro deadline deadlineMem
              simp only [ticks]
              exact late deadline deadlineMem (small deadline deadlineMem)
        | @waits time notTick positive isDelay ticks phase =>
            rcases isDelay with ⟨deadline, deadlineMem, same⟩
            have sameTime : time.toInt = deadline := same (small deadline deadlineMem)
            have isClient : sender ∈ clients := (kind.resolve_left notTick).2
            have isDeadline : request.deadline? = some time.toInt := by
              rw [sameTime]
              exact deadlineMem
            refine ⟨⟨blocked.orderedInsert Earlier ⟨time, sender⟩, ?_⟩, List.forall_mem_nil _,
              List.nodup_nil, rfl⟩
            exact waiting.insert idle isClient positive isDeadline rfl shown
              (phase.trans waiting.phase)
        | ignores noRequest =>
            have type : msg.type = .exit ∨ msg.type = .error := noRequest
            rcases type with type | type <;> simp [type] at kind
      · exact absurd waiting.phase notServing

/-- The next message of a client finds a free entry if it needs one. -/
theorem Waiting.stepReplies_isSome (waiting : Waiting clients system blocked)
    (few : clients.card < taskDescriptorMaxTasks) (canHappen : system.CanHappen event) :
    (system.stepReplies event).isSome := by
  have isLeft : blocked.length < taskDescriptorMaxTasks := waiting.length_le.trans_lt few
  have shown : (system.server.load event).lists.Shows blocked := by
    rw [ClockServer.load_lists]
    exact waiting.shown
  have handled := ClockServer.handle_isSome shown isLeft
  rcases Option.isSome_iff_exists.mp handled with ⟨⟨server, replies⟩, done⟩
  rw [ClockSystem.stepReplies_of_handle waiting.phase canHappen done, Option.isSome_some]

theorem foldl_deliver {requests : Tid → Option ClockRequest} (tid : Tid) :
    replies.foldl ClockSystem.deliver requests tid =
      if tid ∈ replies.map (·.tid) then none else requests tid := by
  induction replies generalizing requests with
  | nil => simp
  | cons reply replies ih =>
      rw [List.foldl_cons, ih, List.map_cons]
      rcases eq_or_ne tid reply.tid with rfl | tidNe
      · simp [ClockSystem.deliver]
      · simp [ClockSystem.deliver, tidNe]

end Steps

/-- The request that the task sends in a step. -/
def askedBy (tid : Tid) (transition : ClockSystemTransition) : List ClockRequest :=
  match transition.input with
  | .receive sender msg =>
      if sender = tid then
        [⟨msg, transition.before.server.ticks, transition.before.received⟩]
      else
        []
  | .receiveFails => []

/-- The requests of the task that are answered in a step, one for each reply. -/
def answeredTo (tid : Tid) (transition : ClockSystemTransition) : List ClockRequest :=
  (transition.replies.filter fun reply => reply.tid == tid).flatMap fun _ =>
    (transition.before.requests transition.input tid).toList

namespace ClockSystemTransition

variable {transition : ClockSystemTransition}

theorem stepReplies_eq (taken : transition.before.step transition.input = some transition.after) :
    transition.before.stepReplies transition.input =
      some (transition.after, ClockSystemTransition.replies transition) := by
  rcases Option.map_eq_some_iff.mp taken with ⟨⟨next, sent⟩, done, isAfter⟩
  obtain rfl : next = transition.after := isAfter
  simp only [replies, done, Option.map_some, Option.getD_some]

/-- The requests of a task after a step: those that waited and the new one, without the one that is
answered. -/
theorem balance (taken : transition.before.step transition.input = some transition.after)
    (distinct : ((ClockSystemTransition.replies transition).map (·.tid)).Nodup) (tid : Tid) :
    (transition.before.pending tid).toList ++ askedBy tid transition =
      answeredTo tid transition ++ (transition.after.pending tid).toList := by
  rcases ClockSystem.stepReplies_eq_some.mp (stepReplies_eq taken) with
    ⟨canHappen, server, -, isAfter⟩
  have asked : (transition.before.pending tid).toList ++ askedBy tid transition =
      (transition.before.requests transition.input tid).toList := by
    cases event : transition.input with
    | receiveFails => simp only [askedBy, event, ClockSystem.requests, List.append_nil]
    | receive sender msg =>
        rw [event] at canHappen
        have idle : transition.before.pending sender = none := canHappen
        rcases eq_or_ne sender tid with rfl | tidNe
        · simp [askedBy, event, ClockSystem.requests, idle]
        · simp [askedBy, event, ClockSystem.requests, tidNe, tidNe.symm]
  have count : ((replies transition).filter fun reply => reply.tid == tid).length =
      ((replies transition).map (·.tid)).count tid := by
    rw [List.count, List.countP_map, List.countP_eq_length_filter]
    rfl
  rw [asked, isAfter]
  simp only [foldl_deliver, answeredTo]
  by_cases isAnswered : tid ∈ (replies transition).map (·.tid)
  · rw [List.count_eq_one_of_mem distinct isAnswered] at count
    rcases List.length_eq_one_iff.mp count with ⟨reply, isOnly⟩
    simp only [isOnly, isAnswered, if_true, List.flatMap_singleton, Option.toList_none,
      List.append_nil]
  · rw [List.count_eq_zero_of_not_mem isAnswered] at count
    rw [List.length_eq_zero_iff.mp count, if_neg isAnswered, List.flatMap_nil, List.nil_append]

end ClockSystemTransition

/-- The chains of the two queues hold all entries, the ones of the tasks that wait in order. -/
def Bookkept (system : ClockSystem) : Prop :=
  ∃ nodes : ClockQueue → List EntryIndex,
    (∀ ctx, IsChain system.server.lists.heap.next (system.server.lists.heap.queue ctx).front
        (nodes ctx) ∧
      (system.server.lists.heap.queue ctx).elements.toNat = (nodes ctx).length) ∧
    (nodes .blocked ++ nodes .freeList).Perm (List.finRange taskDescriptorMaxTasks) ∧
    ((nodes .blocked).map system.server.lists.entries).Pairwise (Precedes system.pending) ∧
    (∀ tid, ((nodes .blocked).map fun node => (system.server.lists.entries node).tid).count tid =
      if (system.pending tid).isSome then 1 else 0) ∧
    ∀ node ∈ nodes .blocked,
      ∃ request ∈ system.pending (system.server.lists.entries node).tid,
        request.deadline? = some (system.server.lists.entries node).ticks.toInt

section Runs

variable {clients : Finset Tid} {system : ClockSystem} {blocked : List ClockEntry}

theorem Waiting.bookkept (waiting : Waiting clients system blocked) : Bookkept system := by
  rcases waiting.shown with ⟨nodes, holds, rfl⟩
  refine ⟨nodes, ?_, holds.perm, waiting.sorted, ?_, ?_⟩
  · exact fun ctx => ⟨holds.models.chain ctx trivial, holds.models.elements ctx trivial⟩
  · intro tid
    have once := waiting.once
    have listed := waiting.listed tid
    rw [List.map_map] at once listed
    split_ifs with isPending
    · exact List.count_eq_one_of_mem once (listed isPending)
    · apply List.count_eq_zero_of_not_mem
      intro tidMem
      rcases List.mem_map.mp tidMem with ⟨node, nodeMem, rfl⟩
      rcases waiting.pending _ (List.mem_map_of_mem nodeMem) with ⟨request, requestMem, -⟩
      exact isPending (Option.isSome_of_mem requestMem)
  · intro node nodeMem
    exact waiting.pending _ (List.mem_map_of_mem nodeMem)

theorem Waiting.step {transition : ClockSystemTransition}
    (waiting : Waiting clients transition.before blocked)
    (ofClients : OfClients clients transition.before transition.input)
    (taken : transition.before.step transition.input = some transition.after) :
    (∃ blocked', Waiting clients transition.after blocked') ∧
      (∀ reply ∈ transition.replies, AnswersInTime (transition.before.requests transition.input)
        transition.after.server.ticks reply) ∧
      ∀ tid, (transition.before.pending tid).toList ++ askedBy tid transition =
        answeredTo tid transition ++ (transition.after.pending tid).toList := by
  rcases waiting.stepReplies ofClients (ClockSystemTransition.stepReplies_eq taken) with
    ⟨waits, answers, distinct, -⟩
  exact ⟨waits, answers, ClockSystemTransition.balance taken distinct⟩

theorem waiting_start {msg : ClockServerMsg} {lists : ClockLists} {first : ClockServer}
    (started : ClockServer.start msg lists = some first) : Waiting clients (.start first) [] := by
  rcases ClockServer.start_shows started with ⟨shown, -, serving⟩
  exact ⟨shown, serving, nofun, nofun, nofun, .nil, nofun, .nil, nofun⟩

/--
In every run of at most 63 clients and their ticks: the chains are what they should be; the
next message of a client is handled, as an entry is free if it needs one; each reply answers
a request and comes when its deadline has passed; and the requests of a task are those
that were answered, once each, and then the one that waits.
-/
theorem run_bookkept {msg : ClockServerMsg} {lists : ClockLists} {first : ClockServer}
    {final : ClockSystem} {trace : List ClockSystemTransition} (few : clients.card ≤ 63)
    (started : ClockServer.start msg lists = some first)
    (run : Run ClockSystem.step (.start first) trace final)
    (ofClients : ∀ transition ∈ trace, OfClients clients transition.before transition.input) :
    Bookkept final ∧
      (∀ event, OfClients clients final event → final.CanHappen event →
        (final.step event).isSome) ∧
      (∀ transition ∈ trace, ∀ reply ∈ ClockSystemTransition.replies transition,
        AnswersInTime (transition.before.requests transition.input) transition.after.server.ticks
          reply) ∧
      ∀ tid, trace.flatMap (askedBy tid) =
        trace.flatMap (answeredTo tid) ++ (final.pending tid).toList := by
  let invariant : ClockSystem → Prop := fun system => ∃ blocked, Waiting clients system blocked
  have initially : invariant (.start first) := ⟨[], waiting_start started⟩
  have preserved : ∀ transition : ClockSystemTransition,
      transition.before.step transition.input = some transition.after →
      OfClients clients transition.before transition.input →
      invariant transition.before → invariant transition.after := by
    rintro transition taken regular ⟨blocked, waiting⟩
    exact (waiting.step regular taken).1
  have atEnd : invariant final := run.invariant preserved ofClients initially
  rcases atEnd with ⟨blocked, waiting⟩
  refine ⟨waiting.bookkept, ?_, ?_, ?_⟩
  · intro event _ canHappen
    rw [ClockSystem.step, Option.isSome_map]
    exact waiting.stepReplies_isSome (Nat.lt_succ_of_le few) canHappen
  · intro transition transitionMem
    rcases run.invariant_before invariant preserved ofClients initially transitionMem with
      ⟨blocked, waiting⟩
    exact (waiting.step (ofClients transition transitionMem) (run.step_of_mem transitionMem)).2.1
  · intro tid
    have conserved := run.conserved invariant (fun system => (system.pending tid).toList)
      (askedBy tid) (answeredTo tid) preserved (by
        rintro transition taken regular ⟨blocked, waiting⟩
        exact (waiting.step regular taken).2.2 tid) ofClients initially
    simpa only [ClockSystem.start, Option.toList_none, List.nil_append] using conserved

/-- Tasks 3 and 4 ask for the same deadline in two ways; the second tick wakes the first of them. -/
def equalDelays : List ClockEvent :=
  [.receive 5 ⟨.tick, 0⟩, .receive 3 ⟨.delayUntil, 2⟩, .receive 4 ⟨.delay, 1⟩,
    .receive 6 ⟨.time, 0⟩, .receive 5 ⟨.tick, 0⟩, .receive 5 ⟨.tick, 0⟩]

theorem run_bookkept_equalDelays :
    Bookkept (finalOf ClockSystem.step (.start blankServer) equalDelays) ∧
    (∀ transition ∈ traceOf ClockSystem.step (.start blankServer) equalDelays,
      ∀ reply ∈ ClockSystemTransition.replies transition,
        AnswersInTime (transition.before.requests transition.input) transition.after.server.ticks
          reply) ∧
    (traceOf ClockSystem.step (.start blankServer) equalDelays).flatMap (answeredTo 3) =
      [⟨⟨.delayUntil, 2⟩, 1, 1⟩] ∧
    (finalOf ClockSystem.step (.start blankServer) equalDelays).pending 4 =
      some ⟨⟨.delay, 1⟩, 1, 2⟩ := by
  have runs : (record ClockSystem.step (.start blankServer) equalDelays).isSome := by
    decide +kernel
  have few : ({3, 4, 6} : Finset Tid).card ≤ 63 := by decide
  rcases run_bookkept few blankServer_started (.of_isSome runs) (by decide +kernel) with
    ⟨bookkept, -, inTime, requests⟩
  refine ⟨bookkept, inTime, ?_, ?_⟩
  · have waits : (finalOf ClockSystem.step (.start blankServer) equalDelays).pending 3 = none := by
      decide +kernel
    have asked := requests 3
    rw [waits, Option.toList_none, List.append_nil] at asked
    rw [← asked]
    decide +kernel
  · decide +kernel

end Runs

end ArmKernel
