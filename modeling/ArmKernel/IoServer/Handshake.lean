import ArmKernel.IoServer.FlowControl

/-!
# The handshake of the notifiers of COM1

`Handshake` lists the ways in which the two notifiers can stand to each other, from the start to
the loop in which a credit, which is a message of the CTS notifier, is sent, handed over and
answered. Each call of either notifier leads from one of them to another. So a credit is sent
only when none is outstanding, and a `Receive` of the TX notifier returns with one.
-/

namespace ArmKernel

/-- Between its calls of the rendezvous, where the TX notifier goes about its business. -/
def TxPhase.free : TxPhase → Bool
  | .greeting | .whoIs | .awaitEvent | .receive | .write | .request | .exited => true
  | .start | .create | .greet | .receiving | .reply => false

/-- In its loop, where the CTS notifier sends credits. -/
def CtsPhase.looping : CtsPhase → Bool
  | .send | .sending | .time | .awaitEvent | .delayUntil => true
  | .absent | .whoIs | .receive | .receiving | .reply => false

/-- The states of the two notifiers in their rendezvous. -/
abbrev FlowControl.Pair (system : FlowControl) (txStatus ctsStatus : Rendezvous.Status)
    (txSenders ctsSenders : List Notifier) : Prop :=
  system.rendezvous.Pair .tx .cts txStatus ctsStatus txSenders ctsSenders

/-- How the notifiers can stand to each other, and the number of credits that are outstanding:
first the notifiers greet each other, then nothing is sent, the TX notifier waits, a credit is
sent, it is handed over and it has arrived. -/
inductive Handshake (system : FlowControl) : ℕ → Prop where
  | unborn (tx : system.tx.phase = .start ∨ system.tx.phase = .create)
      (cts : system.cts.phase = .absent) (pair : system.Pair .ready .ready [] []) :
      Handshake system 0
  /-- The CTS notifier could not be created. -/
  | alone (tx : system.tx.phase.free ∨ system.tx.phase = .greet ∧ system.tx.ctsNotifierTid = none)
      (cts : system.cts.phase = .absent) (pair : system.Pair .ready .ready [] []) :
      Handshake system 0
  | stranded (tx : system.tx.phase = .receiving) (cts : system.cts.phase = .absent)
      (pair : system.Pair .sendBlocked .ready [] []) : Handshake system 0
  | born (tx : system.tx.phase = .greet ∧ system.tx.ctsNotifierTid = some .cts)
      (cts : system.cts.phase = .whoIs ∨ system.cts.phase = .receive)
      (pair : system.Pair .ready .ready [] []) : Handshake system 0
  | expecting (tx : system.tx.phase = .greet ∧ system.tx.ctsNotifierTid = some .cts)
      (cts : system.cts.phase = .receiving) (pair : system.Pair .ready .sendBlocked [] []) :
      Handshake system 0
  | greeting (tx : system.tx.phase = .greeting)
      (cts : system.cts.phase = .whoIs ∨ system.cts.phase = .receive)
      (pair : system.Pair .receiveBlocked .ready [] [.tx]) : Handshake system 0
  | greeted (tx : system.tx.phase = .greeting)
      (cts : system.cts.phase = .receiving ∧ system.rendezvous.source .cts = some .tx ∨
        system.cts.phase = .reply ∧ system.cts.txNotifierTid = some .tx)
      (pair : system.Pair .replyBlocked .ready [] []) : Handshake system 0
  | quiet (tx : system.tx.phase.free)
      (cts : system.cts.phase.looping ∧ system.cts.txNotifierTid = some .tx)
      (pair : system.Pair .ready .ready [] []) : Handshake system 0
  | waiting (tx : system.tx.phase = .receiving)
      (cts : system.cts.phase.looping ∧ system.cts.txNotifierTid = some .tx)
      (pair : system.Pair .sendBlocked .ready [] []) : Handshake system 0
  | sent (tx : system.tx.phase.free)
      (cts : system.cts.phase = .sending ∧ system.cts.txNotifierTid = some .tx)
      (pair : system.Pair .ready .receiveBlocked [.cts] []) : Handshake system 1
  | handedOver (tx : system.tx.phase = .receiving ∧ system.rendezvous.source .tx = some .cts)
      (cts : system.cts.phase = .sending ∧ system.cts.txNotifierTid = some .tx)
      (pair : system.Pair .ready .replyBlocked [] []) : Handshake system 1
  | arrived (tx : system.tx.phase = .reply ∧ system.tx.ctsNotifierTid = some .cts)
      (cts : system.cts.phase = .sending ∧ system.cts.txNotifierTid = some .tx)
      (pair : system.Pair .ready .replyBlocked [] []) : Handshake system 0

theorem handshake_start : Handshake .start 0 :=
  .unborn (.inl rfl) rfl ⟨by decide, rfl, rfl, rfl, rfl⟩

namespace Handshake

variable {system after : FlowControl} {credits : ℕ}

section Tx

theorem txMoves (handshake : Handshake system credits)
    (ready : system.rendezvous.status .tx = .ready) (wasFree : system.tx.phase.free) {tx : TxMain}
    (isFree : tx.phase.free) : Handshake { system with tx := tx } credits := by
  cases handshake with
  | alone _ cts pair => exact .alone (.inl isFree) cts pair
  | quiet _ cts pair => exact .quiet isFree cts pair
  | sent _ cts pair => exact .sent isFree cts pair
  | greeting _ _ pair | greeted _ _ pair => cases pair.status.symm.trans ready
  | unborn atPhase =>
      rcases atPhase with atPhase | atPhase <;> simp [atPhase, TxPhase.free] at wasFree
  | stranded atPhase | waiting atPhase | born atPhase | expecting atPhase | handedOver atPhase
  | arrived atPhase => simp [atPhase, TxPhase.free] at wasFree

theorem comNum (handshake : Handshake system credits) (atStart : system.tx.phase = .start)
    (res : ℤ) :
    Handshake { system with tx := { system.tx with phase := .create, res := res } } credits := by
  cases handshake with
  | unborn _ cts pair => exact .unborn (.inr rfl) cts pair
  | alone tx | stranded tx | born tx | expecting tx | greeting tx | greeted tx | quiet tx
  | waiting tx | sent tx | handedOver tx | arrived tx => simp [atStart, TxPhase.free] at tx

theorem at_create (handshake : Handshake system credits) (atCreate : system.tx.phase = .create) :
    credits = 0 ∧ system.cts.phase = .absent ∧ system.Pair .ready .ready [] [] := by
  cases handshake with
  | unborn _ cts pair => exact ⟨rfl, cts, pair⟩
  | alone tx | stranded tx | born tx | expecting tx | greeting tx | greeted tx | quiet tx
  | waiting tx | sent tx | handedOver tx | arrived tx => simp [atCreate, TxPhase.free] at tx

theorem greetsNobody (handshake : Handshake system credits) (atGreet : system.tx.phase = .greet)
    (nobody : system.tx.ctsNotifierTid = none) : Handshake (system.txAt .whoIs) credits := by
  cases handshake with
  | alone _ cts pair => exact .alone (.inl rfl) cts pair
  | born tx | expecting tx => simp [nobody] at tx
  | unborn tx | stranded tx | greeting tx | greeted tx | quiet tx | waiting tx | sent tx
  | handedOver tx | arrived tx => simp [atGreet, TxPhase.free] at tx

theorem greets (handshake : Handshake system credits) (atGreet : system.tx.phase = .greet)
    {receiver : Notifier} (isReceiver : system.tx.ctsNotifierTid = some receiver) :
    Handshake { system.txAt .greeting with
      rendezvous := system.rendezvous.send .tx receiver } credits := by
  cases handshake with
  | born tx cts pair =>
      obtain rfl : receiver = .cts := Option.some.inj (isReceiver.symm.trans tx.2)
      exact .greeting rfl cts (pair.send_busy (by decide))
  | expecting tx cts pair =>
      obtain rfl : receiver = .cts := Option.some.inj (isReceiver.symm.trans tx.2)
      exact .greeted rfl (.inl ⟨cts, Rendezvous.source_of_send pair.peerStatus⟩) pair.send_waiting
  | alone tx => simp [atGreet, isReceiver, TxPhase.free] at tx
  | unborn tx | stranded tx | greeting tx | greeted tx | quiet tx | waiting tx | sent tx
  | handedOver tx | arrived tx => simp [atGreet, TxPhase.free] at tx

theorem txReceives (handshake : Handshake system credits)
    (atReceive : system.tx.phase = .receive) :
    Handshake { system.txAt .receiving with rendezvous := system.rendezvous.receive .tx }
      credits := by
  cases handshake with
  | alone _ cts pair => exact .stranded rfl cts pair.receive_waits
  | quiet _ cts pair => exact .waiting rfl cts pair.receive_waits
  | sent _ cts pair =>
      exact .handedOver ⟨rfl, Rendezvous.source_of_receive pair.sendQ⟩ cts pair.receive_takes
  | unborn tx | stranded tx | born tx | expecting tx | greeting tx | greeted tx | waiting tx
  | handedOver tx | arrived tx => simp [atReceive] at tx

/-- `Receive` returns to the TX notifier only if a credit was handed over. -/
theorem at_received (handshake : Handshake system credits)
    (ready : system.rendezvous.status .tx = .ready) (atReceiving : system.tx.phase = .receiving) :
    credits = 1 ∧ system.rendezvous.source .tx = some .cts ∧
      system.cts.phase = .sending ∧ system.cts.txNotifierTid = some .tx ∧
      system.Pair .ready .replyBlocked [] [] := by
  cases handshake with
  | handedOver tx cts pair => exact ⟨rfl, tx.2, cts.1, cts.2, pair⟩
  | stranded _ _ pair | waiting _ _ pair => cases pair.status.symm.trans ready
  | unborn tx | alone tx | born tx | expecting tx | greeting tx | greeted tx | quiet tx | sent tx
  | arrived tx => simp [atReceiving, TxPhase.free] at tx

theorem txReplies (handshake : Handshake system credits) (atReply : system.tx.phase = .reply) :
    Handshake { system.txAt .write with
      rendezvous := FlowControl.replyTo system.rendezvous system.tx.ctsNotifierTid } credits := by
  cases handshake with
  | arrived tx cts pair =>
      rw [tx.2]
      exact .quiet rfl ⟨by simp only [FlowControl.txAt, cts.1, CtsPhase.looping], cts.2⟩ pair.reply
  | unborn tx | alone tx | stranded tx | born tx | expecting tx | greeting tx | greeted tx
  | quiet tx | waiting tx | sent tx | handedOver tx => simp [atReply, TxPhase.free] at tx

end Tx

section Cts

theorem ctsMoves (handshake : Handshake system credits)
    (ready : system.rendezvous.status .cts = .ready) (wasLooping : system.cts.phase.looping)
    {cts : CtsMain} (isLooping : cts.phase.looping)
    (sameTid : cts.txNotifierTid = system.cts.txNotifierTid) :
    Handshake { system with cts := cts } credits := by
  cases handshake with
  | quiet tx atPhase pair => exact .quiet tx ⟨isLooping, sameTid.trans atPhase.2⟩ pair
  | waiting tx atPhase pair => exact .waiting tx ⟨isLooping, sameTid.trans atPhase.2⟩ pair
  | sent _ _ pair | handedOver _ _ pair | arrived _ _ pair =>
      cases pair.peerStatus.symm.trans ready
  | unborn _ atPhase | alone _ atPhase | stranded _ atPhase | expecting _ atPhase =>
      simp [atPhase, CtsPhase.looping] at wasLooping
  | born _ atPhase | greeting _ atPhase =>
      rcases atPhase with atPhase | atPhase <;> simp [atPhase, CtsPhase.looping] at wasLooping
  | greeted _ atPhase =>
      rcases atPhase with ⟨atPhase, -⟩ | ⟨atPhase, -⟩ <;>
        simp [atPhase, CtsPhase.looping] at wasLooping

theorem ctsWhoIs (handshake : Handshake system credits) (atWhoIs : system.cts.phase = .whoIs) :
    Handshake (system.ctsAt .receive) credits := by
  cases handshake with
  | born tx _ pair => exact .born tx (.inr rfl) pair
  | greeting tx _ pair => exact .greeting tx (.inr rfl) pair
  | unborn _ cts | alone _ cts | stranded _ cts | expecting _ cts | greeted _ cts | quiet _ cts
  | waiting _ cts | sent _ cts | handedOver _ cts | arrived _ cts =>
      simp [atWhoIs, CtsPhase.looping] at cts

theorem ctsReceives (handshake : Handshake system credits)
    (atReceive : system.cts.phase = .receive) :
    Handshake { system.ctsAt .receiving with rendezvous := system.rendezvous.receive .cts }
      credits := by
  cases handshake with
  | born tx _ pair => exact .expecting tx rfl pair.swap.receive_waits.swap
  | greeting tx _ pair =>
      exact .greeted tx (.inl ⟨rfl, Rendezvous.source_of_receive pair.peerSendQ⟩)
        pair.swap.receive_takes.swap
  | unborn _ cts | alone _ cts | stranded _ cts | expecting _ cts | greeted _ cts | quiet _ cts
  | waiting _ cts | sent _ cts | handedOver _ cts | arrived _ cts =>
      simp [atReceive, CtsPhase.looping] at cts

theorem ctsReceived (handshake : Handshake system credits)
    (ready : system.rendezvous.status .cts = .ready)
    (atReceiving : system.cts.phase = .receiving) :
    Handshake { system with
      cts := { system.cts with
        phase := .reply
        txNotifierTid := system.rendezvous.source .cts } } credits := by
  cases handshake with
  | greeted tx cts pair =>
      rcases cts with ⟨-, source⟩ | ⟨atReply, -⟩
      · exact .greeted tx (.inr ⟨rfl, source⟩) pair
      · cases atReply.symm.trans atReceiving
  | expecting _ _ pair => cases pair.peerStatus.symm.trans ready
  | unborn _ cts | alone _ cts | stranded _ cts | born _ cts | greeting _ cts | quiet _ cts
  | waiting _ cts | sent _ cts | handedOver _ cts | arrived _ cts =>
      simp [atReceiving, CtsPhase.looping] at cts

theorem ctsReplies (handshake : Handshake system credits) (atReply : system.cts.phase = .reply) :
    Handshake { system.ctsAt .send with
      rendezvous := FlowControl.replyTo system.rendezvous system.cts.txNotifierTid } credits := by
  cases handshake with
  | greeted tx cts pair =>
      rcases cts with ⟨atReceiving, -⟩ | ⟨-, isTx⟩
      · cases atReceiving.symm.trans atReply
      · rw [isTx]
        have isFree : system.tx.phase.free := by rw [tx]; rfl
        exact .quiet isFree ⟨rfl, isTx⟩ pair.swap.reply.swap
  | unborn _ cts | alone _ cts | stranded _ cts | born _ cts | expecting _ cts | greeting _ cts
  | quiet _ cts | waiting _ cts | sent _ cts | handedOver _ cts | arrived _ cts =>
      simp [atReply, CtsPhase.looping] at cts

theorem ctsSends (handshake : Handshake system credits)
    (ready : system.rendezvous.status .cts = .ready) (atSend : system.cts.phase = .send) :
    credits = 0 ∧ system.cts.txNotifierTid = some .tx ∧
      Handshake { system.ctsAt .sending with
        rendezvous := system.rendezvous.send .cts .tx } 1 := by
  cases handshake with
  | quiet tx cts pair =>
      exact ⟨rfl, cts.2, .sent tx ⟨rfl, cts.2⟩ (pair.swap.send_busy (by decide)).swap⟩
  | waiting tx cts pair =>
      exact ⟨rfl, cts.2, .handedOver ⟨tx, Rendezvous.source_of_send pair.status⟩ ⟨rfl, cts.2⟩
        pair.swap.send_waiting.swap⟩
  | sent _ _ pair | handedOver _ _ pair | arrived _ _ pair =>
      cases pair.peerStatus.symm.trans ready
  | unborn _ cts | alone _ cts | stranded _ cts | born _ cts | expecting _ cts | greeting _ cts
  | greeted _ cts => simp [atSend] at cts

end Cts

end Handshake

end ArmKernel
