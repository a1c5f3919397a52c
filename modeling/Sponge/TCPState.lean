import Sponge.TCPConnection

set_option autoImplicit false

namespace Sponge

inductive TCPSenderStateSummary
  | error | closed | synSent | synAcked | finSent | finAcked
  deriving DecidableEq

inductive TCPReceiverStateSummary
  | error | listen | synRecv | finRecv
  deriving DecidableEq

structure TCPState where
  sender : TCPSenderStateSummary
  receiver : TCPReceiverStateSummary
  active : Bool := true
  lingerAfterStreamsFinish : Bool := true
  deriving DecidableEq

namespace TCPState

inductive State
  | listen | synRcvd | synSent | established | closeWait | lastAck | finWait1 | finWait2 | closing | timeWait
  | closed | reset
  deriving DecidableEq

def ofState : State → TCPState
  | .listen => { receiver := .listen, sender := .closed }
  | .synRcvd => { receiver := .synRecv, sender := .synSent }
  | .synSent => { receiver := .listen, sender := .synSent }
  | .established => { receiver := .synRecv, sender := .synAcked }
  | .closeWait => { receiver := .finRecv, sender := .synAcked, lingerAfterStreamsFinish := false }
  | .lastAck => { receiver := .finRecv, sender := .finSent, lingerAfterStreamsFinish := false }
  | .closing => { receiver := .finRecv, sender := .finSent }
  | .finWait1 => { receiver := .synRecv, sender := .finSent }
  | .finWait2 => { receiver := .synRecv, sender := .finAcked }
  | .timeWait => { receiver := .finRecv, sender := .finAcked }
  | .reset => { receiver := .error, sender := .error, lingerAfterStreamsFinish := false, active := false }
  | .closed => { receiver := .finRecv, sender := .finAcked, lingerAfterStreamsFinish := false, active := false }

def receiverSummary (receiver : TCPReceiver) : TCPReceiverStateSummary :=
  if receiver.streamOut.hasError then .error
  else if receiver.ackno.isNone then .listen
  else if receiver.streamOut.inputEnded then .finRecv
  else .synRecv

def senderSummary (sender : TCPSender) : TCPSenderStateSummary :=
  if sender.stream.hasError then .error
  else if sender.nextSeqnoAbsolute = 0 then .closed
  else if sender.nextSeqnoAbsolute = sender.bytesInFlight then .synSent
  else if !sender.stream.eof then .synAcked
  else if sender.nextSeqnoAbsolute < sender.stream.bytesWritten + 2 then .synAcked
  else if sender.bytesInFlight ≠ 0 then .finSent
  else .finAcked

def new (sender : TCPSender) (receiver : TCPReceiver) (active linger : Bool) : TCPState where
  sender := senderSummary sender
  receiver := receiverSummary receiver
  active := active
  lingerAfterStreamsFinish := if active then linger else false

end TCPState

def TCPConnection.state (c : TCPConnection) : TCPState :=
  .new c.sender c.receiver c.isActive c.lingerAfterStreamsFinish

end Sponge
