-- One end of a connection: a queue pair with the protection domain and the
-- memory behind it, the thread's send buffer, a record of the memory
-- operations carried out for the peer, and a record of the crash sites hit.
import Pib.QpOps

namespace pib

open Bytes

variable (n : Node) (q : Qp) (p : RcPacket)

/-- The places where the code runs into `BUG()`, `BUG_ON` or a lookup
outside a table. -/
inductive Crash
  /-- `attr_OpCode[]` -/
  | attrOpCode
  /-- `pkey_table[]` -/
  | pkeyTable
  /-- `gid[]` in `pib_fill_grh` -/
  | gidTable
  /-- `slots[]` of the responder -/
  | slotIndex
  /-- the default of `pib_convert_wr_opcode_to_wc_opcode` -/
  | wcOpcode
  /-- the default of `pib_process_local_only_request` -/
  | localOnlyOpcode
  /-- the default of `receive_SEND_request`, `receive_RDMA_WRITE_request` or
  `receive_request` -/
  | requestOpcode
  /-- `BUG_ON(qp->requester.nr_rd_atomic < 0)` -/
  | nrRdAtomic
  /-- a send element found on the wrong list -/
  | swqeList
  /-- a read past the inline data of a send element -/
  | inlineOverrun
  deriving DecidableEq, Repr

/-- A memory operation that the responder carries out for a request. -/
inductive MemOp
  | recv (w : RecvWqe) (offset : Nat) (bytes : List UInt8)
  | write (rkey vaddr : Nat) (bytes : List UInt8)
  | atomic (rkey vaddr swap compare : Nat) (direction : MrDirection)
  deriving DecidableEq, Repr

/-- The call into `pib_mr.c` behind an operation: its status, the memory it
leaves and, for an atomic, the value found. -/
def MemOp.run (pd : Pd) (mem : Mem) : MemOp → WcStatus × Mem × Nat
  | recv w offset bytes =>
    let (status, mem, _) := pibUtilMrCopyData pd w.sge_array mem bytes offset bytes.length
      IB_ACCESS_LOCAL_WRITE .COPY_TO
    (status, mem, 0)
  | write rkey vaddr bytes =>
    let (status, mem, _) := pibUtilMrCopyDataWithRkey pd rkey mem bytes vaddr bytes.length
      (IB_ACCESS_LOCAL_WRITE ||| IB_ACCESS_REMOTE_WRITE) .COPY_TO
    (status, mem, 0)
  | atomic rkey vaddr swap compare direction =>
    pibUtilMrAtomic pd rkey mem vaddr swap compare direction

/-- `send_buffer` is the packet that waits for `process_sendmsg`
(`ready_to_send`). `ops` and `crashes` are kept by the model only. -/
structure Node where
  qp : Qp
  pd : Pd
  mem : Mem
  send_buffer : Option RcPacket := none
  ops : List (MemOp × WcStatus) := []
  crashes : List Crash := []

namespace Node

def setQp (n : Node) (q : Qp) : Node := { n with qp := q }

def crash (n : Node) (c : Crash) : Node := { n with crashes := n.crashes ++ [c] }

@[simp] theorem setQp_qp : (n.setQp q).qp = q := rfl
@[simp] theorem setQp_pd : (n.setQp q).pd = n.pd := rfl
@[simp] theorem setQp_mem : (n.setQp q).mem = n.mem := rfl
@[simp] theorem setQp_send_buffer :
    (n.setQp q).send_buffer = n.send_buffer := rfl
@[simp] theorem setQp_ops : (n.setQp q).ops = n.ops := rfl
@[simp] theorem setQp_crashes : (n.setQp q).crashes = n.crashes := rfl

@[simp] theorem crash_qp (c : Crash) : (n.crash c).qp = n.qp := rfl
@[simp] theorem crash_pd (c : Crash) : (n.crash c).pd = n.pd := rfl
@[simp] theorem crash_mem (c : Crash) : (n.crash c).mem = n.mem := rfl
@[simp] theorem crash_send_buffer (c : Crash) :
    (n.crash c).send_buffer = n.send_buffer := rfl
@[simp] theorem crash_ops (c : Crash) : (n.crash c).ops = n.ops := rfl

/-- The operation is carried out and recorded. -/
def perform (n : Node) (op : MemOp) : Node :=
  { n with mem := (op.run n.pd n.mem).2.1, ops := n.ops ++ [(op, (op.run n.pd n.mem).1)] }

@[simp] theorem perform_qp (op : MemOp) : (n.perform op).qp = n.qp := rfl
@[simp] theorem perform_pd (op : MemOp) : (n.perform op).pd = n.pd := rfl
@[simp] theorem perform_send_buffer (op : MemOp) :
    (n.perform op).send_buffer = n.send_buffer := rfl
@[simp] theorem perform_crashes (op : MemOp) :
    (n.perform op).crashes = n.crashes := rfl

/-- The lookups outside a table behind the headers of an outgoing packet:
the source GID, when there is a GRH, and the P_Key of the queue pair. -/
def headerCrashes (a : QpAttr) : List Crash :=
  (if a.ah_attr.grh = true ∧ 16 ≤ a.ah_attr.sgid_index then [.gidTable] else []) ++
    (if 32 ≤ a.pkey_index then [.pkeyTable] else [])

/-- The headers of an outgoing packet are written. -/
def headers (n : Node) : Node := { n with crashes := n.crashes ++ headerCrashes n.qp.attr }

@[simp] theorem headers_qp : n.headers.qp = n.qp := rfl
@[simp] theorem headers_pd : n.headers.pd = n.pd := rfl
@[simp] theorem headers_mem : n.headers.mem = n.mem := rfl
@[simp] theorem headers_ops : n.headers.ops = n.ops := rfl
@[simp] theorem headers_send_buffer : n.headers.send_buffer = n.send_buffer := rfl

/-- A packet is put in the send buffer. -/
def transmit (n : Node) (p : RcPacket) : Node := { n with send_buffer := some p }

@[simp] theorem transmit_qp : (n.transmit p).qp = n.qp := rfl
@[simp] theorem transmit_pd : (n.transmit p).pd = n.pd := rfl
@[simp] theorem transmit_mem : (n.transmit p).mem = n.mem := rfl
@[simp] theorem transmit_ops : (n.transmit p).ops = n.ops := rfl
@[simp] theorem transmit_crashes :
    (n.transmit p).crashes = n.crashes := rfl
@[simp] theorem transmit_send_buffer :
    (n.transmit p).send_buffer = some p := rfl

end Node

end pib
