-- The records of a queue pair (`struct pib_qp`): its attributes, the
-- requester and responder halves, acknowledges and slots, and what the queue
-- pair has reported so far.
import Pib.Tables
import Pib.Mr

namespace pib

open Bytes

/-! ## Configuration -/

/-- What is fixed when the module is built and loaded: the clock rate, the
`pib_behavior` bits, the `IMM_DATA_LKEY` hack and the device limits that
`modify_qp` checks. -/
structure Config where
  HZ : Nat := 1000
  relaxed_invalidation_ordering : Bool := false
  rdma_write_with_imm_always_async_err : Bool := false
  zero_len_sge_consider_as_max_len : Bool := false
  hack_imm_data_lkey : Bool := false
  phys_port_cnt : Nat := 2
  change_phy_port : Bool := true
  error_manner_psn : Bool := false
  ah_pd_violation_comp_err : Bool := false
  deriving DecidableEq, Repr

/-! ## Records -/

/-- A packet of the RC transport below the base transport header: `buffer`
is what follows the header, without padding and ICRC. -/
structure RcPacket where
  opcode : OpCode
  psn : Nat
  padcnt : Nat := 0
  solicited : Bool := false
  slid : Nat := 0
  buffer : List UInt8 := []
  deriving DecidableEq, Repr

/-- `enum pib_ack_type`. -/
inductive AckType
  | NORMAL | RDMA_READ | ATOMIC
  deriving DecidableEq, Repr

/-- `struct pib_ack`, the members of `data` side by side. -/
structure Ack where
  type : AckType
  psn : Nat
  expected_psn : Nat
  syndrome : Nat := 0
  vaddress : Nat := 0
  rkey : Nat := 0
  size : Nat := 0
  offset : Nat := 0
  res : Nat := 0
  deriving DecidableEq, Repr

/-- `struct pib_rd_atom_slot`. -/
structure Slot where
  opcode : OpCode := .SEND_FIRST
  psn : Nat := 0
  expected_psn : Nat := 0
  vaddress : Nat := 0
  rkey : Nat := 0
  dmalen : Nat := 0
  res : Nat := 0
  deriving DecidableEq, Repr

/-- The shared receive queue, as the queue pair that uses it sees it. The
elements of the free list hold nothing, so they are only counted. -/
structure Srq where
  ok : Bool := true
  nr_recv_wqe : Int := 0
  recv_wqe : List RecvWqe := []
  free_recv_wqe : Nat := 0
  srq_limit : Int := 0
  issue_srq_limit : Bool := false
  deriving DecidableEq, Repr

/-- `struct ib_ah_attr`, with the members of its global route, which count when
`grh` (`IB_AH_GRH`) is set. -/
structure AhAttr where
  dlid : Nat := 0
  sl : Nat := 0
  port_num : Nat := 0
  grh : Bool := false
  dgid : Nat := 0
  flow_label : Nat := 0
  sgid_index : Nat := 0
  hop_limit : Nat := 0
  traffic_class : Nat := 0
  deriving DecidableEq, Repr

/-- `struct ib_qp_attr`. -/
structure QpAttr where
  path_mtu : Nat := 1
  qkey : Nat := 0
  dest_qp_num : Nat := 0
  ah_attr : AhAttr := {}
  pkey_index : Nat := 0
  alt_ah_attr : AhAttr := {}
  alt_pkey_index : Nat := 0
  en_sqd_async_notify : Bool := false
  max_rd_atomic : Nat := 0
  max_dest_rd_atomic : Nat := 0
  min_rnr_timer : Nat := 0
  port_num : Nat := 1
  timeout : Nat := 0
  retry_cnt : Nat := 0
  rnr_retry : Nat := 0
  rq_psn : Nat := 0
  sq_psn : Nat := 0
  deriving DecidableEq, Repr

/-- `struct ib_qp_init_attr` with `sq_sig_type == IB_SIGNAL_ALL_WR` as a flag. -/
structure QpInitAttr where
  sig_all_wr : Bool := false
  max_send_wr : Nat := 16
  max_recv_wr : Nat := 16
  max_send_sge : Nat := 4
  max_recv_sge : Nat := 4
  max_inline_data : Nat := 0
  deriving DecidableEq, Repr

/-- `enum ib_event_type`, the events of a queue pair. -/
inductive EventType
  | QP_FATAL | QP_REQ_ERR | QP_ACCESS_ERR | COMM_EST | SQ_DRAINED | QP_LAST_WQE_REACHED
  deriving DecidableEq, Repr

/-- `qp->requester`. -/
structure Requester where
  psn : Nat := 0
  expected_psn : Nat := 0
  nr_submitted_swqe : Int := 0
  submitted_swqe : List SendWqe := []
  nr_sending_swqe : Int := 0
  sending_swqe : List SendWqe := []
  nr_waiting_swqe : Int := 0
  waiting_swqe : List SendWqe := []
  max_rd_atomic : Nat := 0
  nr_rd_atomic : Int := 0
  free_swqe : List SendWqe := []
  nr_contig_requests : Int := 0
  nr_contig_read_acks : Int := 0
  deriving DecidableEq, Repr

/-- `qp->responder`. The slots are indexed from 0 to `PIB_MAX_RD_ATOM - 1`;
freed receive elements are cleared, so they are only counted. -/
structure Responder where
  psn : Nat := 0
  nr_recv_wqe : Int := 0
  recv_wqe : List RecvWqe := []
  nr_rd_atomic : Int := 0
  acks : List Ack := []
  free_rwqe : Nat := 0
  last_OpCode : OpCode := .SEND_ONLY
  offset : Nat := 0
  rdma_write_vaddr : Nat := 0
  rdma_write_rkey : Nat := 0
  rdma_write_dmalen : Nat := 0
  slot_index : Int := 0
  slots : Nat → Slot := fun _ => {}
  nr_contig_read_acks : Int := 0

/-- `struct pib_qp`. `send_cq` and `recv_cq` are the completions that this
queue pair has put on its completion queues, and `events` the asynchronous
events it has raised, oldest first. -/
structure Qp where
  qp_type : QpType := .RC
  state : QpState := .RESET
  attr : QpAttr := {}
  init_attr : QpInitAttr := {}
  srq : Option Srq := none
  local_ack_timeout : Nat := 0
  sched_on : Bool := false
  sched_time : Nat := 0
  requester : Requester := {}
  responder : Responder := {}
  push_rcqe : Bool := false
  issue_comm_est : Bool := false
  issue_sq_drained : Bool := false
  issue_last_wqe_reached : Bool := false
  send_cq : List Wc := []
  recv_cq : List (Wc × Bool) := []
  events : List EventType := []

end pib
