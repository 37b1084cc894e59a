-- The data of the driver's RC transport: the enumerations and records of
-- `pib.h` and of the verbs headers, as far as the modelled functions read
-- or write them. Fields keep the names of the source.
import Pib.Lib.Bytes

namespace pib

open Bytes

/-! ## Constants -/

def PIB_MAX_PAYLOAD_LEN : Nat := 0x40000000
def PIB_MAX_RD_ATOM : Nat := 16
def PIB_MAX_SGE : Nat := 32
def PIB_MAX_CONTIG_REQUESTS : Int := 64
def PIB_MAX_CONTIG_READ_ACKS : Int := 64
def PIB_SCHED_TIMEOUT : Nat := 0x3FFFFFFF
def PIB_MAX_MR_PER_PD : Nat := 4096
def PIB_MR_INDEX_SHIFT : Nat := 8
def PIB_LOCAL_DMA_LKEY : Nat := 0
def PIB_IMM_DATA_LKEY : Nat := 0xA0B0C0D0

/-- `PIB_PSN_MASK` is `PSN_MOD - 1`: masking is taking the remainder. -/
def PSN_MOD : Nat := 2 ^ 24

/-- An unsigned 32-bit value. -/
def u32 (x : Nat) : Nat := x % 2 ^ 32

/-- The difference of two unsigned 32-bit values. -/
def u32Sub (a b : Nat) : Nat := (((a : Int) - b) % 2 ^ 32).toNat

theorem u32Sub_of_le {a b : Nat} (h : b ≤ a) (ha : a < 2 ^ 32) : u32Sub a b = a - b := by
  unfold u32Sub
  omega

/-- An unsigned 64-bit value. -/
def u64 (x : Nat) : Nat := x % 2 ^ 64

/-- `x & PIB_PSN_MASK`. -/
def psnMask (x : Nat) : Nat := x % PSN_MOD

/-! ## Enumerations -/

/-- `enum ib_qp_state`. -/
inductive QpState
  | RESET | INIT | RTR | RTS | SQD | SQE | ERR
  deriving DecidableEq, Repr

/-- `enum ib_qp_type`, the types the driver creates. -/
inductive QpType
  | SMI | GSI | RC | UD
  deriving DecidableEq, Repr

/-- `enum ib_wr_opcode`. `OTHER` is a value outside the enumeration. -/
inductive WrOpcode
  | RDMA_WRITE | RDMA_WRITE_WITH_IMM | SEND | SEND_WITH_IMM | RDMA_READ
  | ATOMIC_CMP_AND_SWP | ATOMIC_FETCH_AND_ADD | LSO | SEND_WITH_INV
  | RDMA_READ_WITH_INV | LOCAL_INV | FAST_REG_MR
  | MASKED_ATOMIC_CMP_AND_SWP | MASKED_ATOMIC_FETCH_AND_ADD | BIND_MW
  | OTHER (n : Nat)
  deriving DecidableEq, Repr

/-- The number of `IB_WR_ATOMIC_CMP_AND_SWP` in `enum ib_wr_opcode`. -/
def IB_WR_ATOMIC_CMP_AND_SWP : Nat := 5

/-- `enum ib_wc_status`, the statuses the driver reports. -/
inductive WcStatus
  | SUCCESS | LOC_LEN_ERR | LOC_QP_OP_ERR | LOC_PROT_ERR | WR_FLUSH_ERR | MW_BIND_ERR
  | BAD_RESP_ERR | REM_INV_REQ_ERR | REM_ACCESS_ERR | REM_OP_ERR
  | RETRY_EXC_ERR | RNR_RETRY_EXC_ERR | REM_INV_RD_REQ_ERR | REM_ABORT_ERR | GENERAL_ERR
  deriving DecidableEq, Repr

/-- `enum ib_wc_opcode`. An error completion carries the opcode of its
work request as it is. -/
inductive WcOpcode
  | SEND | RDMA_WRITE | RDMA_READ | COMP_SWAP | FETCH_ADD | BIND_MW | LSO
  | LOCAL_INV | FAST_REG_MR | MASKED_COMP_SWAP | MASKED_FETCH_ADD
  | RECV | RECV_RDMA_WITH_IMM
  | ofWr (o : WrOpcode)
  deriving DecidableEq, Repr

/-- The `OpCode` byte of a base transport header. -/
inductive OpCode
  | SEND_FIRST | SEND_MIDDLE | SEND_LAST | SEND_LAST_WITH_IMMEDIATE
  | SEND_ONLY | SEND_ONLY_WITH_IMMEDIATE
  | RDMA_WRITE_FIRST | RDMA_WRITE_MIDDLE | RDMA_WRITE_LAST
  | RDMA_WRITE_LAST_WITH_IMMEDIATE | RDMA_WRITE_ONLY
  | RDMA_WRITE_ONLY_WITH_IMMEDIATE
  | RDMA_READ_REQUEST | RDMA_READ_RESPONSE_FIRST | RDMA_READ_RESPONSE_MIDDLE
  | RDMA_READ_RESPONSE_LAST | RDMA_READ_RESPONSE_ONLY | ACKNOWLEDGE
  | ATOMIC_ACKNOWLEDGE | COMPARE_SWAP | FETCH_ADD
  | SEND_LAST_WITH_INVALIDATE | SEND_ONLY_WITH_INVALIDATE
  | CNP_SEND_NOTIFY
  | OTHER (n : Nat)
  deriving DecidableEq, Repr

/-- The byte on the wire. -/
def OpCode.toNat : OpCode → Nat
  | SEND_FIRST => 0x00
  | SEND_MIDDLE => 0x01
  | SEND_LAST => 0x02
  | SEND_LAST_WITH_IMMEDIATE => 0x03
  | SEND_ONLY => 0x04
  | SEND_ONLY_WITH_IMMEDIATE => 0x05
  | RDMA_WRITE_FIRST => 0x06
  | RDMA_WRITE_MIDDLE => 0x07
  | RDMA_WRITE_LAST => 0x08
  | RDMA_WRITE_LAST_WITH_IMMEDIATE => 0x09
  | RDMA_WRITE_ONLY => 0x0a
  | RDMA_WRITE_ONLY_WITH_IMMEDIATE => 0x0b
  | RDMA_READ_REQUEST => 0x0c
  | RDMA_READ_RESPONSE_FIRST => 0x0d
  | RDMA_READ_RESPONSE_MIDDLE => 0x0e
  | RDMA_READ_RESPONSE_LAST => 0x0f
  | RDMA_READ_RESPONSE_ONLY => 0x10
  | ACKNOWLEDGE => 0x11
  | ATOMIC_ACKNOWLEDGE => 0x12
  | COMPARE_SWAP => 0x13
  | FETCH_ADD => 0x14
  | SEND_LAST_WITH_INVALIDATE => 0x16
  | SEND_ONLY_WITH_INVALIDATE => 0x17
  | CNP_SEND_NOTIFY => 0x80
  | OTHER n => n

/-- The opcodes that have a name. -/
def OpCode.named : List OpCode :=
  [SEND_FIRST, SEND_MIDDLE, SEND_LAST, SEND_LAST_WITH_IMMEDIATE, SEND_ONLY,
   SEND_ONLY_WITH_IMMEDIATE, RDMA_WRITE_FIRST, RDMA_WRITE_MIDDLE, RDMA_WRITE_LAST,
   RDMA_WRITE_LAST_WITH_IMMEDIATE, RDMA_WRITE_ONLY, RDMA_WRITE_ONLY_WITH_IMMEDIATE,
   RDMA_READ_REQUEST, RDMA_READ_RESPONSE_FIRST, RDMA_READ_RESPONSE_MIDDLE,
   RDMA_READ_RESPONSE_LAST, RDMA_READ_RESPONSE_ONLY, ACKNOWLEDGE, ATOMIC_ACKNOWLEDGE,
   COMPARE_SWAP, FETCH_ADD, SEND_LAST_WITH_INVALIDATE, SEND_ONLY_WITH_INVALIDATE,
   CNP_SEND_NOTIFY]

/-- The opcode a received byte stands for. -/
def OpCode.ofNat (n : Nat) : OpCode :=
  (OpCode.named.find? fun o => o.toNat == n).getD (OTHER n)

/-! ## Work requests and their queue elements -/

/-- `struct ib_sge`. -/
structure Sge where
  addr : Nat
  length : Nat
  lkey : Nat
  deriving DecidableEq, Repr

/-- The bits of `send_flags` that the driver looks at. -/
structure SendFlags where
  FENCE : Bool := false
  SIGNALED : Bool := false
  SOLICITED : Bool := false
  INLINE : Bool := false
  deriving DecidableEq, Repr

/-- `wr.fast_reg`: `max_page_list_len` is that of the page list object. -/
structure FastReg where
  iova_start : Nat := 0
  page_list : List Nat := []
  max_page_list_len : Nat := 0
  page_shift : Nat := 0
  page_list_len : Nat := 0
  length : Nat := 0
  access_flags : Nat := 0
  rkey : Nat := 0
  deriving DecidableEq, Repr

/-- `wr.ud`: `ah` names the address handle. -/
structure UdParams where
  ah : Option Nat := none
  remote_qpn : Nat := 0
  remote_qkey : Nat := 0
  pkey_index : Nat := 0
  deriving DecidableEq, Repr

/-- The `wr` union. A function reads only the members that belong to the
opcode, so the members stand side by side. -/
structure WrParams where
  remote_addr : Nat := 0
  rkey : Nat := 0
  compare_add : Nat := 0
  swap : Nat := 0
  fast_reg : FastReg := {}
  ud : UdParams := {}
  deriving DecidableEq, Repr

/-- `struct ib_send_wr`. `ex` is the union of `imm_data` and `invalidate_rkey`. -/
structure SendWr where
  wr_id : Nat
  opcode : WrOpcode
  send_flags : SendFlags := {}
  sg_list : List Sge := []
  ex : Nat := 0
  wr : WrParams := {}
  deriving DecidableEq, Repr

/-- `struct ib_recv_wr`. -/
structure RecvWr where
  wr_id : Nat
  sg_list : List Sge := []
  deriving DecidableEq, Repr

/-- `enum pib_swqe_list`. -/
inductive SwqeList
  | FREE | SUBMITTED | SENDING | WAITING
  deriving DecidableEq, Repr

/-- `struct pib_swqe_processing`. -/
structure Processing where
  list_type : SwqeList := .FREE
  status : WcStatus := .SUCCESS
  based_psn : Nat := 0
  expected_psn : Nat := 0
  all_packets : Nat := 0
  ack_packets : Nat := 0
  sent_packets : Nat := 0
  schedule_time : Nat := 0
  local_ack_time : Nat := 0
  retry_cnt : Int := 0
  rnr_retry : Int := 0
  done : Bool := false
  deriving DecidableEq, Repr

/-- `struct pib_send_wqe`. The `trace_id` is given when the QP is created
and tells the elements apart. -/
structure SendWqe where
  trace_id : Nat
  wr_id : Nat := 0
  opcode : WrOpcode := .RDMA_WRITE
  local_only_request : Bool := false
  send_flags : SendFlags := {}
  total_length : Nat := 0
  sge_array : List Sge := []
  processing : Processing := {}
  ex : Nat := 0
  inline_data_buffer : List UInt8 := []
  wr : WrParams := {}
  deriving DecidableEq, Repr

/-- `struct pib_recv_wqe`. -/
structure RecvWqe where
  wr_id : Nat
  total_length : Nat
  sge_array : List Sge
  deriving DecidableEq, Repr

/-- `struct ib_wc`. `with_imm`, `with_inv` and `with_grh` are the bits of
`wc_flags`. -/
structure Wc where
  wr_id : Nat
  status : WcStatus
  opcode : WcOpcode
  byte_len : Nat := 0
  ex : Nat := 0
  with_imm : Bool := false
  with_inv : Bool := false
  slid : Nat := 0
  src_qp : Nat := 0
  with_grh : Bool := false
  deriving DecidableEq, Repr

end pib
