import Wagon.Word

/-! # The interpreter state of `exec`

The `VM` and its execution `context`, the module data the handlers read, and the
fetch, pop and push helpers every handler is written with. A handler runs in
`EStateM Trap VM`: a Go panic is an error that keeps the state reached before it,
as the `VM` struct keeps it when `ExecCode` recovers the panic.

Operand stacks list their top first. Float values are carried as their IEEE bit
patterns (`math.Float32bits` and `Float32frombits` are the identity on bits). -/

namespace Wagon

/-- The errors a running handler panics with: the package's `Err…` values and the Go
runtime errors the handlers can raise; and the one a failed commit panics with. -/
inductive Trap where
  | outOfBoundsMemoryAccess
  | signatureMismatch
  | undefinedElementIndex
  | unreachable
  | integerDivideByZero
  | indexOutOfRange
  | makesliceLenOutOfRange
  | stackExceedingMaxDepth
  | notCompiledFunction
  | nilFuncTableEntry
  | sliceBoundsOutOfRange
  | nilPointerDereference
  /-- pgx's `ErrTxClosed`, which the deferred commit of `ExecCode` panics with. -/
  | txClosed
  deriving DecidableEq, Repr

inductive ValueType where
  | i32 | i64 | f32 | f64
  deriving DecidableEq, Repr

structure FuncType where
  paramTypes : List ValueType
  returnTypes : List ValueType
  deriving DecidableEq, Repr

structure Target where
  addr : BitVec 64
  discard : BitVec 64
  preserveTop : Bool
  «return» : Bool
  deriving DecidableEq, Repr

structure BranchTable where
  targets : List Target
  defaultTarget : Target
  deriving DecidableEq, Repr

structure CompiledFunction where
  code : List Byte
  branchTables : List BranchTable
  maxDepth : Nat
  totalLocalVars : Nat
  args : Nat
  returns : Bool
  deriving DecidableEq, Repr

inductive Function where
  | compiled (f : CompiledFunction)
  | host (typ : FuncType)
  deriving DecidableEq, Repr

/-- What the handlers read of a `wasm.Function` in `FunctionIndexSpace`. -/
structure ModuleFunction where
  sig : FuncType
  isHost : Bool
  deriving DecidableEq, Repr

/-- The value of a global initialiser after `ExecInitExpr`, tagged with its Go type. -/
inductive InitValue where
  | int32 (v : BitVec 32)
  | int64 (v : BitVec 64)
  | float32 (v : BitVec 32)
  | float64 (v : BitVec 64)
  deriving DecidableEq, Repr

/-- The parts of `wasm.Module` the modelled functions read. -/
structure Module where
  types : List FuncType
  tableIndexSpace : List (List (BitVec 32))
  functionIndexSpace : List ModuleFunction
  /-- `ExecInitExpr` of each global's initialiser; `none` where it returns an error. -/
  globalInits : List (Option InitValue)
  memoryInitial : List (BitVec 32)
  linearMemoryIndexSpace : List (List Byte)
  deriving DecidableEq, Repr

/-- A Go `[]uint64` operand stack: elements top first, and a capacity that bounds them. -/
structure OperandStack where
  items : List Word
  cap : Nat
  len_le_cap : items.length ≤ cap

structure Context where
  stack : OperandStack
  locals : List Word
  code : List Byte
  pc : Int
  curFunc : Int

/-- The state of the pgx transaction `PgTx`: `nil` without a connection pool, in progress
from `NewVM`'s `Begin`, and closed once committed, after which pgx refuses it. -/
inductive Tx where
  | nil | inProgress | committed
  deriving DecidableEq, Repr

/-- The `VM` struct. `debugStackDepth`, a build-time switch of the package, is kept with
the VM; the database connection itself and the native backend are left out. -/
structure VM where
  ctx : Context
  module : Module
  globals : List Word
  memory : List Byte
  funcs : List Function
  recoverPanic : Bool
  abort : Bool
  pgTx : Tx
  debugStackDepth : Bool

abbrev Exec := EStateM Trap VM

def resultVM {α : Type} : EStateM.Result Trap VM α → VM
  | .ok _ vm => vm
  | .error _ vm => vm

def VM.skip (vm : VM) (n : Nat) : VM := { vm with ctx.pc := vm.ctx.pc + n }

def VM.withMemory (vm : VM) (m : List Byte) : VM := { vm with memory := m }

@[simp] theorem VM.skip_memory (vm : VM) (n : Nat) : (vm.skip n).memory = vm.memory := rfl

theorem VM.skip_skip (vm : VM) (a b : Nat) : (vm.skip a).skip b = vm.skip (a + b) := by
  simp only [VM.skip, Nat.cast_add, Int.add_assoc]
@[simp] theorem VM.withMemory_memory (vm : VM) (m : List Byte) : (vm.withMemory m).memory = m := rfl

def Module.empty : Module := ⟨[], [], [], [], [], []⟩

/-- A VM of the empty module partway through a body: `stack` on the operand stack, the
lowered `code` at `pc = 0`, and linear memory `memory`. -/
def VM.running (stack : List Word) (code memory : List Byte) : VM where
  ctx := { stack := ⟨stack, stack.length, le_refl _⟩, locals := [], code, pc := 0, curFunc := 0 }
  module := Module.empty
  globals := []
  memory := memory
  funcs := []
  recoverPanic := true
  abort := false
  pgTx := .nil
  debugStackDepth := false

namespace OperandStack

/-- `append(stack, v)`; the capacity grows only when the slice is full. -/
def push (s : OperandStack) (v : Word) : OperandStack :=
  ⟨v :: s.items, max s.cap (s.items.length + 1), by simp only [List.length_cons]; omega⟩

/-- `stack[:len(stack)-n]`. -/
def drop (s : OperandStack) (n : Nat) : OperandStack :=
  ⟨s.items.drop n, s.cap, by have := s.len_le_cap; simp; omega⟩

@[simp] theorem push_items (s : OperandStack) (v : Word) : (s.push v).items = v :: s.items := rfl
@[simp] theorem drop_items (s : OperandStack) (n : Nat) : (s.drop n).items = s.items.drop n := rfl
@[simp] theorem drop_cap (s : OperandStack) (n : Nat) : (s.drop n).cap = s.cap := rfl

theorem push_cap_of_lt {s : OperandStack} (h : s.items.length < s.cap) (v : Word) :
    (s.push v).cap = s.cap := by
  simp only [push]; omega

theorem ext' {s t : OperandStack} (hi : s.items = t.items) (hc : s.cap = t.cap) : s = t := by
  cases s; cases t; cases hi; cases hc; rfl

end OperandStack

section Bind

variable {α β : Type} {x : Exec α} {f : α → Exec β} {vm vm' : VM}

theorem bind_ok {a : α} (h : x vm = .ok a vm') : (x >>= f) vm = f a vm' := by
  show EStateM.bind x f vm = _
  simp only [EStateM.bind, h]

theorem bind_error {e : Trap} (h : x vm = .error e vm') : (x >>= f) vm = .error e vm' := by
  show EStateM.bind x f vm = _
  simp only [EStateM.bind, h]

theorem map_ok {g : α → β} {a : α} (h : x vm = .ok a vm') : (g <$> x) vm = .ok (g a) vm' := by
  show EStateM.map g x vm = _
  simp only [EStateM.map, h]

theorem map_error {g : α → β} {e : Trap} (h : x vm = .error e vm') :
    (g <$> x) vm = .error e vm' := by
  show EStateM.map g x vm = _
  simp only [EStateM.map, h]

theorem bind_apply (x : Exec α) (f : α → Exec β) (vm : VM) : (x >>= f) vm = EStateM.bind x f vm :=
  rfl

theorem map_apply (g : α → β) (x : Exec α) (vm : VM) : (g <$> x) vm = EStateM.map g x vm := rfl

theorem get_bind_apply {k : VM → Exec α} (vm : VM) : (get >>= k) vm = k vm vm := rfl

@[simp] theorem pure_apply (a : α) : (pure a : Exec α) vm = .ok a vm := rfl
@[simp] theorem pure_bind_apply (a : α) : (pure a >>= f) vm = f a vm := rfl
@[simp] theorem throw_apply (e : Trap) : (throw e : Exec α) vm = .error e vm := rfl
@[simp] theorem throw_bind_apply (e : Trap) : (throw e >>= f) vm = .error e vm := rfl

end Bind

/-- `code[pc:]` cut to `n` bytes: Go panics unless `pc` is in range and `n` bytes remain. -/
def codeAt (code : List Byte) (pc : Int) (n : Nat) : Option (List Byte) :=
  if 0 ≤ pc ∧ pc.toNat + n ≤ code.length then some ((code.drop pc.toNat).take n) else none

/-- `endianess.Uint32(code[pc:])` without advancing, as `inBounds` peeks it. -/
def codeUint32 (code : List Byte) (pc : Int) : Option (BitVec 32) :=
  (codeAt code pc 4).map fun b => BitVec.ofNat 32 (leValue b)

def fetchBytes (n : Nat) : Exec (List Byte) := fun vm =>
  match codeAt vm.ctx.code vm.ctx.pc n with
  | some b => .ok b (vm.skip n)
  | none => .error .indexOutOfRange vm

def fetchInt8 : Exec (BitVec 8) := do
  return BitVec.ofNat 8 (leValue (← fetchBytes 1))

def fetchBool : Exec Bool := do
  return (← fetchInt8) != 0

def fetchUint32 : Exec (BitVec 32) := do
  return BitVec.ofNat 32 (leValue (← fetchBytes 4))

def fetchInt32 : Exec (BitVec 32) := fetchUint32

def fetchFloat32 : Exec (BitVec 32) := fetchUint32

def fetchUint64 : Exec Word := do
  return BitVec.ofNat 64 (leValue (← fetchBytes 8))

def fetchInt64 : Exec Word := fetchUint64

def fetchFloat64 : Exec Word := fetchUint64

theorem fetchBytes_ok {n : Nat} {vm : VM} {b : List Byte}
    (h : codeAt vm.ctx.code vm.ctx.pc n = some b) :
    fetchBytes n vm = .ok b (vm.skip n) := by
  simp [fetchBytes, h]

theorem fetchBytes_error {n : Nat} {vm : VM} (h : codeAt vm.ctx.code vm.ctx.pc n = none) :
    fetchBytes n vm = .error .indexOutOfRange vm := by
  simp [fetchBytes, h]

theorem fetchUint32_ok {vm : VM} {o : BitVec 32} (h : codeUint32 vm.ctx.code vm.ctx.pc = some o) :
    fetchUint32 vm = .ok o (vm.skip 4) := by
  simp only [codeUint32, Option.map_eq_some'] at h
  obtain ⟨b, hb, rfl⟩ := h
  exact map_ok (fetchBytes_ok hb)

theorem fetchInt8_ok {vm : VM} {r : List Byte} (hr : codeAt vm.ctx.code vm.ctx.pc 1 = some r) :
    fetchInt8 vm = .ok (BitVec.ofNat 8 (leValue r)) (vm.skip 1) :=
  map_ok (fetchBytes_ok hr)

theorem fetchInt8_error {vm : VM} (hr : codeAt vm.ctx.code vm.ctx.pc 1 = none) :
    fetchInt8 vm = .error .indexOutOfRange vm :=
  map_error (fetchBytes_error hr)

/-- `s[i]`: Go panics when `i` is out of range. -/
def goIndex {α : Type} (s : List α) (i : Nat) : Exec α := fun vm =>
  match s[i]? with
  | some a => .ok a vm
  | none => .error .indexOutOfRange vm

theorem goIndex_ok {α : Type} {s : List α} {i : Nat} {a : α} {vm : VM} (h : s[i]? = some a) :
    goIndex s i vm = .ok a vm := by
  simp [goIndex, h]

theorem goIndex_error {α : Type} {s : List α} {i : Nat} {vm : VM} (h : s.length ≤ i) :
    goIndex s i vm = .error .indexOutOfRange vm := by
  simp [goIndex, List.getElem?_eq_none h]

def VM.pushed (vm : VM) (v : Word) : VM := { vm with ctx.stack := vm.ctx.stack.push v }

def VM.popped (vm : VM) : VM := { vm with ctx.stack := vm.ctx.stack.drop 1 }

@[simp] theorem VM.pushed_memory (vm : VM) (v : Word) : (vm.pushed v).memory = vm.memory := rfl
@[simp] theorem VM.pushed_pc (vm : VM) (v : Word) : (vm.pushed v).ctx.pc = vm.ctx.pc := rfl
@[simp] theorem VM.pushed_items (vm : VM) (v : Word) :
    (vm.pushed v).ctx.stack.items = v :: vm.ctx.stack.items := rfl
@[simp] theorem VM.popped_memory (vm : VM) : vm.popped.memory = vm.memory := rfl
@[simp] theorem VM.popped_code (vm : VM) : vm.popped.ctx.code = vm.ctx.code := rfl
@[simp] theorem VM.popped_pc (vm : VM) : vm.popped.ctx.pc = vm.ctx.pc := rfl
@[simp] theorem VM.popped_items (vm : VM) : vm.popped.ctx.stack.items = vm.ctx.stack.items.drop 1 :=
  rfl

def popUint64 : Exec Word := fun vm =>
  match vm.ctx.stack.items with
  | i :: _ => .ok i vm.popped
  | [] => .error .indexOutOfRange vm

def popInt64 : Exec Word := popUint64

def popFloat64 : Exec Word := popUint64

def popUint32 : Exec (BitVec 32) := do
  return (← popUint64).setWidth 32

def popInt32 : Exec (BitVec 32) := popUint32

def popFloat32 : Exec (BitVec 32) := popUint32

/-- `pushUint64`: with `debugStackDepth` set, a full stack panics instead of growing. -/
def pushUint64 (i : Word) : Exec Unit := fun vm =>
  if vm.debugStackDepth ∧ vm.ctx.stack.cap ≤ vm.ctx.stack.items.length then
    .error .stackExceedingMaxDepth vm
  else .ok () (vm.pushed i)

def pushInt64 (i : Word) : Exec Unit := pushUint64 i

def pushFloat64 (f : Word) : Exec Unit := pushUint64 f

def pushUint32 (i : BitVec 32) : Exec Unit := pushUint64 (i.setWidth 64)

def pushInt32 (i : BitVec 32) : Exec Unit := pushUint64 (i.signExtend 64)

def pushFloat32 (f : BitVec 32) : Exec Unit := pushUint32 f

def pushBool (v : Bool) : Exec Unit := pushUint64 (if v then 1 else 0)

/-- `vm.ctx.stack[len(vm.ctx.stack)-1]`, read without popping. -/
def stackTop : Exec Word := fun vm =>
  match vm.ctx.stack.items with
  | i :: _ => .ok i vm
  | [] => .error .indexOutOfRange vm

theorem popUint64_ok {vm : VM} {i : Word} {rest : List Word} (h : vm.ctx.stack.items = i :: rest) :
    popUint64 vm = .ok i vm.popped := by
  simp [popUint64, h]

theorem popUint64_error {vm : VM} (h : vm.ctx.stack.items = []) :
    popUint64 vm = .error .indexOutOfRange vm := by
  simp [popUint64, h]

theorem popUint32_ok {vm : VM} {i : Word} {rest : List Word} (h : vm.ctx.stack.items = i :: rest) :
    popUint32 vm = .ok (i.setWidth 32) vm.popped :=
  map_ok (popUint64_ok h)

def VM.Room (vm : VM) : Prop :=
  vm.debugStackDepth → vm.ctx.stack.items.length < vm.ctx.stack.cap

theorem pushUint64_ok {vm : VM} (h : vm.Room) (i : Word) :
    pushUint64 i vm = .ok () (vm.pushed i) := by
  unfold VM.Room at h
  unfold pushUint64
  rw [if_neg (by rintro ⟨hd, hc⟩; have := h hd; omega)]

theorem pushUint64_error {vm : VM} (h : ¬vm.Room) (i : Word) :
    pushUint64 i vm = .error .stackExceedingMaxDepth vm := by
  obtain ⟨hd, hc⟩ := Decidable.not_imp_iff_and_not.1 h
  exact if_pos ⟨hd, Nat.le_of_not_lt hc⟩

theorem room_popped {vm : VM} {i : Word} {rest : List Word} (h : vm.ctx.stack.items = i :: rest) :
    vm.popped.Room := by
  have := vm.ctx.stack.len_le_cap
  intro
  simp only [VM.popped, OperandStack.drop_items, OperandStack.drop_cap, List.length_drop, h,
    List.length_cons] at this ⊢
  omega

section Slots

variable {α : Type}

def PopsAs (pop : Exec α) (dec : Word → α) : Prop :=
  ∀ ⦃vm : VM⦄ ⦃i : Word⦄ ⦃rest : List Word⦄, vm.ctx.stack.items = i :: rest →
    pop vm = .ok (dec i) vm.popped

def PushesAs (push : α → Exec Unit) (enc : α → Word) : Prop :=
  ∀ ⦃vm : VM⦄ (a : α), vm.Room → push a vm = .ok () (vm.pushed (enc a))

theorem popUint64_popsAs : PopsAs popUint64 id := fun _ _ _ h => popUint64_ok h

theorem popUint32_popsAs : PopsAs popUint32 (·.setWidth 32) := fun _ _ _ h => popUint32_ok h

theorem pushUint64_pushesAs : PushesAs pushUint64 id := fun _ a h => pushUint64_ok h a

theorem pushUint32_pushesAs : PushesAs pushUint32 (·.setWidth 64) := fun _ _ h => pushUint64_ok h _

theorem pushInt32_pushesAs : PushesAs pushInt32 (·.signExtend 64) := fun _ _ h => pushUint64_ok h _

theorem pushBool_pushesAs : PushesAs pushBool fun v => if v then 1 else 0 :=
  fun _ _ h => pushUint64_ok h _

end Slots

end Wagon
